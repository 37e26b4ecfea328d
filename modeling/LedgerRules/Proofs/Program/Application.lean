/-
# The application of rules, carried out

The actions that apply rules do to a store of records what `Memory.Classifies`
and `Memory.Reapplies` say.  Neither the clock nor the journal has a part in it:
whatever the readings are, the same transactions get the same targets.
-/

import LedgerRules.Proofs.Program.Calls
import LedgerRules.Proofs.Program.Effect

namespace LedgerRules
namespace Action

variable {w : World Memory} {user : String}

/-- A loop whose rounds each count one entry of a usage counts all of it. -/
theorem forM_count {f : Id × Nat → Action Unit} {at_ : Instant}
    (hf : ∀ e (w : World Memory), (f e).run w = (.ok (), w.withStore (w.store.count e.1 e.2 at_)))
    (usage : Usage) (w : World Memory) :
    (usage.forM f).Yields w fun r w' => r = .ok () ∧ w'.store = w.store.countAll usage at_ := by
  induction usage generalizing w with
  | nil => exact ⟨rfl, rfl⟩
  | cons e usage ih =>
    show (f e >>= fun _ => usage.forM f).Yields w _
    rw [yields_bind]
    unfold Yields
    rw [hf]
    exact ih _

/-- Counting applications never fails on a store of records. -/
theorem recordUsage_yields (usage : Usage) (w : World Memory) :
    (recordUsage usage).Yields w fun r w' =>
      r = .ok () ∧ ∃ at_, w'.store = w.store.countAll usage at_ := by
  unfold recordUsage
  rw [yields_bind, yields_now, goes_ok]
  exact (forM_count (fun _ _ => rfl) usage _).mono fun r w' h => ⟨h.1, _, h.2⟩

/-- **Rules are applied to one transaction as `Memory.Classifies` says**,
whatever comes of it. -/
theorem applyToTransaction_yields (user : String) (id : Id) (w : World Memory) :
    (applyToTransaction user id).Yields w fun r w' => w.store.Classifies user id r w'.store := by
  unfold applyToTransaction
  rw [yields_bind, yields_getTransaction, goes_ok]
  cases h : w.store.transaction? user id with
  | none => exact .missing h
  | some t =>
    obtain ⟨hmem, hid, huser⟩ := Memory.transaction?_mem h
    dsimp only
    split
    · rename_i hf
      exact .silent h (w.store.proposal_of_fullyManual user hf) rfl
    rw [yields_bind, yields_rules, goes_ok, yields_bind, yields_accountView, goes_ok, hid]
    obtain ⟨o, ho⟩ : ∃ o, w.store.proposal user false t = o := ⟨_, rfl⟩
    rw [show (Outcome.ofRules _ _).withoutManual _ _ = o from ho]
    split
    · rename_i he
      exact .silent h ho he
    rename_i he
    have he := Bool.eq_false_iff.2 he
    rw [yields_bind, yields_now, goes_ok, yields_bind, yields_assign]
    by_cases hf : o.pair ∈ w.store.failing
    · have hr := Memory.Classifies.refused h ho he hf w.supply.tick.1
      rw [Memory.assign_of_failing hf] at hr ⊢
      exact hr
    · have hr := Memory.Classifies.written h ho he hf w.supply.tick.1
      have hpos : w.store.transactions.countP (Memory.reaches user [id]) ≠ 0 := by
        rw [← Nat.pos_iff_ne_zero, List.countP_pos_iff]
        exact ⟨t, hmem, Memory.reaches_iff.2 ⟨huser, List.mem_singleton.2 hid⟩⟩
      rw [Memory.assign_of_not_failing hf] at hr ⊢
      rw [goes_ok, if_pos hpos, yields_bind]
      refine (recordUsage_yields _ _).mono fun r w' hw => ?_
      obtain ⟨rfl, later, hw'⟩ := hw
      rw [goes_ok, yields_pure, hw']
      exact hr later

/-! ### Bulk runs -/

/-- Accounts that were looked up are those of the store.  A bulk run looks each
of them up once and keeps it. -/
def Knows (m : Memory) (user : String) (known : KnownAccounts) : Prop :=
  ∀ id view, known.lookup id = some view → view = (m.account? user id).map Account.view

section AnyStore

variable {σ : Type} [Store σ] {w : World σ} {view : Id → Option AccountView}

/-- An account is looked up at most once, and is seen as the store shows it. -/
theorem lookUpAccount_run
    (hview : ∀ id, (call (.accountView user id)).run w = (.ok (view id), w)) {known : KnownAccounts}
    (hk : ∀ id x, known.lookup id = some x → x = view id) (id : Id) :
    ∃ known' : KnownAccounts, (lookUpAccount user known id).run w = (.ok (view id, known'), w) ∧
      ∀ id x, known'.lookup id = some x → x = view id := by
  unfold lookUpAccount
  split
  · rename_i x h
    refine ⟨known, ?_, hk⟩
    rw [hk id x h]
    rfl
  · refine ⟨(id, view id) :: known, ?_, fun id' x h => ?_⟩
    · rw [run_bind_ok (hview id)]
      rfl
    · rw [List.lookup_cons] at h
      split at h
      · rename_i he
        rw [beq_iff_eq.1 he, Option.some.inj h]
      · exact hk id' x h

/-- **Every transaction is seen with its own account**, whatever the store.  The
accounts that are looked up once and kept are those that would be looked up
again. -/
theorem bulkOutcomes_run
    (hview : ∀ id, (call (.accountView user id)).run w = (.ok (view id), w)) (rules : List Rule)
    (includeManual : Bool) (ts : List Transaction) {known : KnownAccounts}
    (hk : ∀ id x, known.lookup id = some x → x = view id) :
    (bulkOutcomes user rules includeManual known ts).run w =
      (.ok (ts.map fun t => (t.id, bulkOutcome rules includeManual t (view t.account))), w) := by
  induction ts generalizing known with
  | nil => rfl
  | cons t ts ih =>
    obtain ⟨known', hlook, hk'⟩ := lookUpAccount_run hview hk t.account
    unfold bulkOutcomes
    rw [run_bind_ok hlook, run_bind_ok (ih hk')]
    rfl

end AnyStore

/-- On a store of records the proposals are worked out without changing
anything. -/
theorem bulkOutcomes_yields (rules : List Rule) (includeManual : Bool) (ts : List Transaction)
    {known : KnownAccounts} (hk : Knows w.store user known) :
    (bulkOutcomes user rules includeManual known ts).Yields w fun r w' => w' = w ∧
      r = .ok (ts.map fun t => (t.id, bulkOutcome rules includeManual t
        ((w.store.account? user t.account).map Account.view))) := by
  unfold Yields
  rw [bulkOutcomes_run (fun _ => rfl) rules includeManual ts hk]
  exact ⟨rfl, rfl⟩

/-- Groups are written one after the other; a write that fails stops none of the
others. -/
theorem writeGroups_yields (groups : List Group) (summary : BulkSummary) (usage : Usage)
    (w : World Memory) :
    (writeGroups user summary usage groups).Yields w fun r w' =>
      r = .ok (w.store.tally user groups summary, w.store.usageOf groups usage) ∧
        Memory.Writes user w.store groups w'.store := by
  induction groups generalizing summary usage w with
  | nil => exact ⟨rfl, .nil⟩
  | cons g groups ih =>
    unfold writeGroups
    rw [yields_bind, yields_now, goes_ok, yields_bind, yields_tryAssign, goes_ok]
    rw [w.store.tally_cons user g groups summary w.supply.tick.1,
      w.store.usageOf_cons user g groups usage w.supply.tick.1]
    by_cases hf : g.key ∈ w.store.failing
    · rw [show (Memory.assign _ _ _ _ _ _).1 = .error (.store .groupRejected) from
        congrArg Prod.fst (Memory.assign_of_failing hf), Memory.tally_of_failing hf,
        Memory.usageOf_of_failing hf]
      dsimp only
      rw [yields_bind, yields_record, goes_ok]
      refine (ih _ _ _).mono fun r w' h => ?_
      rw [World.record_store, World.withStore_store] at h
      exact ⟨h.1, .cons _ h.2⟩
    · rw [show (Memory.assign _ _ _ _ _ _).1 = .ok _ from
        congrArg Prod.fst (Memory.assign_of_not_failing hf), Memory.tally_of_not_failing hf,
        Memory.usageOf_of_not_failing hf]
      exact (ih _ _ _).mono fun r w' h => ⟨h.1, .cons _ h.2⟩

/-- **A bulk run does what `Memory.Reapplies` says**, and always has an answer.
Writes that fail are counted in it. -/
theorem applyToExisting_yields (user : String) (ids : Option (List Id)) (includeManual : Bool)
    (w : World Memory) :
    (applyToExisting user ids includeManual).Yields w fun r w' =>
      w.store.Reapplies user ids includeManual r w'.store := by
  unfold applyToExisting
  rw [yields_bind, yields_rules, goes_ok]
  split
  · rename_i h
    exact .idle (List.isEmpty_iff.1 h)
  · rename_i h
    have hne : w.store.activeRulesOf user ≠ [] := fun he => h (List.isEmpty_iff.2 he)
    rw [yields_bind, yields_eligible, goes_ok, yields_bind]
    have hk : Knows w.store user [] := fun _ _ hl => nomatch hl
    refine (bulkOutcomes_yields _ includeManual _ hk).mono fun r w₁ hr => ?_
    obtain ⟨rfl, rfl⟩ := hr
    rw [goes_ok, yields_bind]
    refine (writeGroups_yields _ _ _ _).mono fun r w₂ hr => ?_
    obtain ⟨rfl, hw⟩ := hr
    rw [goes_ok]
    dsimp only
    rw [yields_bind]
    refine (recordUsage_yields _ _).mono fun r w₃ hr => ?_
    obtain ⟨rfl, later, hs⟩ := hr
    rw [goes_ok, yields_bind, yields_record, goes_ok, yields_pure, World.record_store, hs]
    exact .done hne hw later

end Action
end LedgerRules
