/-
# A bulk run in another order

A database lists what a bulk run looks at in an order of its own, so it writes
other groups one after the other than a store of records does.  As no
transaction is in two groups, that shows in nothing but the readings of the
clock that transactions were written at (`Memory.WrittenAt`), and all of these
are made during the run.

The two runs are compared by way of a third: a store of records that holds just
what the database holds, on which the groups of the database are written
(`Memory.Mirrors.exists_exact`).  It goes along with the database step by step,
and with the first run transaction by transaction (`together_writeGroups`).
-/

import LedgerRules.Proofs.Outcome.ByValue
import LedgerRules.Proofs.Outcome.Reordering
import LedgerRules.Proofs.Program.Together

namespace LedgerRules

/-- Two transactions differ at most in when they were changed last, by as much
as `close` allows.  The order in which a bulk run meets the transactions decides
which group is written at which reading of the clock, and nothing else. -/
def Transaction.Redated (close : Instant → Instant → Prop) (t t' : Transaction) : Prop :=
  ∃ updatedAt, close t.updatedAt updatedAt ∧ t' = { t with updatedAt }

namespace Memory

variable {close : Instant → Instant → Prop} {m : Memory} {d : Database} {user : String}

/-- Behind a database that mirrors a store is one that it mirrors exactly. -/
theorem Mirrors.exists_exact (h : m.Mirrors close d) :
    ∃ ts, List.Forall₂ (Transaction.Redated close) m.transactions ts ∧
      Mirrors Eq { m with transactions := ts } d := by
  have hall : ∀ {l : List Transaction} {rows : List TransactionRow},
      List.Forall₂ (Transaction.Stored close) l rows →
      ∃ ts, List.Forall₂ (Transaction.Redated close) l ts ∧
        List.Forall₂ (Transaction.Stored Eq) ts rows := by
    intro l rows hrows
    induction hrows with
    | nil => exact ⟨[], .nil, .nil⟩
    | @cons t _ _ _ ht _ ih =>
      obtain ⟨updatedAt, hclose, hfits, rfl⟩ := ht
      obtain ⟨ts, hl, hts⟩ := ih
      exact ⟨{ t with updatedAt } :: ts, .cons ⟨updatedAt, hclose, rfl⟩ hl,
        .cons ⟨updatedAt, rfl, hfits, rfl⟩ hts⟩
  obtain ⟨ts, hl, hts⟩ := hall h.transactions
  exact ⟨ts, hl, h.accounts, hts, h.rules, h.failing, h.closed⟩

/-- A database that mirrors a store mirrors those that differ in times that are
close. -/
theorem Mirrors.of_redated {m' : Memory} (h : m'.Mirrors Eq d)
    (ht : List.Forall₂ (Transaction.Redated close) m.transactions m'.transactions)
    (ha : m'.accounts = m.accounts) (hr : m'.rules = m.rules) (hf : m'.failing = m.failing) :
    m.Mirrors close d where
  accounts := ha ▸ h.accounts
  transactions := by
    refine forall₂_trans (fun t t' row hredated hstored => ?_) ht h.transactions
    obtain ⟨updatedAt, hclose, rfl⟩ := hredated
    obtain ⟨_, rfl, hfits, rfl⟩ := hstored
    exact ⟨updatedAt, hclose, hfits, rfl⟩
  rules := hr ▸ h.rules
  failing := hf ▸ h.failing
  closed := h.closed

/-! ### Grouped writes and when they are made -/

/-- What grouped writes make of a transaction, if all go through at times of
which `P` holds.  It is written once at most, because groups have no transaction
in common. -/
inductive WrittenAt (user : String) (groups : List Group) (P : Instant → Prop) (t : Transaction) :
    Transaction → Prop
  | kept (h : ∀ g ∈ groups, reaches user g.transactions t = false) : WrittenAt user groups P t t
  | assigned {g : Group} (hg : g ∈ groups) (hr : reaches user g.transactions t = true)
      {now : Instant} (hnow : P now) :
    WrittenAt user groups P t (t.assign g.category g.merchant now)

/-- **The order of proposals shows in the times only**: where two transactions
differ in nothing else before the writes, they differ in nothing else
afterwards. -/
theorem WrittenAt.redated {outcomes outcomes' : List (Id × Outcome)} {P : Instant → Prop}
    {s t s' t' : Transaction} (h : WrittenAt user (Group.ofOutcomes outcomes) P s s')
    (h' : WrittenAt user (Group.ofOutcomes outcomes') P t t') (ho : outcomes.Perm outcomes')
    (hid : (outcomes.map Prod.fst).Nodup) (hP : ∀ a b, P a → P b → close a b)
    (hst : s.Redated close t) : s'.Redated close t' := by
  obtain ⟨updatedAt, hclose, rfl⟩ := hst
  have hreach : ∀ {l l' : List (Id × Outcome)}, l.Perm l' → ∀ {g}, g ∈ Group.ofOutcomes l →
      reaches user g.transactions s = true →
      ∃ g' ∈ Group.ofOutcomes l', g'.key = g.key ∧ reaches user g'.transactions s = true := by
    intro l l' hl g hg hr
    obtain ⟨hu, hmem⟩ := reaches_iff.1 hr
    obtain ⟨o, hoMem, hne, hpair⟩ := Group.exists_group_iff.1 ⟨g, hg, rfl, hmem⟩
    obtain ⟨g', hg', hkey, hmem'⟩ := Group.exists_group_iff.2 ⟨o, hl.mem_iff.1 hoMem, hne, hpair⟩
    exact ⟨g', hg', hkey, reaches_iff.2 ⟨hu, hmem'⟩⟩
  cases h with
  | kept hk =>
    cases h' with
    | kept _ => exact ⟨updatedAt, hclose, rfl⟩
    | assigned hg hr _ =>
      obtain ⟨g', hg', -, hr'⟩ := hreach ho.symm hg hr
      rw [hk g' hg'] at hr'
      cases hr'
  | @assigned g hg hr now hnow =>
    obtain ⟨g', hg', hkey, hr'⟩ := hreach ho hg hr
    cases h' with
    | kept hk =>
      have hno := hk g' hg'
      rw [show reaches user g'.transactions { s with updatedAt } = true from hr'] at hno
      cases hno
    | @assigned g'' hg'' hr'' later hlater =>
      have hnodup : (outcomes'.map Prod.fst).Nodup := (ho.map _).nodup_iff.1 hid
      obtain rfl := (Group.divides_ofOutcomes outcomes').group_eq hnodup hg' hg''
        (reaches_iff.1 hr').2 (reaches_iff.1 hr'').2
      obtain ⟨hcategory, hmerchant⟩ := Prod.mk.inj hkey
      refine ⟨later, hP now later hnow hlater, ?_⟩
      unfold Transaction.assign
      rw [hcategory, hmerchant]

/-! ### What is counted -/

/-- Where no write fails all groups are accepted. -/
theorem filter_accepts (hf : m.failing = []) (groups : List Group) :
    groups.filter m.accepts = groups ∧ groups.filter (!m.accepts ·) = [] := by
  have hall : ∀ g, m.accepts g = true := fun g => accepts_iff.2 (hf ▸ List.not_mem_nil)
  refine ⟨List.filter_eq_self.2 fun g _ => hall g, List.filter_eq_nil_iff.2 fun g _ => ?_⟩
  rw [hall g]
  decide

variable {outcomes outcomes' : List (Id × Outcome)}

/-- **A bulk run is summed up alike in either order.** The groups are the same
but for their order and that of their transactions, and both are only counted.
-/
theorem tally_perm (hf : m.failing = []) (ho : outcomes.Perm outcomes')
    (hid : (outcomes.map Prod.fst).Nodup) (summary : BulkSummary) :
    m.tally user (Group.ofOutcomes outcomes) summary =
      m.tally user (Group.ofOutcomes outcomes') summary := by
  have hlength : (Group.ofOutcomes outcomes).length = (Group.ofOutcomes outcomes').length := by
    have := (Group.map_key_perm ho).length_eq
    rwa [List.length_map, List.length_map] at this
  have hreaches : reaches user ((Group.ofOutcomes outcomes).flatMap (·.transactions)) =
      reaches user ((Group.ofOutcomes outcomes').flatMap (·.transactions)) := by
    funext t
    rw [Bool.eq_iff_iff, reaches_iff, reaches_iff, (Group.flatMap_perm ho).mem_iff]
  have hid' : (outcomes'.map Prod.fst).Nodup := (ho.map _).nodup_iff.1 hid
  unfold tally
  rw [(filter_accepts hf _).1, (filter_accepts hf _).1, (filter_accepts hf _).2,
    (filter_accepts hf _).2, hlength,
    sum_countP_reaches (.of_divides (Group.divides_ofOutcomes outcomes) hid),
    sum_countP_reaches (.of_divides (Group.divides_ofOutcomes outcomes') hid'), hreaches]

/-- And the same applications are counted. -/
theorem usageOf_perm (hf : m.failing = []) (ho : outcomes.Perm outcomes') :
    m.usageOf (Group.ofOutcomes outcomes) [] = m.usageOf (Group.ofOutcomes outcomes') [] := by
  unfold usageOf
  rw [(filter_accepts hf _).1, (filter_accepts hf _).1]
  exact Group.foldl_merge_perm ho []

/-- Nor does it show in a summary when transactions were changed last. -/
theorem tally_redated {ts : List Transaction}
    (h : List.Forall₂ (Transaction.Redated close) m.transactions ts) (groups : List Group)
    (summary : BulkSummary) :
    Memory.tally { m with transactions := ts } user groups summary =
    m.tally user groups summary := by
  have hcount : ∀ ids, ts.countP (reaches user ids) = m.transactions.countP (reaches user ids) := by
    refine fun ids => (countP_of_forall₂ (fun t t' ht => ?_) h).symm
    obtain ⟨updatedAt, -, rfl⟩ := ht
    rfl
  exact @tally_congr m { m with transactions := ts } user rfl hcount groups summary

end Memory

/-! ### Writing groups -/

/-- The span where times of last changes have to agree.  What differs in the
order of groups alone is compared in it first. -/
def Span.exact (s : Span) : Span := { s with close := Eq }

/-- If a clock never goes back over a span, it does not over the exact one. -/
theorem Span.Fits.exact {s : Span} (hs : s.Fits) : s.exact.Fits :=
  ⟨fun _ => rfl, hs.clock, hs.times, hs.ids⟩

/-- All readings of the clock within the span may stand for each other: the
order of the groups, which differs between the stores, cannot be told from the
times. -/
def Span.OneRun (s : Span) : Prop :=
  ∀ i j, s.first.read ≤ i → i < s.last.read → s.first.read ≤ j → j < s.last.read →
    s.close (s.last.clock i) (s.last.clock j)

namespace World

variable {s : Span} {w w' : World Memory} {v : World Database}

/-- What is not told by the time of the last change is the same in transactions
that differ in it. -/
theorem map_of_redated {β : Type} {f : Transaction → β}
    (hf : ∀ (t : Transaction) updatedAt, f { t with updatedAt } = f t)
    {close : Instant → Instant → Prop} {l l' : List Transaction}
    (h : List.Forall₂ (Transaction.Redated close) l l') : l'.map f = l.map f := by
  refine map_eq_of_forall₂ (fun t t' ht => ?_) h
  obtain ⟨updatedAt, -, rfl⟩ := ht
  exact hf t updatedAt

/-- Behind a world with a database is one with a store that it mirrors exactly. -/
theorem Mirrors.exists_exact (h : w.Mirrors s v) :
    ∃ ts, List.Forall₂ (Transaction.Redated s.close) w.store.transactions ts ∧
      (w.withStore { w.store with transactions := ts }).Mirrors s.exact v := by
  obtain ⟨ts, hts, hstore⟩ := h.store.exists_exact
  have hids := map_of_redated (f := (·.id)) (fun _ _ => rfl) hts
  have hcreated : Memory.creations { w.store with transactions := ts } = w.store.creations :=
    congrArg (· ++ _) (map_of_redated (f := (·.createdAt)) (fun _ _ => rfl) hts)
  refine ⟨ts, hts, hstore, h.distinct.congr hids, h.distinctRules, ?_, fun id hid => h.drawn id ?_,
    fun t ht => h.noted t ?_, h.supply, h.journal, h.notices, h.since⟩
  · exact (congrArg List.Nodup hcreated).mpr h.staggered
  · unfold Memory.ids at hid ⊢
    rwa [← hids]
  · rwa [← hcreated]

/-- What is mirrored exactly is mirrored if times differ by as much as is
allowed. -/
theorem Mirrors.of_redated (h : w'.Mirrors s.exact v)
    (ht : List.Forall₂ (Transaction.Redated s.close) w.store.transactions w'.store.transactions)
    (ha : w'.store.accounts = w.store.accounts) (hr : w'.store.rules = w.store.rules)
    (hf : w'.store.failing = w.store.failing) (hsupply : w'.supply = w.supply)
    (hjournal : w'.journal = w.journal) (hnotices : w'.notices = w.notices) : w.Mirrors s v := by
  have hids := map_of_redated (f := (·.id)) (fun _ _ => rfl) ht
  have hcreated : w'.store.creations = w.store.creations := by
    unfold Memory.creations
    rw [map_of_redated (f := (·.createdAt)) (fun _ _ => rfl) ht, hr]
  refine ⟨h.store.of_redated ht ha hr hf, h.distinct.congr hids.symm, ?_, ?_, fun id hid => ?_,
    fun t hmem => ?_, hsupply ▸ h.supply, hjournal ▸ h.journal, hnotices ▸ h.notices,
    hsupply ▸ h.since⟩
  · have hd := h.distinctRules
    unfold Memory.DistinctRules at hd ⊢
    rwa [hr] at hd
  · exact (congrArg List.Nodup hcreated).mp h.staggered
  · have hdrawn := h.drawn id
    unfold Memory.ids Drawn at hdrawn
    unfold Memory.ids at hid
    rw [ha, hids, hr, hsupply] at hdrawn
    exact hdrawn hid
  · have hnoted := h.noted t
    unfold Noted at hnoted
    rw [hcreated, hsupply] at hnoted
    exact hnoted hmem

end World

namespace Action

variable {user : String} {s : Span} {w : World Memory} {v : World Database}

/-- Groups are written one after the other, each at the next reading of the
clock. -/
theorem writeGroups_at (groups : List Group) (summary : BulkSummary) (usage : Usage)
    (w : World Memory) (hf : w.store.failing = []) (hd : Memory.Apart groups) :
    (writeGroups user summary usage groups).Yields w fun _ w' =>
      w'.journal = w.journal ∧ w'.notices = w.notices ∧
        w'.supply = { w.supply with read := w.supply.read + groups.length } ∧
        List.Forall₂ (Memory.WrittenAt user groups fun now =>
          ∃ n, w.supply.read ≤ n ∧ n < w.supply.read + groups.length ∧ w.supply.clock n = now)
          w.store.transactions w'.store.transactions := by
  induction groups generalizing summary usage w with
  | nil => exact ⟨rfl, rfl, rfl, List.forall₂_same.2 fun t _ => .kept nofun⟩
  | cons g groups ih =>
    obtain ⟨hg, hd⟩ := List.pairwise_cons.1 hd
    have hnot : (g.category, g.merchant) ∉ w.store.failing := by
      rw [hf]
      exact List.not_mem_nil
    unfold writeGroups
    rw [yields_bind, yields_now, goes_ok, yields_bind, yields_tryAssign, goes_ok]
    dsimp only
    rw [Memory.assign_of_not_failing hnot]
    refine Yields.mono (ih _ _ _ ?_ hd) fun r w' hw => ?_
    · exact hf
    obtain ⟨hjournal, hnotices, hsupply, hall⟩ := hw
    refine ⟨hjournal, hnotices, ?_, ?_⟩
    · rw [hsupply]
      simp only [World.withStore, Supply.tick, List.length_cons, Nat.add_assoc, Nat.add_comm 1]
    · refine (List.forall₂_map_left_iff.1 hall).imp fun t t' ht => ?_
      by_cases hr : Memory.reaches user g.transactions t = true
      · -- No later group reaches what this one wrote.
        rw [if_pos hr] at ht
        cases ht with
        | kept _ =>
          refine .assigned List.mem_cons_self hr ⟨w.supply.read, Nat.le_refl _, ?_, rfl⟩
          rw [List.length_cons]
          omega
        | assigned hg' hr' _ =>
          rw [Memory.reaches_assign] at hr'
          exact absurd (Memory.reaches_iff.1 hr').2 (hg _ hg' _ (Memory.reaches_iff.1 hr).2)
      · rw [if_neg hr] at ht
        cases ht with
        | kept hk => exact .kept (List.forall_mem_cons.2 ⟨Bool.eq_false_iff.2 hr, hk⟩)
        | assigned hg' hr' hnow =>
          obtain ⟨n, hle, hlt, hn⟩ := hnow
          refine .assigned (List.mem_cons_of_mem _ hg') hr' ⟨n, ?_, ?_, hn⟩
          · exact Nat.le_of_succ_le hle
          · rw [List.length_cons]
            have hlt' : n < w.supply.read + 1 + groups.length := hlt
            omega

/-- The same groups are written alike by both stores. -/
theorem together_eachGroup (user : String) (hs : s.Fits) (h : w.Mirrors s v) {groups : List Group}
    (hg : ∀ g ∈ groups, g.key ≠ (none, none) ∧ g.transactions ≠ []) (summary : BulkSummary)
    (usage : Usage) :
    Together s (writeGroups user summary usage groups) (writeGroups user summary usage groups) w v
      fun x y w' v' => y = x ∧ w'.Mirrors s v' := by
  induction groups generalizing summary usage w v with
  | nil => exact together_pure ⟨rfl, h⟩
  | cons g groups ih =>
    obtain ⟨⟨hkey, hids⟩, hg⟩ := List.forall_mem_cons.1 hg
    have hgives : g.category.isSome = true ∨ g.merchant.isSome = true :=
      isSome_or_isSome_of_ne hkey
    unfold writeGroups
    refine together_now hs h fun hnow h => ?_
    obtain ⟨d', hd, hm, hstore⟩ :=
      @Memory.Mirrors.assign _ _ _ user h.store hs.refl _ _ _ _ hnow hgives hids
    refine together_try h (.of_no_insertion rfl rfl trivial) (Prod.ext hm rfl) hd hstore fun h => ?_
    exact ih h hg _ _

/-- **Proposals are written alike in either order** to stores of records that
differ in times of last changes: the answers are the same, and so are the
transactions but for those times. -/
theorem writeGroups_reordered (user : String) {close : Instant → Instant → Prop} {w₀ : World Memory}
    (hf : w.store.failing = []) {ts : List Transaction}
    (hts : List.Forall₂ (Transaction.Redated close) w.store.transactions ts)
    (hw₀ : w₀ = w.withStore { w.store with transactions := ts })
    {outcomes outcomes' : List (Id × Outcome)} (ho : outcomes.Perm outcomes')
    (hid : (outcomes.map Prod.fst).Nodup) (summary : BulkSummary)
    (hclose : ∀ i j, w.supply.read ≤ i → i < w.supply.read + (Group.ofOutcomes outcomes).length →
      w.supply.read ≤ j → j < w.supply.read + (Group.ofOutcomes outcomes).length →
      close (w.supply.clock i) (w.supply.clock j)) :
    (writeGroups user summary [] (Group.ofOutcomes outcomes)).Yields w fun r w' =>
      (writeGroups user summary [] (Group.ofOutcomes outcomes')).Yields w₀ fun r₀ w₀' =>
        (∃ x, r = .ok x ∧ r₀ = .ok x) ∧
        List.Forall₂ (Transaction.Redated close) w'.store.transactions w₀'.store.transactions ∧
        w₀'.store.accounts = w'.store.accounts ∧ w₀'.store.rules = w'.store.rules ∧
        w₀'.store.failing = w'.store.failing ∧ w₀'.supply = w'.supply ∧
        w₀'.journal = w'.journal ∧ w₀'.notices = w'.notices := by
  subst hw₀
  have hid' : (outcomes'.map Prod.fst).Nodup := (ho.map _).nodup_iff.1 hid
  have hlength : (Group.ofOutcomes outcomes').length = (Group.ofOutcomes outcomes).length := by
    have hkeys := (Group.map_key_perm ho).length_eq
    rw [List.length_map, List.length_map] at hkeys
    exact hkeys.symm
  obtain ⟨hr, hwrites⟩ := @writeGroups_yields user (Group.ofOutcomes outcomes) summary [] w
  obtain ⟨hr₀, hwrites₀⟩ := @writeGroups_yields user (Group.ofOutcomes outcomes') summary []
    (w.withStore { w.store with transactions := ts })
  obtain ⟨hj, hn, hsupply, hat⟩ := @writeGroups_at user (Group.ofOutcomes outcomes) summary [] w hf
    (.of_divides (Group.divides_ofOutcomes outcomes) hid)
  obtain ⟨hj₀, hn₀, hsupply₀, hat₀⟩ := @writeGroups_at user (Group.ofOutcomes outcomes') summary []
    (w.withStore { w.store with transactions := ts }) hf
    (.of_divides (Group.divides_ofOutcomes outcomes') hid')
  obtain ⟨ha, hrules, hfailing⟩ := hwrites.frame
  obtain ⟨ha₀, hrules₀, hfailing₀⟩ := hwrites₀.frame
  refine ⟨⟨_, hr, hr₀.trans ?_⟩, ?_, ha₀.trans ha.symm, hrules₀.trans hrules.symm,
    hfailing₀.trans hfailing.symm, ?_, hj₀.trans hj.symm, hn₀.trans hn.symm⟩
  · rw [Memory.tally_perm hf ho hid, Memory.usageOf_perm hf ho, World.withStore_store,
      Memory.tally_redated hts]
    rfl
  · -- A transaction is followed back to where it came from, over to its partner, and on again.
    have hback := forall₂_trans
      (T := fun s' t => ∃ s, Memory.WrittenAt user _ _ s s' ∧ s.Redated close t)
      (fun s' s t hs hst => ⟨s, hs, hst⟩) hat.flip hts
    refine forall₂_trans (fun s' t t' hst ht => ?_) hback hat₀
    obtain ⟨s, hs, hst⟩ := hst
    rw [hlength] at ht
    refine hs.redated ht ho hid ?_ hst
    rintro _ _ ⟨i, hi, hi', rfl⟩ ⟨j, hj, hj', rfl⟩
    exact hclose i j hi hi' hj hj'
  · rw [hsupply, hsupply₀, hlength]
    rfl

/-- **The groups of the same proposals are written alike by both stores**, in
whichever order. -/
theorem together_writeGroups (user : String) (hs : s.Fits) (hrun : s.OneRun) (h : w.Mirrors s v)
    {outcomes outcomes' : List (Id × Outcome)} (ho : outcomes.Perm outcomes')
    (hid : (outcomes.map Prod.fst).Nodup) (summary : BulkSummary) :
    Together s (writeGroups user summary [] (Group.ofOutcomes outcomes))
      (writeGroups user summary [] (Group.ofOutcomes outcomes')) w v
      fun x y w' v' => y = x ∧ w'.Mirrors s v' := by
  refine ⟨fun hlast => ?_⟩
  obtain ⟨ts, hts, h₀⟩ := h.exists_exact
  have hf : w.store.failing = [] := h.store.failing
  obtain ⟨-, -, hsupply, -⟩ := @writeGroups_at user (Group.ofOutcomes outcomes) summary [] w hf
    (.of_divides (Group.divides_ofOutcomes outcomes) hid)
  have hclose : ∀ i j, w.supply.read ≤ i →
      i < w.supply.read + (Group.ofOutcomes outcomes).length → w.supply.read ≤ j →
      j < w.supply.read + (Group.ofOutcomes outcomes).length →
      s.close (w.supply.clock i) (w.supply.clock j) := by
    intro i j hi hi' hj hj'
    have hfirst := h.since.read
    have hread := hlast.read
    have hclock := hlast.clock
    rw [hsupply] at hread hclock
    rw [← show s.last.clock = w.supply.clock from hclock]
    have hread : w.supply.read + (Group.ofOutcomes outcomes).length ≤ s.last.read := hread
    exact hrun i j (by omega) (by omega) (by omega) (by omega)
  obtain ⟨⟨x, hr, hr₀⟩, hredated, ha, hrules, hfailing, hsame, hj, hn⟩ :=
    writeGroups_reordered user hf hts rfl ho hid summary hclose
  have hgroups : ∀ g ∈ Group.ofOutcomes outcomes', g.key ≠ (none, none) ∧ g.transactions ≠ [] :=
    fun g hg => ⟨(Group.divides_ofOutcomes outcomes').proposes g hg, Group.transactions_ne_nil hg⟩
  have hlast₀ := hlast
  rw [← hsame] at hlast₀
  have hends := (together_eachGroup user hs.exact h₀ hgroups summary []).ends hlast₀
  rw [hr₀] at hends
  rw [hr]
  generalize ((writeGroups user summary [] (Group.ofOutcomes outcomes')).run v).1 = r' at hends ⊢
  cases r' with
  | error e => exact hends.elim
  | ok y =>
    obtain ⟨hy, hmirrors⟩ := hends
    exact ⟨hy, hmirrors.of_redated hredated ha hrules hfailing hsame hj hn⟩

end Action
end LedgerRules
