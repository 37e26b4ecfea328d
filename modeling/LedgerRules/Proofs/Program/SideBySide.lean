/-
# Two updates of a rule side by side

An update reads the rule, works out the rule as it should be, and writes the
whole of it.  Nothing checks at the write that the rule is still the one that
was read.  So of two updates of one rule, the one that reads before the other
has written and writes after it puts back what it read: the other is
*overtaken*, and the fields that it names are as they were.  This is the only
way in which an update can be lost (`partial_updates_last_unless_overtaken`).

All that counts is the order of four accesses to the store, a reading and a
writing by each of the updates.  What they make of the rule is told by `replay`,
and an interleaving leads to a store that keeps just that
(`Program.Interleaved.replays`); then there are six orders to look at.
-/

import LedgerRules.Proofs.Program.Interleaving
import LedgerRules.Proofs.Program.Reachable
import LedgerRules.Proofs.Program.Updating
import LedgerRules.Proofs.Store.Versions

namespace LedgerRules

/-! ### Accesses to a rule -/

/-- What a request does to rules that are there.  All other requests leave the
rule alone and do not look at it. -/
inductive Access
  | read
  | write
  deriving DecidableEq, Repr

/-- The access that a request is, if it is one. -/
def Request.access? : Request → Option Access
  | .call (.getRule _ _) => some .read
  | .call (.updateRule _) => some .write
  | _ => none

/-- The accesses of two programs in their order, those of the first one on the
left. -/
def accesses : List (Request ⊕ Request) → List (Access ⊕ Access)
  | [] => []
  | .inl r :: trace => r.access?.toList.map .inl ++ accesses trace
  | .inr r :: trace => r.access?.toList.map .inr ++ accesses trace

/-- The rule after an access by an update, and the rule that the update has
seen.  A write puts back all of what was seen, with the update made to it. -/
def RuleUpdate.carry (u : RuleUpdate) (r seen : Rule) : Option Access → Rule × Rule
  | none => (r, seen)
  | some .read => (r, r)
  | some .write => (u.applied seen, seen)

/-- The rule after accesses by two updates, which have seen some version of it
before.  It tells the end of an interleaving from the order of four accesses. -/
def replay (u₁ u₂ : RuleUpdate) : List (Access ⊕ Access) → Rule → Rule → Rule → Rule
  | [], r, _, _ => r
  | .inl a :: rest, r, seen₁, seen₂ =>
    replay u₁ u₂ rest (u₁.carry r seen₁ (some a)).1 (u₁.carry r seen₁ (some a)).2 seen₂
  | .inr a :: rest, r, seen₁, seen₂ =>
    replay u₁ u₂ rest (u₂.carry r seen₂ (some a)).1 seen₁ (u₂.carry r seen₂ (some a)).2

/-- A request of the first program is replayed as its access, or as nothing if
it is none. -/
theorem replay_append_inl (u₁ u₂ : RuleUpdate) (a : Option Access) (rest : List (Access ⊕ Access))
    (r seen₁ seen₂ : Rule) : replay u₁ u₂ (a.toList.map .inl ++ rest) r seen₁ seen₂ =
      replay u₁ u₂ rest (u₁.carry r seen₁ a).1 (u₁.carry r seen₁ a).2 seen₂ := by
  cases a <;> rfl

/-- So is one of the second program. -/
theorem replay_append_inr (u₁ u₂ : RuleUpdate) (a : Option Access) (rest : List (Access ⊕ Access))
    (r seen₁ seen₂ : Rule) : replay u₁ u₂ (a.toList.map .inr ++ rest) r seen₁ seen₂ =
      replay u₁ u₂ rest (u₂.carry r seen₂ a).1 seen₁ (u₂.carry r seen₂ a).2 := by
  cases a <;> rfl

/-! ### What an update asks for -/

section

variable {σ : Type} [Store σ] (K : KeepsRules σ) (u : RuleUpdate) (r₀ : Rule)

/-- The program makes the accesses in the list: it sees the rule, and writes
what the update makes of what it saw.  If it succeeds it has made all of them,
and its body was accepted.  What the store may answer is left open but for the
version of the rule that it keeps. -/
def Program.Updates : Program (Except Error RuleChange) → List Access → Rule → Prop
  | .done result, todo, _ => result.isOk = true → todo = [] ∧ u.Acceptable
  | .ask (.call (.getRule user id)) next, todo, _ =>
    user = r₀.user ∧ id = r₀.id ∧ ∃ rest, todo = .read :: rest ∧ ∀ answer r, r₀.IsVersion r →
      (∀ r', answer = .ok (some r') → r.Agrees K.same r' ∧ K.Lasts r'.conditions) →
      (next answer).Updates rest r
  | .ask (.call (.updateRule stored)) next, todo, seen =>
    (u.applied seen).Agrees K.same stored ∧ K.Lasts stored.conditions ∧
      ∃ rest, todo = .write :: rest ∧ (next (.ok ())).Updates rest seen ∧
        ∀ e, next (.error e) = .done (.error e)
  | .ask .now next, todo, seen => ∀ t, (next t).Updates todo seen
  | .ask (.record _) next, todo, seen => (next ()).Updates todo seen
  | .ask _ _, _, _ => False

end

/-- An update that has read the rule fails if its body is not accepted, or it
goes on with the rule after the update. -/
theorem Action.changeRule_cases (user : String) (u : RuleUpdate) (includeManual : Bool)
    (old : Rule) :
    (¬u.Acceptable ∧ ∃ e, changeRule user u includeManual old = throw e) ∨
      u.Acceptable ∧ changeRule user u includeManual old =
        storeRule user (u.applied old) u.backfill includeManual := by
  have hrequested : RuleField.conditions.requested u =
      u.conditions.bind fun body => (Conditions.validate body).conditions? := rfl
  unfold changeRule RuleUpdate.applied RuleUpdate.Acceptable
  cases hbody : u.conditions with
  | none =>
    rw [hbody, Option.bind_none] at hrequested
    rw [hrequested]
    exact .inr ⟨nofun, rfl⟩
  | some body =>
    rw [hbody, Option.bind_some] at hrequested
    rw [hrequested]
    unfold checkedConditions
    dsimp only
    cases hverdict : Conditions.validate body with
    | rejected faults =>
      refine .inl ⟨fun haccepted => ?_, .conditions faults, rfl⟩
      obtain ⟨c, hc⟩ := haccepted body rfl
      cases hverdict.symm.trans hc
    | accepted c =>
      refine .inr ⟨fun body' hbody' => ⟨c, ?_⟩, rfl⟩
      rw [← Option.some.inj hbody', hverdict]

variable {σ : Type} [Store σ] {K : KeepsRules σ} {u u₁ u₂ : RuleUpdate} {r r₀ seen : Rule}

/-- An update that has worked out the rule writes it. -/
theorem Action.storeRule_updates {user : String} {rule : Rule} (hu : u.Acceptable)
    (hwrite : ∀ at_, (u.applied seen).Agrees K.same { rule with updatedAt := at_ })
    (hlasts : K.Lasts rule.conditions) (includeManual : Bool) :
    (ExceptT.run (storeRule user rule false includeManual)).Updates K u r₀ [.write] seen := by
  unfold storeRule
  cases rule.complaint? with
  | some c => exact nofun
  | none => exact fun at_ => ⟨hwrite at_, hlasts, [], rfl, fun _ => ⟨rfl, hu⟩, fun e => rfl⟩

/-- **An update reads the rule and then writes it.** Between the two it only
asks for the time, so this is where another update can come in. -/
theorem Action.updateRule_updates (hb : u.backfill = false)
    (hu : ∀ c, RuleField.conditions.requested u = some c → K.Lasts c) (includeManual : Bool)
    (seen : Rule) :
    (ExceptT.run (updateRule r₀.user r₀.id u includeManual)).Updates K u r₀ [.read, .write]
      seen := by
  rw [updateRule_eq]
  refine ⟨rfl, rfl, [.write], rfl, fun answer r hr hread => ?_⟩
  match answer with
  | .error e => exact nofun
  | .ok none => exact nofun
  | .ok (some old) =>
    obtain ⟨hagrees, hlasts⟩ := hread old rfl
    show (ExceptT.run (changeRule r₀.user u includeManual old)).Updates K u r₀ [.write] r
    rcases changeRule_cases r₀.user u includeManual old with ⟨-, e, he⟩ | ⟨hu', he⟩
    · rw [he]
      exact nofun
    · have hbody : K.Lasts (u.applied old).conditions := by
        show K.Lasts ((RuleField.conditions.requested u).getD old.conditions)
        cases hc : RuleField.conditions.requested u with
        | none => exact hlasts
        | some c => exact hu c hc
      rw [he, hb]
      exact storeRule_updates hu' (hagrees.applied K.same_refl u) hbody includeManual

/-! ### One access after the other -/

/-- What a program is held to that updates a rule: one request of it in a store
that keeps a version of the rule. -/
theorem Program.Updates.step {req : Request} {next : req.Answer → Program (Except Error RuleChange)}
    {todo : List Access} (h : (Program.ask req next).Updates K u r₀ todo seen) {w : World σ}
    (hr : K.Keeps w.store r) (hversion : r₀.IsVersion r) (hseen : r₀.IsVersion seen) :
    (∃ e, next (w.answer req).1 = .done (.error e)) ∨
      ∃ rest, todo = req.access?.toList ++ rest ∧
        (next (w.answer req).1).Updates K u r₀ rest (u.carry r seen req.access?).2 ∧
        K.Keeps (w.answer req).2.store (u.carry r seen req.access?).1 ∧
        r₀.IsVersion (u.carry r seen req.access?).1 ∧
        r₀.IsVersion (u.carry r seen req.access?).2 := by
  cases req with
  | now => exact .inr ⟨todo, rfl, h _, hr, hversion, hseen⟩
  | freshId => exact h.elim
  | notice error => exact h.elim
  | record event =>
    have hstore : (w.answer (.record event)).2.store = w.store := w.record_store event
    rw [← hstore] at hr
    exact .inr ⟨todo, rfl, h, hr, hversion, hseen⟩
  | call c =>
    cases c with
    | getRule user id =>
      obtain ⟨rfl, rfl, rest, rfl, hnext⟩ := h
      have hstore : (w.answer (.call (.getRule r₀.user r₀.id))).2.store = w.store :=
        K.read_only w.store r₀.user r₀.id
      rw [← hstore] at hr
      refine .inr ⟨rest, rfl, hnext _ r hversion fun r' hread => ?_, hr, hversion, hversion⟩
      have hread : (Store.answer (.getRule r₀.user r₀.id) w.store).1 = .ok (some r') := hread
      rw [hstore] at hr
      rw [← hversion.user, ← hversion.id] at hread
      exact K.reads hr hread
    | updateRule stored =>
      obtain ⟨hagrees, hlasts, rest, rfl, hnext, hfail⟩ := h
      cases hanswer : (w.answer (.call (.updateRule stored))).1 with
      | error e => exact .inl ⟨e, hfail e⟩
      | ok done =>
        have hnew := hversion.symm.trans (hseen.trans (Rule.isVersion_applied u seen))
        refine .inr ⟨rest, rfl, hnext, ?_, hseen.trans (Rule.isVersion_applied u seen), hseen⟩
        exact K.writes hr hnew hagrees hlasts hanswer
    | _ => exact h.elim

namespace Program

variable {α β : Type} {p : Program α} {q : Program β} {w w' : World σ}
  {trace : List (Request ⊕ Request)} {a : α} {b : β}

/-- A program that has come to its end keeps its result. -/
theorem Interleaved.first_done {x : α} (h : Interleaved (.done x) q w trace a b w') : a = x := by
  generalize hp : Program.done x = p at h
  induction h with
  | done _ _ _ => exact (Program.done.inj hp).symm
  | first _ _ => cases hp
  | second _ ih => exact ih hp

/-- So does the second one. -/
theorem Interleaved.second_done {x : β} (h : Interleaved p (.done x) w trace a b w') : b = x := by
  generalize hq : Program.done x = q at h
  induction h with
  | done _ _ _ => exact (Program.done.inj hq).symm
  | first _ ih => exact ih hq
  | second _ _ => cases hq

/-- **An interleaving of two updates replays their accesses**: the store keeps
what they make of the rule, and each has made all of its own. -/
theorem Interleaved.replays {p q : Program (Except Error RuleChange)}
    {a b : Except Error RuleChange} {todo₁ todo₂ : List Access} {seen₁ seen₂ : Rule}
    (h : Interleaved p q w trace a b w') (ha : a.isOk = true) (hb : b.isOk = true)
    (hp : p.Updates K u₁ r₀ todo₁ seen₁) (hq : q.Updates K u₂ r₀ todo₂ seen₂)
    (hr : K.Keeps w.store r) (hversion : r₀.IsVersion r) (hseen₁ : r₀.IsVersion seen₁)
    (hseen₂ : r₀.IsVersion seen₂) :
    K.Keeps w'.store (replay u₁ u₂ (accesses trace) r seen₁ seen₂) ∧
      r₀.IsVersion (replay u₁ u₂ (accesses trace) r seen₁ seen₂) ∧
      (accesses trace).filterMap Sum.getLeft? = todo₁ ∧
      (accesses trace).filterMap Sum.getRight? = todo₂ ∧ u₁.Acceptable ∧ u₂.Acceptable := by
  induction h generalizing todo₁ todo₂ r seen₁ seen₂ with
  | done a b w =>
    obtain ⟨rfl, hu₁⟩ := hp ha
    obtain ⟨rfl, hu₂⟩ := hq hb
    exact ⟨hr, hversion, rfl, rfl, hu₁, hu₂⟩
  | @first req next q w trace a b w' h ih =>
    rcases hp.step hr hversion hseen₁ with ⟨e, he⟩ | ⟨rest, rfl, hnext, hr', hversion', hseen'⟩
    · rw [he] at h
      rw [h.first_done] at ha
      exact Bool.noConfusion ha
    · obtain ⟨hkeeps, hfinal, hleft, hright, hu⟩ :=
        ih ha hb hnext hq hr' hversion' hseen' hseen₂
      rw [accesses, replay_append_inl]
      refine ⟨hkeeps, hfinal, ?_, ?_, hu⟩
      · rw [List.filterMap_append, hleft]
        cases req.access? <;> rfl
      · rw [List.filterMap_append, hright]
        cases req.access? <;> rfl
  | @second p req next w trace a b w' h ih =>
    rcases hq.step hr hversion hseen₂ with ⟨e, he⟩ | ⟨rest, rfl, hnext, hr', hversion', hseen'⟩
    · rw [he] at h
      rw [h.second_done] at hb
      exact Bool.noConfusion hb
    · obtain ⟨hkeeps, hfinal, hleft, hright, hu⟩ :=
        ih ha hb hp hnext hr' hversion' hseen₁ hseen'
      rw [accesses, replay_append_inr]
      refine ⟨hkeeps, hfinal, ?_, ?_, hu⟩
      · rw [List.filterMap_append, hleft]
        cases req.access? <;> rfl
      · rw [List.filterMap_append, hright]
        cases req.access? <;> rfl

end Program

/-! ### The orders of four accesses -/

/-- All lists in which two lists are merged.  Two accesses on either side can be
merged in six ways, which are gone through. -/
def merges {α β : Type} : List α → List β → List (List (α ⊕ β))
  | [], right => [right.map .inr]
  | left, [] => [left.map .inl]
  | a :: left, b :: right =>
    (merges left (b :: right)).map (.inl a :: ·) ++ (merges (a :: left) right).map (.inr b :: ·)

/-- There is one way to merge a list with an empty one. -/
theorem merges_nil {α β : Type} (left : List α) :
    merges left ([] : List β) = [left.map .inl] := by
  cases left <;> simp [merges]

/-- Every list merges its left elements and its right ones. -/
theorem mem_merges {α β : Type} (l : List (α ⊕ β)) :
    l ∈ merges (l.filterMap Sum.getLeft?) (l.filterMap Sum.getRight?) := by
  induction l with
  | nil => simp [merges]
  | cons x l ih =>
    cases x with
    | inl a =>
      show .inl a :: l ∈ merges (a :: l.filterMap Sum.getLeft?) (l.filterMap Sum.getRight?)
      cases hright : l.filterMap Sum.getRight? with
      | nil =>
        rw [hright, merges_nil, List.mem_singleton] at ih
        rw [merges_nil, List.mem_singleton, List.map_cons, ← ih]
      | cons b right =>
        rw [hright] at ih
        rw [merges]
        exact List.mem_append_left _ (List.mem_map_of_mem ih)
    | inr b =>
      show .inr b :: l ∈ merges (l.filterMap Sum.getLeft?) (b :: l.filterMap Sum.getRight?)
      cases hleft : l.filterMap Sum.getLeft? with
      | nil =>
        rw [hleft, merges, List.mem_singleton] at ih
        rw [merges, List.mem_singleton, List.map_cons, ← ih]
      | cons a left =>
        rw [hleft] at ih
        rw [merges]
        exact List.mem_append_right _ (List.mem_map_of_mem ih)

/-- The first update is overtaken: the second one has read the rule when the
first one writes it, and writes what it makes of that afterwards.  As the whole
row is written, everything that the first one did is undone. -/
def FirstOvertaken (trace : List (Request ⊕ Request)) : Prop :=
  [.inr .read, .inl .write, .inr .write].Sublist (accesses trace)

/-- The second update is overtaken by the first one, in the same way. -/
def SecondOvertaken (trace : List (Request ⊕ Request)) : Prop :=
  [.inl .read, .inr .write, .inl .write].Sublist (accesses trace)

/-- **Two updates are made one after the other, or one of them is overtaken**
and leaves nothing of what it did. -/
theorem replay_cases {trace : List (Request ⊕ Request)} (r seen₁ seen₂ : Rule)
    (hleft : (accesses trace).filterMap Sum.getLeft? = [.read, .write])
    (hright : (accesses trace).filterMap Sum.getRight? = [.read, .write]) :
    (¬FirstOvertaken trace ∧ ¬SecondOvertaken trace ∧
      (replay u₁ u₂ (accesses trace) r seen₁ seen₂ = u₂.applied (u₁.applied r) ∨
        replay u₁ u₂ (accesses trace) r seen₁ seen₂ = u₁.applied (u₂.applied r))) ∨
    (FirstOvertaken trace ∧ ¬SecondOvertaken trace ∧
      replay u₁ u₂ (accesses trace) r seen₁ seen₂ = u₂.applied r) ∨
    (¬FirstOvertaken trace ∧ SecondOvertaken trace ∧
      replay u₁ u₂ (accesses trace) r seen₁ seen₂ = u₁.applied r) := by
  have hmem := mem_merges (accesses trace)
  rw [hleft, hright] at hmem
  unfold FirstOvertaken SecondOvertaken
  generalize accesses trace = order at hmem ⊢
  simp only [merges, List.map_cons, List.map_nil, List.cons_append, List.nil_append, List.mem_cons,
    List.not_mem_nil, or_false] at hmem
  rcases hmem with rfl | rfl | rfl | rfl | rfl | rfl
  · exact .inl ⟨by decide, by decide, .inl rfl⟩
  · exact .inr (.inl ⟨by decide, by decide, rfl⟩)
  · exact .inr (.inr ⟨by decide, by decide, rfl⟩)
  · exact .inr (.inl ⟨by decide, by decide, rfl⟩)
  · exact .inr (.inr ⟨by decide, by decide, rfl⟩)
  · exact .inl ⟨by decide, by decide, .inr rfl⟩

/-! ### What becomes of the fields -/

/-- What a rule is after two updates of which none, one or the other was lost: a
field that is named by one of them has what that one requests, unless it was
lost; then, like a field that neither of them names, it has what the rule had
before. -/
structure Rule.Settled (u₁ : RuleUpdate) (lost₁ : Prop) (u₂ : RuleUpdate) (lost₂ : Prop)
    (r r' : Rule) : Prop where
  version : r.IsVersion r'
  unnamed : ∀ f : RuleField, f.namedBy u₁ = false → f.namedBy u₂ = false → f.value r' = f.value r
  first : ∀ f : RuleField, f.namedBy u₁ = true →
    (¬lost₁ → f.requested u₁ = some (f.value r')) ∧ (lost₁ → f.value r' = f.value r)
  second : ∀ f : RuleField, f.namedBy u₂ = true →
    (¬lost₂ → f.requested u₂ = some (f.value r')) ∧ (lost₂ → f.value r' = f.value r)

namespace RuleField

variable {f : RuleField}

/-- A field that is not named stays. -/
theorem value_applied_of_not_namedBy (hu : u.Acceptable) (h : f.namedBy u = false) (r : Rule) :
    f.value (u.applied r) = f.value r := by
  rw [← isSome_requested hu] at h
  have hnone : f.requested u = none := Option.isNone_iff_eq_none.1 (Option.isSome_eq_false_iff.1 h)
  rw [value_applied, hnone, Option.getD_none]

/-- A field that is named has what is requested. -/
theorem requested_eq_value (hu : u.Acceptable) (h : f.namedBy u = true) (r : Rule) :
    f.requested u = some (f.value (u.applied r)) := by
  rw [← isSome_requested hu] at h
  obtain ⟨x, hx⟩ := Option.isSome_iff_exists.1 h
  rw [value_applied, hx, Option.getD_some]

end RuleField

namespace Rule.Settled

variable {lost₁ lost₂ : Prop} {r' : Rule}

/-- It does not matter which of the updates is called the first. -/
theorem symm (h : r.Settled u₁ lost₁ u₂ lost₂ r') : r.Settled u₂ lost₂ u₁ lost₁ r' :=
  ⟨h.version, fun f h₂ h₁ => h.unnamed f h₁ h₂, h.second, h.first⟩

/-- It does not matter when the rule was changed for the last time. -/
theorem at_ (h : r.Settled u₁ lost₁ u₂ lost₂ r') (t : Instant) :
    r.Settled u₁ lost₁ u₂ lost₂ { r' with updatedAt := t } := by
  have hvalue : ∀ f : RuleField, f.value { r' with updatedAt := t } = f.value r' := by
    intro f
    cases f <;> rfl
  obtain ⟨hversion, hunnamed, hfirst, hsecond⟩ := h
  simp only [← hvalue] at hunnamed hfirst hsecond
  exact ⟨hversion.trans ⟨rfl, rfl, rfl, rfl, rfl, rfl⟩, hunnamed, hfirst, hsecond⟩

/-- Updates that are made one after the other are both there. -/
theorem of_both (ha₁ : u₁.Acceptable) (ha₂ : u₂.Acceptable)
    (hapart : ∀ f : RuleField, f.namedBy u₁ = true → f.namedBy u₂ = false) (h₁ : ¬lost₁)
    (h₂ : ¬lost₂) : r.Settled u₁ lost₁ u₂ lost₂ (u₂.applied (u₁.applied r)) where
  version := (isVersion_applied u₁ r).trans (isVersion_applied u₂ _)
  unnamed f hf₁ hf₂ := (f.value_applied_of_not_namedBy ha₂ hf₂ _).trans
    (f.value_applied_of_not_namedBy ha₁ hf₁ r)
  first f hf := by
    refine ⟨fun _ => ?_, fun hlost => absurd hlost h₁⟩
    rw [f.value_applied_of_not_namedBy ha₂ (hapart f hf)]
    exact f.requested_eq_value ha₁ hf r
  second f hf := ⟨fun _ => f.requested_eq_value ha₂ hf _, fun hlost => absurd hlost h₂⟩

/-- Of an update that is lost nothing is there. -/
theorem of_first_lost (ha₂ : u₂.Acceptable)
    (hapart : ∀ f : RuleField, f.namedBy u₁ = true → f.namedBy u₂ = false) (h₁ : lost₁)
    (h₂ : ¬lost₂) : r.Settled u₁ lost₁ u₂ lost₂ (u₂.applied r) where
  version := isVersion_applied u₂ r
  unnamed f _ hf₂ := f.value_applied_of_not_namedBy ha₂ hf₂ r
  first f hf := ⟨fun hkept => absurd h₁ hkept, fun _ =>
    f.value_applied_of_not_namedBy ha₂ (hapart f hf) r⟩
  second f hf := ⟨fun _ => f.requested_eq_value ha₂ hf r, fun hlost => absurd hlost h₂⟩

end Rule.Settled

/-- **Two updates of a rule side by side**, of fields that only one of them
names, leave what both request, but for one that was overtaken. -/
theorem KeepsRules.settles (K : KeepsRules σ) {w w' : World σ} {trace : List (Request ⊕ Request)}
    {c₁ c₂ : RuleChange} {includeManual₁ includeManual₂ : Bool} (hb₁ : u₁.backfill = false)
    (hb₂ : u₂.backfill = false)
    (hapart : ∀ f : RuleField, ¬(f.namedBy u₁ = true ∧ f.namedBy u₂ = true))
    (hu₁ : ∀ c, RuleField.conditions.requested u₁ = some c → K.Lasts c)
    (hu₂ : ∀ c, RuleField.conditions.requested u₂ = some c → K.Lasts c)
    (hr : K.Keeps w.store r)
    (h : (ExceptT.run (Action.updateRule r.user r.id u₁ includeManual₁)).Interleaved
      (ExceptT.run (Action.updateRule r.user r.id u₂ includeManual₂)) w trace (.ok c₁) (.ok c₂)
      w') :
    ∃ r', K.Keeps w'.store r' ∧
      r.Settled u₁ (FirstOvertaken trace) u₂ (SecondOvertaken trace) r' := by
  have hversion := Rule.IsVersion.refl r
  obtain ⟨hkeeps, -, hleft, hright, ha₁, ha₂⟩ := h.replays rfl rfl
    (Action.updateRule_updates hb₁ hu₁ _ r) (Action.updateRule_updates hb₂ hu₂ _ r) hr hversion
    hversion hversion
  have hapart₁ : ∀ f : RuleField, f.namedBy u₁ = true → f.namedBy u₂ = false := fun f hf =>
    Bool.eq_false_iff.2 fun hf' => hapart f ⟨hf, hf'⟩
  have hapart₂ : ∀ f : RuleField, f.namedBy u₂ = true → f.namedBy u₁ = false := fun f hf =>
    Bool.eq_false_iff.2 fun hf' => hapart f ⟨hf', hf⟩
  refine ⟨_, hkeeps, ?_⟩
  rcases replay_cases r r r hleft hright with ⟨h₁, h₂, he | he⟩ | ⟨h₁, h₂, he⟩ | ⟨h₁, h₂, he⟩
  · rw [he]
    exact .of_both ha₁ ha₂ hapart₁ h₁ h₂
  · rw [he]
    exact (Rule.Settled.of_both ha₂ ha₁ hapart₂ h₂ h₁).symm
  · rw [he]
    exact .of_first_lost ha₂ hapart₁ h₁ h₂
  · rw [he]
    exact (Rule.Settled.of_first_lost ha₁ hapart₂ h₂ h₁).symm

/-- **Partial updates last, unless they are overtaken.** Two updates of a rule
without a backfill name different fields, are interleaved in some way, and both
succeed.  Then every field that is named by one of them has what is requested
for it, and every other field, with all else that belongs to the rule but the
time of its last change, is as it was before.  It is only where one of the
updates had read the rule when the other one wrote it, and wrote its own
afterwards, that the fields named by that other one are as they were before too.

This is so in every store of records.  In a store of rows, where bodies are kept
as texts, it is so for bodies that last, and the body that is read in the end
has equal value. -/
theorem partial_updates_last_unless_overtaken (r : Rule) (u₁ u₂ : RuleUpdate)
    (hb₁ : u₁.backfill = false) (hb₂ : u₂.backfill = false)
    (hapart : ∀ f : RuleField, ¬(f.namedBy u₁ = true ∧ f.namedBy u₂ = true))
    (includeManual₁ includeManual₂ : Bool) (trace : List (Request ⊕ Request)) (c₁ c₂ : RuleChange) :
    (∀ w w' : World Memory, w.store.rule? r.user r.id = some r →
      (ExceptT.run (Action.updateRule r.user r.id u₁ includeManual₁)).Interleaved
        (ExceptT.run (Action.updateRule r.user r.id u₂ includeManual₂)) w trace (.ok c₁) (.ok c₂)
        w' →
      ∃ r', w'.store.rule? r.user r.id = some r' ∧
        r.Settled u₁ (FirstOvertaken trace) u₂ (SecondOvertaken trace) r') ∧
    (∀ (w w' : World Database) (row : RuleRow), w.store.ruleRow? r.user r.id = some row →
      row.toRecord = .ok r → r.conditions.Lasts →
      (∀ c, RuleField.conditions.requested u₁ = some c → c.Lasts) →
      (∀ c, RuleField.conditions.requested u₂ = some c → c.Lasts) →
      (ExceptT.run (Action.updateRule r.user r.id u₁ includeManual₁)).Interleaved
        (ExceptT.run (Action.updateRule r.user r.id u₂ includeManual₂)) w trace (.ok c₁) (.ok c₂)
        w' →
      ∃ r' row' body, w'.store.ruleRow? r.user r.id = some row' ∧
        row'.ReadsAs { r' with conditions := body } ∧ body.sameValue r'.conditions = true ∧
        r.Settled u₁ (FirstOvertaken trace) u₂ (SecondOvertaken trace) r') := by
  constructor
  · intro w w' hr h
    obtain ⟨r', ⟨t, hr'⟩, hsettled⟩ := Memory.keepsRules.settles hb₁ hb₂ hapart
      (fun _ _ => trivial) (fun _ _ => trivial) ⟨r.updatedAt, hr⟩ h
    refine ⟨{ r' with updatedAt := t }, ?_, hsettled.at_ t⟩
    rw [← hsettled.version.user, ← hsettled.version.id]
    exact hr'
  · intro w w' row hrow hread hr hu₁ hu₂ h
    have hagrees : r.Agrees (fun c c' => c'.sameValue c = true) r :=
      ⟨r.conditions.sameValue_refl, rfl⟩
    obtain ⟨r', ⟨row', r'', hrow', hreads, ⟨hbody, heq⟩, -⟩, hsettled⟩ :=
      Database.keepsRules.settles hb₁ hb₂ hapart hu₁ hu₂
        ⟨row, r, hrow, (RuleRow.toRecord_eq_ok.1 hread).1, hagrees, hr⟩ h
    refine ⟨{ r' with updatedAt := r''.updatedAt }, row', r''.conditions, ?_, ?_, hbody,
      hsettled.at_ r''.updatedAt⟩
    · rw [← hsettled.version.user, ← hsettled.version.id]
      exact hrow'
    · rw [heq] at hreads
      exact hreads

namespace Sample

/-- Two updates of a rule side by side. -/
def sideBySide {σ : Type} [Store σ] (id : Id) (u₁ u₂ : RuleUpdate) (schedule : List Bool)
    (w : World σ) : Option (List (Request ⊕ Request) ×
      (Except Error RuleChange × Except Error RuleChange) × World σ) :=
  Program.weave schedule (ExceptT.run (Action.updateRule "ana" id u₁ false))
    (ExceptT.run (Action.updateRule "ana" id u₂ false)) w

/-- The second update reads the rule when the first one has just written it. -/
def inTurn : List Bool := List.replicate 3 false ++ [true, false] ++ List.replicate 3 true

/-- Both updates read the rule, then the first one writes it, and then the
second one does. -/
def crossed : List Bool := [false, true] ++ List.replicate 3 false ++ List.replicate 3 true

/-- A world with one rule. -/
def ruled : World Memory :=
  Turn.after ⟨"ana", .createRule
    { name := "baker", conditions := mentions "bakery", category := some 9
      merchant := some "Baker" }, false⟩ start

/-- The rule. -/
def bakeryRule : Rule :=
  { id := ⟨0#128⟩, user := "ana", name := "baker"
    conditions := ⟨.and, [.text .description (.contains "bakery") (some false)]⟩
    category := some 9, merchant := some "Baker", createdAt := ⟨0, 0⟩, updatedAt := ⟨0, 0⟩ }

/-- The world with one rule is one that a run leads to. -/
theorem reachable_ruled : Reachable ruled := (Reachable.start _ _ _ _).next _

/-- The rule is in its store. -/
theorem bakeryRule_found :
    ruled.store.rule? bakeryRule.user bakeryRule.id = some bakeryRule := by
  decide +kernel

/-- A database with one rule. -/
def shelf : World Database :=
  { store := Store.after [.insertRule tallied] {}, supply := start.supply }

/-- The row is read as a rule. -/
theorem tallied_read : (RuleRow.of tallied).toRecord = .ok tallied := by decide +kernel

/-- An update that gives a rule another name. -/
def rename : RuleUpdate := { name := some " shop " }

/-- An update that takes the merchant from a rule and gives it another place. -/
def demote : RuleUpdate := { merchant := .clear, priority := some 4 }

/-- An update that asks for an amount past 63 bits. -/
def askMuch : RuleUpdate :=
  { conditions := some (.obj [("logic", .str "and"), ("conditions", .arr [.obj
      [("field", .str "amount"), ("operator", .str "equals"),
        ("value", .num (.whole 18446744073709551615))]])]) }

/-- Both updates have succeeded, with these accesses, and left a store that
passes a test. -/
def succeeds {σ : Type} (order : List (Access ⊕ Access)) (test : σ → Bool)
    (run : Option (List (Request ⊕ Request) ×
      (Except Error RuleChange × Except Error RuleChange) × World σ)) : Bool :=
  run.any fun x => x.2.1.1.isOk && x.2.1.2.isOk && decide (accesses x.1 = order) &&
    test x.2.2.store

/-- A schedule under which both updates succeed is an interleaving. -/
theorem exists_interleaved {σ : Type} [Store σ] {id : Id} {u₁ u₂ : RuleUpdate}
    {schedule : List Bool} {w : World σ} {order : List (Access ⊕ Access)} {test : σ → Bool}
    (h : succeeds order test (sideBySide id u₁ u₂ schedule w) = true) :
    ∃ trace c₁ c₂ w', (ExceptT.run (Action.updateRule "ana" id u₁ false)).Interleaved
        (ExceptT.run (Action.updateRule "ana" id u₂ false)) w trace (.ok c₁) (.ok c₂) w' ∧
      accesses trace = order ∧ test w'.store = true := by
  obtain ⟨⟨trace, ⟨c₁, c₂⟩, w'⟩, hrun, h⟩ := (Option.any_eq_true _ _).1 h
  rw [Bool.and_eq_true, Bool.and_eq_true, Bool.and_eq_true, decide_eq_true_iff] at h
  obtain ⟨⟨⟨h₁, h₂⟩, horder⟩, htest⟩ := h
  cases c₁ with
  | error e => exact Bool.noConfusion h₁
  | ok c₁ =>
    cases c₂ with
    | error e => exact Bool.noConfusion h₂
    | ok c₂ => exact ⟨trace, c₁, c₂, w', Program.interleaved_of_weave hrun, horder, htest⟩

/-- The first update is made before the second one reads the rule. -/
theorem not_overtaken {trace : List (Request ⊕ Request)}
    (h : accesses trace = [.inl .read, .inl .write, .inr .read, .inr .write]) :
    ¬FirstOvertaken trace ∧ ¬SecondOvertaken trace := by
  unfold FirstOvertaken SecondOvertaken
  rw [h]
  exact ⟨by decide, by decide⟩

/-- An update that leaves the name alone shares no field with one that gives a
name and nothing else. -/
theorem rename_apart (u : RuleUpdate) (hu : u.name = none) (f : RuleField) :
    ¬(f.namedBy u = true ∧ f.namedBy rename = true) := by
  cases f <;> simp [RuleField.namedBy, rename, TargetChange.isChange, hu]

end Sample

/-- A rule that is demoted and renamed has its new place and its new name, in
either store. -/
theorem demoted_and_renamed :
    (∃ trace c₁ c₂ w', (ExceptT.run (Action.updateRule "ana" ⟨0#128⟩ Sample.demote
        false)).Interleaved
        (ExceptT.run (Action.updateRule "ana" ⟨0#128⟩ Sample.rename false)) Sample.ruled trace
        (.ok c₁) (.ok c₂) w' ∧
      ∃ r', w'.store.rule? "ana" ⟨0#128⟩ = some r' ∧ r'.name = "shop" ∧ r'.priority = 4 ∧
        r'.merchant = none ∧ r'.category = some 9) ∧
    (∃ trace c₁ c₂ w', (ExceptT.run (Action.updateRule "ana" ⟨7#128⟩ Sample.demote
        false)).Interleaved
        (ExceptT.run (Action.updateRule "ana" ⟨7#128⟩ Sample.rename false)) Sample.shelf trace
        (.ok c₁) (.ok c₂) w' ∧
      ∃ row', w'.store.ruleRow? "ana" ⟨7#128⟩ = some row' ∧ row'.name = "shop" ∧
        row'.priority = 4) := by
  have hshop : Text.trim " shop " = "shop" := by decide +kernel
  have hapart := Sample.rename_apart Sample.demote rfl
  constructor
  · have hrun : Sample.succeeds [.inl .read, .inl .write, .inr .read, .inr .write] (fun _ => true)
        (Sample.sideBySide ⟨0#128⟩ Sample.demote Sample.rename Sample.inTurn Sample.ruled) =
          true := by
      decide +kernel
    obtain ⟨trace, c₁, c₂, w', hi, horder, -⟩ := Sample.exists_interleaved hrun
    obtain ⟨hfirst, hsecond⟩ := Sample.not_overtaken horder
    obtain ⟨r', hr', hs⟩ := (partial_updates_last_unless_overtaken Sample.bakeryRule Sample.demote
      Sample.rename rfl rfl hapart false false trace c₁ c₂).1 Sample.ruled w'
        Sample.bakeryRule_found hi
    refine ⟨trace, c₁, c₂, w', hi, r', hr', ?_, ?_, ?_, ?_⟩
    · exact (Option.some.inj ((hs.second .name rfl).1 hsecond)).symm.trans hshop
    · exact (Option.some.inj ((hs.first .priority rfl).1 hfirst)).symm
    · exact (Option.some.inj ((hs.first .merchant rfl).1 hfirst)).symm
    · exact hs.unnamed .category rfl rfl
  · have hrun : Sample.succeeds [.inl .read, .inl .write, .inr .read, .inr .write] (fun _ => true)
        (Sample.sideBySide ⟨7#128⟩ Sample.demote Sample.rename Sample.inTurn Sample.shelf) =
          true := by
      decide +kernel
    obtain ⟨trace, c₁, c₂, w', hi, horder, -⟩ := Sample.exists_interleaved hrun
    obtain ⟨hfirst, hsecond⟩ := Sample.not_overtaken horder
    have hlasts : Sample.tallied.conditions.Lasts :=
      ⟨_, (RuleRow.toRecord_eq_ok.1 Sample.tallied_read).1.conditions, Conditions.sameValue_refl _⟩
    obtain ⟨r', row', body, hrow', hreads, -, hs⟩ := (partial_updates_last_unless_overtaken
      Sample.tallied Sample.demote Sample.rename rfl rfl hapart false false trace c₁ c₂).2
        Sample.shelf
      w' (.of Sample.tallied) rfl Sample.tallied_read hlasts nofun nofun hi
    refine ⟨trace, c₁, c₂, w', hi, row', hrow', ?_, ?_⟩
    · have hname : r'.name = row'.name := congrArg Rule.name hreads.others
      rw [← hname]
      exact (Option.some.inj ((hs.second .name rfl).1 hsecond)).symm.trans hshop
    · have hpriority : r'.priority = row'.priority := congrArg Rule.priority hreads.others
      rw [← hpriority]
      exact (Option.some.inj ((hs.first .priority rfl).1 hfirst)).symm

/-- Not every interleaving of updates that name different fields leaves what
both request, and in a store of rows not even updates one after the other do, if
a number is not kept. -/
theorem demotion_is_lost :
    (¬∀ (w w' : World Memory) (r : Rule) (u₁ u₂ : RuleUpdate) (trace : List (Request ⊕ Request))
      (c₁ c₂ : RuleChange), Reachable w → w.store.rule? r.user r.id = some r →
      u₁.backfill = false → u₂.backfill = false →
      (∀ f : RuleField, ¬(f.namedBy u₁ = true ∧ f.namedBy u₂ = true)) →
      (ExceptT.run (Action.updateRule r.user r.id u₁ false)).Interleaved
        (ExceptT.run (Action.updateRule r.user r.id u₂ false)) w trace (.ok c₁) (.ok c₂) w' →
      ∃ r', w'.store.rule? r.user r.id = some r' ∧ r.Settled u₁ False u₂ False r') ∧
    (¬∀ (w w' : World Database) (calls : List Call) (row : RuleRow) (r : Rule)
      (u₁ u₂ : RuleUpdate) (trace : List (Request ⊕ Request)) (c₁ c₂ : RuleChange),
      w.store = Store.after calls {} → w.store.ruleRow? r.user r.id = some row →
      row.toRecord = .ok r → u₁.backfill = false → u₂.backfill = false →
      (∀ f : RuleField, ¬(f.namedBy u₁ = true ∧ f.namedBy u₂ = true)) →
      (ExceptT.run (Action.updateRule r.user r.id u₁ false)).Interleaved
        (ExceptT.run (Action.updateRule r.user r.id u₂ false)) w trace (.ok c₁) (.ok c₂) w' →
      ¬FirstOvertaken trace ∧ ¬SecondOvertaken trace →
      ∃ r' row' body, w'.store.ruleRow? r.user r.id = some row' ∧
        row'.ReadsAs { r' with conditions := body } ∧ body.sameValue r'.conditions = true ∧
        r.Settled u₁ False u₂ False r') := by
  constructor
  · intro h
    have hrun : Sample.succeeds [.inl .read, .inr .read, .inl .write, .inr .write]
        (fun m : Memory => (m.rule? "ana" ⟨0#128⟩).all (·.priority == 0)) (Sample.sideBySide ⟨0#128⟩
          Sample.demote Sample.rename Sample.crossed Sample.ruled) = true := by
      decide +kernel
    obtain ⟨trace, c₁, c₂, w', hi, -, hlost⟩ := Sample.exists_interleaved hrun
    obtain ⟨r', hr', hs⟩ := h Sample.ruled w' Sample.bakeryRule Sample.demote Sample.rename
      trace c₁ c₂
      Sample.reachable_ruled Sample.bakeryRule_found rfl rfl (Sample.rename_apart _ rfl) hi
    have hkept : (4 : Int32) = r'.priority := Option.some.inj ((hs.first .priority rfl).1 id)
    rw [show w'.store.rule? "ana" ⟨0#128⟩ = some r' from hr', Option.all_some, ← hkept] at hlost
    exact absurd hlost (by decide)
  · intro h
    have hrun : Sample.succeeds [.inl .read, .inl .write, .inr .read, .inr .write]
        (fun d : Database => (d.ruleRow? "ana" ⟨7#128⟩).all fun row =>
          (Conditions.validateText row.conditions).conditions?.all
            (!·.sameValue asksGreatestUnsigned))
        (Sample.sideBySide ⟨7#128⟩ Sample.askMuch Sample.rename Sample.inTurn Sample.shelf) =
          true := by
      decide +kernel
    obtain ⟨trace, c₁, c₂, w', hi, horder, hlost⟩ := Sample.exists_interleaved hrun
    obtain ⟨r', row', body, hrow', hreads, hbody, hs⟩ := h Sample.shelf w' _ _ Sample.tallied
      Sample.askMuch Sample.rename trace c₁ c₂ rfl rfl Sample.tallied_read rfl rfl
      (Sample.rename_apart _ rfl) hi (Sample.not_overtaken horder)
    have hrequested : RuleField.conditions.requested Sample.askMuch =
      some asksGreatestUnsigned := by
      decide +kernel
    have hkept : asksGreatestUnsigned = r'.conditions :=
      Option.some.inj (hrequested.symm.trans ((hs.first .conditions rfl).1 id))
    rw [show w'.store.ruleRow? "ana" ⟨7#128⟩ = some row' from hrow', Option.all_some,
      hreads.conditions] at hlost
    have hlost : (!body.sameValue asksGreatestUnsigned) = true := hlost
    rw [hkept, hbody] at hlost
    exact Bool.noConfusion hlost

end LedgerRules
