/-
# Versions of a rule

An update names some of the fields of a rule.  The rule takes what is requested
for these and keeps the others (`RuleField.value_applied`); what is no such
field, an update never changes, save the time of the last change.  So whatever
updates make of a rule is a *version* of it.

A store *keeps* a rule if it has a record of it, the time of the last change
aside.  Both stores say the same of this: a rule that is read is the one that is
kept, and a version that is written over it is kept from then on
(`KeepsRules`).  A store of rows keeps bodies as texts, so there the numbers of
a body are equal by value only, and only of a body that *lasts*, that is, one
that its text is read as.  A body of whole numbers of 64 bits does
(`Conditions.FitsCell.validateText_compact`).
-/

import LedgerRules.Proofs.Store.Counters

namespace LedgerRules

/-! ### Fields -/

/-- The target that a change asks for, if it is one. -/
def TargetChange.requested? {α : Type} : TargetChange α → Option (Option α)
  | keep => none
  | clear => some none
  | set value => some (some value)

/-- A change asks for a target, or for none, if and only if it is a change. -/
theorem TargetChange.isSome_requested? {α : Type} (c : TargetChange α) :
    c.requested?.isSome = c.isChange := by
  cases c <;> rfl

/-- A field of a rule that an update may name, one for each field of
`RuleUpdate` but for the request of a backfill. -/
inductive RuleField
  | name
  | conditions
  | category
  | merchant
  | active
  | priority
  deriving DecidableEq, Repr

namespace RuleField

/-- What the field holds. -/
@[reducible]
def Value : RuleField → Type
  | name => String
  | conditions => Conditions
  | category => Option Int64
  | merchant => Option String
  | active => Bool
  | priority => Int32

/-- What a rule has in the field.  Whatever an update can name is a field; the
identifier, the user and the counts are not. -/
def value : (f : RuleField) → Rule → f.Value
  | name, r => r.name
  | conditions, r => r.conditions
  | category, r => r.category
  | merchant, r => r.merchant
  | active, r => r.active
  | priority, r => r.priority

/-- Whether an update names the field.  An explicit clear names a target as much
as a new value does. -/
def namedBy : RuleField → RuleUpdate → Bool
  | name, u => u.name.isSome
  | conditions, u => u.conditions.isSome
  | category, u => u.category.isChange
  | merchant, u => u.merchant.isChange
  | active, u => u.active.isSome
  | priority, u => u.priority.isSome

/-- What an update requests for the field: a name without blanks around it, a
body as it is accepted, a merchant that is not blank. -/
def requested : (f : RuleField) → RuleUpdate → Option f.Value
  | name, u => u.name.map Text.trim
  | conditions, u => u.conditions.bind fun body => (Conditions.validate body).conditions?
  | category, u => u.category.requested?
  | merchant, u => u.merchant.requested?.map normalizeMerchant
  | active, u => u.active
  | priority, u => u.priority

end RuleField

namespace RuleUpdate

/-- The body of the update is accepted, if it has one; otherwise the update is
refused and changes nothing. -/
def Acceptable (u : RuleUpdate) : Prop :=
  ∀ body ∈ u.conditions, ∃ c, Conditions.validate body = .accepted c

/-- The rule after an update whose body is accepted, before the time of the
change is put in.  What the update does not name is left as it is. -/
def applied (u : RuleUpdate) (r : Rule) : Rule := u.apply (RuleField.conditions.requested u) r

end RuleUpdate

namespace RuleField

variable {f : RuleField} {u : RuleUpdate}

/-- **A field has what is requested for it**, or else what it had.  This is all
that is needed of an update where two of them meet. -/
theorem value_applied (f : RuleField) (u : RuleUpdate) (r : Rule) :
    f.value (u.applied r) = (f.requested u).getD (f.value r) := by
  obtain ⟨name, conditions, category, merchant, active, priority, backfill⟩ := u
  cases f with
  | category => cases category <;> rfl
  | merchant => cases merchant <;> rfl
  | _ => rfl

/-- Something is requested for each field that is named, and for no other. -/
theorem isSome_requested (h : u.Acceptable) (f : RuleField) :
    (f.requested u).isSome = f.namedBy u := by
  cases f with
  | name => exact Option.isSome_map
  | conditions =>
    show (u.conditions.bind fun body => (Conditions.validate body).conditions?).isSome =
      u.conditions.isSome
    cases hbody : u.conditions with
    | none => rfl
    | some body =>
      obtain ⟨c, hc⟩ := h body hbody
      rw [Option.bind_some, hc]
      rfl
  | category => exact u.category.isSome_requested?
  | merchant => exact Option.isSome_map.trans u.merchant.isSome_requested?
  | active => rfl
  | priority => rfl

end RuleField

/-! ### Versions -/

/-- Two rules agree in what no update changes: whose they are, where they come
from, their usage and their creation. -/
structure Rule.IsVersion (r r' : Rule) : Prop where
  id : r'.id = r.id
  user : r'.user = r.user
  source : r'.source = r.source
  timesApplied : r'.timesApplied = r.timesApplied
  lastAppliedAt : r'.lastAppliedAt = r.lastAppliedAt
  createdAt : r'.createdAt = r.createdAt

namespace Rule

variable {a b c r r' : Rule} {same : Conditions → Conditions → Prop}

/-- A rule is a version of itself. -/
theorem IsVersion.refl (r : Rule) : r.IsVersion r := ⟨rfl, rfl, rfl, rfl, rfl, rfl⟩

/-- A version of a version is a version. -/
theorem IsVersion.trans (h₁ : a.IsVersion b) (h₂ : b.IsVersion c) : a.IsVersion c :=
  ⟨h₂.id.trans h₁.id, h₂.user.trans h₁.user, h₂.source.trans h₁.source,
    h₂.timesApplied.trans h₁.timesApplied, h₂.lastAppliedAt.trans h₁.lastAppliedAt,
    h₂.createdAt.trans h₁.createdAt⟩

/-- Versions are versions of each other: nothing says which came first. -/
theorem IsVersion.symm (h : a.IsVersion b) : b.IsVersion a :=
  ⟨h.id.symm, h.user.symm, h.source.symm, h.timesApplied.symm, h.lastAppliedAt.symm,
    h.createdAt.symm⟩

/-- An update makes a version of a rule. -/
theorem isVersion_applied (u : RuleUpdate) (r : Rule) : r.IsVersion (u.applied r) :=
  ⟨rfl, rfl, rfl, rfl, rfl, rfl⟩

/-- Two rules agree but for the time of the last change, with bodies that are
the same.  What counts as the same body depends on the store, hence the
parameter. -/
def Agrees (same : Conditions → Conditions → Prop) (r r' : Rule) : Prop :=
  same r.conditions r'.conditions ∧
    r' = { r with conditions := r'.conditions, updatedAt := r'.updatedAt }

/-- Rules that agree are versions of each other. -/
theorem Agrees.isVersion (h : r.Agrees same r') : r.IsVersion r' := by
  obtain ⟨-, h⟩ := h
  rw [h]
  exact ⟨rfl, rfl, rfl, rfl, rfl, rfl⟩

/-- What an update makes of rules that agree agrees, whenever it is made. -/
theorem Agrees.applied (hrefl : ∀ c, same c c) (h : r.Agrees same r') (u : RuleUpdate)
    (now : Instant) : (u.applied r).Agrees same { u.applied r' with updatedAt := now } := by
  obtain ⟨hsame, h⟩ := h
  constructor
  · show same ((RuleField.conditions.requested u).getD r.conditions)
      ((RuleField.conditions.requested u).getD r'.conditions)
    cases RuleField.conditions.requested u with
    | none => exact hsame
    | some c => exact hrefl c
  · rw [h]
    rfl

end Rule

/-! ### Stores that keep rules -/

/-- A store keeps rules: what is read of a rule is what is kept, and a version
that is written is kept.  `Lasts` says of a body that it can be written and read
again and again. -/
structure KeepsRules (σ : Type) [Store σ] where
  same : Conditions → Conditions → Prop
  Lasts : Conditions → Prop
  Keeps : σ → Rule → Prop
  same_refl : ∀ c, same c c
  reads : ∀ {s : σ} {r r' : Rule}, Keeps s r →
    (Store.answer (.getRule r.user r.id) s).1 = .ok (some r') →
    r.Agrees same r' ∧ Lasts r'.conditions
  read_only : ∀ (s : σ) (user : String) (id : Id), (Store.answer (.getRule user id) s).2 = s
  writes : ∀ {s : σ} {r new stored : Rule}, Keeps s r → r.IsVersion new → new.Agrees same stored →
    Lasts stored.conditions → (Store.answer (.updateRule stored) s).1 = .ok () →
    Keeps (Store.answer (.updateRule stored) s).2 new

namespace Memory

/-- The store has the rule, the time of its last change aside.  This is what a
store is held to while two updates run side by side. -/
def Keeps (m : Memory) (r : Rule) : Prop :=
  ∃ t, m.rule? r.user r.id = some { r with updatedAt := t }

/-- A store of records keeps rules as they are. -/
def keepsRules : KeepsRules Memory where
  same := Eq
  Lasts _ := True
  Keeps := Keeps
  same_refl _ := rfl
  reads := by
    rintro m r r' ⟨t, hr⟩ hread
    obtain rfl := Option.some.inj (hr.symm.trans (Except.ok.inj hread))
    exact ⟨⟨rfl, rfl⟩, trivial⟩
  read_only _ _ _ := rfl
  writes := by
    rintro m r new stored ⟨t, hr⟩ hnew hstored - -
    have hversion := hnew.trans hstored.isVersion
    have hfound : m.rule? stored.user stored.id = some { r with updatedAt := t } := by
      rw [hversion.user, hversion.id, hr]
    have hfind : m.rules.find? (fun x => x.id == stored.id && x.user == stored.user) =
        some { r with updatedAt := t } := hfound
    have husage : Rule.replace { r with updatedAt := t } stored = stored := by
      unfold Rule.replace
      dsimp only
      rw [← hversion.timesApplied, ← hversion.lastAppliedAt]
    have hsame : stored = { new with updatedAt := stored.updatedAt } := by
      obtain ⟨hbody, hstored⟩ := hstored
      rw [← hbody] at hstored
      exact hstored
    show ∃ t, (m.answer (.updateRule stored)).2.rule? new.user new.id =
      some { new with updatedAt := t }
    refine ⟨stored.updatedAt, ?_⟩
    rw [answer_updateRule hfound, ← hsame, ← hstored.isVersion.user, ← hstored.isVersion.id]
    refine (find?_modifyFirst hfind ?_).trans (congrArg some husage)
    rw [husage]
    simp

end Memory

/-! ### Rows -/

/-- The time in a cell that may be null, such as the one of the last
application. -/
def readTime? : Option TimeCell → Except Error (Option Instant)
  | some c => some <$> readTime c
  | none => .ok none

namespace RuleRow

variable {row : RuleRow} {r : Rule}

/-- The row is read as the rule, the time of its last change aside.  This is
`RawRule.into_rule` with its early returns turned into the parts that have to go
well. -/
structure ReadsAs (row : RuleRow) (r : Rule) : Prop where
  id : readId row.id = .ok r.id
  conditions : Conditions.validateText row.conditions = .accepted r.conditions
  lastAppliedAt : readTime? row.lastAppliedAt = .ok r.lastAppliedAt
  createdAt : readTime row.createdAt = .ok r.createdAt
  others : r = { r with
    user := row.user, name := row.name, category := row.category, merchant := row.merchant
    active := row.active, priority := row.priority
    source := (RuleSource.ofName? row.source).getD .user, timesApplied := row.timesApplied }

/-- Reading a row is a chain of steps, each of which may fail: the identifier,
the body, and the three times. -/
theorem toRecord_eq (row : RuleRow) : row.toRecord = (readId row.id >>= fun id =>
    (match Conditions.validateText row.conditions with
      | .accepted c => .ok c
      | .rejected faults => .error (.store (.badConditions id faults))) >>= fun conditions =>
    readTime? row.lastAppliedAt >>= fun lastAppliedAt =>
    readTime row.createdAt >>= fun createdAt =>
    readTime row.updatedAt >>= fun updatedAt =>
    .ok { id, user := row.user, name := row.name, conditions, category := row.category
          merchant := row.merchant, active := row.active, priority := row.priority
          source := (RuleSource.ofName? row.source).getD .user
          timesApplied := row.timesApplied, lastAppliedAt, createdAt, updatedAt }) := by
  unfold toRecord
  cases row.lastAppliedAt <;> cases Conditions.validateText row.conditions <;> rfl

/-- A row that is read as a rule. -/
theorem toRecord_eq_ok :
    row.toRecord = .ok r ↔ row.ReadsAs r ∧ readTime row.updatedAt = .ok r.updatedAt := by
  rw [toRecord_eq]
  simp only [bind_eq_ok]
  constructor
  · rintro ⟨id, hid, conditions, hconditions, last, hlast, created, hcreated, updated, hupdated, h⟩
    obtain rfl := Except.ok.inj h
    refine ⟨⟨hid, ?_, hlast, hcreated, rfl⟩, hupdated⟩
    split at hconditions
    · rename_i c hc
      rw [hc, Except.ok.inj hconditions]
    · cases hconditions
  · rintro ⟨⟨hid, hconditions, hlast, hcreated, hothers⟩, hupdated⟩
    refine ⟨r.id, hid, r.conditions, ?_, _, hlast, _, hcreated, _, hupdated, ?_⟩
    · rw [hconditions]
    · exact congrArg Except.ok hothers.symm

/-- A row is read as one rule at most, the time of its last change aside. -/
theorem ReadsAs.unique {r' : Rule} (h : row.ReadsAs r) (h' : row.ReadsAs r') :
    r' = { r with updatedAt := r'.updatedAt } := by
  have hid := Except.ok.inj (h'.id.symm.trans h.id)
  have hconditions := Verdict.accepted.inj (h'.conditions.symm.trans h.conditions)
  have hlast := Except.ok.inj (h'.lastAppliedAt.symm.trans h.lastAppliedAt)
  have hcreated := Except.ok.inj (h'.createdAt.symm.trans h.createdAt)
  rw [h.others, h'.others, hid, hconditions, hlast, hcreated]

end RuleRow

/-! ### Bodies that last -/

/-- Numeric tests of equal value to one are of equal value to each other. -/
theorem NumericTest.sameValue_trans {a b c : NumericTest} (hab : a.sameValue b = true)
    (hbc : b.sameValue c = true) : a.sameValue c = true := by
  rw [sameValue_iff] at *
  refine ⟨hab.1.trans hbc.1, forall₂_trans (fun x y z hxy hyz => ?_) hbc.2 hab.2⟩
  exact hyz.trans hxy

/-- And so are conditions. -/
theorem Condition.sameValue_trans {a b c : Condition} (hab : a.sameValue b = true)
    (hbc : b.sameValue c = true) : a.sameValue c = true := by
  cases a <;> cases b <;> cases c <;> simp only [sameValue, Bool.and_eq_true, beq_iff_eq,
    Bool.false_eq_true] at hab hbc ⊢
  case text.text.text => exact ⟨⟨hab.1.1.trans hbc.1.1, hab.1.2.trans hbc.1.2⟩, hab.2.trans hbc.2⟩
  case numeric.numeric.numeric => exact ⟨hab.1.trans hbc.1, NumericTest.sameValue_trans hab.2 hbc.2⟩

namespace Conditions

/-- And so are whole bodies. -/
theorem sameValue_trans {a b c : Conditions} (hab : a.sameValue b = true)
    (hbc : b.sameValue c = true) : a.sameValue c = true := by
  rw [sameValue_iff] at *
  refine ⟨hab.1.trans hbc.1, forall₂_trans (fun x y z hxy hyz => ?_) hab.2 hbc.2⟩
  exact Condition.sameValue_trans hxy hyz

/-- The body is read back from its text with equal numbers.  A stored body is
validated each time it is read, so this is what keeps a rule visible. -/
def Lasts (c : Conditions) : Prop :=
  ∃ c', validateText c.toJson.compact = .accepted c' ∧ c'.sameValue c = true

/-- What a body that lasts is read as has the same text, and lasts. -/
theorem lasts_of_reread {c c' : Conditions} (hc : validateText c.toJson.compact = .accepted c')
    (hs : c'.sameValue c = true) : c'.Lasts := by
  refine ⟨c', ?_, c'.sameValue_refl⟩
  rw [toJson_congr hs, hc]

end Conditions

namespace Database

variable {d : Database} {r : Rule}

/-- The database has a row of the rule, the time of its last change aside, with
a body of equal value that lasts. -/
def Keeps (d : Database) (r : Rule) : Prop :=
  ∃ row r', d.ruleRow? r.user r.id = some row ∧ row.ReadsAs r' ∧
    r.Agrees (fun c c' => c'.sameValue c = true) r' ∧ r'.conditions.Lasts

/-- A rule that is written over another one has a row where that has one, unless
the write is refused. -/
theorem ruleRow?_updateRule {stored : Rule} {row : RuleRow}
    (hrow : d.ruleRow? stored.user stored.id = some row)
    (hok : (d.updateRule stored).1 = .ok ()) :
    ∃ updatedAt, (d.updateRule stored).2.ruleRow? stored.user stored.id = some { row with
      name := stored.name, conditions := stored.conditions.toJson.compact
      category := stored.category, merchant := stored.merchant, active := stored.active
      priority := stored.priority, source := stored.source.name, updatedAt } := by
  unfold updateRule at hok ⊢
  rw [hrow] at hok ⊢
  split at hok
  · cases hok
  · rename_i hopen
    rw [if_neg hopen]
    dsimp only at hok ⊢
    split at hok
    · cases hok
    · rename_i updatedAt hcell
      refine ⟨updatedAt, ?_⟩
      have hhit := List.find?_some hrow
      dsimp only
      rw [ruleRow?_map (fun row => by split <;> exact ⟨rfl, rfl⟩) hrow, if_pos hhit]

/-- A store of rows keeps rules whose bodies last. -/
def keepsRules : KeepsRules Database where
  same c c' := c'.sameValue c = true
  Lasts := Conditions.Lasts
  Keeps := Keeps
  same_refl := Conditions.sameValue_refl
  reads := by
    rintro d r r' ⟨row, r₀, hr, hrow, ⟨hsame, hagrees⟩, hlasts⟩ hread
    have hread : readOne (d.ruleRow? r.user r.id) RuleRow.toRecord = .ok (some r') := hread
    rw [hr] at hread
    obtain ⟨r₁, hrecord, hr₁⟩ := map_eq_ok.1 hread
    obtain rfl := Option.some.inj hr₁
    have heq := hrow.unique (RuleRow.toRecord_eq_ok.1 hrecord).1
    have hbody : r₁.conditions = r₀.conditions := by rw [heq]
    rw [hagrees, ← hbody] at heq
    rw [← hbody] at hsame hlasts
    exact ⟨⟨hsame, heq⟩, hlasts⟩
  read_only _ _ _ := rfl
  writes := by
    rintro d r new stored ⟨row, r₀, hr, hrow, hagrees, -⟩ hnew ⟨hbody, hstored⟩ ⟨c, hc, hsame⟩ hok
    have hold : r₀.IsVersion new := hagrees.isVersion.symm.trans hnew
    have hkey : stored.user = new.user ∧ stored.id = new.id := by
      rw [hstored]
      exact ⟨rfl, rfl⟩
    have hfound : d.ruleRow? stored.user stored.id = some row := by
      rw [hkey.1, hkey.2, hnew.user, hnew.id, hr]
    obtain ⟨updatedAt, hwritten⟩ := ruleRow?_updateRule hfound hok
    rw [hkey.1, hkey.2] at hwritten
    refine ⟨_, { new with conditions := c }, hwritten, ⟨?_, hc, ?_, ?_, ?_⟩,
      ⟨Conditions.sameValue_trans hsame hbody, rfl⟩, Conditions.lasts_of_reread hc hsame⟩
    · rw [hrow.id, ← hold.id]
    · rw [hrow.lastAppliedAt, ← hold.lastAppliedAt]
    · rw [hrow.createdAt, ← hold.createdAt]
    · have huser : row.user = new.user :=
        (congrArg Rule.user hrow.others).symm.trans hold.user.symm
      have htimes : row.timesApplied = new.timesApplied :=
        (congrArg Rule.timesApplied hrow.others).symm.trans hold.timesApplied.symm
      dsimp only
      rw [huser, htimes, RuleSource.ofName?_name, hstored]
      rfl

end Database
end LedgerRules
