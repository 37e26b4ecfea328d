/-
# The order in which rules are looked at

Rules are listed by priority and age, and a sort that moves no level elements
leaves those that agree in both in the order of the store.  That is the order in
which they were put in: an operation puts at most one rule in, behind the
others, and for the rest changes rules in their places or takes them out
(`Turn.grows`), so of two rules in the store the one in front has been there for
longer (`Course.seniors_first`).  For how long is counted in worlds of the run,
back from the one it has come to, and looks at nothing but whether they have the
rule.

The active rules are picked before they are sorted and not after it, which makes
no difference (`Memory.activeRulesOf_eq`).  What a rule is sorted by changes
only where it is given another priority, so everything else leaves the order as
it is (`Memory.Step.sameOrder`).
-/

import LedgerRules.Proofs.Program.Placement
import LedgerRules.Proofs.Program.RuleIds
import LedgerRules.Proofs.Store.Shares

namespace LedgerRules

/-! ### What the listing goes by -/

namespace Rule

variable {a b a' b' r r' r'' : Rule} {seniority : Id → Nat}

/-- A rule is to be looked at before another: its priority is the lower one or,
where these are the same, it was created earlier or, where these times are the
same, it was put in earlier.  The last of these is what a stable sort leaves of
the order in the store. -/
def Outranks (seniority : Id → Nat) (a b : Rule) : Prop :=
  a.priority < b.priority ∨ a.priority = b.priority ∧
    (a.createdAt.before b.createdAt = true ∨
      a.createdAt = b.createdAt ∧ seniority b.id < seniority a.id)

/-- A rule that is sorted before another outranks it if it does so where they
are level. -/
theorem outranks_of_precedes (hab : a.precedes b = true)
    (hlevel : b.precedes a = true → seniority b.id < seniority a.id) : a.Outranks seniority b := by
  rcases precedes_iff.1 hab with hlt | ⟨hprio, hsec | ⟨hsec, hnano⟩⟩
  · exact .inl (Int32.lt_iff_toInt_lt.2 hlt)
  · refine .inr ⟨Int32.toInt_inj.1 hprio, .inl ?_⟩
    unfold Instant.before
    rw [decide_eq_true hsec, Bool.true_or]
  · refine .inr ⟨Int32.toInt_inj.1 hprio, ?_⟩
    rcases Nat.lt_or_eq_of_le hnano with hlt | heq
    · left
      unfold Instant.before
      rw [beq_iff_eq.2 hsec, decide_eq_true hlt, Bool.and_true, Bool.or_true]
    · refine .inr ⟨?_, hlevel (precedes_iff.2 (.inr ⟨hprio.symm, .inr ⟨hsec.symm, heq.ge⟩⟩))⟩
      rw [Instant.mk.injEq]
      exact ⟨hsec, heq⟩

/-- A rule is the other one as far as a listing goes: it is the rule of the same
user with the same identifier, and is sorted by the same priority and time.
What was switched, renamed or counted keeps its rank. -/
structure SameRank (r r' : Rule) : Prop where
  id : r'.id = r.id
  user : r'.user = r.user
  priority : r'.priority = r.priority
  createdAt : r'.createdAt = r.createdAt

/-- A rule has its own rank. -/
theorem SameRank.refl (r : Rule) : r.SameRank r := ⟨rfl, rfl, rfl, rfl⟩

/-- Ranks that are the same as a third are the same. -/
theorem SameRank.trans (h : r.SameRank r') (h' : r'.SameRank r'') : r.SameRank r'' where
  id := h'.id.trans h.id
  user := h'.user.trans h.user
  priority := h'.priority.trans h.priority
  createdAt := h'.createdAt.trans h.createdAt

/-- Rules of the same rank are sorted alike. -/
theorem SameRank.precedes_eq (ha : a.SameRank a') (hb : b.SameRank b') :
    a.precedes b = a'.precedes b' := by
  unfold precedes
  rw [ha.priority, hb.priority, ha.createdAt, hb.createdAt]

/-- To be counted changes no rank. -/
theorem SameButUsage.sameRank (h : r.SameButUsage r') : r.SameRank r' :=
  ⟨by rw [h], by rw [h], by rw [h], by rw [h]⟩

end Rule

/-- Whether an operation of a user is to bring in a rule, take one out, or give
one a priority that it does not have. -/
def Operation.Reorders (m : Memory) (user : String) : Operation → Prop
  | createRule _ => True
  | deleteRule _ => True
  | updateRule id update => ∃ r p, m.rule? user id = some r ∧ update.priority = some p ∧
    p ≠ r.priority
  | _ => False

namespace Operation

variable {m : Memory} {user : String} {op : Operation}

/-- A change that does not reorder leaves the rule its priority. -/
theorem priority_of_not_reorders {id : Id} {update : RuleUpdate} {r : Rule}
    (hop : op.ruleUpdate? = some (id, update)) (hr : m.rule? user id = some r)
    (h : ¬op.Reorders m user) : update.priority.getD r.priority = r.priority := by
  cases op with
  | updateRule id' update' =>
    obtain ⟨rfl, rfl⟩ := Prod.mk.inj (Option.some.inj hop)
    cases hp : update'.priority with
    | none => rfl
    | some p => exact by_contra fun hne => h ⟨r, p, hr, hp, hne⟩
  | setActive id' active =>
    obtain ⟨rfl, rfl⟩ := Prod.mk.inj (Option.some.inj hop)
    rfl
  | _ => cases hop

end Operation

namespace Memory

variable {backfillIncludesManual : Bool} {actor user : String} {op : Operation}
  {m m' m'' : Memory}

/-- **The active rules are those of the listing, in its order.** They are
filtered before they are sorted, which makes no difference as the sort is
stable. -/
theorem activeRulesOf_eq (m : Memory) (user : String) :
    m.activeRulesOf user = (m.rulesOf user).filter (·.active) := by
  unfold activeRulesOf rulesOf
  rw [filter_and, mergeSort_filter Rule.precedes_trans Rule.precedes_total]

/-- The listing, in a form that can be worked out. -/
theorem rulesOf_eq (m : Memory) (user : String) : m.rulesOf user =
    (m.rules.filter (·.user == user)).insertionSort fun a b => a.precedes b = true :=
  mergeSort_eq_insertionSort Rule.precedes_trans Rule.precedes_total _

/-! ### What leaves the order -/

/-- Two stores hold the rules of a user in one order, and each where it was.
Rules of other users may have come, gone or moved. -/
def SameOrder (user : String) (m m' : Memory) : Prop :=
  List.Forall₂ Rule.SameRank (m.rules.filter (·.user == user)) (m'.rules.filter (·.user == user))

namespace SameOrder

/-- If all rules have the ranks they had, those of each user do. -/
theorem of_rules (h : List.Forall₂ Rule.SameRank m.rules m'.rules) : SameOrder user m m' :=
  filter_of_forall₂ (fun _ _ hr => by rw [hr.user]) h

/-- If the rules of a user are the same they are in the same order. -/
theorem of_filter_eq (h : m'.rules.filter (·.user == user) = m.rules.filter (·.user == user)) :
    SameOrder user m m' := by
  unfold SameOrder
  rw [h]
  exact List.forall₂_same.2 fun r _ => .refl r

/-- A store holds its rules in its own order. -/
theorem refl (user : String) (m : Memory) : SameOrder user m m := of_filter_eq rfl

/-- The order stays the same over two changes that keep it. -/
theorem trans (h : SameOrder user m m') (h' : SameOrder user m' m'') : SameOrder user m m'' :=
  forall₂_trans (fun _ _ _ hab hbc => hab.trans hbc) h h'

/-- They are listed alike. -/
theorem map_id_rulesOf (h : SameOrder user m m') :
    (m'.rulesOf user).map (·.id) = (m.rulesOf user).map (·.id) :=
  map_eq_of_forall₂ (fun _ _ hr => hr.id) (mergeSort_of_forall₂ Rule.precedes Rule.precedes
    (fun _ _ _ _ hab hcd => hab.precedes_eq hcd) h)

/-- A rule that is found in the second store is found in the first, where it has
its priority. -/
theorem exists_rule? (h : SameOrder user m m') {id : Id} {r' : Rule}
    (hr : m'.rule? user id = some r') : ∃ r, m.rule? user id = some r ∧ r.SameRank r' := by
  unfold rule? at hr ⊢
  rw [find?_and] at hr ⊢
  have hrel := find?_of_forall₂ (p := fun r : Rule => r.id == id) (q := fun r => r.id == id)
    (fun _ _ hr => by rw [hr.id]) h
  rw [hr] at hrel
  generalize List.find? _ _ = found at hrel ⊢
  cases hrel with
  | some h => exact ⟨_, rfl, h⟩

/-- So an operation that would reorder the second would reorder the first. -/
theorem reorders (h : SameOrder user m m') (hop : op.Reorders m' user) : op.Reorders m user := by
  cases op with
  | updateRule id update =>
    obtain ⟨r', p, hr', hp, hne⟩ := hop
    obtain ⟨r, hr, hrank⟩ := h.exists_rule? hr'
    exact ⟨r, p, hr, hp, hrank.priority ▸ hne⟩
  | _ => exact hop

end SameOrder

/-- **A step leaves the rules of a user in their order**, unless it is one of
the user and is to reorder them.  What it changes in a rule otherwise is nothing
that rules are sorted by. -/
theorem Step.sameOrder (h : Step backfillIncludesManual actor op m m')
    (hop : actor = user → ¬op.Reorders m actor) : SameOrder user m m' := by
  have hother : ∀ {name : String}, actor ≠ user → name = actor → (name == user) = false := by
    rintro _ hne rfl
    exact beq_false_of_ne hne
  cases h with
  | enroll _ => exact .of_filter_eq rfl
  | enter _ _ => exact .of_filter_eq rfl
  | edit _ => exact .of_filter_eq rfl
  | classify _ h => exact .of_rules (h.frame.2.2.imp fun _ _ => Rule.SameButUsage.sameRank)
  | bulk _ h => exact .of_rules (h.frame.2.2.imp fun _ _ => Rule.SameButUsage.sameRank)
  | @create _ new conditions id now _ _ _ =>
    have hne : actor ≠ user := fun hu => hop hu trivial
    exact .of_filter_eq (filter_concat_of_neg (hother hne rfl))
  | @change _ _ id update old conditions now hupdate h _ _ =>
    by_cases hu : actor = user
    · refine .of_rules (forall₂_modifyFirst .refl fun r hr => ?_)
      obtain rfl := Option.some.inj (hr.symm.trans h)
      exact ⟨rfl, rfl, Operation.priority_of_not_reorders hupdate h (hop hu), rfl⟩
    · refine .of_filter_eq (filter_modifyFirst_of_not (fun r _ hr => ?_) fun r _ hr => ?_)
      · exact hother hu (Id.found_iff.1 hr).2
      · exact hother hu (rule?_mem h).2.2
  | @delete _ id =>
    have hne : actor ≠ user := fun hu => hop hu trivial
    refine .of_filter_eq (filter_filter_of_imp fun r hr => ?_)
    have hkept : r.user ≠ actor := fun hu => hne (hu.symm.trans (beq_iff_eq.1 hr))
    rw [beq_false_of_ne hkept, Bool.and_false, Bool.not_false]

/-! ### What comes in and goes out -/

/-- The identifiers of the rules, in the order of the store. -/
def ruleIds (m : Memory) : List Id := m.rules.map (·.id)

/-- Only a request for a new rule brings one in. -/
theorem Step.ruleIds_sublist (h : Step backfillIncludesManual actor op m m')
    (hop : ∀ new, op ≠ .createRule new) : m'.ruleIds.Sublist m.ruleIds := by
  unfold ruleIds
  rcases h.rules with h | ⟨r, ⟨new, hnew⟩, -, -⟩ | h
  · rw [map_eq_of_forall₂ (fun _ _ hr => hr) h]
  · exact absurd hnew (hop new)
  · exact h.map _

/-- Nor do several steps bring one in, if none of them is such a request. -/
theorem ruleIds_sublist_of_steps
    (h : Relation.ReflTransGen (Step backfillIncludesManual actor op) m m')
    (hop : ∀ new, op ≠ .createRule new) : m'.ruleIds.Sublist m.ruleIds := by
  induction h with
  | refl => exact .refl _
  | tail _ hstep ih => exact (hstep.ruleIds_sublist hop).trans ih

/-- At most one rule is put into a store, behind the others; others may be taken
out.  No rule is ever put in front of another one or moved past it, which is why
the order in the store is that of seniority. -/
def Grows (m m' : Memory) : Prop :=
  ∃ new : Option Id, (∀ id ∈ new, id ∉ m.ruleIds) ∧
    m'.ruleIds.Sublist (m.ruleIds ++ new.toList)

/-- Where rules are only taken out, none is put in. -/
theorem Grows.of_sublist (h : m'.ruleIds.Sublist m.ruleIds) : m.Grows m' :=
  ⟨none, nofun, by rwa [Option.toList_none, List.append_nil]⟩

end Memory

/-- A request for a new rule puts in that one or none. -/
theorem Action.createRule_grows (user : String) (new : NewRule) (includeManual : Bool)
    (w : World Memory) :
    (createRule user new includeManual).Yields w fun _ w' => w.store.Grows w'.store := by
  refine createRule_yields (fun _ _ => .of_sublist (.refl _))
    (fun _ w' hstore _ _ _ => .of_sublist ?_) fun c r w₁ hmakes hstore => ?_
  · rw [hstore]
  -- A backfill brings in no more, since it does what a bulk run does.
  · have hbackfill : (finishChange user r new.backfill includeManual).Takes
        (Memory.Step includeManual user (.applyToExisting none includeManual)) :=
      takes_finishChange fun _ => rfl
    refine (hbackfill w₁).mono fun _ w' hsteps => ?_
    have hlater := Memory.ruleIds_sublist_of_steps hsteps fun _ => nofun
    refine ⟨some r.id, fun id hnew hmem => ?_, ?_⟩
    · obtain ⟨s, hs, he⟩ := List.mem_map.1 hmem
      exact hmakes.fresh s hs (he.trans ((Option.some.inj hnew).symm.trans hmakes.owned.2))
    · rw [hstore] at hlater
      unfold Memory.ruleIds at hlater ⊢
      rwa [List.map_append] at hlater

/-- **An operation puts in at most one rule, behind the others**, and leaves the
others in their order, whatever user it is of. -/
theorem Turn.grows (e : Turn) (w : World Memory) : w.store.Grows (e.after w).store := by
  obtain ⟨user, op, backfillIncludesManual⟩ := e
  by_cases hop : ∀ new, op ≠ .createRule new
  · exact .of_sublist (Memory.ruleIds_sublist_of_steps (Turn.steps _ w) hop)
  · push Not at hop
    obtain ⟨new, rfl⟩ := hop
    exact (Action.yields_map (f := Reply.change) (Q := fun _ w' => w.store.Grows w'.store)).2
      (Action.createRule_grows user new backfillIncludesManual w)

/-- An operation leaves the rules of a user in their order, unless it is one of
the user and is to reorder them. -/
theorem Turn.sameOrder {user : String} (e : Turn) (w : World Memory)
    (hop : e.user = user → ¬e.operation.Reorders w.store e.user) :
    Memory.SameOrder user w.store (e.after w).store := by
  refine e.after_induction (I := fun m => Memory.SameOrder user w.store m) (.refl user w.store)
    fun m m' hstep hm => hm.trans (hstep.sameOrder fun hu => ?_)
  subst hu
  exact fun hr => hop rfl (hm.reorders hr)

/-! ### Seniority -/

/-- A run: the world it has come to, and the worlds before it, the latest in
front.  `Reachable` forgets the way, but how long a rule has been there can only
be told from it. -/
inductive Course : World Memory → List (World Memory) → Prop
  | start (failing : List (Option Int64 × Option String)) (journal : Option (Author × Journal))
      (notices : List Error) (supply : Supply) :
    Course { store := { failing }, journal, notices, supply } []
  | choose {w : World Memory} {past : List (World Memory)} (h : Course w past)
      (failing : List (Option Int64 × Option String)) :
    Course (w.withStore { w.store with failing }) (w :: past)
  | next {w : World Memory} {past : List (World Memory)} (h : Course w past) (e : Turn) :
    Course (e.after w) (w :: past)

/-- Wherever a run leads there is a course that leads there. -/
theorem reachable_iff_course {w : World Memory} : Reachable w ↔ ∃ past, Course w past := by
  constructor
  · intro h
    induction h with
    | start failing journal notices supply => exact ⟨[], .start failing journal notices supply⟩
    | choose _ failing ih =>
      obtain ⟨past, h⟩ := ih
      exact ⟨_, h.choose failing⟩
    | next _ e ih =>
      obtain ⟨past, h⟩ := ih
      exact ⟨_, h.next e⟩
  · rintro ⟨past, h⟩
    induction h with
    | start failing journal notices supply => exact .start failing journal notices supply
    | choose _ failing ih => exact ih.choose failing
    | next _ e ih => exact ih.next e

/-- For how many worlds, back from the first of some, a rule has been there
without a break.  An identifier that comes again after a deletion starts over.
-/
def seniority (worlds : List (World Memory)) (id : Id) : Nat :=
  (worlds.takeWhile fun w => w.store.ruleIds.contains id).length

section Seniority

variable {w w' : World Memory} {past : List (World Memory)} {id : Id}

/-- A rule that is there has been there for one world more than before. -/
theorem seniority_of_mem (h : id ∈ w.store.ruleIds) :
    seniority (w :: past) id = seniority past id + 1 := by
  unfold seniority
  rw [List.takeWhile_cons, if_pos (List.contains_iff_mem.2 h), List.length_cons]

/-- A rule that is not there starts over. -/
theorem seniority_of_not_mem (h : id ∉ w.store.ruleIds) : seniority (w :: past) id = 0 := by
  unfold seniority
  rw [List.takeWhile_cons, if_neg (mt List.contains_iff_mem.1 h), List.length_nil]

/-- The rules stand in the order of how long they have been there.  This is the
invariant that makes the order in the store one of age. -/
def SeniorsFirst (w : World Memory) (past : List (World Memory)) : Prop :=
  w.store.ruleIds.Pairwise fun a b => seniority (w :: past) b < seniority (w :: past) a

/-- **What grows behind keeps seniors first**: those who stay have all been
there for one more world, and who comes in has been there for none before. -/
theorem SeniorsFirst.grows (h : SeniorsFirst w past) (hg : w.store.Grows w'.store) :
    SeniorsFirst w' (w :: past) := by
  obtain ⟨new, hnew, hsub⟩ := hg
  have hall : (w.store.ruleIds ++ new.toList).Pairwise fun a b =>
      seniority (w :: past) b < seniority (w :: past) a := by
    refine List.pairwise_append.2 ⟨h, ?_, fun a ha b hb => ?_⟩
    · cases new with
      | none => exact .nil
      | some id => exact List.pairwise_singleton _ _
    · rw [seniority_of_mem ha, seniority_of_not_mem (hnew b (Option.mem_toList.1 hb))]
      exact Nat.succ_pos _
  refine (hall.sublist hsub).imp_of_mem fun ha hb hlt => ?_
  rw [seniority_of_mem ha, seniority_of_mem hb]
  exact Nat.succ_lt_succ hlt

/-- **Of two rules the one in front has been there for longer**, wherever a run
leads.  The induction is over the course, an operation at a time. -/
theorem Course.seniors_first (h : Course w past) : SeniorsFirst w past := by
  induction h with
  | start _ _ _ _ => exact .nil
  | choose _ _ ih => exact ih.grows (.of_sublist (.refl _))
  | next _ e ih => exact ih.grows (e.grows _)

/-- So rules are listed as they outrank each other. -/
theorem Course.pairwise_rulesOf (h : Course w past) (user : String) :
    (w.store.rulesOf user).Pairwise (Rule.Outranks (seniority (w :: past))) := by
  have hstore : (w.store.rules.filter (·.user == user)).Pairwise fun a b =>
      seniority (w :: past) b.id < seniority (w :: past) a.id :=
    (List.pairwise_map.1 h.seniors_first).filter _
  unfold Memory.rulesOf
  exact (pairwise_mergeSort_level Rule.precedes_trans Rule.precedes_total hstore).imp
    fun hab => Rule.outranks_of_precedes hab.1 hab.2

end Seniority

/-- **The order of rules is settled.** Wherever a run leads, the listing of a
user has each rule of that user once, by priority, then by the time it was
created, and then in the order in which the rules were put in; the active rules
are those of the listing that are active, in its order.  No operation changes
that order, whether it succeeds or fails, but one of the user that is to create
a rule, delete one, or give one another priority. -/
theorem order_of_rules_is_settled {w : World Memory} {past : List (World Memory)}
    (h : Course w past) (user : String) :
    ∃ rules, (Action.listRules user).run w = (.ok rules, w) ∧
      (rules.map (·.id)).Nodup ∧ (∀ r, r ∈ rules ↔ r ∈ w.store.rules ∧ r.user = user) ∧
      rules.Pairwise (Rule.Outranks (seniority (w :: past))) ∧
      (Action.activeRules user).run w = (.ok (rules.filter (·.active)), w) ∧
      ∀ e : Turn, (e.user = user → ¬e.operation.Reorders w.store e.user) →
        ∃ rules', (Action.listRules user).run (e.after w) = (.ok rules', e.after w) ∧
          rules'.map (·.id) = rules.map (·.id) := by
  have hreach := reachable_iff_course.2 ⟨past, h⟩
  refine ⟨_, Action.run_listRules user w, ?_, fun _ => Memory.mem_rulesOf, h.pairwise_rulesOf user,
    ?_, fun e hop => ⟨_, Action.run_listRules user (e.after w), ?_⟩⟩
  · have hperm : (w.store.rulesOf user).Perm (w.store.rules.filter (·.user == user)) :=
      List.mergeSort_perm _ _
    exact ((hperm.map _).nodup_iff).2 (hreach.distinctRules.sublist (List.filter_sublist.map _))
  · rw [← Memory.activeRulesOf_eq]
    rfl
  · exact (e.sameOrder w hop).map_id_rulesOf

/-! ### Two rules of one moment

The clock stands still, so of two rules with one priority neither is the older
one. -/

namespace Sample

/-- An empty world whose clock stands still. -/
def still : World Memory :=
  { store := {}, supply := { clock := fun _ => ⟨0, 0⟩, ids := fun n => ⟨BitVec.ofNat 128 n⟩ } }

/-- Ana makes a rule with a priority. -/
def ranked (name : String) (priority : Int32) : Turn :=
  ⟨"ana", .createRule
    { name, conditions := mentions "bakery", category := some 1, priority := some priority }, false⟩

/-- Ana has a rule that is to be looked at late. -/
def late : World Memory := (ranked "late" 20).after still

/-- She makes one that is to be looked at before it. -/
def early : World Memory := (ranked "early" 0).after late

/-- She makes another one with the same priority. -/
def twins : World Memory := (ranked "twin" 0).after early

/-- The two rules with one priority come about in a run of three operations. -/
theorem course_twins : Course twins [early, late, still] :=
  (((Course.start [] none [] still.supply).next _).next _).next _

/-- Ana switches the first of the two on or off. -/
def switch (active : Bool) : Turn := ⟨"ana", .setActive ⟨1#128⟩ active, false⟩

/-- The first of the two is off. -/
def halved : World Memory := (switch false).after twins

/-- It is on again. -/
def whole : World Memory := (switch true).after halved

end Sample

/-- The first of two rules with one priority and one time of creation is the one
that was put in first.  While it is switched off it keeps its place, though it
is not looked at, and so it has that place when it is switched on again. -/
theorem twins_keep_their_order :
    Course Sample.twins [Sample.early, Sample.late, Sample.still] ∧ ∃ rules off on,
      (Action.listRules "ana").run Sample.twins = (.ok rules, Sample.twins) ∧
        rules.map (·.name) = ["early", "twin", "late"] ∧
        rules.Pairwise (Rule.Outranks
          (seniority [Sample.twins, Sample.early, Sample.late, Sample.still])) ∧
      (Action.listRules "ana").run Sample.halved = (.ok off, Sample.halved) ∧
        off.map (·.id) = rules.map (·.id) ∧
        (Action.activeRules "ana").run Sample.halved =
          (.ok (off.filter (·.active)), Sample.halved) ∧
        (off.filter (·.active)).map (·.name) = ["twin", "late"] ∧
      (Action.listRules "ana").run Sample.whole = (.ok on, Sample.whole) ∧
        on.map (·.id) = rules.map (·.id) ∧
        (on.filter (·.active)).map (·.name) = ["early", "twin", "late"] := by
  have hcourse : Course Sample.halved [Sample.twins, Sample.early, Sample.late, Sample.still] :=
    Sample.course_twins.next (Sample.switch false)
  obtain ⟨rules, hrules, -, -, hpairs, -, hkept⟩ :=
    order_of_rules_is_settled Sample.course_twins "ana"
  obtain ⟨off, hoff, -, -, -, hactive, hkept'⟩ := order_of_rules_is_settled hcourse "ana"
  obtain ⟨_, hoff', hoffids⟩ := hkept (Sample.switch false) fun _ => id
  obtain rfl := Except.ok.inj (Prod.mk.inj (hoff.symm.trans hoff')).1
  obtain ⟨on, hon, honids⟩ := hkept' (Sample.switch true) fun _ => id
  have hrulesOf : Sample.twins.store.rulesOf "ana" = rules :=
    Except.ok.inj (Prod.mk.inj hrules).1
  have hoffOf : Sample.halved.store.rulesOf "ana" = off := Except.ok.inj (Prod.mk.inj hoff).1
  have honOf : Sample.whole.store.rulesOf "ana" = on := Except.ok.inj (Prod.mk.inj hon).1
  refine ⟨Sample.course_twins, rules, off, on, hrules, ?_, hpairs, hoff, hoffids, hactive, ?_, hon,
    honids.trans hoffids, ?_⟩
  · rw [← hrulesOf, Memory.rulesOf_eq]
    decide +kernel
  · rw [← hoffOf, Memory.rulesOf_eq]
    decide +kernel
  · rw [← honOf, Memory.rulesOf_eq]
    decide +kernel

end LedgerRules
