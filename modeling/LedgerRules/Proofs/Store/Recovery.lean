/-
# Migrations after interrupted runs

A run of migrations may be cut short after any of its steps, and the next run
starts from what it left.  Because every migration is recorded after its
statements, the names that a run records are a prefix of those that were
missing, and the next run goes on behind them (`Along.cutShort`).  So whatever
runs were cut short before, the next one that completes leaves nothing to do for
the migrations behind the first, and has carried out all of them
(`carriesOut_run`).

The first migration is the exception.  It is looked for by the table that it
creates and not by its name, so a run that is cut short between the two leaves a
database in which it is never recorded: `recorded_unless_cut_at_names` says that
this one cut, in the first run that got anywhere, is the only one that later
runs do not make up for.
-/

import LedgerRules.Migration
import Mathlib.Data.List.Nodup

namespace LedgerRules

/-- The name that a step records.  Its statements are steps of their own, so a
run can be cut between them and the name. -/
def MigrationStep.recorded? : MigrationStep → Option String
  | .execute _ => none
  | .record name => some name

namespace Schema

variable {s : Schema} {statement : Statement}

/-- Whether what a statement creates is there. -/
def holds (s : Schema) : Statement → Bool
  | .createTable name => s.tables.contains name
  | .createSequence name => s.sequences.contains name
  | .createIndex name => s.indexes.contains name

/-- A name that is added is in the list, and no other comes in. -/
theorem contains_addNew {name other : String} {names : List String} :
    (addNew name names).contains other = (names.contains other || other == name) := by
  unfold addNew
  split
  · rename_i h
    by_cases he : other = name
    · rw [he, h, Bool.true_or]
    · rw [beq_false_of_ne he, Bool.or_false]
  · rw [List.contains_append, List.contains_cons, List.contains_nil, Bool.or_false]

/-- What a statement creates is there after it, whether or not it was there
before. -/
theorem holds_execute (s : Schema) (statement : Statement) :
    (s.execute statement).holds statement = true := by
  cases statement <;> simp only [execute, holds, contains_addNew, beq_self_eq_true, Bool.or_true]

/-- No step takes away what is there: every statement creates something `IF NOT
EXISTS`. -/
theorem holds_perform (h : s.holds statement = true) (step : MigrationStep) :
    (s.perform step).holds statement = true := by
  cases step with
  | record name => cases statement <;> exact h
  | execute other =>
    cases other <;> cases statement <;> unfold holds at h <;>
      simp only [perform, execute, holds, contains_addNew, h, Bool.true_or]

/-- Nor do steps one after the other. -/
theorem holds_performAll (h : s.holds statement = true) (steps : List MigrationStep) :
    (s.performAll steps).holds statement = true := by
  induction steps generalizing s with
  | nil => exact h
  | cons step steps ih => exact ih (holds_perform h step)

/-- What is carried out among steps is there after them. -/
theorem holds_of_mem {steps : List MigrationStep} (h : .execute statement ∈ steps) (s : Schema) :
    (s.performAll steps).holds statement = true := by
  induction steps generalizing s with
  | nil => exact absurd h List.not_mem_nil
  | cons step steps ih =>
    rcases List.mem_cons.1 h with rfl | h
    · exact holds_performAll (s.holds_execute statement) steps
    · exact ih h (s.perform step)

/-- Steps that are carried out in two parts are carried out one after the other. -/
theorem performAll_append (s : Schema) (steps more : List MigrationStep) :
    s.performAll (steps ++ more) = (s.performAll steps).performAll more := List.foldl_append

/-- The names that steps record stand behind those recorded before. -/
theorem applied_performAll (s : Schema) (steps : List MigrationStep) :
    (s.performAll steps).applied = s.applied ++ steps.filterMap MigrationStep.recorded? := by
  induction steps generalizing s with
  | nil => exact (List.append_nil _).symm
  | cons step steps ih =>
    show ((s.perform step).performAll steps).applied = _
    rw [ih]
    cases step with
    | record name => exact List.append_assoc ..
    | execute statement => cases statement <;> rfl

end Schema

namespace Migration

variable {set rest : List Migration} {s : Schema} {first : List String}

/-- The names of migrations, in their order. -/
def names (set : List Migration) : List String := set.map (·.name)

/-- The steps of migrations record their names, each once and in their order. -/
theorem recorded_steps (ms : List Migration) :
    (ms.flatMap steps).filterMap MigrationStep.recorded? = names ms := by
  induction ms with
  | nil => rfl
  | cons m ms ih =>
    have hm : m.steps.filterMap MigrationStep.recorded? = [m.name] := by
      simp [steps, MigrationStep.recorded?, List.filterMap_append, Function.comp_def]
    rw [List.flatMap_cons, List.filterMap_append, hm, ih]
    rfl

/-- What is left to do are the migrations that are not recorded, in their order,
without the first one. -/
theorem names_remaining (set : List Migration) (applied : List String) :
    names (remaining set applied) =
      (names set).filter fun name => name != bootstrapName && !applied.contains name := by
  unfold names
  rw [List.filter_map]
  rfl

/-- **The count of migrations that were there before is exact**: the run has
opened a database with at least as many names as it recorded itself. -/
theorem length_opening_le (set : List Migration) (s : Schema) :
    (opening set s).length ≤ (s.performAll ((opening set s).flatMap steps)).applied.length := by
  rw [Schema.applied_performAll, recorded_steps, List.length_append, names, List.length_map]
  exact Nat.le_add_left ..

/-- Where there is a table of names a run goes on with what is not recorded. -/
theorem runSteps_of_hasNames (set : List Migration) (h : s.hasNames = true) :
    runSteps set s = (remaining set s.applied).flatMap steps := by
  unfold runSteps opening
  rw [if_pos h]
  rfl

/-! ### Runs that are cut short -/

/-- What is left behind by a run that is cut short after so many steps.  Every
statement of a script and every name that is recorded is a step, so a cut may
come between any two of them. -/
def cutShort (set : List Migration) (s : Schema) (n : Nat) : Schema :=
  s.performAll ((runSteps set s).take n)

/-- What is left behind by runs that are cut short, one after the other, each
with the number of steps it got to.  A run starts over with what is not
recorded. -/
def afterCuts (set : List Migration) (s : Schema) (cuts : List Nat) : Schema :=
  cuts.foldl (cutShort set) s

/-- A run that completes is cut short after its last step. -/
theorem run_eq_cutShort (set : List Migration) (s : Schema) :
    (run set s).2 = cutShort set s (runSteps set s).length := by
  unfold cutShort
  rw [List.take_length]
  rfl

/-- A database with a table of names where the migrations behind the first are
recorded up to some point, behind `first`, which is the name of the first
migration or nothing. -/
structure Along (rest : List Migration) (first : List String) (s : Schema) : Prop where
  hasNames : s.hasNames = true
  isFirst : first.Sublist [bootstrapName]
  applied : ∃ done, done <+: names rest ∧ s.applied = first ++ done

namespace Along

/-- What a run goes on with stands behind what is recorded. -/
theorem names_remaining (hnodup : (names (bootstrap :: rest)).Nodup) (h : Along rest first s) :
    s.applied ++ names (remaining (bootstrap :: rest) s.applied) = first ++ names rest := by
  obtain ⟨-, hfirst, done, ⟨todo, htodo⟩, happlied⟩ := h
  have hnames : names (bootstrap :: rest) = bootstrapName :: (done ++ todo) := by
    rw [htodo]
    rfl
  rw [hnames, List.nodup_cons, List.nodup_append, List.mem_append] at hnodup
  obtain ⟨hboot, -, -, hapart⟩ := hnodup
  have hdone : done.filter (fun name => name != bootstrapName && !s.applied.contains name) =
      [] := by
    refine List.filter_eq_nil_iff.2 fun name hmem => ?_
    simp [happlied, hmem]
  have hrest : todo.filter (fun name => name != bootstrapName && !s.applied.contains name) =
      todo := by
    refine List.filter_eq_self.2 fun name hmem => ?_
    have hne : name ≠ bootstrapName := fun he => hboot (.inr (he ▸ hmem))
    have hnew : name ∉ s.applied := by
      rw [happlied, List.mem_append]
      rintro (hold | hold)
      · exact hne (List.mem_singleton.1 (hfirst.mem hold))
      · exact hapart name hold name hmem rfl
    simp [hne, hnew]
  rw [Migration.names_remaining, hnames, List.filter_cons_of_neg (by simp),
    List.filter_append, hdone, hrest, happlied, List.nil_append, List.append_assoc, htodo]

/-- **A run that is cut short anywhere gets further along**, and one that
completes gets to the end.  Steps of migrations that are recorded are not made
again. -/
theorem cutShort (hnodup : (names (bootstrap :: rest)).Nodup) (h : Along rest first s) (n : Nat) :
    Along rest first (cutShort (bootstrap :: rest) s n) ∧
      ((runSteps (bootstrap :: rest) s).length ≤ n →
        (Migration.cutShort (bootstrap :: rest) s n).applied = first ++ names rest) := by
  have hsteps := runSteps_of_hasNames (bootstrap :: rest) h.hasNames
  have hend := h.names_remaining hnodup
  obtain ⟨hnames, hfirst, done, -, happlied⟩ := h
  have hafter := Schema.applied_performAll s ((runSteps (bootstrap :: rest) s).take n)
  constructor
  · have hthere : s.holds (.createTable Schema.namesTable) = true := hnames
    refine ⟨Schema.holds_performAll hthere _, hfirst, ?_⟩
    obtain ⟨more, hmore⟩ : ((runSteps (bootstrap :: rest) s).take n).filterMap
        MigrationStep.recorded? <+: names (remaining (bootstrap :: rest) s.applied) := by
      rw [← recorded_steps, hsteps]
      exact (List.take_prefix ..).filterMap _
    rw [← hmore, happlied, List.append_assoc, List.append_right_inj] at hend
    refine ⟨_, ⟨more, (List.append_assoc ..).trans hend⟩, ?_⟩
    rw [Migration.cutShort, hafter, happlied, List.append_assoc]
  · intro hn
    rw [Migration.cutShort, hafter, List.take_of_length_le hn, hsteps, recorded_steps, hend]

/-- Further runs that are cut short keep a database on its way. -/
theorem afterCuts (hnodup : (names (bootstrap :: rest)).Nodup) (h : Along rest first s)
    (cuts : List Nat) : Along rest first (afterCuts (bootstrap :: rest) s cuts) := by
  unfold Migration.afterCuts
  induction cuts generalizing s with
  | nil => exact h
  | cons n cuts ih => exact ih (h.cutShort hnodup n).1

end Along

/-! ### The first run that gets anywhere -/

/-- Whether the first run that got anywhere was cut short between the table of
names and the name of the migration that creates it.  Only this cut is never
made up for. -/
def cutAtNames (cuts : List Nat) : Bool := cuts.find? (· != 0) == some 1

/-- What is recorded of the first migration then.  A cut between its statements
and its name leaves nothing to be recorded later. -/
def firstNames (cuts : List Nat) : List String := if cutAtNames cuts then [] else [bootstrapName]

/-- The steps of a run where there is no table of names yet. -/
theorem runSteps_fresh (hnodup : (names (bootstrap :: rest)).Nodup) (hfresh : s.hasNames = false)
    (hnone : s.applied = []) : runSteps (bootstrap :: rest) s =
      .execute (.createTable Schema.namesTable) :: .record bootstrapName :: rest.flatMap steps := by
  have hopening : opening (bootstrap :: rest) s = [bootstrap] := by
    unfold opening
    rw [hfresh, if_neg Bool.false_ne_true]
    rfl
  have hremaining : remaining (bootstrap :: rest) [bootstrapName] = rest := by
    unfold remaining
    rw [List.filter_cons_of_neg (by simp [bootstrap])]
    refine List.filter_eq_self.2 fun m hm => ?_
    have hne : m.name ≠ bootstrapName := fun he =>
      (List.nodup_cons.1 hnodup).1 (List.mem_map.2 ⟨m, hm, he⟩)
    simp [hne]
  have happlied : (s.performAll ([bootstrap].flatMap steps)).applied = [bootstrapName] := by
    rw [Schema.applied_performAll, recorded_steps, hnone]
    rfl
  unfold runSteps
  dsimp only
  rw [hopening, happlied, hremaining]
  rfl

/-- **The first run that gets anywhere** records the first migration, unless it
is cut short right after its table of names. -/
theorem cutShort_fresh (hnodup : (names (bootstrap :: rest)).Nodup) (hfresh : s.hasNames = false)
    (hnone : s.applied = []) {n : Nat} (hn : n ≠ 0) :
    Along rest (if n = 1 then [] else [bootstrapName]) (cutShort (bootstrap :: rest) s n) ∧
      ((runSteps (bootstrap :: rest) s).length ≤ n →
        (cutShort (bootstrap :: rest) s n).applied = bootstrapName :: names rest) := by
  have hsteps := runSteps_fresh hnodup hfresh hnone
  have hafter := Schema.applied_performAll s ((runSteps (bootstrap :: rest) s).take n)
  rw [hnone, List.nil_append] at hafter
  obtain ⟨n, rfl⟩ := Nat.exists_eq_succ_of_ne_zero hn
  have hnames : (cutShort (bootstrap :: rest) s (n + 1)).hasNames = true := by
    show (s.performAll _).holds (.createTable Schema.namesTable) = true
    refine Schema.holds_of_mem ?_ s
    rw [hsteps, List.take_succ_cons]
    exact List.mem_cons_self ..
  cases n with
  | zero =>
    refine ⟨⟨hnames, List.nil_sublist _, [], List.nil_prefix, ?_⟩, fun hlen => ?_⟩
    · rw [cutShort, hafter, hsteps]
      rfl
    · rw [hsteps] at hlen
      simp at hlen
  | succ n =>
    have happlied : (cutShort (bootstrap :: rest) s (n + 2)).applied =
        bootstrapName :: ((rest.flatMap steps).take n).filterMap MigrationStep.recorded? := by
      rw [cutShort, hafter, hsteps]
      rfl
    refine ⟨⟨hnames, .refl _, _, ?_, happlied⟩, fun hlen => ?_⟩
    · rw [← recorded_steps]
      exact (List.take_prefix ..).filterMap _
    · rw [hsteps] at hlen
      have hlen : (rest.flatMap steps).length ≤ n := by simpa using hlen
      rw [happlied, List.take_of_length_le hlen, recorded_steps]

/-- Runs that are cut short leave a database as it was, if none of them got
anywhere, or else one that is some way along. -/
theorem afterCuts_fresh (hnodup : (names (bootstrap :: rest)).Nodup) (hfresh : s.hasNames = false)
    (hnone : s.applied = []) (cuts : List Nat) :
    (firstNames cuts = [bootstrapName] ∧ afterCuts (bootstrap :: rest) s cuts = s) ∨
      Along rest (firstNames cuts) (afterCuts (bootstrap :: rest) s cuts) := by
  induction cuts with
  | nil => exact .inl ⟨rfl, rfl⟩
  | cons n cuts ih =>
    by_cases hn : n = 0
    · subst hn
      exact ih
    · have hfind : firstNames (n :: cuts) = if n = 1 then [] else [bootstrapName] := by
        unfold firstNames cutAtNames
        rw [List.find?_cons_of_pos (by simpa using hn)]
        simp
      rw [hfind]
      exact .inr ((cutShort_fresh hnodup hfresh hnone hn).1.afterCuts hnodup cuts)

/-! ### Runs that complete -/

/-- **A run that completes leaves nothing behind the first migration to do**,
whatever runs were cut short before. -/
theorem run_afterCuts (hnodup : (names (bootstrap :: rest)).Nodup) (hfresh : s.hasNames = false)
    (hnone : s.applied = []) (cuts : List Nat) :
    let after := (run (bootstrap :: rest) (afterCuts (bootstrap :: rest) s cuts)).2
    Along rest (firstNames cuts) after ∧ after.applied = firstNames cuts ++ names rest := by
  dsimp only
  rw [run_eq_cutShort]
  rcases afterCuts_fresh hnodup hfresh hnone cuts with ⟨hfirst, hsame⟩ | halong
  · have hlen : 2 ≤ (runSteps (bootstrap :: rest) s).length := by
      rw [runSteps_fresh hnodup hfresh hnone]
      exact Nat.le_add_left ..
    obtain ⟨halong, happlied⟩ := cutShort_fresh hnodup hfresh hnone
      (n := (runSteps (bootstrap :: rest) s).length) (by omega)
    rw [if_neg (by omega)] at halong
    rw [hsame, hfirst]
    exact ⟨halong, happlied (Nat.le_refl _)⟩
  · obtain ⟨halong', happlied⟩ := halong.cutShort hnodup _
    exact ⟨halong', happlied (Nat.le_refl _)⟩

namespace Along

/-- Where nothing is left to do a run does nothing. -/
theorem run_eq (hnodup : (names (bootstrap :: rest)).Nodup) (h : Along rest first s)
    (hall : s.applied = first ++ names rest) :
    run (bootstrap :: rest) s = (⟨[], s.applied.length⟩, s) := by
  have hremaining : remaining (bootstrap :: rest) s.applied = [] := by
    have hnames := h.names_remaining hnodup
    rw [← hall] at hnames
    exact List.map_eq_nil_iff.1 (List.append_right_eq_self.1 hnames)
  have hopening : opening (bootstrap :: rest) s = [] := if_pos h.hasNames
  have hsteps : runSteps (bootstrap :: rest) s = [] := by
    rw [runSteps_of_hasNames _ h.hasNames, hremaining, List.flatMap_nil]
  have hopened : s.performAll ([].flatMap steps) = s := rfl
  unfold run
  dsimp only
  rw [hopening, hsteps, hopened, hremaining]
  rfl

/-- What is recorded is listed in the order of the migrations. -/
theorem appliedNames?_eq (hasc : (names (bootstrap :: rest)).Pairwise (· < ·))
    (h : Along rest first s) (hall : s.applied = first ++ names rest) :
    s.appliedNames? = some (first ++ names rest) := by
  have hsub : (first ++ names rest).Sublist (names (bootstrap :: rest)) :=
    h.isFirst.append (.refl _)
  have hsorted : (first ++ names rest).Pairwise fun a b => (!decide (b < a)) = true :=
    (hasc.sublist hsub).imp fun hlt => by simpa using String.lt_asymm hlt
  unfold Schema.appliedNames?
  rw [if_pos h.hasNames, hall, List.mergeSort_of_pairwise hsorted]

/-- Nothing is pending but the first migration, if that is not recorded. -/
theorem pending?_eq (hnodup : (names (bootstrap :: rest)).Nodup) (h : Along rest first s)
    (hall : s.applied = first ++ names rest) :
    pending? (bootstrap :: rest) s = some ([bootstrapName].filter (!first.contains ·)) := by
  have hrest : (names rest).filter (!s.applied.contains ·) = [] := by
    refine List.filter_eq_nil_iff.2 fun name hmem => ?_
    simp [hall, hmem]
  have hfirst : s.applied.contains bootstrapName = first.contains bootstrapName := by
    have hnew : bootstrapName ∉ names rest := (List.nodup_cons.1 hnodup).1
    simp [hall, hnew]
  have hset : ((bootstrap :: rest).map (·.name)).filter (!s.applied.contains ·) =
      [bootstrapName].filter (!s.applied.contains ·) ++
        (names rest).filter (!s.applied.contains ·) :=
      List.filter_append [bootstrapName] (names rest)
  unfold pending?
  rw [if_pos h.hasNames, hset, hrest, List.append_nil, List.filter_singleton, List.filter_singleton,
    hfirst]

end Along

/-! ### What migrations create -/

/-- What a recorded migration creates is there: a name is recorded behind the
statements it stands for.  Runs that are cut short keep this. -/
def Carried (set : List Migration) (s : Schema) : Prop :=
  ∀ m ∈ set, m.name ∈ s.applied → ∀ statement ∈ m.statements, s.holds statement = true

namespace Carried

/-- Steps that record nothing keep that: they only create. -/
theorem mono (h : Carried set s) {steps : List MigrationStep}
    (hnone : steps.filterMap MigrationStep.recorded? = []) : Carried set (s.performAll steps) := by
  intro m hm hname statement hmem
  rw [Schema.applied_performAll, hnone, List.append_nil] at hname
  exact Schema.holds_performAll (h m hm hname statement hmem) steps

/-- A migration that is cut short has carried out its statements if its name is
recorded. -/
theorem steps_take (hnodup : (names set).Nodup) (h : Carried set s) {m : Migration} (hm : m ∈ set)
    (n : Nat) : Carried set (s.performAll (m.steps.take n)) := by
  by_cases hn : n ≤ m.statements.length
  · refine h.mono ?_
    rw [steps, List.take_append_of_le_length (by simpa using hn), ← List.map_take]
    exact List.filterMap_eq_nil_iff.2 (List.forall_mem_map.2 fun _ _ => rfl)
  · have hall : m.steps.take n = m.steps := by
      refine List.take_of_length_le ?_
      simp only [steps, List.length_append, List.length_map, List.length_singleton]
      omega
    have hname : m.steps.filterMap MigrationStep.recorded? = [m.name] := by
      simpa [names] using recorded_steps [m]
    rw [hall]
    intro m' hm' hrecorded statement hmem
    rw [Schema.applied_performAll, hname, List.mem_append, List.mem_singleton] at hrecorded
    rcases hrecorded with hold | hnew
    · exact Schema.holds_performAll (h m' hm' hold statement hmem) m.steps
    · obtain rfl : m' = m := List.inj_on_of_nodup_map hnodup hm' hm hnew
      refine Schema.holds_of_mem ?_ s
      exact List.mem_append_left _ (List.mem_map_of_mem hmem)

/-- Migrations that are carried out one after the other may be cut short at any
step: those before the cut are complete, and the one at it has not recorded its
name. -/
theorem flatMap_take (hnodup : (names set).Nodup) {ms : List Migration} (hms : ms ⊆ set)
    (h : Carried set s) (n : Nat) : Carried set (s.performAll ((ms.flatMap steps).take n)) := by
  induction ms generalizing s n with
  | nil =>
    rw [List.flatMap_nil, List.take_nil]
    exact h
  | cons m ms ih =>
    rw [List.flatMap_cons, List.take_append, Schema.performAll_append]
    exact ih (fun m' hm' => hms (List.mem_cons_of_mem m hm'))
      (h.steps_take hnodup (hms (List.mem_cons_self ..)) n) _

/-- A run that is cut short anywhere records nothing that it has not carried
out. -/
theorem cutShort (hnodup : (names set).Nodup) (h : Carried set s) (n : Nat) :
    Carried set (cutShort set s n) := by
  unfold Migration.cutShort runSteps
  rw [← List.flatMap_append]
  refine h.flatMap_take hnodup (fun m hm => ?_) n
  rcases List.mem_append.1 hm with hm | hm
  · unfold opening at hm
    split at hm
    · exact absurd hm List.not_mem_nil
    · exact List.mem_of_find?_eq_some (Option.mem_toList.1 hm)
  · exact List.mem_of_mem_filter hm

/-- Nor do runs that are cut short one after the other. -/
theorem afterCuts (hnodup : (names set).Nodup) (h : Carried set s) (cuts : List Nat) :
    Carried set (afterCuts set s cuts) := by
  unfold Migration.afterCuts
  induction cuts generalizing s with
  | nil => exact h
  | cons n cuts ih => exact ih (h.cutShort hnodup n)

end Carried

/-- **A run that completes has created everything**, also where the first
migration is never recorded.  What it creates is there all the same: it is only
passed over where it has been carried out. -/
theorem carriesOut_run (hnodup : (names (bootstrap :: rest)).Nodup) (hfresh : s.hasNames = false)
    (hnone : s.applied = []) (cuts : List Nat) :
    ∀ m ∈ bootstrap :: rest, ∀ statement ∈ m.statements,
      (run (bootstrap :: rest) (afterCuts (bootstrap :: rest) s cuts)).2.holds statement =
      true := by
  have hstart : Carried (bootstrap :: rest) s := by
    intro m _ hname
    rw [hnone] at hname
    exact absurd hname List.not_mem_nil
  have hcarried := (hstart.afterCuts hnodup cuts).cutShort hnodup
    (runSteps (bootstrap :: rest) (afterCuts (bootstrap :: rest) s cuts)).length
  obtain ⟨halong, happlied⟩ := run_afterCuts hnodup hfresh hnone cuts
  rw [← run_eq_cutShort] at hcarried
  intro m hm
  rcases List.mem_cons.1 hm with rfl | hrest
  · intro statement hmem
    rw [List.mem_singleton.1 hmem]
    exact halong.hasNames
  · refine hcarried m hm ?_
    rw [happlied]
    exact List.mem_append_right _ (List.mem_map_of_mem hrest)

/-- **One cut is not made up for.** Runs of the migrations of the ledger or of
the journal may be cut short after any steps, beginning with a database without
a table of names.  The count of what was there before is exact in every run.
Once a run completes, all names are recorded, none is pending and further runs
do nothing and find all of them, unless the first run that got anywhere was cut
short between the table of names and its name: then that name is never recorded
and stays pending. -/
theorem recorded_unless_cut_at_names (hset : set ∈ [ledgerSet, journalSet])
    (hfresh : s.hasNames = false) (hnone : s.applied = []) (cuts : List Nat) :
    let cut := afterCuts set s cuts
    let after := (run set cut).2
    let recorded := if cutAtNames cuts then (names set).tail else names set
    (opening set cut).length ≤ (cut.performAll ((opening set cut).flatMap steps)).applied.length ∧
      after.appliedNames? = some recorded ∧
      pending? set after = some (if cutAtNames cuts then [bootstrapName] else []) ∧
      run set after = (⟨[], recorded.length⟩, after) := by
  obtain ⟨rest, rfl, hasc⟩ : ∃ rest, set = bootstrap :: rest ∧ (names set).Pairwise (· < ·) := by
    rcases List.mem_pair.1 hset with rfl | rfl
    · exact ⟨_, rfl, by decide⟩
    · exact ⟨_, rfl, by decide⟩
  have hnodup : (names (bootstrap :: rest)).Nodup := hasc.imp String.ne_of_lt
  obtain ⟨halong, happlied⟩ := run_afterCuts hnodup hfresh hnone cuts
  have hrecorded : firstNames cuts ++ names rest =
      if cutAtNames cuts then (names (bootstrap :: rest)).tail else names (bootstrap :: rest) := by
    unfold firstNames
    split <;> rfl
  refine ⟨length_opening_le .., ?_, ?_, ?_⟩
  · rw [← hrecorded]
    exact halong.appliedNames?_eq hasc happlied
  · rw [halong.pending?_eq hnodup happlied]
    unfold firstNames
    split <;> rfl
  · rw [← hrecorded, ← happlied]
    exact halong.run_eq hnodup happlied

/-- A run that was cut short right after the table of names, and one that was
cut short later: the first set stays without its first name for good, the second
one is made up for. -/
theorem ledger_cut_at_names_and_journal_cut_later :
    let ledger := (run ledgerSet (afterCuts ledgerSet {} [0, 1, 3])).2
    let journal := (run journalSet (afterCuts journalSet {} [0, 4, 1])).2
    (ledger.appliedNames? = some ["001_initial_schema.sql"] ∧
      pending? ledgerSet ledger = some ["000_migrations.sql"] ∧
      run ledgerSet ledger = (⟨[], 1⟩, ledger)) ∧
    (journal.appliedNames? = some ["000_migrations.sql", "001_initial_schema.sql"] ∧
      pending? journalSet journal = some [] ∧
      run journalSet journal = (⟨[], 2⟩, journal)) :=
  ⟨(recorded_unless_cut_at_names (List.mem_cons_self ..) rfl rfl [0, 1, 3]).2,
    (recorded_unless_cut_at_names (List.mem_pair.2 (.inr rfl)) rfl rfl [0, 4, 1]).2⟩

end Migration
end LedgerRules
