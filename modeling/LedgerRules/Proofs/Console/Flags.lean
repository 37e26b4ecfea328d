/-
# Flags

A flag without a short name is given by an argument of its own.  It stands
anywhere before `--`, and nothing else gives it: not the value of another
option, which never looks like an option unless that option takes any value, and
not short options that are put together.  So whether a flag was given is seen
from the arguments alone (`Arguments.has_of_read`).
-/

import LedgerRules.Proofs.Console.CommandLine

namespace LedgerRules

/-- A flag stands among the arguments, before `--`.  This looks at the line
alone, without knowing how options are read. -/
def Arguments.flagged (name : String) (args : List String) : Bool :=
  (args.takeWhile (· != "--")).contains ("--" ++ name)

/-- In a form, a name is that of a flag without a short name if it is the name
of an option, and no option takes values that look like options. -/
structure CommandForm.HasPlainFlag (form : CommandForm) (name : String) : Prop where
  values : ∀ o ∈ form.options, o.takes ≠ .any
  flag : ∀ o ∈ form.options, o.name = name → o.takes = .nothing ∧ o.short = none
  text : '=' ∉ name.toList

namespace Arguments

variable {form : CommandForm} {name : String} {a b : Arguments} {o : OptionForm}
  {waiting : Option OptionForm}

/-- An option that waits for its value belongs to the form and takes one.  So
the flag is never what waits. -/
def Waits (form : CommandForm) (waiting : Option OptionForm) : Prop :=
  ∀ o ∈ waiting, o ∈ form.options ∧ o.takes ≠ .nothing

/-- Nothing waits at the start of a line. -/
theorem waits_none : Waits form none := nofun

/-! ### What gives the flag -/

/-- An option that is added counts as given under its name. -/
theorem has_of_add {values : List String} (h : a.add o values = .ok b) (name : String) :
    b.has name = (a.has name || o.name == name) := by
  unfold add at h
  split at h
  · cases h
  · cases h
    exact has_giving a name o.name values

/-- An operand is no option. -/
theorem has_of_addOperand {value : String} (h : a.addOperand form value = .ok b) (name : String) :
    b.has name = a.has name := by
  unfold addOperand at h
  split at h
  · cases h
  · cases h
    rfl

/-- Nor are the arguments behind `--`. -/
theorem has_of_readOperands {args : List String} (h : readOperands form a args = .ok b)
    (name : String) : b.has name = a.has name := by
  induction args generalizing a with
  | nil =>
    cases h
    rfl
  | cons arg rest ih =>
    unfold readOperands at h
    obtain ⟨a', hadd, hrest⟩ := bind_eq_ok.1 h
    rw [ih hrest, has_of_addOperand hadd]

/-- An option with a value is not the flag. -/
theorem has_of_addValue (hflag : form.HasPlainFlag name) (ho : o ∈ form.options)
    (htakes : o.takes ≠ .nothing) {value : String} (h : a.addValue o value = .ok b) :
    b.has name = a.has name := by
  have hname : (o.name == name) = false :=
    beq_eq_false_iff_ne.2 fun hname => htakes (hflag.flag o ho hname).1
  rw [has_of_add h, hname, Bool.or_false]

/-- Short options are not the flag. -/
theorem has_of_readShort (hflag : form.HasPlainFlag name) {cs : List Char}
    (h : readShort form a cs = .ok (b, waiting)) :
    b.has name = a.has name ∧ Waits form waiting := by
  induction cs generalizing a with
  | nil =>
    cases h
    exact ⟨rfl, waits_none⟩
  | cons c rest ih =>
    unfold readShort at h
    cases hform : form.byShort? c with
    | none =>
      rw [hform] at h
      cases h
    | some o =>
      obtain ⟨ho, hshort⟩ := CommandForm.of_byShort? hform
      rw [hform] at h
      dsimp only at h
      split at h
      · have hname : (o.name == name) = false := beq_eq_false_iff_ne.2 fun hname => by
          rw [(hflag.flag o ho hname).2] at hshort
          cases hshort
        split at h
        · rename_i a' hadd
          obtain ⟨hhas, hwaits⟩ := ih h
          exact ⟨by rw [hhas, has_of_add hadd, hname, Bool.or_false], hwaits⟩
        · cases h
      · rename_i htakes
        split at h
        · cases h
          refine ⟨rfl, fun o' ho' => ?_⟩
          obtain rfl := Option.some.inj ho'
          exact ⟨ho, htakes⟩
        all_goals
          obtain ⟨a', hadd, hread⟩ := map_eq_ok.1 h
          cases hread
          exact ⟨has_of_addValue hflag ho htakes hadd, waits_none⟩

/-- A long option is the flag if it is all of the argument. -/
theorem has_of_readLong (hflag : form.HasPlainFlag name) {body : String}
    (h : readLong form a body.toList = .ok (b, waiting)) :
    b.has name = (a.has name || body == name) ∧ Waits form waiting := by
  cases readsLong_of_readLong h with
  | flag hform htakes hadd =>
    rw [has_of_add hadd, (CommandForm.of_byName? hform).2]
    exact ⟨rfl, waits_none⟩
  | @alone o _ hform htakes =>
    obtain ⟨ho, rfl⟩ := CommandForm.of_byName? hform
    have hother : (o.name == name) = false :=
      beq_eq_false_iff_ne.2 fun hsame => htakes (hflag.flag o ho hsame).1
    refine ⟨by rw [hother, Bool.or_false], fun o' ho' => ?_⟩
    obtain rfl := Option.some.inj ho'
    exact ⟨ho, htakes⟩
  | @joined o name' value _ hform htakes hadd =>
    have hother : (name' ++ "=" ++ value == name) = false := beq_eq_false_iff_ne.2 fun hsame => by
      refine hflag.text ?_
      rw [← hsame, String.toList_append, String.toList_append]
      exact List.mem_append_left _ (List.mem_append_right _ List.mem_cons_self)
    rw [has_of_addValue hflag (CommandForm.of_byName? hform).1 htakes hadd, hother, Bool.or_false]
    exact ⟨rfl, waits_none⟩

/-! ### The arguments -/

/-- What begins with two hyphens looks like an option, so it is never a plain
value. -/
theorem looksLikeOption_dashes (text : String) : looksLikeOption ("--" ++ text) = true := by
  have hlist : ("--" ++ text).toList = '-' :: '-' :: text.toList := String.toList_append
  have hlength : ("--" ++ text).length ≠ 1 := by
    rw [← String.length_toList, hlist]
    simp
  unfold looksLikeOption
  rw [hlist, bne_iff_ne.2 hlength]
  rfl

/-- An argument that does not begin with two hyphens is neither the flag nor
`--`. -/
theorem flagged_cons_of_ne {arg : String} (h : ∀ text, arg ≠ "--" ++ text) (name : String)
    (rest : List String) : flagged name (arg :: rest) = flagged name rest := by
  have hdashes : (arg != "--") = true := bne_iff_ne.2 (h "")
  have hname : ("--" ++ name == arg) = false := beq_eq_false_iff_ne.2 (h name).symm
  unfold flagged
  rw [List.takeWhile_cons_of_pos (p := (· != "--")) hdashes, List.contains_cons, hname,
    Bool.false_or]

/-- Nor does one that does not look like an option. -/
theorem flagged_cons_of_plain {arg : String} (h : looksLikeOption arg = false) (name : String)
    (rest : List String) : flagged name (arg :: rest) = flagged name rest := by
  refine flagged_cons_of_ne (fun text heq => ?_) name rest
  rw [heq, looksLikeOption_dashes] at h
  cases h

/-- A long option is the flag if it has its name. -/
theorem flagged_cons_long {body : String} (h : body ≠ "") (name : String) (rest : List String) :
    flagged name (("--" ++ body) :: rest) = (body == name || flagged name rest) := by
  have hdashes : ("--" ++ body != "--") = true :=
    bne_iff_ne.2 fun heq => h (String.append_right_inj "--" |>.1 heq)
  have hname : ("--" ++ name == "--" ++ body) = (body == name) := by
    rw [Bool.eq_iff_iff, beq_iff_eq, beq_iff_eq, String.append_right_inj, eq_comm]
  unfold flagged
  rw [List.takeWhile_cons_of_pos (p := (· != "--")) hdashes, List.contains_cons, hname]

/-- **Reading arguments finds the flag** if it was given before or stands among
them.  The induction is over the line, with an option that may wait for its
value. -/
theorem has_of_readAll (hflag : form.HasPlainFlag name) {args : List String}
    (hwaits : Waits form waiting) (h : readAll form waiting a args = .ok b) :
    b.has name = (a.has name || flagged name args) := by
  induction args generalizing a waiting with
  | nil =>
    cases waiting with
    | none =>
      cases h
      exact (Bool.or_false _).symm
    | some o => cases h
  | cons arg rest ih =>
    cases reads_of_readAll h with
    | @value o _ _ _ _ hplain hadd hrest =>
      obtain ⟨ho, htakes⟩ := hwaits o rfl
      rw [ih waits_none hrest, has_of_addValue hflag ho htakes hadd,
        flagged_cons_of_plain (hplain (hflag.values o ho))]
    | operand hplain hadd hrest =>
      rw [ih waits_none hrest, has_of_addOperand hadd, flagged_cons_of_plain hplain]
    | dashes hrest =>
      have hend : flagged name ("--" :: rest) = false := rfl
      rw [has_of_readOperands hrest, hend, Bool.or_false]
    | long hbody hread hrest =>
      obtain ⟨hhas, hwaits⟩ := has_of_readLong hflag hread
      rw [ih hwaits hrest, hhas, flagged_cons_long hbody, Bool.or_assoc]
    | short harg hc hread hrest =>
      obtain ⟨hhas, hwaits⟩ := has_of_readShort hflag hread
      have hne : ∀ text, arg ≠ "--" ++ text := fun text heq => by
        rw [heq, String.toList_append] at harg
        exact hc (List.cons.inj (List.cons.inj harg).2).1.symm
      rw [ih hwaits hrest, hhas, flagged_cons_of_ne hne]

/-- **A flag was given if it stands among the arguments.** No value can be taken
for it, because values that look like options are refused. -/
theorem has_of_read (hflag : form.HasPlainFlag name) {args : List String}
    (h : read form args = .ok a) : a.has name = flagged name args := by
  unfold read at h
  obtain ⟨a', hread, hcomplete⟩ := bind_eq_ok.1 h
  split at hcomplete
  · cases hcomplete
    exact (has_of_readAll hflag waits_none hread).trans (Bool.false_or _)
  · cases hcomplete

end Arguments

namespace Command

/-- The form of a command is among the forms of all commands. -/
theorem mem_forms {group name : String} {form : CommandForm} (h : form? group name = some form) :
    (group, name, form) ∈ forms := by
  obtain ⟨⟨g, n, form'⟩, hfound, rfl⟩ := Option.map_eq_some_iff.1 h
  have hnames := List.find?_some hfound
  rw [Bool.and_eq_true, beq_iff_eq, beq_iff_eq] at hnames
  obtain ⟨rfl, rfl⟩ := hnames
  exact List.mem_of_find?_eq_some hfound

/-- A command line that is accepted is read by the form of its command, and the
command is made of what has been read. -/
theorem exists_read_of_ofArguments {group name : String} {args : List String} {c : Command}
    (hgroup : isGroup group = true) (h : ofArguments (group :: name :: args) = .ok c) :
    ∃ form a, form? group name = some form ∧ Arguments.read form args = .ok a ∧
      task? group name a = some c.task := by
  have h : (if isGroup group = true then ofGroup group (name :: args) else _) = .ok c := h
  rw [if_pos hgroup] at h
  unfold ofGroup at h
  dsimp only at h
  split at h
  · rename_i form hform
    split at h
    · cases h
    · rename_i a hread
      split at h
      · rename_i task htask
        cases h
        exact ⟨form, a, hform, hread, htask⟩
      · cases h
  · split at h <;> cases h

end Command
end LedgerRules
