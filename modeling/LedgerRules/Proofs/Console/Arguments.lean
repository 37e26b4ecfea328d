/-
# Reading arguments

The arguments of a line are read from the left, one at a time, and what is made
of one depends on what was given before it.  A line that is accepted in the end
begins in one of few ways (`Arguments.Reads`), and so does the reading of a long
option (`Arguments.ReadsLong`): what is said of accepted lines goes by these
cases, and not by the reader.
-/

import LedgerRules.Console.Arguments
import LedgerRules.Proofs.Store.Rows
import Mathlib.Data.List.TakeWhile

namespace LedgerRules

namespace CommandForm

variable {form : CommandForm} {o : OptionForm}

/-- An option that is found by its name is one of the form and has that name. -/
theorem of_byName? {name : String} (h : form.byName? name = some o) :
    o ∈ form.options ∧ o.name = name := by
  have hname := List.find?_some h
  exact ⟨List.mem_of_find?_eq_some h, eq_of_beq hname⟩

/-- An option that is found by a short name is one of the form and has that
short name. -/
theorem of_byShort? {c : Char} (h : form.byShort? c = some o) :
    o ∈ form.options ∧ o.short = some c := by
  have hshort := List.find?_some h
  exact ⟨List.mem_of_find?_eq_some h, eq_of_beq hshort⟩

end CommandForm

namespace Arguments

variable {form : CommandForm} {a b : Arguments} {waiting : Option OptionForm}

/-! ### Hyphens and `=` -/

/-- A long option is all of the argument, or its value stands behind the first
`=`. -/
theorem split_long (body : List Char) :
    (body.takeWhile (· != '=') = body ∧ (body.dropWhile (· != '=')).tail? = none) ∨
      ∃ value, body = body.takeWhile (· != '=') ++ '=' :: value ∧
        (body.dropWhile (· != '=')).tail? = some value := by
  cases hrest : body.dropWhile (· != '=') with
  | nil =>
    refine .inl ⟨?_, rfl⟩
    have hsplit := List.takeWhile_append_dropWhile (p := (· != '=')) (l := body)
    rwa [hrest, List.append_nil] at hsplit
  | cons c value =>
    have hc := List.head?_dropWhile_not (· != '=') body
    rw [hrest] at hc
    have hc : c = '=' := by simpa using hc
    refine .inr ⟨value, ?_, rfl⟩
    have hsplit := List.takeWhile_append_dropWhile (p := (· != '=')) (l := body)
    rw [hrest, hc] at hsplit
    exact hsplit.symm

/-- An argument that looks like an option begins with a hyphen and goes on. -/
theorem toList_of_looksLikeOption {arg : String} (h : looksLikeOption arg = true) :
    ∃ c cs, arg.toList = '-' :: c :: cs := by
  unfold looksLikeOption at h
  rw [Bool.and_eq_true, beq_iff_eq, bne_iff_ne] at h
  obtain ⟨hhead, hlength⟩ := h
  cases hlist : arg.toList with
  | nil =>
    rw [hlist] at hhead
    cases hhead
  | cons c₀ rest =>
    rw [hlist] at hhead
    cases hhead
    cases rest with
    | nil =>
      refine absurd ?_ hlength
      rw [← String.length_toList, hlist]
      rfl
    | cons c cs => exact ⟨c, cs, rfl⟩

/-- An argument with two hyphens is what follows them. -/
theorem eq_of_toList {arg body : String} {cs : List Char} (h : arg.toList = '-' :: '-' :: cs)
    (hbody : String.ofList cs = body) : arg = "--" ++ body := by
  refine String.toList_inj.1 ?_
  rw [String.toList_append, ← hbody, String.toList_ofList (l := cs), h]
  rfl

/-! ### One argument -/

/-- How a long option is read behind what was given so far: what is given then,
and which option waits for its value. -/
inductive ReadsLong (form : CommandForm) (a : Arguments) :
    String → Arguments → Option OptionForm → Prop
  | flag {o : OptionForm} {name : String} {b : Arguments} (hform : form.byName? name = some o)
      (htakes : o.takes = .nothing) (hadd : a.add o [] = .ok b) : ReadsLong form a name b none
  | alone {o : OptionForm} {name : String} (hform : form.byName? name = some o)
      (htakes : o.takes ≠ .nothing) : ReadsLong form a name a (some o)
  | joined {o : OptionForm} {name value : String} {b : Arguments}
      (hform : form.byName? name = some o) (htakes : o.takes ≠ .nothing)
      (hadd : a.addValue o value = .ok b) : ReadsLong form a (name ++ "=" ++ value) b none

/-- A long option is read in no other way. -/
theorem readsLong_of_readLong {body : String}
    (h : readLong form a body.toList = .ok (b, waiting)) : ReadsLong form a body b waiting := by
  unfold readLong at h
  dsimp only at h
  obtain ⟨hall, hvalue⟩ | ⟨value, hbody, hvalue⟩ := split_long body.toList
  · rw [hall, hvalue, Option.map_none, String.ofList_toList] at h
    cases hform : form.byName? body with
    | none =>
      rw [hform] at h
      cases h
    | some o =>
      rw [hform] at h
      dsimp only at h
      split at h
      · rename_i htakes
        obtain ⟨a', hadd, hread⟩ := map_eq_ok.1 h
        cases hread
        exact .flag hform htakes hadd
      · rename_i htakes
        cases h
        exact .alone hform htakes
  · rw [hvalue, Option.map_some] at h
    cases hform : form.byName? (String.ofList (body.toList.takeWhile (· != '='))) with
    | none =>
      rw [hform] at h
      cases h
    | some o =>
      rw [hform] at h
      dsimp only at h
      split at h
      · cases h
      · rename_i htakes
        obtain ⟨a', hadd, hread⟩ := map_eq_ok.1 h
        cases hread
        have hjoined : body =
            String.ofList (body.toList.takeWhile (· != '=')) ++ "=" ++ String.ofList value := by
          refine String.toList_inj.1 ?_
          rw [String.toList_append, String.toList_append, String.toList_ofList,
            String.toList_ofList (l := value), List.append_assoc]
          exact hbody
        rw [hjoined]
        exact .joined hform htakes hadd

/-- How the next argument of a line is read that is accepted in the end: behind
what was given so far, with an option that may wait for its value, and before
the rest of the line. -/
inductive Reads (form : CommandForm) (b : Arguments) :
    Option OptionForm → Arguments → String → List String → Prop
  | value {o : OptionForm} {a a' : Arguments} {arg : String} {rest : List String}
      (hplain : o.takes ≠ .any → looksLikeOption arg = false) (hadd : a.addValue o arg = .ok a')
      (hrest : readAll form none a' rest = .ok b) : Reads form b (some o) a arg rest
  | operand {a a' : Arguments} {arg : String} {rest : List String}
      (hplain : looksLikeOption arg = false) (hadd : a.addOperand form arg = .ok a')
      (hrest : readAll form none a' rest = .ok b) : Reads form b none a arg rest
  | dashes {a : Arguments} {rest : List String} (hrest : readOperands form a rest = .ok b) :
      Reads form b none a "--" rest
  | long {a a' : Arguments} {waiting : Option OptionForm} {body : String} {rest : List String}
      (hbody : body ≠ "") (hread : readLong form a body.toList = .ok (a', waiting))
      (hrest : readAll form waiting a' rest = .ok b) : Reads form b none a ("--" ++ body) rest
  | short {a a' : Arguments} {waiting : Option OptionForm} {arg : String} {c : Char}
      {cs : List Char} {rest : List String} (harg : arg.toList = '-' :: c :: cs) (hc : c ≠ '-')
      (hread : readShort form a (c :: cs) = .ok (a', waiting))
      (hrest : readAll form waiting a' rest = .ok b) : Reads form b none a arg rest

/-- **An argument is read in no other way.** What is shown of every case of
`Reads` holds of every line that is accepted. -/
theorem reads_of_readAll {arg : String} {rest : List String}
    (h : readAll form waiting a (arg :: rest) = .ok b) :
    Reads form b waiting a arg rest := by
  cases waiting with
  | some o =>
    unfold readAll at h
    split at h
    · cases h
    · rename_i hnot
      obtain ⟨a', hadd, hrest⟩ := bind_eq_ok.1 h
      exact .value (fun hany => Bool.eq_false_iff.2 fun hlooks => hnot ⟨hany, hlooks⟩) hadd hrest
  | none =>
    unfold readAll at h
    split at h
    · rename_i hplain
      obtain ⟨a', hadd, hrest⟩ := bind_eq_ok.1 h
      exact .operand (by simpa using hplain) hadd hrest
    · rename_i hlooks
      obtain ⟨c, cs, hlist⟩ := toList_of_looksLikeOption (by simpa using hlooks)
      rw [hlist] at h
      split at h
      · rename_i hcs
        obtain rfl : arg = "--" := eq_of_toList (hlist.trans (congrArg ('-' :: ·) hcs)) rfl
        exact .dashes h
      · rename_i body hne hcs
        obtain ⟨⟨a', waiting⟩, hlong, hrest⟩ := bind_eq_ok.1 h
        obtain rfl : arg = "--" ++ String.ofList body :=
          eq_of_toList (hlist.trans (congrArg ('-' :: ·) hcs)) rfl
        rw [← String.toList_ofList (l := body)] at hlong
        refine .long (fun hempty => hne ?_) hlong hrest
        rw [← String.toList_ofList (l := body), hempty]
        rfl
      · rename_i hdashes hlong
        obtain ⟨⟨a', waiting⟩, hshort, hrest⟩ := bind_eq_ok.1 h
        refine .short hlist (fun hc => hlong cs ?_) hshort hrest
        rw [hc]
        rfl

end Arguments
end LedgerRules
