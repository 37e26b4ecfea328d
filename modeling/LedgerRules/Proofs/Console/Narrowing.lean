/-
# `rule apply --ids`

A command line that names identifiers narrows the bulk run to them: whatever the
files of the site hold, only transactions that are listed change, and only in
their targets.  But blank entries count for nothing, and where nothing is left
the run is over all transactions, as if the option had not been given.

A command is steps that hand on a desk, and each step keeps the rows of both
databases but those listed (`Step.Keeps`); that of the bulk run by what it
writes (`Action.applyToExisting_narrows`).
-/

import LedgerRules.Console.Run
import LedgerRules.Proofs.Console.CommandLine
import LedgerRules.Proofs.Program.Narrowing
import LedgerRules.Proofs.Text.Trim

namespace LedgerRules

/-! ### The files -/

/-- The rows of the transactions in the file of a database.  A file that is
missing or that is no database has none. -/
def DataFile.transactions : DataFile Database → List TransactionRow
  | .present stored => stored.content.transactions
  | _ => []

/-- What is opened has the rows of the file. -/
theorem DataFile.transactions_of_open? {f : DataFile Database} {set : List Migration}
    {stored : Stored Database} (h : f.open? set {} = some stored) :
    stored.content.transactions = f.transactions := by
  cases f with
  | absent =>
    cases h
    rfl
  | alien text => cases h
  | present stored' =>
    cases h
    rfl

/-- In both databases, rows of transactions may only have changed in their
targets, and only if their identifier is listed. -/
structure Site.KeptBut (listed : Id → Prop) (s s' : Site) : Prop where
  ledger : List.Forall₂ (TransactionRow.KeptBut listed) s.ledger.transactions
    s'.ledger.transactions
  demo : List.Forall₂ (TransactionRow.KeptBut listed) s.demo.transactions s'.demo.transactions

namespace Site

variable {listed : Id → Prop} {s s' s'' : Site}

/-- A site with the same databases has kept all rows. -/
theorem KeptBut.of_eq (hledger : s'.ledger = s.ledger) (hdemo : s'.demo = s.demo) :
    s.KeptBut listed s' := by
  constructor
  · rw [hledger]
    exact List.forall₂_same.2 fun _ _ => .same
  · rw [hdemo]
    exact List.forall₂_same.2 fun _ _ => .same

/-- What is kept over two changes is kept over both together. -/
theorem KeptBut.trans (h₁ : s.KeptBut listed s') (h₂ : s'.KeptBut listed s'') :
    s.KeptBut listed s'' :=
  ⟨forall₂_trans (fun _ _ _ h h' => h.trans h') h₁.ledger h₂.ledger,
    forall₂_trans (fun _ _ _ h h' => h.trans h') h₁.demo h₂.demo⟩

/-- The database that was opened is put back with rows that are kept but those
listed. -/
theorem KeptBut.withDatabase {env : Environment} {settings : Settings} {stored : Stored Database}
    (hopen : s.openDatabase? env = some (settings, stored)) (hledger : s'.ledger = s.ledger)
    (hdemo : s'.demo = s.demo) {stored' : Stored Database}
    (h : List.Forall₂ (TransactionRow.KeptBut listed) stored.content.transactions
      stored'.content.transactions) :
    s.KeptBut listed (s'.withDatabase settings stored') := by
  have hsame : s.KeptBut listed s' := .of_eq hledger hdemo
  unfold openDatabase? at hopen
  obtain ⟨settings', -, hopen⟩ := Option.bind_eq_some_iff.1 hopen
  obtain ⟨stored'', hfile, hopen⟩ := Option.bind_eq_some_iff.1 hopen
  cases hopen
  rw [DataFile.transactions_of_open? hfile] at h
  unfold Site.withDatabase
  split
  · rename_i hdemo
    rw [if_pos hdemo] at h
    exact ⟨hsame.ledger, h⟩
  · rename_i hdemo
    rw [if_neg hdemo] at h
    exact ⟨h, hsame.demo⟩

end Site

/-- An action works on a store beside the databases of the site. -/
theorem Desk.performOn_eq {σ α : Type} [Store σ] (author : Option Author) (a : Action α) (store : σ)
    (desk : Desk) :
    (∃ w : World σ, w.store = store ∧
        (desk.performOn author a store).2.1 = (a.run w).2.store) ∧
      (desk.performOn author a store).2.2.site.ledger = desk.site.ledger ∧
      (desk.performOn author a store).2.2.site.demo = desk.site.demo := by
  refine ⟨⟨_, rfl, rfl⟩, ?_, ?_⟩ <;>
    (unfold Desk.performOn; dsimp only; split <;> rfl)

namespace Console

/-! ### Steps -/

/-- A step keeps the rows of transactions but those listed, whether it ends the
command or not. -/
def Step.Keeps (listed : Id → Prop) {α : Type} (x : Step α) : Prop :=
  ∀ desk : Desk, desk.site.KeptBut listed (x desk).2.site

namespace Step.Keeps

variable {listed : Id → Prop} {α β : Type}

/-- A step that does nothing keeps them. -/
theorem pure (a : α) : Step.Keeps listed (Pure.pure a : Step α) := fun _ => .of_eq rfl rfl

/-- So does one that ends the command. -/
theorem throw (failure : Failure) : Step.Keeps listed (MonadExcept.throw failure : Step α) :=
  fun _ => .of_eq rfl rfl

/-- A step keeps the rows if what it begins with does and what it goes on with
does. -/
theorem bind {x : Step α} {f : α → Step β} (hx : Step.Keeps listed x)
    (hf : ∀ a, Step.Keeps listed (f a)) : Step.Keeps listed (x >>= f) := by
  intro desk
  have hbegun := hx desk
  show desk.site.KeptBut listed (ExceptT.bindCont f (x desk).1 (x desk).2).2.site
  cases hresult : (x desk).1 with
  | error failure => exact hbegun
  | ok a => exact hbegun.trans (hf a _)

end Step.Keeps

variable {listed : Id → Prop}

/-- An event is put on record beside the databases. -/
theorem record_keeps (event : Option Event) : Step.Keeps listed (record event) := by
  intro desk
  show desk.site.KeptBut listed (desk.record author event).site
  unfold Desk.record
  split <;> exact .of_eq rfl rfl

/-- Settings are read, and opening a database changes no row of it. -/
theorem openSettings_keeps (env : Environment) : Step.Keeps listed (openSettings env) := by
  intro desk
  unfold openSettings
  split
  · exact .of_eq rfl rfl
  · rename_i hopen
    exact .withDatabase hopen rfl rfl (List.forall₂_same.2 fun _ _ => .same)

/-- An action is carried out on the rows of one database. -/
theorem perform_keeps {α : Type} (env : Environment) {a : Action α}
    (h : ∀ w : World Database, List.Forall₂ (TransactionRow.KeptBut listed) w.store.transactions
      (a.run w).2.store.transactions) : Step.Keeps listed (perform env a) := by
  intro desk
  unfold perform
  split
  · exact .of_eq rfl rfl
  · rename_i performed desk' hperformed
    unfold Desk.perform? at hperformed
    obtain ⟨⟨settings, stored⟩, hopen, hperformed⟩ := Option.bind_eq_some_iff.1 hperformed
    obtain ⟨⟨w, hw, hstore⟩, hledger, hdemo⟩ := desk.performOn_eq (some author) a stored.content
    obtain rfl : _ = desk' := congrArg Prod.snd (Option.some.inj hperformed)
    refine .withDatabase hopen hledger hdemo ?_
    show List.Forall₂ _ stored.content.transactions
      (desk.performOn (some author) a stored.content).2.1.transactions
    rw [hstore, ← hw]
    exact h w

/-- So does a command that carries out an action and shows what came of it. -/
theorem performAndShow_keeps {α : Type} (env : Environment) (json : Bool) {a : Action α}
    (show_ : α → Output)
    (h : ∀ w : World Database, List.Forall₂ (TransactionRow.KeptBut listed) w.store.transactions
      (a.run w).2.store.transactions) : Step.Keeps listed (performAndShow env json a show_) := by
  refine (perform_keeps env h).bind fun performed => ?_
  obtain ⟨result, notices⟩ := performed
  cases result with
  | ok value => exact .pure _
  | error e => cases e <;> exact .pure _

/-! ### Identifiers -/

/-- An entry is the text of an identifier, blanks around it aside. -/
def Listed (entries : List String) (id : Id) : Prop :=
  ∃ entry ∈ entries, Id.parse? (Text.trim entry) = some id

/-- Texts are read to the identifiers that they stand for, one after the other. -/
theorem mapM_readId_cases (texts : List String) :
    (∃ failure, texts.mapM readId = throw failure) ∨
      ∃ ids, texts.mapM readId = pure ids ∧
        List.Forall₂ (fun text id => Id.parse? (Text.trim text) = some id) texts ids := by
  induction texts with
  | nil => exact .inr ⟨[], rfl, .nil⟩
  | cons text texts ih =>
    rw [List.mapM_cons]
    cases hread : Id.parse? (Text.trim text) with
    | none =>
      have hfail : readId text = failWith s!"Invalid id: {text}" := by
        unfold readId
        rw [hread]
      exact .inl ⟨_, by rw [hfail]; rfl⟩
    | some id =>
      have hid : readId text = pure id := by
        unfold readId
        rw [hread]
      rw [hid, pure_bind]
      obtain ⟨failure, hfail⟩ | ⟨ids, hids, hall⟩ := ih
      · exact .inl ⟨failure, by rw [hfail]; rfl⟩
      · exact .inr ⟨id :: ids, by rw [hids, pure_bind], .cons hread hall⟩

/-- What is read from entries is listed, and there is something unless all are
blank. -/
theorem readIds_cases (entries : List String) :
    (∃ failure, readIds entries = throw failure) ∨
      ∃ ids, readIds entries = pure ids ∧ (∀ id ∈ ids, Listed entries id) ∧
        (ids = [] → ∀ entry ∈ entries, Text.trim entry = "") := by
  obtain hfail | ⟨ids, hids, hall⟩ :=
    mapM_readId_cases ((entries.map Text.trim).filter (· != ""))
  · exact .inl hfail
  · refine .inr ⟨ids, hids, fun id hid => ?_, fun hnone entry hentry => ?_⟩
    · obtain ⟨text, htext, hread⟩ := exists_of_forall₂ hall.flip id hid
      obtain ⟨hmem, hne⟩ := List.mem_filter.1 htext
      obtain ⟨entry, hentry, rfl⟩ := List.mem_map.1 hmem
      -- What was trimmed is trimmed once more.
      rw [(Text.trimmed_iff.1 (Text.trimmed_trim (bne_iff_ne.1 hne))).2] at hread
      exact ⟨entry, hentry, hread⟩
    · subst hnone
      by_contra hblank
      have hleft : Text.trim entry ∈ (entries.map Text.trim).filter (· != "") :=
        List.mem_filter.2 ⟨List.mem_map_of_mem hentry, bne_iff_ne.2 hblank⟩
      rw [List.forall₂_nil_right_iff.1 hall] at hleft
      cases hleft

/-- Blank entries count for nothing. -/
theorem readIds_of_blank {entries : List String} (h : ∀ entry ∈ entries, Text.trim entry = "") :
    readIds entries = readIds [] := by
  have hnone : (entries.map Text.trim).filter (· != "") = [] := by
    refine List.filter_eq_nil_iff.2 fun text htext => ?_
    obtain ⟨entry, hentry, rfl⟩ := List.mem_map.1 htext
    rw [h entry hentry]
    decide
  unfold readIds
  rw [hnone]
  rfl

/-! ### The command -/

/-- The rows that a command line with identifiers keeps. -/
theorem ruleApply_keeps {entries : List String} (h : ∃ entry ∈ entries, Text.trim entry ≠ "")
    (manual json : Bool) (s : Surroundings) :
    Step.Keeps (Listed entries) (task ⟨.ruleApply entries manual, json⟩ s) := by
  refine (record_keeps _).bind fun _ => (openSettings_keeps _).bind fun settings => ?_
  obtain ⟨failure, hread⟩ | ⟨ids, hread, hlisted, hblank⟩ := readIds_cases entries
  · rw [hread]
    exact .throw failure
  · rw [hread, pure_bind]
    have hsome : ids.isEmpty = false := by
      obtain ⟨entry, hentry, hne⟩ := h
      exact List.isEmpty_eq_false_iff.2 fun hnone => hne (hblank hnone entry hentry)
    rw [hsome]
    exact performAndShow_keeps _ _ _ fun w => Action.applyToExisting_narrows hlisted _ _ w

/-- A command line with blank entries does what one without identifiers does. -/
theorem task_ruleApply_of_blank {entries : List String}
    (h : ∀ entry ∈ entries, Text.trim entry = "") (manual json : Bool) :
    task ⟨.ruleApply entries manual, json⟩ = task ⟨.ruleApply [] manual, json⟩ := by
  funext s
  show (recordCommand _ >>= fun _ => ruleApplyTask entries manual s json) =
    (recordCommand _ >>= fun _ => ruleApplyTask [] manual s json)
  unfold ruleApplyTask
  rw [readIds_of_blank h]
  rfl

/-- What a command leaves behind is what its steps do. -/
theorem run_desk (c : Command) (s : Surroundings) (desk : Desk) :
    (run c s desk).2 = (task c s desk).2 := by
  unfold run
  split <;> rename_i hrun <;> rw [hrun]

/-- A command line without identifiers, for any flags. -/
theorem exists_applyLine_of_flags (manual json : Bool) : ∃ flags : List String,
    Command.ApplyLine flags [] manual json ∧
      Command.ofArguments ("rule" :: "apply" :: flags) = .ok ⟨.ruleApply [] manual, json⟩ := by
  cases manual <;> cases json
  · exact ⟨[], .done, rfl⟩
  · exact ⟨["--json"], .json .done, rfl⟩
  · exact ⟨["--include-manual"], .manual .done, rfl⟩
  · exact ⟨["--include-manual", "--json"], .manual (.json .done), rfl⟩

end Console

/-- **`rule apply --ids` changes what is listed, and everything where nothing
is.** A command line that is accepted gives values, and their entries are what
stands between the commas.

* If an entry is not blank, then whatever comes of the command, rows of
  transactions are changed in neither database but in their targets, and only if
  an entry is their identifier.
* If all entries are blank, the command does what it does without `--ids`: the
  bulk run is over all transactions. -/
theorem Console.ids_narrow_unless_all_blank {args : List String} {c : Command}
    (h : Command.ofArguments ("rule" :: "apply" :: args) = .ok c) :
    ∃ values manual json, Command.ApplyLine args values manual json ∧
      c = ⟨.ruleApply (values.flatMap Arguments.pieces) manual, json⟩ ∧
      ((∃ entry ∈ values.flatMap Arguments.pieces, Text.trim entry ≠ "") →
        ∀ (s : Surroundings) (desk : Desk),
          desk.site.KeptBut (Listed (values.flatMap Arguments.pieces)) (run c s desk).2.site) ∧
      ((∀ entry ∈ values.flatMap Arguments.pieces, Text.trim entry = "") →
        ∃ flags whole, Command.ApplyLine flags [] manual json ∧
          Command.ofArguments ("rule" :: "apply" :: flags) = .ok whole ∧
          ∀ (s : Surroundings) (desk : Desk), run c s desk = run whole s desk) := by
  obtain ⟨values, manual, json, hline, rfl⟩ := Command.applyLine_of_ofArguments h
  refine ⟨values, manual, json, hline, rfl, fun hsome s desk => ?_, fun hblank => ?_⟩
  · rw [run_desk]
    exact ruleApply_keeps hsome manual json s desk
  · obtain ⟨flags, hflags, hwhole⟩ := exists_applyLine_of_flags manual json
    refine ⟨flags, _, hflags, hwhole, fun s desk => ?_⟩
    unfold run
    rw [task_ruleApply_of_blank hblank]

namespace Sample

/-- The row of a purchase that has no category yet. -/
def breadRow : TransactionRow :=
  { id := (Id.mk 1#128).text, user := "local", account := (Id.mk 0#128).text, cents := 0
    direction := none, description := some "bakery bread", merchant := none, currency := none
    category := none, categoryManual := false, merchantManual := false, date := .finite ⟨0⟩
    createdAt := .finite 0, updatedAt := .finite 0 }

/-- The row of a rule for what is bought at a bakery. -/
def bakerRow : RuleRow :=
  { id := (Id.mk 3#128).text, user := "local", name := "baker"
    conditions := (mentions "bakery").compact, category := some 9, merchant := none
    active := true, priority := 1, source := "user", timesApplied := 0, lastAppliedAt := none
    createdAt := .finite 0, updatedAt := .finite 0 }

/-- A site with the purchase and the rule. -/
def pantry : Desk :=
  { site.ledger := .present ⟨{}, { transactions := [breadRow], rules := [bakerRow] }⟩
    supply := { clock := fun n => ⟨n, 0⟩, ids := fun n => ⟨BitVec.ofNat 128 n⟩ } }

end Sample

/-- A command that lists nothing gives a transaction a category. -/
theorem blank_ids_change_what_is_not_listed :
    ∃ c, Command.ofArguments ["rule", "apply", "--ids", ""] = .ok c ∧
      (∀ id, ¬Console.Listed [""] id) ∧
      (∃ flags whole, Command.ApplyLine flags [] false false ∧
        Command.ofArguments ("rule" :: "apply" :: flags) = .ok whole ∧
        Console.run c ⟨{}, "data", none, none⟩ Sample.pantry =
          Console.run whole ⟨{}, "data", none, none⟩ Sample.pantry) ∧
      Sample.pantry.site.ledger.transactions.map (·.category) = [none] ∧
      (Console.run c ⟨{}, "data", none, none⟩ Sample.pantry).2.site.ledger.transactions.map
        (·.category) = [some 9] := by
  have hread : Command.ofArguments ["rule", "apply", "--ids", ""] =
      .ok ⟨.ruleApply [""] false, false⟩ := by decide +kernel
  obtain ⟨values, manual, json, hline, hc, -, hblank⟩ := Console.ids_narrow_unless_all_blank hread
  obtain ⟨htask, rfl⟩ := Command.mk.inj hc
  obtain ⟨hentries, rfl⟩ := Task.ruleApply.inj htask
  rw [← hentries] at hblank
  obtain ⟨flags, whole, hflags, hwhole, hsame⟩ := hblank (by decide +kernel)
  refine ⟨_, hread, ?_, ⟨flags, whole, hflags, hwhole, hsame _ _⟩, by decide +kernel,
    by decide +kernel⟩
  rintro id ⟨entry, hentry, hid⟩
  rw [List.mem_singleton.1 hentry] at hid
  have hnone : Id.parse? (Text.trim "") = none := by decide +kernel
  rw [hnone] at hid
  cases hid

end LedgerRules
