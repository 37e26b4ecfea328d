/-
# A bulk run over some transactions

A bulk run that is given identifiers reads the transactions that have them, and
it writes only to transactions that it has read.  So with every request no row
of a transaction is changed unless its identifier was given, and then only in
its targets (`TransactionRow.KeptBut`).

That a store of rows answers with nothing else is the one thing to see about it
(`Contract.narrowing_upholds`): it compares texts, and what it reads from a row
is the identifier that the text stands for.
-/

import LedgerRules.Proofs.Program.Isolation
import LedgerRules.Proofs.Program.Proposing
import LedgerRules.Proofs.Store.Writes

namespace LedgerRules

/-- A row of a transaction may only have changed in its targets, and only if its
identifier is listed.  The time of the last change goes with the targets. -/
inductive TransactionRow.KeptBut (listed : Id → Prop) (row : TransactionRow) :
    TransactionRow → Prop
  | same : KeptBut listed row row
  | assigned {id : Id} (h : listed id) (hid : row.id = id.text) (category : Option Int64)
      (merchant : Option String) (updatedAt : TimeCell) :
    KeptBut listed row { row with category, merchant, updatedAt }

/-- A row that changed in its targets twice changed in its targets. -/
theorem TransactionRow.KeptBut.trans {listed : Id → Prop} {a b c : TransactionRow}
    (h₁ : a.KeptBut listed b) (h₂ : b.KeptBut listed c) : a.KeptBut listed c := by
  cases h₁ with
  | same => exact h₂
  | assigned h hid _ _ _ =>
    cases h₂ with
    | same => exact .assigned h hid _ _ _
    | assigned _ _ category merchant updatedAt => exact .assigned h hid category merchant updatedAt

/-- No row is stored, transactions are read by identifiers that are listed, and
written to by such identifiers alone.  In return, those that are read have such
an identifier. -/
def Contract.narrowing (listed : Id → Prop) : Contract where
  allows
    | .call (.insertTransaction _) => False
    | .call (.updateTransaction _) => False
    | .call (.eligible _ ids _) => ∃ l, ids = some l ∧ ∀ id ∈ l, listed id
    | .call (.assign _ _ _ ids _) => ∀ id ∈ ids, listed id
    | _ => True
  promises
    | .call (.eligible _ _ _), answer => ∀ ts, answer = .ok ts → ∀ t ∈ ts, listed t.id
    | _, _ => True

/-- Under this contract rules may be applied, and fine is any pair for a
transaction that is listed. -/
theorem Contract.letsApply_narrowing (listed : Id → Prop) :
    (Contract.narrowing listed).LetsApply fun id _ => listed id where
  aside r hr := by
    cases r with
    | call call' => cases call' <;> trivial
    | _ => trivial
  assign _ _ _ _ _ h := h

namespace Database

variable {d : Database} {listed : Id → Prop}

/-- What is read by identifiers has one of them. -/
theorem listed_of_eligible {user : String} {l : List Id} {includeManual : Bool}
    {ts : List Transaction} (h : d.eligible user (some l) includeManual = .ok ts) :
    ∀ t ∈ ts, t.id ∈ l := by
  intro t ht
  obtain ⟨row, hrow, hread⟩ := exists_of_forall₂ (forall₂_of_mapM h).flip t ht
  obtain ⟨-, hfound⟩ := List.mem_filter.1 (List.mem_mergeSort.1 hrow)
  rw [Bool.and_eq_true] at hfound
  obtain ⟨id, hid, hsame⟩ := List.any_eq_true.1 hfound.2
  have hid' := TransactionRow.readId_of_toRecord hread
  unfold readId at hid'
  rw [beq_iff_eq.1 hsame, Id.parse?_text] at hid'
  exact Except.ok.inj hid' ▸ hid

/-- A call that it allows changes targets of the rows that a grouped write is
made to, and nothing else of transactions. -/
theorem Wrote.keptBut {c : Call} {ok : Bool} {d' : Database} (h : d.Wrote c ok d')
    (hc : (Contract.narrowing listed).allows (.call c)) :
    List.Forall₂ (TransactionRow.KeptBut listed) d.transactions d'.transactions := by
  cases h with
  | transactionAdded | transactionReplaced => exact hc.elim
  | groupAssigned user category merchant ids now =>
    refine List.forall₂_map_right_iff.2 (List.forall₂_same.2 fun row _ => ?_)
    split
    · rename_i hhit
      rw [Bool.and_eq_true] at hhit
      obtain ⟨id, hid, hrow⟩ := List.any_eq_true.1 hhit.2
      exact .assigned (hc id hid) (beq_iff_eq.1 hrow) _ _ _
    · exact .same
  | _ => exact List.forall₂_same.2 fun _ _ => .same

end Database

/-- **A store of rows keeps to it**: no request changes another row.  This is
the step; a run is made of such requests. -/
theorem Contract.narrowing_upholds (listed : Id → Prop) (rows : List TransactionRow)
    (r : Request) : (Contract.narrowing listed).Upholds (fun w : World Database =>
      List.Forall₂ (TransactionRow.KeptBut listed) rows w.store.transactions) r := by
  intro w hw hr
  cases r with
  | call c =>
    constructor
    · cases c with
      | eligible user ids includeManual =>
        obtain ⟨l, rfl, hl⟩ := hr
        intro ts hts t ht
        exact hl _ (Database.listed_of_eligible hts t ht)
      | _ => trivial
    · exact forall₂_trans (fun _ _ _ h h' => h.trans h') hw ((w.store.wrote_answer c).keptBut hr)
  | record event =>
    refine ⟨trivial, ?_⟩
    show List.Forall₂ _ _ (w.record event).store.transactions
    rwa [World.record_store]
  | _ => exact ⟨trivial, hw⟩

/-- **A bulk run that is given identifiers changes the targets of transactions
that have them**, and of no others. -/
theorem Action.applyToExisting_narrows {ids : List Id} {listed : Id → Prop}
    (h : ∀ id ∈ ids, listed id) (user : String) (includeManual : Bool) (w : World Database) :
    List.Forall₂ (TransactionRow.KeptBut listed) w.store.transactions
      ((applyToExisting user (some ids) includeManual).run w).2.store.transactions := by
  have hread : (call (.eligible user (some ids) includeManual)).Meets (.narrowing listed)
      fun ts => ∀ t ∈ ts, ∀ (_ : List Rule) (_ : Option AccountView), listed t.id :=
    meets_call ⟨ids, rfl, h⟩ fun ts hts t ht _ _ => hts ts rfl t ht
  exact Program.Meets.run_keeps
    (applyToExisting_meets_of (Contract.letsApply_narrowing listed) hread)
    (Contract.narrowing_upholds listed w.store.transactions) (List.forall₂_same.2 fun _ _ => .same)

end LedgerRules
