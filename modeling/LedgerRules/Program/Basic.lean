/-
# Programs

What an operation does is a `Program`: a tree of requests to the world around
it, each with a way to go on for every answer.  A request is a call on the
store, a look at the clock, a fresh identifier, an event for the journal, or a
notice about a record that was skipped.  A program does nothing by itself: `run`
carries it out to its end in a `World`, and `step` carries out one request, so
that the requests of two programs can be interleaved.

An `Action` is a program that may fail.

The requests are what `RuleService` and `LedgerService` ask of others: a method
of `RuleStore` or `LedgerStore`, `Utc.now`, `Uuid.new_v4`, `LoggingService.log`,
and the line that is printed where a failed group or a rule that cannot be read
is skipped.  A method of a service is an action; where it would return early
with an error, the action ends with that error.
-/

import LedgerRules.Journal.Basic
import LedgerRules.Store.Call

namespace LedgerRules

/-- A request of a program: a call on the store, a reading of the clock, a new
identifier, an event or a notice. -/
inductive Request
  | call (call : Call)
  | now
  | freshId
  | record (event : Event)
  | notice (error : Error)

/-- The answer to a request. -/
@[reducible]
def Request.Answer : Request → Type
  | .call c => Except Error c.Answer
  | .now => Instant
  | .freshId => Id
  | .record _ => Unit
  | .notice _ => Unit

/-- A tree of requests.  What comes next depends on the answer, and on nothing
else. -/
inductive Program (α : Type)
  | done (result : α)
  | ask (request : Request) (next : request.Answer → Program α)

namespace Program

/-- Goes on with the result of a program. -/
def bind {α β : Type} (p : Program α) (f : α → Program β) : Program β :=
  match p with
  | done result => f result
  | ask request next => ask request fun answer => (next answer).bind f

instance : Monad Program where
  pure := done
  bind := bind

/-- The program of a single request. -/
def request (r : Request) : Program r.Answer := ask r done

end Program

/-- A program that may fail.  What it did before it failed stays done. -/
abbrev Action (α : Type) := ExceptT Error Program α

namespace Action

/-- A call on the store.  If the call fails, so does the action. -/
def call (c : Call) : Action c.Answer := ExceptT.mk (Program.request (.call c))

/-- A call on the store, whose failure is a result that the action goes on with.
-/
def tryCall (c : Call) : Action (Except Error c.Answer) :=
  ExceptT.lift (Program.request (.call c))

/-- A look at the clock. -/
def now : Action Instant := ExceptT.lift (Program.request .now)

/-- A fresh identifier. -/
def freshId : Action Id := ExceptT.lift (Program.request .freshId)

/-- Puts an event on record. -/
def record (event : Event) : Action Unit := ExceptT.lift (Program.request (.record event))

/-- Notices a record that was skipped. -/
def notice (error : Error) : Action Unit := ExceptT.lift (Program.request (.notice error))

/-- Fails with a complaint, if there is one. -/
def refuse (complaint : Option Complaint) : Action Unit :=
  match complaint with
  | some c => throw (.invalid c)
  | none => pure ()

end Action

/-! ### Running -/

/-- Clock readings and fresh identifiers, and how many of each were used.
Nothing is asked of either sequence here. -/
structure Supply where
  clock : Nat → Instant
  ids : Nat → Id
  read : Nat := 0
  drawn : Nat := 0

namespace Supply

/-- Reads the clock. -/
def tick (s : Supply) : Instant × Supply := (s.clock s.read, { s with read := s.read + 1 })

/-- Draws an identifier. -/
def draw (s : Supply) : Id × Supply := (s.ids s.drawn, { s with drawn := s.drawn + 1 })

end Supply

/-- The world around a program: a store, a journal with its author if there is
one, the notices so far, and a supply. -/
structure World (σ : Type) where
  store : σ
  journal : Option (Author × Journal) := none
  notices : List Error := []
  supply : Supply

namespace World

variable {σ : Type}

/-- Puts an event on record, if there is a journal. -/
def record (w : World σ) (event : Event) : World σ :=
  match w.journal with
  | none => w
  | some (author, journal) =>
    let (now, supply) := w.supply.tick
    { w with journal := some (author, journal.record author now event), supply }

/-- The answer to a request and the world after it.  A request is answered at
once; programs are interleaved request by request. -/
def answer [Store σ] (r : Request) (w : World σ) : r.Answer × World σ :=
  match r with
  | .call c =>
    let (a, store) := Store.answer c w.store
    (a, { w with store })
  | .now =>
    let (now, supply) := w.supply.tick
    (now, { w with supply })
  | .freshId =>
    let (id, supply) := w.supply.draw
    (id, { w with supply })
  | .record event => ((), w.record event)
  | .notice error => ((), { w with notices := w.notices ++ [error] })

end World

namespace Program

variable {σ α : Type} [Store σ]

/-- Carries a program out. -/
def run : Program α → World σ → α × World σ
  | done result, w => (result, w)
  | ask request next, w =>
    let (a, w) := w.answer request
    (next a).run w

/-- Carries out one request of a program. -/
def step : Program α → World σ → Program α × World σ
  | done result, w => (done result, w)
  | ask request next, w =>
    let (a, w) := w.answer request
    (next a, w)

/-- Whether a program has come to its end. -/
def isDone : Program α → Bool
  | done _ => true
  | ask _ _ => false

end Program

/-- Carries an action out. -/
def Action.run {σ α : Type} [Store σ] (a : Action α) (w : World σ) : Except Error α × World σ :=
  Program.run (ExceptT.run a) w

end LedgerRules
