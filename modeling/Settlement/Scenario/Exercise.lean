import Settlement.Callback
import Settlement.Scenario.Payload

/-!
# Exercises

Small experiments with one produced value or one callback: a value is asked questions until it is
taken, and a callback is called on some numbers.
-/

namespace Settlement.Scenario

/-! ## Questions about a value -/

/-- A question about a produced value. -/
inductive Question where
  /-- Gives the payload away, if the value is new and of a form. -/
  | take (form : Form)
  /-- Gives the instance away, if the value is shared and of a form. -/
  | takeShared (form : Form)
  /-- Shows the payload, if it is of a form. -/
  | view (form : Form)
  | identity
  | isIdentity
  | outline
  | describe

/-- The answer to a question. -/
inductive Reply where
  | taken (value : Payload)
  | takenShared (instanceOf : Shared Payload)
  /-- The value is not what was asked for, and is kept. -/
  | back
  | view (value : Option Payload)
  | identity (settler : Option SettlerId)
  | isIdentity (b : Bool)
  | outline (text : String)
  | description (value : Produced Payload)
  /-- The value was given away before. -/
  | gone

/-- Answers a question, and says what is left of the value. -/
def Question.ask (p : Produced Payload) : Question → Reply × Option (Produced Payload)
  | .take form =>
      match p.takeOwned form.take? with
      | .ok value => (.taken value, none)
      | .error kept => (.back, some kept)
  | .takeShared form =>
      match p.takeShared form.take? with
      | .ok instanceOf => (.takenShared instanceOf, none)
      | .error kept => (.back, some kept)
  | .view form => (.view (p.view? form.take?), some p)
  | .identity => (.identity p.identity?, some p)
  | .isIdentity => (.isIdentity p.isIdentity, some p)
  | .outline => (.outline p.outline, some p)
  | .describe => (.description p, some p)

/-- Answers questions in their order. -/
def interview : Option (Produced Payload) → List Question → List Reply
  | _, [] => []
  | none, _ :: rest => .gone :: interview none rest
  | some p, q :: rest =>
      let (reply, left) := q.ask p
      reply :: interview left rest

/-! ## Callbacks on numbers -/

/-- A callback on numbers of 64 bits, for colonies that are lists of them.  A bound one notes each
number and adds how many there are, an unbound one doubles it. -/
def numberCallback (bound : Bool) : Callback (List Int64) Unit Empty Empty Int64 Int64 :=
  if bound then
    .bound fun n => do
      Action.update fun site => { site with colony := site.colony ++ [n] }
      return n + Int64.ofNat (← Action.read).colony.length
  else .unbound fun n => return n * 2

/-- Calls a callback on some numbers, one after the other. -/
def callAll (call : Callback (List Int64) Unit Empty Empty Int64 Int64) (args : List Int64) :
    Outcome (Site (List Int64) Unit) Empty Empty (List Int64) :=
  (args.mapM call.invoke).run ⟨[], ()⟩

end Settlement.Scenario
