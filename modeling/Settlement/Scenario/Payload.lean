import Settlement.Produced

/-!
# Payloads

The values that settlers have in scenarios: texts, integers of 64 bits, a unit value, and identities
of settlers.
-/

namespace Settlement.Scenario

/-- A value of a settler. -/
inductive Payload where
  | text (s : String)
  | int (n : Int64)
  | unit
  | settler (id : SettlerId)
deriving DecidableEq

/-- A form in which a payload can be taken. -/
inductive Form where
  | text
  | int
  | unit
deriving DecidableEq

/-- The payload, if it is of a form. -/
def Form.take? : Form → Payload → Option Payload
  | .text, .text s => some (.text s)
  | .int, .int n => some (.int n)
  | .unit, .unit => some .unit
  | _, _ => none

/-- The word for a form in messages. -/
def Form.word : Form → String
  | .text => "text"
  | .int => "int"
  | .unit => "unit"

/-- The plainest payload of a form. -/
def Form.plain : Form → Payload
  | .text => .text ""
  | .int => .int 0
  | .unit => .unit

/-- The text by which a payload is known. -/
def Payload.key : Payload → String
  | .text s => s
  | .int n => toString n.toInt
  | .unit => "()"
  | .settler id => id.name

/-- The text by which a produced value is known. -/
def key : Produced Payload → String
  | .owned value => value.key
  | .shared instanceOf => instanceOf.value.key
  | .identity settler => settler.name

/-- The payload with a number worked in: a text shows it, an integer is raised by it. -/
def Payload.numbered (n : Nat) : Payload → Payload
  | .text s => .text s!"{s}#{n}"
  | .int i => .int (i + Int64.ofNat n)
  | .unit => .unit
  | .settler id => .settler id

/-- Whether a produced value, new or shared, is of a form. -/
def isOfForm (form : Form) (p : Produced Payload) : Bool :=
  match p.takeOwned form.take? with
  | .ok _ => true
  | .error back =>
      match back.takeShared form.take? with
      | .ok _ => true
      | .error _ => false

end Settlement.Scenario
