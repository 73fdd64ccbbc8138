import Settlement.Composition
import Settlement.Scenario.World

/-!
# Scripts

Colonies of scenarios are lists of notes, and their callbacks follow scripts.  Groups that are given
as strategies use strategies of the library, or doubles that follow simple rules and report their
calls.
-/

namespace Settlement.Scenario

/-- What a bound callback notes in a colony. -/
inductive Note where
  | produce (settler : SettlerId)
  | accept (value : Produced Payload)

/-- A colony: what its callbacks have noted. -/
abbrev Notes :=
  List Note

/-- A producer of scenarios. -/
abbrev Maker :=
  Producer Notes World StrategyEvent Payload

/-- An acceptor of scenarios. -/
abbrev Taker :=
  Acceptor Notes World StrategyEvent Payload

/-! ## Callbacks -/

/-- What a produce callback returns. -/
inductive Gift where
  /-- A text: the name of the settler. -/
  | echo
  | identity
  | fresh (value : Payload)
  /-- Always the same instance, made with the callback. -/
  | shared (value : Payload)

/-- How a produce callback behaves. -/
structure ProduceScript where
  bound : Bool := false
  give : Gift := .echo
  failOn : List SettlerId := []
  message : String := "refused"
  /-- How many notes a colony may have; unbound callbacks do not care. -/
  limit : Option Nat := none

/-- What an accept callback insists on. -/
inductive Expected where
  | form (wanted : Form)
  | identity

/-- How an accept callback behaves. -/
structure AcceptScript where
  bound : Bool := false
  expected : Option Expected := none
  failOn : List String := []
  message : String := "refused"
  /-- How many notes a colony may have; unbound callbacks do not care. -/
  limit : Option Nat := none

/-- Makes a note in the colony, unless it has as many as it may have. -/
def takeNote (limit : Option Nat) (note : Note) :
    Action (Site Notes World) StrategyEvent String Unit := do
  let notes := (← Action.read).colony
  if limit.any (· ≤ notes.length) then Action.fail "colony full"
  else Action.update fun site => { site with colony := site.colony ++ [note] }

/-- The callback of a script. -/
def ProduceScript.callback {η ε : Type} (s : ProduceScript) :
    Action World η ε (ProduceCallback Notes World StrategyEvent Payload) := do
  let gift : SettlerId → Produced Payload ←
    match s.give with
    | .echo => pure fun id => .owned (.text id.name)
    | .identity => pure fun id => .identity id
    | .fresh value => pure fun _ => .owned value
    | .shared value => do
        let instanceOf ← World.share value
        pure fun _ => .shared instanceOf
  let answer (id : SettlerId) : Except String (Produced Payload) :=
    if s.failOn.contains id then .error s.message else .ok (gift id)
  if s.bound then
    return .bound fun id => do
      takeNote s.limit (.produce id)
      Action.ofExcept (answer id)
  else
    return .unbound fun id => do
      World.logged (.produce id)
      Action.ofExcept (answer id)

/-- Whether a value is what is expected, and the word for that in messages. -/
def Expected.meets (value : Produced Payload) : Expected → Bool × String
  | .form wanted => (isOfForm wanted value, wanted.word)
  | .identity => (value.isIdentity, "identity")

/-- The fault that a script finds in a value. -/
def AcceptScript.fault? (s : AcceptScript) (value : Produced Payload) : Option String :=
  let unmet :=
    match s.expected with
    | none => none
    | some expected =>
        let (isMet, word) := expected.meets value
        if isMet then none else some s!"expected {word}, got {value.outline}"
  unmet <|> if s.failOn.contains (key value) then some s.message else none

/-- The callback of a script. -/
def AcceptScript.callback (s : AcceptScript) : AcceptCallback Notes World StrategyEvent Payload :=
  if s.bound then
    .bound fun value => do
      match s.fault? value with
      | some cause => Action.fail cause
      | none => takeNote s.limit (.accept value)
  else
    .unbound fun value => do
      match s.fault? value with
      | some cause => Action.fail cause
      | none => World.logged (.accept value)

/-! ## Strategies -/

/-- How an explicit group selects. -/
inductive SelectorScript where
  /-- Always the same candidates. -/
  | fixed (candidates : List Candidate)
  /-- Always a failure of the scope. -/
  | unavailable
  /-- Always another failure. -/
  | failing (cause : String)
  /-- A rule of the library, over the scope with a name. -/
  | rule (declared : SelectionRule) (scope : String)

/-- How an explicit group produces. -/
inductive ProducerScript where
  /-- Counts its calls under a name. -/
  | counting (name : String) (failingOn : Option SettlerId)
  /-- Always fails. -/
  | failing (cause : String) (mode : ProductionMode)
  | callback (script : ProduceScript)
  | construct (scope : String)
  | identity

/-- How an explicit group accepts. -/
inductive AcceptorScript where
  /-- Records what it accepts under a name. -/
  | recording (name : String) (failingOn : Option SettlerId)
  /-- Always fails. -/
  | failing (cause : String) (mode : AcceptanceMode)
  | callback (script : AcceptScript)
  | forget

/-- A selector that reports its calls and always gives the same answer. -/
def fixedSelector (answer : Except DiscoveryError (List Candidate)) :
    Selector World StrategyEvent where
  describe :=
    let count :=
      match answer with
      | .ok candidates => candidates.length
      | .error _ => 0
    s!"fixed list of {count}"
  select ctx := do
    World.doubled (.select ctx.group)
    Action.ofExcept answer

/-- The selector of a script. -/
def SelectorScript.selector : SelectorScript → Except DiscoveryError (Selector World StrategyEvent)
  | .fixed candidates => .ok (fixedSelector (.ok candidates))
  | .unavailable => .ok (fixedSelector (.error (.scopeUnavailable "fixed selector")))
  | .failing cause => .ok { describe := "raise", select := fun _ => Action.fail (.other cause) }
  | .rule declared scope => Selector.ofRule (World.scope scope) declared

/-- A producer that counts and reports its calls, and yields the identity of the candidate as a new
value. -/
def countingProducer (name : String) : Maker where
  mode := .construct
  produce c := Action.inWorld do
    let counter := (← Action.read).counters[name]?.getD {}
    Action.update fun w =>
      { w with counters := w.counters.insert name { counter with calls := counter.calls + 1 } }
    World.doubled (.produce c.id)
    if counter.failingOn == some c.id then
      Action.fail (.construction c.id "counting producer told to fail")
    else return .owned (.settler c.id)

/-- The producer of a script.  A counter that has the name already goes on counting. -/
def ProducerScript.producer {η ε : Type} : ProducerScript → Action World η ε Maker
  | .counting name failingOn => do
      Action.update fun w =>
        if w.counters.contains name then w
        else { w with counters := w.counters.insert name { failingOn } }
      return countingProducer name
  | .failing cause mode => return { mode, produce := fun _ => Action.fail (.other cause) }
  | .callback script => return .callback (← script.callback)
  | .construct scope => return .construct (World.scope scope)
  | .identity => return .identity

/-- An acceptor that reports its calls and records what it accepts. -/
def recordingAcceptor (name : String) : Taker where
  mode := .callback
  accept c value := Action.inWorld do
    World.doubled (.accept c.id)
    let recorder := (← Action.read).recorders[name]?.getD {}
    if recorder.failingOn == some c.id then
      Action.fail (.callback c.id "recording acceptor told to fail")
    else
      let entries := recorder.entries ++ [(c.id, value.isIdentity)]
      Action.update fun w =>
        { w with recorders := w.recorders.insert name { recorder with entries } }

/-- The acceptor of a script.  A recorder that has the name already goes on recording. -/
def AcceptorScript.acceptor {η ε : Type} : AcceptorScript → Action World η ε Taker
  | .recording name failingOn => do
      Action.update fun w =>
        if w.recorders.contains name then w
        else { w with recorders := w.recorders.insert name { failingOn } }
      return recordingAcceptor name
  | .failing cause mode => return { mode, accept := fun _ _ => Action.fail (.other cause) }
  | .callback script => return .callback script.callback
  | .forget => return .forget

end Settlement.Scenario
