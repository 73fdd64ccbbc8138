import Settlement.Format.Declaration
import Settlement.Orchestrator
import Settlement.Registry.History
import Settlement.Scenario.Script

/-!
# Sessions

A session carries out the steps of a scenario, one after the other, on a world, on founders and
colonies by name, and on one orchestrator.  For each step it reports the answer and everything that
happened on the way.
-/

namespace Settlement.Scenario

/-- The types of colonies, all of which have notes and nothing else. -/
abbrev ColonyType :=
  Fin 4

/-- The colonies of each type. -/
abbrev ColonyOf (_ : ColonyType) : Type :=
  Notes

/-- A composition of scenarios. -/
abbrev Draft :=
  Composition Notes World Payload

/-- What a composition starts from. -/
inductive Start where
  | named (colony : ColonyId)
  | json (text : String)
  | blueprint (b : Blueprint)
  | unnamed

/-- What is added to a composition. -/
inductive BuildStep where
  | withScope (scope : String)
  /-- Takes the registry out of a scope, which is empty from then on. -/
  | withRegistry (scope : String)
  | onProduce (group : Marker) (script : ProduceScript)
  | onAccept (group : Marker) (script : AcceptScript)
  | declared (group : GroupDeclaration)
  | explicit (group : Marker) (selector : SelectorScript) (producer : ProducerScript)
      (acceptor : AcceptorScript) (altProducers : List ProducerScript)
      (altAcceptors : List AcceptorScript)

/-- A file to be read: one at a path, or one with a given content. -/
inductive File where
  | located (path : String)
  | holding (content : ByteArray)

/-- A step of a scenario. -/
inductive Step where
  | manner (scope : String) (manner : Manner)
  | declare (scope : String) (settler : Settler)
  | registerPlain (scope : String) (settler : Settler) (form : Form)
  | registerWith (scope : String) (settler : Settler) (script : FactoryScript)
  | registerSingleton (scope : String) (settler : Settler) (value : Payload)
  | bindFactory (scope : String) (id : SettlerId) (script : FactoryScript)
  | bindSingleton (scope : String) (id : SettlerId) (value : Payload)
  | load (scope : String) (manifest : Manifest)
  | loadJson (scope : String) (text : String)
  | loadFile (scope : String) (file : File)
  | query (scope : String) (id : SettlerId)
  | listing (scope : String)
  | construct (scope : String) (id : SettlerId)
  | lookup (scope : String) (id : SettlerId)
  | select (scope : String) (rule : SelectionRule) (ctx : SelectionContext)
  | build (name : String) (type : ColonyType) (start : Start) (steps : List BuildStep)
  | colony (name : String) (type : ColonyType)
  | found (founder colony : String) (filter : Option Marker)
  | groups (founder : String) (candidate : Candidate)
  | compose (founder : String)
  | register (founder : String) (type : Option ColonyType)
  | settle (colony : String)
  | settleGroup (colony : String) (group : Marker)
  | settleUntyped (colony : String) (filter : Option Marker)
  | colonies
  | recorded (name : String)
  | calls (name : String)

/-- A group as it is shown for one candidate. -/
structure GroupView where
  marker : Marker
  selector : String
  producer : ProductionMode
  acceptor : AcceptanceMode
  producerFor : Except ProductionError ProductionMode
  acceptorFor : Except AcceptanceError AcceptanceMode

/-- The answer of a step. -/
inductive Answer where
  | done
  | outline (text : String)
  | knowledge (isDeclared isBound : Bool) (settler : Option Settler)
  | listing (size : Nat) (isEmpty : Bool) (settlers : List Settler)
  | value (value : Produced Payload)
  | settler (settler : Option Settler)
  | selection (describe : String) (candidates : List Candidate)
  | founder (colony : ColonyId) (groups : List Marker) (outline composition : String)
  | groups (views : List GroupView)
  | overview (colonies : List ColonyId) (types : List (Option (ColonyId × List Marker)))
      (outline : String)
  | records (entries : List (SettlerId × Bool))
  | count (n : Nat)

/-- Why a step failed. -/
inductive Fault where
  | discovery (cause : DiscoveryError)
  | production (cause : ProductionError)
  | composition (cause : CompositionError)
  /-- A composition with some outline could not be built. -/
  | building (cause : CompositionError) (outline : String)
  | settle (cause : SettleError)
  /-- The step names something that does not exist. -/
  | unknownName (name : String)

/-- The state of a session. -/
structure Session where
  world : World := {}
  founders : Std.TreeMap String (AnyFounder ColonyOf World StrategyEvent Payload) := {}
  colonies : Std.TreeMap String (AnyColony ColonyOf) := {}
  orchestrator : Orchestrator ColonyOf World StrategyEvent Payload := {}

/-- What is reported about a step. -/
structure Report where
  result : Except Fault Answer
  log : List LogEntry
  doubleSteps : List DoubleStep
  /-- The notes of the colony that was settled. -/
  notes : Option Notes
  trace : List Trace.Record

/-- A part of a step. -/
abbrev Play (α : Type) :=
  Action Session Trace.Record Fault α

namespace Play

variable {η ε α β : Type}

/-- An action on a part of the session, with its events as trace records. -/
def on (get : Session → β) (put : β → Session → Session) (records : η → List Trace.Record)
    (fault : ε → Fault) (x : Action β η ε α) : Play α :=
  ⟨fun s =>
    let o := x.run (get s)
    ⟨o.result.mapError fault, put o.state s, o.events.flatMap records⟩⟩

/-- An action on the world. -/
def world (records : η → List Trace.Record) (fault : ε → Fault) (x : Action World η ε α) :
    Play α :=
  on (·.world) (fun w s => { s with world := w }) records fault x

/-- An action on the world that is not traced. -/
def quietly (x : Action World Empty Fault α) : Play α :=
  world nofun id x

/-- The edit of the registry of a scope, and the outline of the registry after it. -/
def upkeep (scope : String) (x : Registry.Upkeep Factory Payload Unit) : Play Answer := do
  on (fun s => (s.world.place scope).books)
    (fun books s =>
      { s with world := s.world.setPlace scope { s.world.place scope with books } })
    RegistryEvent.records .discovery x
  return .outline ((← Action.read).world.place scope).books.outline

/-- The registry of a scope. -/
def books (scope : String) : Play Books :=
  return ((← Action.read).world.place scope).books

/-- An entry in the table of the orchestrator, and the outline of the orchestrator after it. -/
def enrol (x : Action (Orchestrator ColonyOf World StrategyEvent Payload) OrchestratorEvent
    CompositionError Unit) : Play Answer := do
  on (·.orchestrator) (fun o s => { s with orchestrator := o }) OrchestratorEvent.records
    .composition x
  return .outline (← Action.read).orchestrator.outline

/-- A founder by its name. -/
def founder (name : String) : Play (AnyFounder ColonyOf World StrategyEvent Payload) := do
  match (← Action.read).founders[name]? with
  | some f => return f
  | none => Action.fail (.unknownName name)

/-- A colony by its name. -/
def colony (name : String) : Play (AnyColony ColonyOf) := do
  match (← Action.read).colonies[name]? with
  | some c => return c
  | none => Action.fail (.unknownName name)

/-- Settles the colony with a name. -/
def settling (name : String) (records : η → List Trace.Record)
    (x : Action (Site (AnyColony ColonyOf) World) η SettleError Unit) : Play Answer := do
  let c ← colony name
  on (fun s => ⟨c, s.world⟩)
    (fun site s =>
      { s with world := site.world, colonies := s.colonies.insert name site.colony })
    records .settle x
  return .done

end Play

/-- The records of what founders and their strategies report. -/
def foundingRecords : FoundingEvent ⊕ StrategyEvent → List Trace.Record :=
  Sum.elim FoundingEvent.records StrategyEvent.records

/-- The records of what orchestrators, founders and strategies report. -/
def settlingRecords : OrchestratorEvent ⊕ (FoundingEvent ⊕ StrategyEvent) → List Trace.Record :=
  Sum.elim OrchestratorEvent.records foundingRecords

/-- The records of what the building of compositions and strategies report. -/
def buildingRecords : CompositionEvent ⊕ StrategyEvent → List Trace.Record :=
  Sum.elim CompositionEvent.records StrategyEvent.records

/-! ## Files -/

/-- The content of the file at a path.  In scenarios there are no files but those with a given
content; paths only lead to the current directory and those above it. -/
def fileAt (path : String) : Except FileFault ByteArray :=
  if path.isEmpty then .error .missing
  else if (path.splitOn "/").all fun part => part == "" || part == "." || part == ".." then
    .error .directory
  else .error .missing

/-- The path under which a file is shown. -/
def File.shown : File → String
  | .located path => path
  | .holding _ => "<path>"

/-- The content of a file. -/
def File.read : File → Except FileFault ByteArray
  | .located path => fileAt path
  | .holding content => .ok content

/-! ## Building -/

/-- The composition that a start gives. -/
def Start.draft (typeName : ColonyId) : Start → Except CompositionError Draft
  | .named colony => .ok { colony }
  | .json text => (Blueprint.ofJson text).map (Composition.ofBlueprint typeName)
  | .blueprint b => .ok (Composition.ofBlueprint typeName b)
  | .unnamed => .ok { colony := typeName }

/-- Carries out one step of a composition. -/
def BuildStep.apply (c : Draft) : BuildStep → Action World Empty Fault Draft
  | .withScope scope => return c.withScope (World.scope scope)
  | .withRegistry scope => do
      let p := (← Action.read).place scope
      Action.update fun w => w.setPlace scope { p with books := {} }
      return c.withScope (p.books.scope World.callFactory)
  | .onProduce group script => return c.onProduce group (← script.callback)
  | .onAccept group script => return c.onAccept group script.callback
  | .declared group => return c.withDeclaration group
  | .explicit marker selector producer acceptor altProducers altAcceptors => do
      let selector ← Action.ofExcept (selector.selector.mapError .discovery)
      let producer ← producer.producer
      let acceptor ← acceptor.acceptor
      let altProducers ← altProducers.mapM ProducerScript.producer
      let altAcceptors ← altAcceptors.mapM AcceptorScript.acceptor
      let plain : Group Notes World StrategyEvent Payload :=
        { marker, selector, producer, acceptor }
      let g := altProducers.foldl Group.withAltProducer plain
      return c.withGroup (altAcceptors.foldl Group.withAltAcceptor g)

/-- Composes and builds a founder. -/
def build (name : String) (type : ColonyType) (typeName : ColonyId) (start : Start)
    (steps : List BuildStep) : Play Answer := do
  let draft ← Action.ofExcept ((start.draft typeName).mapError .composition)
  let draft ← Play.quietly (steps.foldlM BuildStep.apply draft)
  let outline := draft.outline
  let founder ← Play.world buildingRecords (.building · outline) draft.build
  Action.update fun s => { s with founders := s.founders.insert name ⟨type, founder⟩ }
  return .founder founder.colony founder.markers founder.outline outline

/-! ## Steps -/

/-- A group as it is shown for a candidate. -/
def GroupView.of (c : Candidate) (g : Group Notes World StrategyEvent Payload) : GroupView where
  marker := g.marker
  selector := g.selector.describe
  producer := g.producer.mode
  acceptor := g.acceptor.mode
  producerFor := (g.producerFor c).map (·.mode)
  acceptorFor := (g.acceptorFor c).map (·.mode)

/-- What a report shows of the tag of a colony type.  Tags differ from one build of a program to the
next, so it is the same for all of them. -/
def hiddenTag (_ : ColonyType) : ColonyId :=
  ⟨"TypeId(?)"⟩

/-- Carries out a step; `typeName` gives the names of the colony types. -/
def perform (typeName : ColonyType → ColonyId) : Step → Play Answer
  | .manner scope manner => do
      Action.update fun s =>
        { s with world := s.world.setPlace scope { s.world.place scope with manner } }
      return .done
  | .declare scope settler => Play.upkeep scope (Registry.declare settler)
  | .registerPlain scope settler form =>
      Play.upkeep scope (Registry.registerWith settler (.plain form))
  | .registerWith scope settler script => do
      let factory ← Play.quietly (World.newFactory settler.id script)
      Play.upkeep scope (Registry.registerWith settler factory)
  | .registerSingleton scope settler value => do
      let instanceOf ← Play.quietly (World.share value)
      Play.upkeep scope (Registry.registerSingleton settler instanceOf)
  | .bindFactory scope id script => do
      let factory ← Play.quietly (World.newFactory id script)
      Play.upkeep scope (Registry.bindFactory id factory)
  | .bindSingleton scope id value => do
      let instanceOf ← Play.quietly (World.share value)
      Play.upkeep scope (Registry.bindSingleton id instanceOf)
  | .load scope manifest => Play.upkeep scope (Registry.load manifest)
  | .loadJson scope text => Play.upkeep scope (Registry.loadJson text)
  | .loadFile scope file => Play.upkeep scope (Registry.loadFile file.shown file.read)
  | .query scope id => do
      let books ← Play.books scope
      return .knowledge (books.contains id) (books.isBound id) (books.settler? id)
  | .listing scope => do
      let books ← Play.books scope
      return .listing books.size books.isEmpty books.settlers
  | .construct scope id =>
      .value <$> Play.world StrategyEvent.records .production ((World.scope scope).construct id)
  | .lookup scope id =>
      .settler <$> Play.world StrategyEvent.records .discovery ((World.scope scope).settler id)
  | .select scope rule ctx => do
      let selector ←
        Action.ofExcept ((Selector.ofRule (World.scope scope) rule).mapError .discovery)
      .selection selector.describe
        <$> Play.world StrategyEvent.records .discovery (selector.select ctx)
  | .build name type start steps => build name type (typeName type) start steps
  | .colony name type => do
      Action.update fun s => { s with colonies := s.colonies.insert name ⟨type, []⟩ }
      return .done
  | .found founder colony filter => do
      let f ← Play.founder founder
      Play.settling colony foundingRecords (f.found filter)
  | .groups founder candidate => do
      let f ← Play.founder founder
      return .groups (f.founder.groups.map (GroupView.of candidate))
  | .compose founder => do
      let f ← Play.founder founder
      Action.update fun s => { s with founders := s.founders.erase founder }
      Play.enrol (Orchestrator.compose f)
  | .register founder type => do
      let f ← Play.founder founder
      Play.enrol (Orchestrator.register (type.getD f.type) f)
  | .settle colony => do
      let o := (← Action.read).orchestrator
      Play.settling colony settlingRecords (o.settle typeName)
  | .settleGroup colony group => do
      let o := (← Action.read).orchestrator
      Play.settling colony settlingRecords (o.settleGroup typeName group)
  | .settleUntyped colony filter => do
      let o := (← Action.read).orchestrator
      Play.settling colony settlingRecords (o.settleUntyped hiddenTag filter)
  | .colonies => do
      let o := (← Action.read).orchestrator
      let view (t : ColonyType) : Option (ColonyId × List Marker) :=
        (o.founder? t).map fun f => (f.colony, f.founder.markers)
      return .overview o.colonies ((List.finRange 4).map view) o.outline
  | .recorded name => do
      return .records ((← Action.read).world.recorders[name]?.getD {}).entries
  | .calls name => do
      return .count ((← Action.read).world.counters[name]?.getD {}).calls

/-- The colony whose notes are shown after a step. -/
def Step.settled? : Step → Option String
  | .found _ name _ => some name
  | .settle name => some name
  | .settleGroup name _ => some name
  | .settleUntyped name _ => some name
  | _ => none

/-- Carries out a step, and reports what happened on the way. -/
def Session.step (typeName : ColonyType → ColonyId) (s : Session) (step : Step) :
    Report × Session :=
  let clear : World := { s.world with log := [], doubleSteps := [] }
  let o := (perform typeName step).run { s with world := clear }
  let notes := step.settled?.bind fun name => (o.state.colonies[name]?).map (·.value)
  ({ result := o.result
     log := o.state.world.log
     doubleSteps := o.state.world.doubleSteps
     notes
     trace := o.events },
    o.state)

/-- Carries out the steps of a scenario from the beginning. -/
def run (typeName : ColonyType → ColonyId) (steps : List Step) : List Report :=
  (steps.foldl
    (fun (reports, s) step =>
      let (report, s) := Session.step typeName s step
      (report :: reports, s))
    (([], {}) : List Report × Session)).1.reverse

end Settlement.Scenario
