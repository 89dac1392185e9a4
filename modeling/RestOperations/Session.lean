import RestOperations.Catalog
import RestOperations.Collection
import RestOperations.Document.Load

/-!
A session is the use of one client over time: operations and collections are kept under names, a
catalog is filled or taken from a document, and calls go through a transport that may change its ways.
Each step yields a result or a fault, and leaves a trace.
-/

namespace RestOperations

structure Session where
  client : Client := ⟨false⟩
  transport : Transport
  catalog : Catalog := {}
  operations : List (String × Operation) := []
  collections : List (String × Collection) := []

namespace Session

/-- How a step names the function it is about. -/
inductive Reference
  | registered (name : String)
  | ofOperation (operation function : String)
  | withParams (operation : String) (params : Value) (name : Option String)

inductive Step
  | reply (transport : Transport)
  | debug (v : Value)
  | compile (key : String) (template functions : Value) (name : Option String) (bound : Bool)
  | function (r : Reference)
  | descriptor (r : Reference) (c : Call)
  | call (r : Reference) (c : Call) (callback : Option Callback)
  | request (fields : Value) (callback : Option Callback)
  /-- A document, or why there is none. -/
  | document (d : Except Fault Document)
  | clear
  | register (key : String)
  | contains (names : List String)
  | find (name : String)
  | collection (key model baseUrl : String)
  | act (key : String) (a : Collection.Action) (options : Value) (callback : Option Callback)

inductive Result
  | nothing
  | operation (op : Operation)
  | function (f : Operation.Function)
  | found (f : Operation.Function) (index : Option Nat)
  | descriptor (d : Descriptor)
  | envelope (e : Envelope)
  | operations (ops : List Operation)
  | contains (found : List Bool)
  | collection (c : Collection)

def keep {α : Type} (kept : List (String × α)) (key : String) (a : α) : List (String × α) :=
  (key, a) :: kept.filter (·.1 != key)

def kept {α : Type} (kept : List (String × α)) (key : String) : Except Fault α :=
  match kept.find? (·.1 == key) with
  | some (_, a) => .ok a
  | none => .error (.notKept key)

def resolve (s : Session) : Reference → Except Fault Operation.Function
  | .registered name => s.catalog.function name
  | .ofOperation key name => do (← kept s.operations key).named name
  | .withParams key params name => do
    let op ← kept s.operations key
    let params ← if params.truthy then Operation.parametersOf params else .ok []
    .ok (op.function params name)

def compileStep (s : Session) (template functions : Value) (name : Option String) (bound : Bool) :
    Except Fault Operation :=
  if bound then s.client.compile template functions name
  else Operation.compile template functions name

def enveloped (t : Traced Envelope) : Traced Result := ⟨t.trace, t.result.map .envelope⟩

def fieldsOf (fields : Value) : Except Fault Descriptor :=
  match fields with
  | .map ms => (Descriptor.ofMembers ms).mapError .recordInvalid
  | _ => (Descriptor.ofMembers []).mapError .recordInvalid

/-- A result, or the fault; the session stays as it is. -/
def looked (s : Session) (r : Except Fault Result) : Session × Traced Result := (s, .silent r)

/-- A change of the session, or the fault. -/
def changed {α : Type} (s : Session) (r : Except Fault α) (change : α → Session × Result) :
    Session × Traced Result :=
  match r with
  | .ok a => ((change a).1, .silent (.ok (change a).2))
  | .error f => (s, .silent (.error f))

def loadStep (s : Session) (d : Except Fault Document) : Session × Traced Result :=
  match d with
  | .error f => (s, .silent (.error f))
  | .ok d =>
    let loaded := Catalog.ofDocument s.client.debug d
    let s := { s with client := ⟨loaded.debug⟩ }
    match loaded.result with
    | .error f => (s, ⟨{ log := loaded.log }, .error f⟩)
    | .ok c => ({ s with catalog := c }, ⟨{ log := loaded.log }, .ok (.operations c.operations)⟩)

def registerStep (s : Session) (key : String) : Session × Traced Result :=
  let r := do
    let op ← kept s.operations key
    let c ← s.catalog.register op
    .ok (op, c)
  match r with
  | .error f => (s, .silent (.error f))
  | .ok (op, c) =>
    ({ s with catalog := c }, ⟨{ log := Catalog.records s.client.debug op }, .ok .nothing⟩)

def actStep (s : Session) (key : String) (a : Collection.Action) (options : Value)
    (callback : Option Callback) : Traced Result :=
  let d := do (← kept s.collections key).descriptor a options
  match d with
  | .error f => .silent (.error f)
  | .ok d => enveloped (s.client.request s.transport callback d)

def step [Json.Depth] (s : Session) : Step → Session × Traced Result
  | .reply transport => ({ s with transport }, .silent (.ok .nothing))
  | .debug v => ({ s with client := s.client.setDebug v }, .silent (.ok .nothing))
  | .compile key template functions name bound =>
    s.changed (s.compileStep template functions name bound) fun op =>
      ({ s with operations := keep s.operations key op }, .operation op)
  | .function r => s.looked ((s.resolve r).map .function)
  | .descriptor r c => s.looked (do .ok (.descriptor (← (← s.resolve r).descriptor c)))
  | .call r c callback =>
    match s.resolve r with
    | .error f => (s, .silent (.error f))
    | .ok f => (s, enveloped (s.client.call s.transport callback f c))
  | .request fields callback =>
    match fieldsOf fields with
    | .error f => (s, .silent (.error f))
    | .ok d => (s, enveloped (s.client.request s.transport callback d))
  | .document d => s.loadStep d
  | .clear => ({ s with catalog := {} }, .silent (.ok .nothing))
  | .register key => s.registerStep key
  | .contains names => s.looked (.ok (.contains (names.map s.catalog.contains)))
  | .find name =>
    s.looked ((s.catalog.function name).map fun f => .found f (s.catalog.indexOf? name))
  | .collection key model baseUrl =>
    let c := Collection.under baseUrl model
    ({ s with collections := keep s.collections key c }, .silent (.ok (.collection c)))
  | .act key a options callback => (s, s.actStep key a options callback)

end Session

end RestOperations
