import RestOperations.Descriptor
import RestOperations.Operation

/-!
Binding a call to its operation. Positional arguments take the names of the parameters in order, and
no argument may be given twice; the options of the caller are an argument of their own name. Slots
that are required must be filled before anything else of the request is made.
-/

namespace RestOperations

structure Call where
  positional : List Value
  keywords : List (String × Value)
  /-- Null is no options. -/
  options : Value

namespace Operation

/-! ### Arguments -/

/-- The greatest position that a slot asks for, counted from one. -/
def positionsOf : List Slot → Except Fault Nat
  | [] => .ok 0
  | s :: slots => do
    let i? ← s.index
    let most ← positionsOf slots
    .ok (max (match i? with | some i => i + 1 | none => 0) most)

/-- How many positional arguments a call may have. -/
def mostPositional (op : Operation) (params : List Value) : Except Fault Nat := do
  let most ← positionsOf op.slots
  return max params.length most

/-- The positional arguments under the names of the parameters. -/
def nameArguments (arguments : List (Value × Value)) :
    List (Value × Value) → Except Fault (List (Value × Value))
  | [] => .ok arguments
  | (k, v) :: rest =>
    if k.isKey then nameArguments (Value.put arguments k v) rest
    else .error (.unhashable k.kind)

/-- Adds an argument that may not be there already. -/
def addArgument (op : Operation) (arguments : List (Value × Value)) (name : String) (v : Value) :
    Except Fault (List (Value × Value)) :=
  match Value.get? arguments (.str name) with
  | some _ => .error (.argumentRepeated op.title name)
  | none => .ok (arguments ++ [(.str name, v)])

def addKeywords (op : Operation) (arguments : List (Value × Value)) :
    List (String × Value) → Except Fault (List (Value × Value))
  | [] => .ok arguments
  | (name, v) :: rest => do
    let arguments ← op.addArgument arguments name v
    op.addKeywords arguments rest

def addOptions (op : Operation) (arguments : List (Value × Value)) (options : Value) :
    Except Fault (List (Value × Value)) :=
  if options.isNull then .ok arguments else op.addArgument arguments optionsName options

def argumentsOf (op : Operation) (params : List Value) (c : Call) :
    Except Fault (List (Value × Value)) := do
  let most ← op.mostPositional params
  if most < c.positional.length then
    throw (.tooManyArguments op.title most c.positional.length)
  let arguments ← nameArguments [] (params.zip c.positional)
  let arguments ← op.addKeywords arguments c.keywords
  op.addOptions arguments c.options

/-- The options count as such also where they came by position. -/
def scopeOf (op : Operation) (params : List Value) (c : Call) : Except Fault Scope := do
  let arguments ← op.argumentsOf params c
  return ⟨arguments, c.positional, (Value.get? arguments (.str optionsName)).getD .null⟩

/-! ### The request -/

def requireSlots [Json.Depth] (op : Operation) (scope : Scope) : List Slot → Except Fault Unit
  | [] => .ok ()
  | s :: slots => do
    if s.required then
      let v ← scope.lookup s
      if v.isNull then throw (.argumentMissing op.title s)
    op.requireSlots scope slots

def invalidUrl (op : Operation) (v : Value) : Fault :=
  if v.isWritable then .invalidUrl op.title v else .notWritable .tooManyDigits

def uriOf [Json.Depth] (op : Operation) (scope : Scope) : Except Fault String := do
  let v ← op.url.evaluate scope
  match v with
  | .str s => if s.isEmpty then .error (op.invalidUrl v) else .ok s
  | v => .error (op.invalidUrl v)

/-- Headers are text; any other value is written as JSON. -/
def headerText : Value → Except Fault String
  | .str s => .ok s
  | v => (Json.text v).mapError .notWritable

def headerTexts : List (String × Value) → Except Fault (List (String × String))
  | [] => .ok []
  | (k, v) :: es => do
    let s ← headerText v
    let more ← headerTexts es
    .ok ((k, s) :: more)

/-- The header for options, unless the template has one of its own. -/
def optionsHeader (op : Operation) (options : Value) : Except Fault (List (String × String)) :=
  if options.isNull || op.declaresOptions then .ok []
  else do
    let s ← (Json.text options).mapError .notWritable
    .ok [(optionsName, s)]

def headersOf [Json.Depth] (op : Operation) (scope : Scope) :
    Except Fault (List (String × String)) := do
  let values ← Template.evaluateEntries scope op.headers
  let texts ← headerTexts values
  let added ← op.optionsHeader scope.options
  return texts ++ added

def bodyOf [Json.Depth] (op : Operation) (scope : Scope) : Except Fault Value :=
  match op.body with
  | some t => t.evaluate scope
  | none => .ok .null

def nonEmpty {α : Type} (xs : List α) : Option (List α) := if xs.isEmpty then none else some xs

/-- The request for a scope. -/
def request [Json.Depth] (op : Operation) (scope : Scope) : Except Fault Descriptor := do
  op.requireSlots scope op.slots
  let uri ← op.uriOf scope
  let query ← Template.evaluateEntries scope op.query
  let headers ← op.headersOf scope
  let body ← op.bodyOf scope
  return { method := op.method, uri, query := nonEmpty query, body, headers := nonEmpty headers }

def bind [Json.Depth] (op : Operation) (params : List Value) (c : Call) :
    Except Fault Descriptor := do
  let scope ← op.scopeOf params c
  op.request scope

namespace Function

/-- The request of a call. -/
def descriptor [Json.Depth] (f : Function) (c : Call) : Except Fault Descriptor :=
  f.operation.bind f.params c

end Function

end Operation

end RestOperations
