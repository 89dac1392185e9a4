import RestOperations.Query.Evaluate
import RestOperations.Scope
import RestOperations.Text.Percent

/-!
Templates, and what a call makes of them. A template that yields null is absent: text with an absent
slot is absent as a whole, and maps and lists leave absent members out. A URL is always there; an
absent slot that is a whole segment of its path takes the slash before it along.
-/

namespace RestOperations

inductive Template
  | literal (v : Value)
  /-- The argument itself, whatever its kind. -/
  | slot (s : Slot)
  | text (parts : List Part)
  | url (parts : List Part)
  | expression (e : Query.Expr) (destination : Destination)
  | mapping (members : List (Value × Template))
  | sequence (items : List Template)

namespace Template

/-! ### Slots -/

def slotsOfParts (parts : List Part) : List Slot := parts.filterMap Part.slot?

mutual

/-- Every slot, in the order of the template. -/
def slots : Template → List Slot
  | literal _ => []
  | slot s => [s]
  | text parts => slotsOfParts parts
  | url parts => slotsOfParts parts
  | expression _ _ => []
  | mapping ms => slotsOfMembers ms
  | sequence ts => slotsOfItems ts

def slotsOfMembers : List (Value × Template) → List Slot
  | [] => []
  | (_, t) :: ms => slots t ++ slotsOfMembers ms

def slotsOfItems : List Template → List Slot
  | [] => []
  | t :: ts => slots t ++ slotsOfItems ts

end

/-! ### Text and URLs -/

def written (v : Value) : Except Fault String := v.inText.mapError .notWritable

/-- The text of the parts, unless a slot is absent. -/
def textOfParts (fill : Slot → Except Fault Value) : List Part → Except Fault (Option String)
  | [] => .ok (some "")
  | .text s :: rest => do
    let more ← textOfParts fill rest
    .ok (more.map (s ++ ·))
  | .slot s :: rest => do
    let v ← fill s
    if v.isNull then .ok none
    else
      let here ← written v
      let more ← textOfParts fill rest
      .ok (more.map (here ++ ·))

def endsSegment (c : Char) : Bool := c == '/' || c == '?' || c == '#'

/-- The segment ends before these parts. -/
def atSegmentEnd : List Part → Bool
  | [] => true
  | .text s :: _ => match s.toList with | [] => true | c :: _ => endsSegment c
  | .slot _ :: _ => false

def escaped (v : Value) : Except Fault (List Char) :=
  (written v).map fun s => Text.Percent.encodeChars s.toList

/-- A text without the slash at its end. -/
def withoutSlash (cs : List Char) : List Char :=
  if cs.getLast? = some '/' then cs.dropLast else cs

def urlOfParts (fill : Slot → Except Fault Value) : List Part → Except Fault (List Char)
  | [] => .ok []
  | .text t :: .slot s :: rest => do
    let v ← fill s
    if v.isNull then
      let more ← urlOfParts fill rest
      .ok ((if atSegmentEnd rest then withoutSlash t.toList else t.toList) ++ more)
    else
      let here ← escaped v
      let more ← urlOfParts fill rest
      .ok (t.toList ++ here ++ more)
  | .text t :: rest => do
    let more ← urlOfParts fill rest
    .ok (t.toList ++ more)
  | .slot s :: rest => do
    let v ← fill s
    let here ← if v.isNull then .ok [] else escaped v
    let more ← urlOfParts fill rest
    .ok (here ++ more)

/-! ### Evaluation -/

/-- In a query and in headers a truth value is text. -/
def ofResult (destination : Destination) (v : Value) : Value :=
  match destination, v with
  | .query, .bool b => .str (if b then "true" else "false")
  | .header, .bool b => .str (if b then "true" else "false")
  | _, v => v

def evaluateExpression (data : Value) (e : Query.Expr) (destination : Destination) :
    Except Fault Value :=
  match Query.evaluate e data with
  | .ok v => .ok (ofResult destination v)
  | .error cause => .error (.expressionFailed destination cause)

mutual

/-- The value of a template, given what fills its slots and the data that its expressions see. -/
def fillWith (fill : Slot → Except Fault Value) (data : Value) : Template → Except Fault Value
  | literal v => .ok v
  | slot s => fill s
  | text parts => do
    let s? ← textOfParts fill parts
    .ok (match s? with | some s => .str s | none => .null)
  | url parts => do
    let cs ← urlOfParts fill parts
    .ok (.str (String.ofList cs))
  | expression e d => evaluateExpression data e d
  | mapping ms => do
    let vs ← fillMembers fill data ms
    .ok (.map vs)
  | sequence ts => do
    let vs ← fillItems fill data ts
    .ok (.list vs)

def fillMembers (fill : Slot → Except Fault Value) (data : Value) :
    List (Value × Template) → Except Fault (List (Value × Value))
  | [] => .ok []
  | (k, t) :: ms => do
    let v ← fillWith fill data t
    let vs ← fillMembers fill data ms
    .ok (if v.isNull then vs else (k, v) :: vs)

def fillItems (fill : Slot → Except Fault Value) (data : Value) :
    List Template → Except Fault (List Value)
  | [] => .ok []
  | t :: ts => do
    let v ← fillWith fill data t
    let vs ← fillItems fill data ts
    .ok (if v.isNull then vs else v :: vs)

end

/-- The value of a template for a call. -/
def evaluate [Json.Depth] (scope : Scope) (t : Template) : Except Fault Value :=
  t.fillWith scope.lookup scope.data

/-- The entries that are present, as of a query or of headers. -/
def evaluateEntries [Json.Depth] (scope : Scope) :
    List (String × Template) → Except Fault (List (String × Value))
  | [] => .ok []
  | (k, t) :: es => do
    let v ← t.evaluate scope
    let vs ← evaluateEntries scope es
    .ok (if v.isNull then vs else (k, v) :: vs)

end Template

end RestOperations
