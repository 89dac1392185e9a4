import RestOperations.Query.Parse
import RestOperations.Template

/-!
Templates from the values they are written as. A text that starts with a dollar sign is an
expression; other texts are searched for slots. Maps and lists are templates throughout, but the keys
of maps stay as they are.
-/

namespace RestOperations.Template

def unknownConversion (u : SlotSyntax.UnknownConversion) : Fault :=
  .unknownConversion u.name u.source

/-- The parts of a text, or the conversion that is not known. -/
def partsOf (s : String) (destination : Destination) : Except Fault (List Part) :=
  (Part.split s destination).mapError unknownConversion

def compileExpression (source : String) (destination : Destination) : Except Fault Template :=
  match Query.parse source with
  | .ok e => .ok (expression e destination)
  | .error cause => .error (.expressionInvalid source cause)

/-- A text without a dollar sign before it: a lone slot, text with slots, or nothing but text. -/
def compileText (s : String) (destination : Destination) : Except Fault Template :=
  match SlotSyntax.read? s.toList with
  | some (written, []) => (written.toSlot destination).map slot |>.mapError unknownConversion
  | _ => do
    let parts ← partsOf s destination
    .ok (if parts.any Part.isSlot then text parts else literal (.str s))

def compileString (s : String) (destination : Destination) : Except Fault Template :=
  match s.toList with
  | '$' :: source => compileExpression (String.ofList source) destination
  | _ => compileText s destination

mutual

def compile (destination : Destination) : Value → Except Fault Template
  | .str s => compileString s destination
  | .map ms => do
    let ts ← compileMembers destination ms
    .ok (mapping ts)
  | .list xs => do
    let ts ← compileItems destination xs
    .ok (sequence ts)
  | v => .ok (literal v)

def compileMembers (destination : Destination) :
    List (Value × Value) → Except Fault (List (Value × Template))
  | [] => .ok []
  | (k, v) :: ms => do
    let t ← compile destination v
    let ts ← compileMembers destination ms
    .ok ((k, t) :: ts)

def compileItems (destination : Destination) : List Value → Except Fault (List Template)
  | [] => .ok []
  | x :: xs => do
    let t ← compile destination x
    let ts ← compileItems destination xs
    .ok (t :: ts)

end

def compileEntries (destination : Destination) :
    List (String × Value) → Except Fault (List (String × Template))
  | [] => .ok []
  | (k, v) :: es => do
    let t ← compile destination v
    let ts ← compileEntries destination es
    .ok ((k, t) :: ts)

def compileUrl (s : String) : Except Fault Template :=
  match s.toList with
  | '$' :: source => compileExpression (String.ofList source) .path
  | _ => do
    let parts ← partsOf s .path
    .ok (url parts)

end RestOperations.Template
