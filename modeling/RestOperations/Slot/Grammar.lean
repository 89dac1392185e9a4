import RestOperations.Slot
import RestOperations.Text.Word

/-!
Slots in text. A slot is written in braces: a mark for required or optional, the name, and after it,
each if wanted, a colon with the conversion and an equals sign with the default. Without a mark only
what ends up in the path is required. Braces around anything else are plain text.
-/

namespace RestOperations

/-- A slot as it is written. -/
structure SlotSyntax where
  /-- True after a caret, false after an exclamation mark. -/
  required : Option Bool
  name : List Char
  conversion : Option (List Char)
  default : Option (List Char)
deriving DecidableEq, Repr

namespace SlotSyntax

def isNameChar (c : Char) : Bool := Text.isWord c || c == '-' || c == '.'

def markSource : Option Bool → List Char
  | some true => ['^']
  | some false => ['!']
  | none => []

/-- The slot as text. -/
def source (s : SlotSyntax) : List Char :=
  '{' :: markSource s.required ++ s.name ++
    (match s.conversion with | some t => ':' :: t | none => []) ++
    (match s.default with | some d => '=' :: d | none => []) ++ ['}']

def takeMark : List Char → Option Bool × List Char
  | '^' :: cs => (some true, cs)
  | '!' :: cs => (some false, cs)
  | cs => (none, cs)

/-- A colon and a conversion; neither is taken where no word follows the colon. -/
def takeConversion (cs : List Char) : Option (List Char) × List Char :=
  match cs with
  | ':' :: rest =>
    if (rest.takeWhile Text.isWord).isEmpty then (none, cs)
    else (some (rest.takeWhile Text.isWord), rest.dropWhile Text.isWord)
  | _ => (none, cs)

def takeDefault (cs : List Char) : Option (List Char) × List Char :=
  match cs with
  | '=' :: rest => (some (rest.takeWhile (· != '}')), rest.dropWhile (· != '}'))
  | _ => (none, cs)

/-- A slot at the start of the text, and what follows it. -/
def read? : List Char → Option (SlotSyntax × List Char)
  | '{' :: cs =>
    let (required, cs) := takeMark cs
    let name := cs.takeWhile isNameChar
    let (conversion, cs) := takeConversion (cs.dropWhile isNameChar)
    let (default, cs) := takeDefault cs
    match name, cs with
    | [], _ => none
    | name, '}' :: rest => some (⟨required, name, conversion, default⟩, rest)
    | _, _ => none
  | _ => none

/-- A conversion that is not known, with the slot that asks for it. -/
structure UnknownConversion where
  name : String
  source : String
deriving DecidableEq, Repr

/-- The slot that is meant, in a text for the given part of the request. -/
def slotIn (s : SlotSyntax) (destination : Destination) : Slot where
  name := String.ofList s.name
  destination
  required := s.required.getD (destination == .path)
  conversion := s.conversion.map fun t => .ofName (String.ofList t)
  default := s.default.map String.ofList

def toSlot (s : SlotSyntax) (destination : Destination) : Except UnknownConversion Slot :=
  match (s.slotIn destination).conversion with
  | some (.other name) => .error ⟨name, String.ofList s.source⟩
  | _ => .ok (s.slotIn destination)

end SlotSyntax

/-- A piece of a text with slots. -/
inductive Part
  | text (s : String)
  | slot (s : Slot)
deriving DecidableEq, Repr

namespace Part

def slot? : Part → Option Slot
  | slot s => some s
  | text _ => none

def isSlot (p : Part) : Bool := p.slot?.isSome

/-- Text that has gathered in front of a slot or of the end; none is no part. -/
def flush (gathered : List Char) : List Part :=
  if gathered.isEmpty then [] else [text (String.ofList gathered.reverse)]

/-- The parts of a text from left to right. `gathered` is the plain text so far, reversed. -/
def splitFrom (destination : Destination) (gathered : List Char) :
    (fuel : Nat) → List Char → Except SlotSyntax.UnknownConversion (List Part)
  | 0, _ => .ok (flush gathered)
  | _, [] => .ok (flush gathered)
  | fuel + 1, c :: cs =>
    match SlotSyntax.read? (c :: cs) with
    | some (s, rest) => do
      let slot ← s.toSlot destination
      let parts ← splitFrom destination [] fuel rest
      .ok (flush gathered ++ Part.slot slot :: parts)
    | none => splitFrom destination (c :: gathered) fuel cs

def split (s : String) (destination : Destination) :
    Except SlotSyntax.UnknownConversion (List Part) :=
  splitFrom destination [] s.length s.toList

end Part

end RestOperations
