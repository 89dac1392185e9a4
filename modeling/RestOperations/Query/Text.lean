import RestOperations.Json.Writer
import RestOperations.Query.Item

/-!
The text of an item: a text is its own, a number by itself is rounded to fifteen digits, and a
collection is JSON, in which functions are empty texts.
-/

namespace RestOperations.Query.Item

/-- Digits a number keeps where it is turned into text. -/
def textDigits : Nat := 15

/-- Without an exponent unless zeros would be needed at its end, or more than six at its start. -/
def scientificText (d : Decimal.Scientific) : String :=
  if 0 < d.exponent ∨ d.leading < -6 then d.exponential 1 else d.positional

def magnitudeText (b : Decimal.Binary64) : String :=
  if b.isWhole && decide (Decimal.digitCount b.floor ≤ textDigits) then toString b.floor
  else scientificText (Decimal.roundDigits textDigits b).strip

def signText (negative : Bool) (s : String) : String := if negative then "-" ++ s else s

def intText (n : Int) : String :=
  signText (decide (n < 0)) (magnitudeText ⟨n.natAbs, 0⟩)

def floatText (x : Float) : String :=
  match Decimal.classify x with
  | .nan => "nan"
  | .infinite negative => signText negative "infinity"
  | .finite negative b => signText negative (magnitudeText b)

/-- Where the parts of a collection stand: all on one line, or one to a line. -/
inductive Spread
  | line
  | indented (depth : Nat)

def Spread.deeper : Spread → Spread
  | line => line
  | indented n => indented (n + 1)

def newline (n : Nat) : List Char := '\n' :: (List.replicate n [' ', ' ']).flatten

def enclosed (spread : Spread) (opening closing : Char) (parts : List (List Char)) : List Char :=
  if parts.isEmpty then [opening, closing]
  else match spread with
    | .line => opening :: Json.joined [','] parts ++ [closing]
    | .indented n =>
      opening :: newline (n + 1) ++ Json.joined (',' :: newline (n + 1)) parts ++ newline n ++
        [closing]

def colon : Spread → List Char
  | .line => [':']
  | .indented _ => [':', ' ']

mutual

def json (spread : Spread) : Item → List Char
  | missing => "null".toList
  | null => "null".toList
  | bool b => Json.writeBool b
  | int n => Json.writeInt n
  | float x => Json.writeFloat x
  | str s => Json.writeString s
  | array _ xs => enclosed spread '[' ']' (jsonItems spread.deeper xs)
  | object ms => enclosed spread '{' '}' (jsonMembers spread.deeper ms)
  | builtin _ => Json.writeString ""
  | .closure .. => Json.writeString ""
  | pending .. => Json.writeString ""

def jsonItems (spread : Spread) : List Item → List (List Char)
  | [] => []
  | x :: xs => json spread x :: jsonItems spread xs

def jsonMembers (spread : Spread) : List (String × Item) → List (List Char)
  | [] => []
  | (k, v) :: ms =>
    (Json.writeString k ++ colon spread ++ json spread v) :: jsonMembers spread ms

end

/-- The text of an item; none for the lack of a value. -/
def text? (pretty : Bool) : Item → Option String
  | missing => none
  | str s => some s
  | int n => some (intText n)
  | float x => some (floatText x)
  | builtin _ => some ""
  | .closure .. => some ""
  | pending .. => none
  | x => some (String.ofList (json (if pretty then .indented 0 else .line) x))

/-- What counts as true; none for the lack of a value. -/
def truth? : Item → Option Bool
  | missing => none
  | null => some false
  | bool b => some b
  | int n => some (n != 0)
  | float x => some (x != 0.0)
  | str s => some (!s.isEmpty)
  | array _ [x] => truth? x
  | array _ xs => some (anyTrue xs)
  | object ms => some (!ms.isEmpty)
  | builtin _ => some false
  | .closure .. => some false
  | pending .. => none
where anyTrue : List Item → Bool
  | [] => false
  | x :: xs => (truth? x).getD false || anyTrue xs

def truth (x : Item) : Bool := x.truth?.getD false

end RestOperations.Query.Item
