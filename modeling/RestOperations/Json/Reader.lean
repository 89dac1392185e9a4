import RestOperations.Decimal.Wording
import RestOperations.Text.Hex
import RestOperations.Value.Members

/-!
JSON text as values. Objects keep the order of their members and the last of equal keys wins; the
words for infinity and for no number are numbers. A text that is not JSON is reported with what was
expected and where; so is one whose integers are too long or whose collections are too deep.

A reader takes the characters that are left and returns a value with those after it. What stops it
says how many characters were left, from which the place in the text follows.
-/

namespace RestOperations.Json

inductive Expectation
  | value
  | propertyName
  | colon
  | comma
  | endOfText
  | closingQuote
  | escape
  | unitEscape
  | noControl
  | noByteOrderMark
  | fewerDigits (digits : Nat)
  | lessDepth (kind : String)
deriving DecidableEq, Repr

structure Stop where
  expected : Expectation
  left : Nat
deriving DecidableEq, Repr

def Expectation.text : Expectation → String
  | value => "Expecting value"
  | propertyName => "Expecting property name enclosed in double quotes"
  | colon => "Expecting ':' delimiter"
  | comma => "Expecting ',' delimiter"
  | endOfText => "Extra data"
  | closingQuote => "Unterminated string starting at"
  | escape => "Invalid \\escape"
  | unitEscape => "Invalid \\uXXXX escape"
  | noControl => "Invalid control character at"
  | noByteOrderMark => "Unexpected UTF-8 BOM (decode using utf-8-sig)"
  | fewerDigits n => Decimal.digitsMessage n
  | lessDepth kind =>
    "maximum recursion depth exceeded while decoding a JSON " ++ kind ++ " from a unicode string"

/-- How many digits an integer may have, and how deep collections may lie in each other. -/
structure Limits where
  digits : Nat
  depth : Nat
deriving DecidableEq, Repr

/-- How deep collections may lie in each other within a text. Whoever runs the library says so: it is
what the room for recursion comes to, and nothing here depends on which it is. -/
class Depth where
  limit : Nat

/-- One of the limits there may be, to try things with. -/
@[reducible] def Depth.thousand : Depth := ⟨1000⟩

/-- The limits within which texts are read. A value is written however deep it is. -/
def Limits.inForce [Depth] : Limits := ⟨Decimal.digitLimit, Depth.limit⟩

@[simp] theorem Limits.digits_inForce [Depth] : Limits.inForce.digits = Decimal.digitLimit := rfl
@[simp] theorem Limits.depth_inForce [Depth] : Limits.inForce.depth = Depth.limit := rfl

/-- Where a text could not be read. -/
structure ReadError where
  expected : Expectation
  position : Nat
  line : Nat
  column : Nat
deriving DecidableEq, Repr

def ReadError.message (e : ReadError) : String :=
  match e.expected with
  | .fewerDigits _ => e.expected.text
  | .lessDepth _ => e.expected.text
  | _ =>
    e.expected.text ++ ": line " ++ toString e.line ++ " column " ++ toString e.column ++
      " (char " ++ toString e.position ++ ")"

/-- Lines end at line feeds, and lines and columns count from one. -/
def ReadError.of (cs : List Char) (stop : Stop) : ReadError :=
  let position := cs.length - stop.left
  let before := cs.take position
  { expected := stop.expected
    position
    line := before.count '\n' + 1
    column := (before.reverse.takeWhile (· != '\n')).length + 1 }

def isBlank (c : Char) : Bool := c == ' ' || c == '\t' || c == '\n' || c == '\r'

def skipBlank (cs : List Char) : List Char := cs.dropWhile isBlank

def isHighUnit (n : Nat) : Bool := decide (0xD800 ≤ n) && decide (n < 0xDC00)

def isLowUnit (n : Nat) : Bool := decide (0xDC00 ≤ n) && decide (n < 0xE000)

/-- Four hexadecimal digits, where at least the closing quote still follows. -/
def readUnit? : List Char → Option (Nat × List Char)
  | a :: b :: c :: d :: e :: rest => (Text.readHex? [a, b, c, d]).map fun n => (n, e :: rest)
  | _ => none

def escaped? (c : Char) : Option Char :=
  match c with
  | '"' => some '"'
  | '\\' => some '\\'
  | '/' => some '/'
  | 'b' => some '\x08'
  | 'f' => some '\x0c'
  | 'n' => some '\n'
  | 'r' => some '\r'
  | 't' => some '\t'
  | _ => none

/-- The second half of a surrogate pair, as an escape. -/
def readLowUnit? : List Char → Option (Nat × List Char)
  | '\\' :: 'u' :: rest =>
    match readUnit? rest with
    | some (n, rest) => if isLowUnit n then some (n, rest) else none
    | none => none
  | _ => none

/-- The characters up to the closing quote. `opening` counts what was left at the opening one. -/
def readChars (opening : Nat) : (fuel : Nat) → List Char → Except Stop (List Char × List Char)
  | 0, _ => .error ⟨.closingQuote, opening⟩
  | _, [] => .error ⟨.closingQuote, opening⟩
  | _, '"' :: rest => .ok ([], rest)
  | _, ['\\'] => .error ⟨.closingQuote, opening⟩
  | fuel + 1, '\\' :: 'u' :: rest =>
    match readUnit? rest with
    | none => .error ⟨.unitEscape, rest.length + 1⟩
    | some (n, after) =>
      match (if isHighUnit n then readLowUnit? after else none) with
      | some (low, after) => do
        let (cs, rest) ← readChars opening fuel after
        .ok (Char.ofNat (0x10000 + (n - 0xD800) * 0x400 + (low - 0xDC00)) :: cs, rest)
      | none => do
        let (cs, rest) ← readChars opening fuel after
        -- A half that stands alone is no character.
        .ok ((if isHighUnit n || isLowUnit n then '\uFFFD' else Char.ofNat n) :: cs, rest)
  | fuel + 1, '\\' :: c :: rest =>
    match escaped? c with
    | none => .error ⟨.escape, rest.length + 2⟩
    | some c => do
      let (cs, rest) ← readChars opening fuel rest
      .ok (c :: cs, rest)
  | fuel + 1, c :: rest =>
    if c.toNat < 0x20 then .error ⟨.noControl, rest.length + 1⟩
    else do
      let (cs, rest) ← readChars opening fuel rest
      .ok (c :: cs, rest)

/-- A string, of which `rest` follows the opening quote. -/
def readString (rest : List Char) : Except Stop (String × List Char) := do
  let (cs, rest) ← readChars (rest.length + 1) (rest.length + 1) rest
  .ok (String.ofList cs, rest)

def takeDigits (cs : List Char) : List Nat × List Char :=
  ((cs.takeWhile Char.isDigit).map (·.toNat - 48), cs.dropWhile Char.isDigit)

/-- A point and digits; nothing is taken where no digit follows the point. -/
def takeFraction (cs : List Char) : List Nat × List Char :=
  match cs with
  | '.' :: rest => if (takeDigits rest).1.isEmpty then ([], cs) else takeDigits rest
  | _ => ([], cs)

/-- An exponent; nothing is taken where it has no digit. -/
def takeExponent? (cs : List Char) : Option (Int × List Char) :=
  match cs with
  | c :: rest =>
    if c = 'e' ∨ c = 'E' then
      let (negative, rest) := Decimal.takeSign rest
      let (ds, rest) := takeDigits rest
      if ds.isEmpty then none else some (Decimal.signed negative (Decimal.ofDigits 10 ds), rest)
    else none
  | [] => none

/-- The digits before the point: no zero comes first but a lone one. -/
def takeWhole : List Char → List Nat × List Char
  | '0' :: rest => ([0], rest)
  | cs => takeDigits cs

/-- A number. Without fraction and exponent it is an integer. -/
def readNumber (digits : Option Nat) (cs : List Char) : Except Stop (Value × List Char) :=
  let (negative, rest) := match cs with | '-' :: rest => (true, rest) | _ => (false, cs)
  let (whole, rest) := takeWhole rest
  if whole.isEmpty then .error ⟨.value, cs.length⟩
  else
    let (fraction, rest) := takeFraction rest
    match takeExponent? rest with
    | some (e, rest) => .ok (real negative (whole ++ fraction) (e - fraction.length), rest)
    | none =>
      if fraction.isEmpty then
        if digits.any (· < whole.length) then .error ⟨.fewerDigits whole.length, rest.length⟩
        else .ok (.int (Decimal.signed negative (Decimal.ofDigits 10 whole)), rest)
      else .ok (real negative (whole ++ fraction) (-(fraction.length : Int)), rest)
where real (negative : Bool) (ds : List Nat) (e : Int) : Value :=
  .float (Decimal.floatOfDecimal negative (Decimal.ofDigits 10 ds) e)

def literals : List (String × Value) :=
  [("null", .null), ("true", .bool true), ("false", .bool false), ("NaN", .float (0.0 / 0.0)),
    ("Infinity", .float (1.0 / 0.0)), ("-Infinity", .float (-(1.0 / 0.0)))]

def readLiteral? (cs : List Char) : Option (Value × List Char) :=
  literals.findSome? fun (word, v) =>
    if word.toList.isPrefixOf cs then some (v, cs.drop word.length) else none

mutual

/-- A value; its first character stands first. -/
def readValue (digits : Option Nat) (depth : Nat) : (fuel : Nat) → List Char →
    Except Stop (Value × List Char)
  | 0, cs => .error ⟨.value, cs.length⟩
  | _ + 1, '"' :: rest => do
    let (s, rest) ← readString rest
    .ok (.str s, rest)
  | fuel + 1, '[' :: rest =>
    if depth = 0 then .error ⟨.lessDepth "array", rest.length + 1⟩
    else match skipBlank rest with
      | ']' :: rest => .ok (.list [], rest)
      | rest => do
        let (xs, rest) ← readItems digits (depth - 1) fuel rest
        .ok (.list xs, rest)
  | fuel + 1, '{' :: rest =>
    if depth = 0 then .error ⟨.lessDepth "object", rest.length + 1⟩
    else match skipBlank rest with
      | '}' :: rest => .ok (.map [], rest)
      | rest => do
        let (ms, rest) ← readMembers digits (depth - 1) fuel rest
        .ok (Value.ofMembers ms, rest)
  | _ + 1, cs =>
    match readLiteral? cs with
    | some found => .ok found
    | none => readNumber digits cs

/-- The items up to the closing bracket, at least one. -/
def readItems (digits : Option Nat) (depth : Nat) : (fuel : Nat) → List Char →
    Except Stop (List Value × List Char)
  | 0, cs => .error ⟨.value, cs.length⟩
  | fuel + 1, cs => do
    let (x, rest) ← readValue digits depth fuel cs
    match skipBlank rest with
    | ']' :: rest => .ok ([x], rest)
    | ',' :: rest => do
      let (xs, rest) ← readItems digits depth fuel (skipBlank rest)
      .ok (x :: xs, rest)
    | rest => .error ⟨.comma, rest.length⟩

/-- The members up to the closing brace, at least one. -/
def readMembers (digits : Option Nat) (depth : Nat) : (fuel : Nat) → List Char →
    Except Stop (List (Value × Value) × List Char)
  | 0, cs => .error ⟨.value, cs.length⟩
  | fuel + 1, '"' :: rest => do
    let (k, rest) ← readString rest
    match skipBlank rest with
    | ':' :: rest => do
      let (v, rest) ← readValue digits depth fuel (skipBlank rest)
      match skipBlank rest with
      | '}' :: rest => .ok ([(.str k, v)], rest)
      | ',' :: rest => do
        let (ms, rest) ← readMembers digits depth fuel (skipBlank rest)
        .ok ((.str k, v) :: ms, rest)
      | rest => .error ⟨.comma, rest.length⟩
    | rest => .error ⟨.colon, rest.length⟩
  | _ + 1, cs => .error ⟨.propertyName, cs.length⟩

end

def readAll (limits : Option Limits) (cs : List Char) : Except Stop Value := do
  if cs.head? = some '\uFEFF' then throw ⟨.noByteOrderMark, cs.length⟩
  let depth := match limits with | some l => l.depth | none => cs.length
  let (v, rest) ← readValue (limits.map (·.digits)) depth (2 * cs.length + 2) (skipBlank cs)
  let rest := skipBlank rest
  if rest.isEmpty then .ok v else throw ⟨.endOfText, rest.length⟩

def readWith (limits : Option Limits) (s : String) : Except ReadError Value :=
  (readAll limits s.toList).mapError (ReadError.of s.toList)

/-- Reads one value within the limits in force. -/
def read [Depth] (s : String) : Except ReadError Value := readWith (some .inForce) s

def ReadError.isTooDeep (e : ReadError) : Bool :=
  match e.expected with
  | .lessDepth _ => true
  | _ => false

end RestOperations.Json
