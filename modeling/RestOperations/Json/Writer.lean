import RestOperations.Decimal.Numeral
import RestOperations.Text.Hex
import RestOperations.Value.Display

/-!
Values as JSON text. The text is ASCII: other characters are escaped by their UTF-16 units. Dates,
moments, octets and functions have no JSON form, and neither has a map with a key that is no scalar or
an integer of too many digits; a style may give the former a text to stand in.
-/

namespace RestOperations.Json

inductive WriteError
  | value (kind : String)
  | key (kind : String)
  | tooManyDigits
deriving DecidableEq, Repr

def WriteError.message : WriteError → String
  | value kind => "Object of type " ++ kind ++ " is not JSON serializable"
  | key kind => "keys must be str, int, float, bool or None, not " ++ kind
  | tooManyDigits =>
    "Exceeds the limit (" ++ toString Decimal.digitLimit ++
      " digits) for integer string conversion; use sys.set_int_max_str_digits() to increase the limit"

structure Style where
  itemSeparator : List Char
  keySeparator : List Char
  /-- The text to write for a value without a JSON form. -/
  substitute : Value → Option String

/-- A space after every separator. -/
def Style.spaced : Style := ⟨[',', ' '], [':', ' '], fun _ => none⟩

/-- As `spaced`, with the plain text of whatever JSON cannot hold. -/
def Style.lenient : Style := { Style.spaced with substitute := fun v => some v.text }

def unitEscape (n : Nat) : List Char := '\\' :: 'u' :: Text.hex 4 n

def escapeChar (c : Char) : List Char :=
  if c = '"' then ['\\', '"']
  else if c = '\\' then ['\\', '\\']
  else if c = '\n' then ['\\', 'n']
  else if c = '\r' then ['\\', 'r']
  else if c = '\t' then ['\\', 't']
  else if c = '\x08' then ['\\', 'b']
  else if c = '\x0c' then ['\\', 'f']
  else if 32 ≤ c.toNat ∧ c.toNat < 127 then [c]
  else if c.toNat < 0x10000 then unitEscape c.toNat
  else unitEscape (0xD7C0 + c.toNat / 0x400) ++ unitEscape (0xDC00 + c.toNat % 0x400)

def writeString (s : String) : List Char := '"' :: s.toList.flatMap escapeChar ++ ['"']

def writeFloat (x : Float) : List Char :=
  match Decimal.classify x with
  | .nan => "NaN".toList
  | .infinite negative => (if negative then "-Infinity" else "Infinity").toList
  | .finite _ _ => (floatText x).toList

def writeBool (b : Bool) : List Char := (if b then "true" else "false").toList

def writeInt (n : Int) : List Char := (toString n).toList

def writeInt? (n : Int) : Except WriteError (List Char) :=
  if Decimal.isWritable n then .ok (writeInt n) else .error .tooManyDigits

/-- A key is written as a string, whatever scalar it is. -/
def writeKey : Value → Except WriteError (List Char)
  | .str s => .ok (writeString s)
  | .null => .ok (writeString "null")
  | .bool b => .ok (writeString (String.ofList (writeBool b)))
  | .int n => (writeInt? n).map fun cs => writeString (String.ofList cs)
  | .float x => .ok (writeString (String.ofList (writeFloat x)))
  | .date _ => .error (.key "datetime.date")
  | .moment _ => .error (.key "datetime.datetime")
  | v => .error (.key v.kind)

/-- The parts with `separator` between them. -/
def joined (separator : List Char) : List (List Char) → List Char
  | [] => []
  | [x] => x
  | x :: y :: xs => x ++ separator ++ joined separator (y :: xs)

/-- A value without a JSON form. -/
def writeOther (style : Style) (v : Value) : Except WriteError (List Char) :=
  match style.substitute v with
  | some s => .ok (writeString s)
  | none => .error (.value v.kind)

mutual

def writeChars (style : Style) : Value → Except WriteError (List Char)
  | .null => .ok "null".toList
  | .bool b => .ok (writeBool b)
  | .int n => writeInt? n
  | .float x => .ok (writeFloat x)
  | .str s => .ok (writeString s)
  | .list xs => do return '[' :: joined style.itemSeparator (← writeItems style xs) ++ [']']
  | .tuple xs => do return '[' :: joined style.itemSeparator (← writeItems style xs) ++ [']']
  | .map ms => do return '{' :: joined style.itemSeparator (← writeMembers style ms) ++ ['}']
  | .set xs => writeOther style (.set xs)
  | .octets bs => writeOther style (.octets bs)
  | .date d => writeOther style (.date d)
  | .moment m => writeOther style (.moment m)
  | .function kind => writeOther style (.function kind)

def writeItems (style : Style) : List Value → Except WriteError (List (List Char))
  | [] => .ok []
  | x :: xs => do
    let here ← writeChars style x
    let rest ← writeItems style xs
    return here :: rest

def writeMembers (style : Style) : List (Value × Value) → Except WriteError (List (List Char))
  | [] => .ok []
  | (k, v) :: ms => do
    let key ← writeKey k
    let value ← writeChars style v
    let rest ← writeMembers style ms
    return (key ++ style.keySeparator ++ value) :: rest

end

def write (style : Style) (v : Value) : Except WriteError String :=
  (writeChars style v).map String.ofList

/-- The JSON text with a space after every separator. There is one however deep the value is; only
reading is limited. -/
def text (v : Value) : Except WriteError String := write .spaced v

end RestOperations.Json
