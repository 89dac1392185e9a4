import RestOperations.Decimal.Wording
import RestOperations.Json.Reader
import RestOperations.Json.Writer
import RestOperations.Slot
import RestOperations.Text.Blank
import RestOperations.Text.Case

/-!
Arguments as their slots want them, and values as text within a URL, a query or a header.
-/

namespace RestOperations

namespace Value

/-- The value within a text: truth values in lower case, collections as JSON. -/
def inText : Value → Except Json.WriteError String
  | bool b => .ok (if b then "true" else "false")
  | list xs => Json.text (list xs)
  | map ms => Json.text (map ms)
  | v => if v.isWritable then .ok v.text else .error .tooManyDigits

@[simp] theorem inText_str (s : String) : (str s).inText = .ok s := rfl
@[simp] theorem inText_bool (b : Bool) : (bool b).inText = .ok (if b then "true" else "false") := rfl

end Value

/-- Why a value cannot be converted. -/
inductive ConvertError
  | notInteger (s : String)
  | tooManyDigits (digits : Nat)
  | noNumberToInteger
  | notNumber (s : String)
  | octetsNotInteger (bs : List UInt8)
  | octetsNotNumber (bs : List UInt8)
  | wrongKind (kind : String)
  | notBoolean (s : String)
  | notJson (e : Json.ReadError)
  | notText (e : Json.WriteError)
  | infinite
deriving DecidableEq, Repr

namespace ConvertError

def ofNumeral (s : String) : Decimal.NumeralError → ConvertError
  | .malformed => notInteger s
  | .tooLong n => tooManyDigits n

/-- Octets are shown as they are, and not as their text. -/
def ofOctets (bs : List UInt8) : ConvertError → ConvertError
  | notInteger _ => octetsNotInteger bs
  | notNumber _ => octetsNotNumber bs
  | e => e

def message : ConvertError → String
  | notInteger s => Decimal.integerMessage 10 s
  | tooManyDigits n => Decimal.digitsMessage n
  | noNumberToInteger => "cannot convert float NaN to integer"
  | notNumber s => Decimal.floatMessage s
  | octetsNotInteger bs => Decimal.octetsMessage 10 bs
  | octetsNotNumber bs => Decimal.notFloatMessage (Text.quoteOctets bs)
  | wrongKind kind =>
    "int() argument must be a string, a bytes-like object or a real number, not '" ++ kind ++ "'"
  | notBoolean s => "not a boolean: " ++ Text.quote s
  | notJson e => e.message
  | notText e => e.message
  | infinite => "cannot convert float infinity to integer"

/-- The argument is beyond what can be worked with, rather than malformed. -/
def isBeyond : ConvertError → Bool
  | infinite => true
  | notJson e => e.isTooDeep
  | _ => false

end ConvertError

namespace Conversion

def readInteger (s : String) : Except ConvertError Int :=
  (Decimal.readInt s).mapError (ConvertError.ofNumeral s)

/-- A text is an integer if it can be, else a float. -/
def readNumber (s : String) : Except ConvertError Value :=
  match readInteger s with
  | .ok n => .ok (.int n)
  | .error _ =>
    match Decimal.readFloat? s with
    | some x => .ok (.float x)
    | none => .error (.notNumber s)

/-- Octets as text. An octet beyond ASCII becomes a character that is no part of any number. -/
def asciiText (bs : List UInt8) : String :=
  String.ofList (bs.map fun b => if b.toNat < 0x80 then Char.ofNat b.toNat else '\uFFFD')

/-- The kind of a value, with the family that calendar values belong to. -/
def fullKind : Value → String
  | .date _ => "datetime.date"
  | .moment _ => "datetime.datetime"
  | v => v.kind

def toInteger : Value → Except ConvertError Int
  | .int n => .ok n
  | .bool b => .ok (if b then 1 else 0)
  | .float x =>
    match Decimal.classify x with
    | .nan => .error .noNumberToInteger
    | .infinite _ => .error .infinite
    | .finite negative b => .ok (Decimal.signed negative b.floor)
  | .str s => readInteger s
  | .octets bs => (readInteger (asciiText bs)).mapError (.ofOctets bs)
  | v => .error (.wrongKind (fullKind v))

def toNumber : Value → Except ConvertError Value
  | .float x => .ok (.float x)
  | .str s => readNumber s
  | .octets bs => (readNumber (asciiText bs)).mapError (.ofOctets bs)
  | v => (toInteger v).map .int

def trueWords : List String := ["true", "1", "yes", "on"]

def falseWords : List String := ["false", "0", "no", "off", ""]

def toBoolean : Value → Except ConvertError Bool
  | .str s =>
    let word := Text.lower (String.ofList (Text.trim s.toList))
    if trueWords.contains word then .ok true
    else if falseWords.contains word then .ok false
    else .error (.notBoolean s)
  | v => .ok v.truthy

/-- An object is given as JSON text or as it is. -/
def toObject [Json.Depth] : Value → Except ConvertError Value
  | .str s => (Json.read s).mapError .notJson
  | v => .ok v

def toText : Value → Except ConvertError Value
  | .str s => .ok (.str s)
  | v => (v.inText.map .str).mapError .notText

def apply [Json.Depth] (c : Conversion) (v : Value) : Except ConvertError Value :=
  match c with
  | string => toText v
  | number => toNumber v
  | integer => (toInteger v).map .int
  | boolean => (toBoolean v).map .bool
  | object => toObject v
  | other _ => .ok .null

end Conversion

end RestOperations
