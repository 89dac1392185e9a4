import RestOperations.Decimal.Scientific
import RestOperations.Text.Blank
import RestOperations.Text.Digit

/-!
Reading numbers from text. An integer has an optional sign and decimal digits of any script, with
single underscores between digits; a float has the usual point and exponent besides, or is one of the
words for infinity and for no number. White space around either is ignored.
-/

namespace RestOperations.Decimal

/-- More digits than this are refused in an integer, where it is read and where it is written. -/
def digitLimit : Nat := 4300

def isWritable (n : Int) : Bool := decide (n.natAbs < tenTo digitLimit)

inductive NumeralError
  | malformed
  | tooLong (digits : Nat)
deriving DecidableEq, Repr

/-- The four separators of ASCII do not count as blank around a number. -/
def isNumeralBlank (c : Char) : Bool :=
  Text.isBlank c && !(decide (0x1c ≤ c.toNat) && decide (c.toNat ≤ 0x1f))

def trimNumeral (cs : List Char) : List Char :=
  ((cs.dropWhile isNumeralBlank).reverse.dropWhile isNumeralBlank).reverse

/-- The digits at the start, with single underscores between them, and the rest. An underscore
counts only where a digit precedes it. -/
def digitRun (afterDigit : Bool) : List Char → List Nat × List Char
  | [] => ([], [])
  | '_' :: c :: cs =>
    match afterDigit, Text.decimalValue? c with
    | true, some d => let (ds, rest) := digitRun true cs; (d :: ds, rest)
    | _, _ => ([], '_' :: c :: cs)
  | c :: cs =>
    match Text.decimalValue? c with
    | some d => let (ds, rest) := digitRun true cs; (d :: ds, rest)
    | none => ([], c :: cs)

def ofDigits (base : Nat) (ds : List Nat) : Nat := ds.foldl (fun n d => n * base + d) 0

def takeSign : List Char → Bool × List Char
  | '-' :: cs => (true, cs)
  | '+' :: cs => (false, cs)
  | cs => (false, cs)

def signed (negative : Bool) (n : Nat) : Int := if negative then -n else n

def readInt (s : String) : Except NumeralError Int :=
  let (negative, cs) := takeSign (trimNumeral s.toList)
  let (ds, rest) := digitRun false cs
  if ds.isEmpty || rest.head? == some '_' then .error .malformed
  else if digitLimit < ds.length then .error (.tooLong ds.length)
  else if rest.isEmpty then .ok (signed negative (ofDigits 10 ds))
  else .error .malformed

/-- The nearest float to `n · 10 ^ e`. -/
def floatOfDecimal (negative : Bool) (n : Nat) (e : Int) : Float :=
  let top := e + digitCount n
  let x :=
    if n = 0 then 0.0
    else if 400 < top then 1.0 / 0.0
    else if top < -400 then 0.0
    else Float.ofScientific n (decide (e < 0)) e.natAbs
  if negative then -x else x

/-- The digits of a fraction after its point, and what follows them. -/
def takeFraction : List Char → List Nat × List Char
  | '.' :: cs => digitRun false cs
  | cs => ([], cs)

/-- An exponent, zero if there is none. -/
def takeExponent? : List Char → Option (Int × List Char)
  | [] => some (0, [])
  | c :: cs =>
    if c = 'e' ∨ c = 'E' then
      let (negative, cs) := takeSign cs
      let (ds, rest) := digitRun false cs
      if ds.isEmpty then none else some (signed negative (ofDigits 10 ds), rest)
    else some (0, c :: cs)

def readFloat? (s : String) : Option Float :=
  let (negative, cs) := takeSign (trimNumeral s.toList)
  let word := String.ofList (cs.map Char.toLower)
  if word = "inf" ∨ word = "infinity" then some (if negative then -(1.0 / 0.0) else 1.0 / 0.0)
  else if word = "nan" then some (0.0 / 0.0)
  else
    let (whole, rest) := digitRun false cs
    let (fraction, rest) := takeFraction rest
    if whole.isEmpty && fraction.isEmpty then none
    else match takeExponent? rest with
      | some (e, []) =>
        some (floatOfDecimal negative (ofDigits 10 (whole ++ fraction)) (e - fraction.length))
      | _ => none

/-- The nearest float to an integer; none if every float is too small. -/
def floatOfInt? (n : Int) : Option Float :=
  let x := floatOfDecimal (decide (n < 0)) n.natAbs 0
  if isFinite x then some x else none

end RestOperations.Decimal
