import RestOperations.Decimal.Numeral
import RestOperations.Text.Case
import RestOperations.Yaml.Failure
import RestOperations.Yaml.Tag

/-!
Scalars as numbers, truth values, dates and octets. A tag may ask for a reading that the text does not
allow; the reading says why.
-/

namespace RestOperations.Yaml

def refused {α : Type} (e : ScalarError) : Except Failure α := .error (.scalar e)

/-! ### Integers -/

/-- The letter that may stand after a zero to say the base. -/
def baseLetter (base : Nat) : Char := if base = 2 then 'b' else if base = 8 then 'o' else 'x'

def digitIn? (base : Nat) (c : Char) : Option Nat :=
  let d? := match Text.decimalValue? c with
    | some d => some d
    | none =>
      if 'a' ≤ c ∧ c ≤ 'f' then some (c.toNat - 87)
      else if 'A' ≤ c ∧ c ≤ 'F' then some (c.toNat - 55)
      else none
  d?.filter fun d => decide (d < base)

def dropBase (base : Nat) : List Char → List Char
  | '0' :: c :: cs => if c.toLower = baseLetter base then cs else '0' :: c :: cs
  | cs => cs

/-- An integer in base two, eight or sixteen. -/
def readInBase (base : Nat) (s : String) : Except Failure Int :=
  let (negative, cs) := Decimal.takeSign (Decimal.trimNumeral s.toList)
  match (dropBase base cs).mapM (digitIn? base) with
  | some (d :: ds) => .ok (Decimal.signed negative (Decimal.ofDigits base (d :: ds)))
  | _ => refused (.notInteger base s)

def readInTen (s : String) : Except Failure Int :=
  match Decimal.readInt s with
  | .ok n => .ok n
  | .error .malformed => refused (.notInteger 10 s)
  | .error (.tooLong n) => refused (.tooManyDigits n)

def withoutLow (s : String) : List Char := s.toList.filter (· != '_')

/-- The sign, and what follows it; a number is not empty before it. -/
def splitSign (cs : List Char) : Except Failure (Bool × List Char) :=
  if cs.isEmpty then refused .emptyNumber else .ok (Decimal.takeSign cs)

def partsAt (mark : Char) : List Char → List (List Char)
  | [] => [[]]
  | c :: cs =>
    match partsAt mark cs with
    | [] => [[c]]
    | p :: ps => if c = mark then [] :: p :: ps else (c :: p) :: ps

/-- Digits of base sixty. -/
def ofSixtieths (ns : List Int) : Int := ns.foldl (fun n d => n * 60 + d) 0

def readIntText (cs : List Char) : Except Failure Int :=
  match cs with
  | [] => refused .emptyNumber
  | ['0'] => .ok 0
  | '0' :: 'b' :: ds => readInBase 2 (String.ofList ds)
  | '0' :: 'x' :: ds => readInBase 16 (String.ofList ds)
  | '0' :: _ => readInBase 8 (String.ofList cs)
  | cs =>
    if cs.contains ':' then
      ((partsAt ':' cs).mapM fun p => readInTen (String.ofList p)).map ofSixtieths
    else readInTen (String.ofList cs)

def readInt (s : String) : Except Failure Int := do
  let (negative, cs) ← splitSign (withoutLow s)
  let n ← readIntText cs
  .ok (if negative then -n else n)

/-! ### Floats -/

def readFloatText (cs : List Char) : Except Failure Float :=
  match Decimal.readFloat? (String.ofList cs) with
  | some x => .ok x
  | none => refused (.notNumber (String.ofList cs))

/-- The power of sixty that is the first one beyond all floats. -/
def placeLimit : Nat := 174

/-- The parts, each with the power of sixty that it counts, the last one first. -/
def sumSixtieths (xs : List Float) : Float :=
  (xs.reverse.foldl (fun (sum, base) x => (sum + x * Float.ofNat base, base * 60))
    ((0.0 : Float), (1 : Nat))).1

def readSixtieths (cs : List Char) : Except Failure Float := do
  let xs ← (partsAt ':' cs).mapM readFloatText
  if placeLimit < xs.length then refused .tooManyPlaces else .ok (sumSixtieths xs)

def readFloat (s : String) : Except Failure Float := do
  let (negative, cs) ← splitSign (Text.lower (String.ofList (withoutLow s))).toList
  if cs = ".nan".toList then return 0.0 / 0.0
  let x ← if cs = ".inf".toList then .ok (1.0 / 0.0)
    else if cs.contains ':' then readSixtieths cs
    else readFloatText cs
  return if negative then -x else x

/-! ### Truth values -/

def readBool (s : String) : Except Failure Bool :=
  let word := Text.lower s
  match Tag.boolWords.find? (·.1 == word) with
  | some (_, b) => .ok b
  | none => refused (.unknownWord word)

/-! ### Dates -/

def isLeap (year : Nat) : Bool := (year % 4 == 0 && year % 100 != 0) || year % 400 == 0

def daysIn (year month : Nat) : Nat :=
  if month = 2 then (if isLeap year then 29 else 28)
  else if month = 4 ∨ month = 6 ∨ month = 9 ∨ month = 11 then 30
  else 31

def dateOf (year month day : Nat) : Except CalendarError Date :=
  if year < 1 then .error (.year year)
  else if month < 1 ∨ 12 < month then .error .month
  else if day < 1 ∨ daysIn year month < day then .error .day
  else .ok ⟨year, month, day⟩

def minutesInDay : Nat := 1440

def offsetOf : Option (Bool × Nat) → Except CalendarError (Option Int)
  | none => .ok none
  | some (west, n) =>
    let offset : Int := if west then -n else n
    if minutesInDay ≤ n then .error (.offset offset) else .ok (some offset)

/-- The first six digits as millionths. -/
def microsecondsOf (fraction : List Char) : Nat :=
  Tag.natOf ((fraction ++ List.replicate 6 '0').take 6)

def momentOf (s : Tag.Stamp) (c : Tag.Clock) : Except CalendarError Moment := do
  let offset ← offsetOf c.offset
  let date ← dateOf s.year (Tag.natOf s.month) (Tag.natOf s.day)
  if 23 < c.hour then .error .hour
  else if 59 < c.minute then .error .minute
  else if 59 < c.second then .error .second
  else .ok ⟨date, c.hour, c.minute, c.second, microsecondsOf c.fraction, offset⟩

def valueOfStamp (s : Tag.Stamp) : Except CalendarError Value :=
  match s.clock with
  | none => (dateOf s.year (Tag.natOf s.month) (Tag.natOf s.day)).map .date
  | some c => (momentOf s c).map .moment

def readTimestamp (s : String) : Except Failure Value :=
  match Tag.readStamp? (Tag.withoutBreak s.toList) with
  | none => refused .notTimestamp
  | some stamp => (valueOfStamp stamp).mapError fun e => .scalar (.calendar e)

/-! ### Octets -/

def base64Value? (c : Char) : Option Nat :=
  if 'A' ≤ c ∧ c ≤ 'Z' then some (c.toNat - 65)
  else if 'a' ≤ c ∧ c ≤ 'z' then some (c.toNat - 71)
  else if c.isDigit then some (c.toNat + 4)
  else if c = '+' then some 62
  else if c = '/' then some 63
  else none

/-- Octets from characters of six bits each. `place` tells how many of them are begun, `left` is what
the last one left over, and `pads` counts the signs that fill up the last group. -/
def base64Octets? (place left pads : Nat) : List Char → Option (List UInt8)
  | [] => if place = 0 then some [] else none
  | '=' :: cs =>
    if 2 ≤ place then
      if 4 ≤ place + (pads + 1) then some [] else base64Octets? place left (pads + 1) cs
    else base64Octets? place left pads cs
  | c :: cs =>
    match base64Value? c with
    | none => base64Octets? place left pads cs
    | some v =>
      match place with
      | 0 => base64Octets? 1 v 0 cs
      | 1 => (base64Octets? 2 (v % 16) 0 cs).map (UInt8.ofNat (left * 4 + v / 16) :: ·)
      | 2 => (base64Octets? 3 (v % 4) 0 cs).map (UInt8.ofNat (left * 16 + v / 4) :: ·)
      | _ => (base64Octets? 0 0 0 cs).map (UInt8.ofNat (left * 64 + v) :: ·)

def readOctets (s : String) : Except Failure (List UInt8) :=
  if s.toList.any fun c => decide (127 < c.toNat) then .error .malformed
  else match base64Octets? 0 0 0 s.toList with
    | some bs => .ok bs
    | none => .error .malformed

end RestOperations.Yaml
