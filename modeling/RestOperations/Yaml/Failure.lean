import RestOperations.Decimal.Wording
import RestOperations.Value.Display

/-!
What goes wrong where a YAML document is read: the text is no YAML, or it is, but a scalar does not
hold what its tag or its form promises.
-/

namespace RestOperations.Yaml

/-- Why numbers make no date or no moment. -/
inductive CalendarError
  | year (n : Nat)
  | month
  | day
  | hour
  | minute
  | second
  | offset (minutes : Int)
deriving DecidableEq, Repr

def CalendarError.message : CalendarError → String
  | year n => "year " ++ toString n ++ " is out of range"
  | month => "month must be in 1..12"
  | day => "day is out of range for month"
  | hour => "hour must be in 0..23"
  | minute => "minute must be in 0..59"
  | second => "second must be in 0..59"
  | offset minutes =>
    "offset must be a timedelta strictly between -timedelta(hours=24) and timedelta(hours=24), not " ++
      spanText minutes ++ "."

inductive ScalarError
  | calendar (e : CalendarError)
  | notTimestamp
  /-- A map that stands for a text where a date or a moment is wanted. -/
  | mappedTimestamp
  | notInteger (base : Nat) (s : String)
  | tooManyDigits (digits : Nat)
  | notNumber (s : String)
  /-- Nothing is left of a number but its sign. -/
  | emptyNumber
  /-- A place of a float in base sixty counts more than floats can say. -/
  | tooManyPlaces
  | unknownWord (word : String)
  | noCharacter (code : Nat)
deriving DecidableEq, Repr

/-- Codes beyond this are not even numbers of characters that do not exist. -/
def charLimit : Nat := 0x7FFFFFFF

def ScalarError.message : ScalarError → String
  | calendar e => e.message
  | notTimestamp => "'NoneType' object has no attribute 'groupdict'"
  | mappedTimestamp => "expected string or bytes-like object, got 'list'"
  | notInteger base s => Decimal.integerMessage base s
  | tooManyDigits n => Decimal.digitsMessage n
  | notNumber s => Decimal.floatMessage s
  | emptyNumber => "string index out of range"
  | tooManyPlaces => "int too large to convert to float"
  | unknownWord word => Text.quote word
  | noCharacter code =>
    if charLimit < code then "Python int too large to convert to C int"
    else "chr() arg not in range(0x110000)"

inductive Failure
  | malformed
  | scalar (e : ScalarError)
deriving DecidableEq, Repr

end RestOperations.Yaml
