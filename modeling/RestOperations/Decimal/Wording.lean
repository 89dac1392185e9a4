import RestOperations.Decimal.Numeral
import RestOperations.Text.Quoted

/-!
How messages say that a text is no number.
-/

namespace RestOperations.Decimal

/-- How much of a text a message about integers shows. -/
def shownLength : Nat := 200

/-- What is wrong with a text or with octets, as they are shown. -/
def literalMessage (base : Nat) (shown : String) : String :=
  "invalid literal for int() with base " ++ toString base ++ ": " ++
    String.ofList (shown.toList.take shownLength)

def integerMessage (base : Nat) (s : String) : String := literalMessage base (Text.quote s)

/-- Octets are cut before they are shown, and then once more. -/
def octetsMessage (base : Nat) (bs : List UInt8) : String :=
  literalMessage base (Text.quoteOctets (bs.take shownLength))

def digitsMessage (digits : Nat) : String :=
  "Exceeds the limit (" ++ toString digitLimit ++
    " digits) for integer string conversion: value has " ++ toString digits ++
    " digits; use sys.set_int_max_str_digits() to increase the limit"

def notFloatMessage (shown : String) : String := "could not convert string to float: " ++ shown

def floatMessage (s : String) : String := notFloatMessage (Text.quote s)

end RestOperations.Decimal
