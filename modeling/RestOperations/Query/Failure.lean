import RestOperations.Text.Quoted

/-!
What goes wrong in an expression. The language gives its errors codes; a few faults of arithmetic and
of number texts have no code but a text.
-/

namespace RestOperations.Query

inductive Failure
  /-- An error of the language, by its code. -/
  | coded (code : String)
  | divisionByZero
  | remainderByZero
  | tooLarge
  | notNumber (s : String)
  | notHexadecimal (s : String)
  | belowStart
  | unfit (function : String)
  | unordered (left right : String)
  | tooDeep
deriving DecidableEq, Repr

namespace Failure

/-- The text of a fault; the language words its own errors, which have none here. -/
def text : Failure → String
  | coded _ => ""
  | divisionByZero => "float division by zero"
  | remainderByZero => "math domain error"
  | tooLarge => "int too large to convert to float"
  | notNumber s => "could not convert string to float: " ++ Text.quote s
  | notHexadecimal s => "invalid literal for int() with base 16: " ++ Text.quote s
  | belowStart => "list index out of range"
  | unfit f => "argument of the wrong kind for " ++ f
  | unordered a b => "'<' not supported between instances of '" ++ a ++ "' and '" ++ b ++ "'"
  | tooDeep => "maximum recursion depth exceeded"

end Failure

end RestOperations.Query
