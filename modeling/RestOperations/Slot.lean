import RestOperations.Decimal.Numeral

/-!
A slot is a place in a template that a call fills. It names the argument to be filled in, and says
where in the request it ends up, whether the call must provide it, how the argument is converted, and
what to take if there is none. A slot whose name is a number takes the argument at that position.
-/

namespace RestOperations

inductive Destination
  | path
  | query
  | header
  | body
deriving DecidableEq, Repr

def Destination.name : Destination → String
  | path => "path"
  | query => "query"
  | header => "header"
  | body => "body"

/-- How an argument is converted. A conversion of another name yields nothing. -/
inductive Conversion
  | string
  | number
  | integer
  | boolean
  | object
  | other (name : String)
deriving DecidableEq, Repr

namespace Conversion

def name : Conversion → String
  | string => "string"
  | number => "number"
  | integer => "integer"
  | boolean => "boolean"
  | object => "object"
  | other s => s

def ofName (s : String) : Conversion :=
  match s with
  | "string" => string
  | "number" => number
  | "integer" => integer
  | "boolean" => boolean
  | "object" => object
  | s => other s

def isKnown : Conversion → Bool
  | other _ => false
  | _ => true

end Conversion

structure Slot where
  name : String
  destination : Destination
  required : Bool
  conversion : Option Conversion
  default : Option String
deriving DecidableEq, Repr

namespace Slot

/-- The position that the name stands for, if it is all digits. Not all of them can be read. -/
def position (s : Slot) : Except Decimal.NumeralError (Option Nat) :=
  if Text.looksNumeric s.name then (Decimal.readInt s.name).map fun n => some n.toNat
  else .ok none

end Slot

end RestOperations
