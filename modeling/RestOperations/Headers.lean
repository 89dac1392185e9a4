import RestOperations.Text.Case
import RestOperations.Value.Display
import RestOperations.Value.Members

/-!
Header fields in the order in which they came. Names are found whatever their case, and a name that
is repeated keeps all its values.
-/

namespace RestOperations

structure Headers where
  fields : List (String × Value)
deriving Inhabited

namespace Headers

def named (h : Headers) (name : String) : List (String × Value) :=
  h.fields.filter fun f => Text.sameLetters f.1 name

def contains (h : Headers) (name : String) : Bool := !(h.named name).isEmpty

def getAll (h : Headers) (name : String) : List Value := (h.named name).map (·.2)

/-- The first value of the name. -/
def get? (h : Headers) (name : String) : Option Value := (h.getAll name).head?

/-- The first field of each name. -/
def firsts : List (String × Value) → List (String × Value)
  | [] => []
  | f :: fs => f :: (firsts fs).filter fun g => !Text.sameLetters g.1 f.1

/-- One member for each name, spelled as it came first and with the value that came first. This takes
for granted how fields that are found whatever their case become a plain map: that each name is come
to once, in its first spelling, and gives its first value. -/
def toMap (h : Headers) : Value := .map ((firsts h.fields).map fun (k, v) => (.str k, v))

end Headers

end RestOperations
