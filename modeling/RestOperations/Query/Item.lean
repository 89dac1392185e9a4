import RestOperations.Query.Syntax
import RestOperations.Value.Members

/-!
What expressions work with: the values of JSON, functions, and the lack of a value. Arrays carry how
they came about, since a sequence that holds one item stands for that item.

A null that is found as a member is a value of its own; within an array that comes from data it is
the lack of a value, as it has no name to be found by.
-/

namespace RestOperations.Query

/-- How an array came about. -/
structure Origin where
  /-- Results of a path or a filter, which collapse to their only item. -/
  sequence : Bool
  /-- The sequence stays an array even with one item. -/
  keeps : Bool
  /-- An array constructor within a path, whose items stay together. -/
  whole : Bool
  /-- The wrapping of input that is itself an array. -/
  outer : Bool
  /-- Made by the expression, not found in the data. -/
  made : Bool
deriving DecidableEq, Repr

namespace Origin

def data : Origin := ⟨false, false, false, false, false⟩
def fresh : Origin := ⟨false, false, false, false, true⟩
def ofSequence : Origin := ⟨true, false, false, false, true⟩

end Origin

inductive Builtin
  | uppercase | lowercase | length | substring | substringBefore | substringAfter | trim
  | contains | split | join | pad | replace | string | number | boolean | not | present | count
  | sum | max | min | average | abs | floor | ceil | round | power | sqrt | append | reverse
  | sort | distinct | keys | lookup | merge | spread | type | map | filter | reduce | each
  | single | error | assert
deriving DecidableEq, Repr

inductive Item
  | missing
  | null
  | bool (b : Bool)
  | int (n : Int)
  | float (x : Float)
  | str (s : String)
  | array (origin : Origin) (items : List Item)
  | object (members : List (String × Item))
  | builtin (f : Builtin)
  /-- A function with the context and the frame it was made in. -/
  | closure (params : List String) (body : Expr) (context : Item) (frame : Nat)
  /-- A call in last position, left to whoever called the function around it. -/
  | pending (function : Item) (arguments : List Item)
deriving Inhabited

namespace Item

def isMissing : Item → Bool
  | missing => true
  | _ => false

def isFunction : Item → Bool
  | builtin _ => true
  | .closure .. => true
  | _ => false

def list (items : List Item) : Item := array .fresh items

/-- A sequence of the items. -/
def sequence (items : List Item) : Item := array .ofSequence items

/-- The value as a sequence; an array of one item is that sequence already. -/
def toSequence : Item → List Item
  | array _ [x] => [x]
  | x => [x]

/-- The items of an array, or the value as the only one. -/
def items : Item → List Item
  | array _ xs => xs
  | x => [x]

def put (members : List (String × Item)) (k : String) (v : Item) : List (String × Item) :=
  match members with
  | [] => [(k, v)]
  | (k', v') :: rest => if k' = k then (k, v) :: rest else (k', v') :: put rest k v

def get? (members : List (String × Item)) (k : String) : Option Item :=
  (members.find? (·.1 == k)).map (·.2)

/-- A member that is there without a value is null. -/
def named : Item → Item
  | missing => null
  | x => x

mutual

def ofValue : Value → Item
  | .null => missing
  | .bool b => bool b
  | .int n => int n
  | .float x => float x
  | .str s => str s
  | .list xs => array .data (ofValues xs)
  | .tuple xs => array .data (ofValues xs)
  | .map ms => object (ofMembers ms)
  | .set _ => missing
  | .octets _ => missing
  | .date _ => missing
  | .moment _ => missing
  | .function _ => missing

def ofValues : List Value → List Item
  | [] => []
  | x :: xs => ofValue x :: ofValues xs

/-- Members without a text for a key cannot be named and are left out. -/
def ofMembers : List (Value × Value) → List (String × Item)
  | [] => []
  | (.str k, v) :: ms => (k, ofValue v) :: ofMembers ms
  | _ :: ms => ofMembers ms

end

mutual

def toValue : Item → Value
  | missing => .null
  | null => .null
  | bool b => .bool b
  | int n => .int n
  | float x => .float x
  | str s => .str s
  | array _ xs => .list (toValues xs)
  | object ms => .map (toMembers ms)
  | builtin _ => .function "JFunction"
  | .closure .. => .function "Symbol"
  | pending .. => .null

def toValues : List Item → List Value
  | [] => []
  | x :: xs => toValue x :: toValues xs

def toMembers : List (String × Item) → List (Value × Value)
  | [] => []
  | (k, v) :: ms => (.str k, toValue v) :: toMembers ms

end

/-- Numbers are compared by value; a truth value counts as zero or one. -/
def numeric? : Item → Option (Int ⊕ Float)
  | bool b => some (.inl (if b then 1 else 0))
  | int n => some (.inl n)
  | float x => some (match Decimal.whole? x with | some n => .inl n | none => .inr x)
  | _ => none

mutual

def same : Item → Item → Bool
  | missing, missing => true
  | null, null => true
  | str a, str b => a == b
  | array _ xs, array _ ys => sameItems xs ys
  | object ms, object ns => ms.length == ns.length && sameMembers ms ns
  | a, b =>
    match numeric? a, numeric? b with
    | some (.inl m), some (.inl n) => m == n
    | some (.inr x), some (.inr y) => x == y
    | _, _ => false

def sameItems : List Item → List Item → Bool
  | [], [] => true
  | x :: xs, y :: ys => same x y && sameItems xs ys
  | _, _ => false

/-- Every member is also in `ns`. -/
def sameMembers : List (String × Item) → List (String × Item) → Bool
  | [], _ => true
  | (k, v) :: ms, ns =>
    (match get? ns k with | some w => same v w | none => false) && sameMembers ms ns

end

end Item

end RestOperations.Query
