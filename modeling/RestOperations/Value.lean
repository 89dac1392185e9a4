/-!
The values that arguments, documents and bodies are made of. A map keeps the order in which its
members arrived and may have keys of any kind; two keys are the same if they are equal as numbers or
equal as texts, so that `1`, `1.0` and `true` name one member.
-/

namespace RestOperations

structure Date where
  year : Nat
  month : Nat
  day : Nat
deriving DecidableEq, Repr

/-- A moment on a calendar; `offset` is the distance from universal time in minutes. -/
structure Moment where
  date : Date
  hour : Nat
  minute : Nat
  second : Nat
  microsecond : Nat
  offset : Option Int
deriving DecidableEq, Repr

inductive Value
  | null
  | bool (b : Bool)
  | int (n : Int)
  | float (x : Float)
  | str (s : String)
  | list (items : List Value)
  /-- A fixed sequence, as an entry of an ordered map is. -/
  | tuple (items : List Value)
  /-- A collection without an order; what is in it stands here as it arrived. -/
  | set (items : List Value)
  | map (members : List (Value × Value))
  | octets (bs : List UInt8)
  | date (d : Date)
  | moment (m : Moment)
  /-- A function that an expression yields; only its kind can be seen. -/
  | function (kind : String)
deriving Inhabited

namespace Value

/-- The kind of a value, as error texts name it. -/
def kind : Value → String
  | null => "NoneType"
  | bool _ => "bool"
  | int _ => "int"
  | float _ => "float"
  | str _ => "str"
  | list _ => "list"
  | tuple _ => "tuple"
  | set _ => "set"
  | map _ => "dict"
  | octets _ => "bytes"
  | date _ => "date"
  | moment _ => "datetime"
  | function kind => kind

def isNull : Value → Bool
  | null => true
  | _ => false

@[simp] theorem isNull_iff {v : Value} : v.isNull = true ↔ v = null := by cases v <;> simp [isNull]

/-- Null, zero and the empty texts and collections count as false. -/
def truthy : Value → Bool
  | null => false
  | bool b => b
  | int n => n != 0
  | float x => x != 0.0
  | str s => !s.isEmpty
  | list xs => !xs.isEmpty
  | tuple xs => !xs.isEmpty
  | set xs => !xs.isEmpty
  | map ms => !ms.isEmpty
  | octets bs => !bs.isEmpty
  | date _ => true
  | moment _ => true
  | function _ => true

def ofTexts (texts : List String) : Value := list (texts.map str)

end Value

end RestOperations
