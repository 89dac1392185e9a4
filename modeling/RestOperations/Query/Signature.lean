import RestOperations.Query.Item

/-!
What arguments a function takes. Each parameter accepts some kinds of item and may be optional; an
array parameter takes a single item for an array of one, and says of what kind the items are; the
first parameter may be the context.

The kinds of the arguments are matched against the parameters from the left, each taking an argument
if the rest can still be matched.
-/

namespace RestOperations.Query

inductive Kind
  | string | number | boolean | null | array | object | function | missing
deriving DecidableEq, Repr

def Item.kind : Item → Kind
  | .missing => .missing
  | .null => .null
  | .bool _ => .boolean
  | .int _ => .number
  | .float _ => .number
  | .str _ => .string
  | .array _ _ => .array
  | .object _ => .object
  | .builtin _ => .function
  | .closure .. => .function
  | .pending .. => .missing

/-- Which kinds a parameter accepts, besides the lack of a value. -/
inductive Accepts
  | only (kinds : List Kind)
  /-- An array, or one item for it; with the kind its items must have. -/
  | arrayOf (kind : Option Kind)
  | anything
  | anyData
deriving DecidableEq, Repr

structure Param where
  accepts : Accepts
  fromContext : Bool
  optional : Bool
deriving DecidableEq, Repr

namespace Param

def takes (p : Param) (k : Kind) : Bool :=
  match p.accepts with
  | .only ks => ks.contains k || (k == .missing && ks != [.function])
  | .arrayOf _ => true
  | .anything => true
  | .anyData => k != .function

def needed (a : Accepts) : Param := ⟨a, false, false⟩
def context (a : Accepts) : Param := ⟨a, true, false⟩
def maybe (a : Accepts) : Param := ⟨a, false, true⟩

def canSkip (p : Param) : Bool := p.fromContext || p.optional

end Param

/-- For each parameter whether it takes an argument. -/
def assign : List Param → List Kind → Option (List Bool)
  | [], [] => some []
  | [], _ :: _ => none
  | p :: ps, [] => if p.canSkip then (assign ps []).map (false :: ·) else none
  | p :: ps, k :: ks =>
    match (if p.takes k then assign ps ks else none) with
    | some rest => some (true :: rest)
    | none => if p.canSkip then (assign ps (k :: ks)).map (false :: ·) else none

/-- An argument as its parameter wants it. -/
def Param.receive (p : Param) (x : Item) : Except Failure Item :=
  match p.accepts, x with
  | .arrayOf _, .missing => .ok .missing
  | .arrayOf kind?, .array o xs =>
    if kind?.any fun k => xs.any (·.kind != k) then .error (.coded "T0412") else .ok (.array o xs)
  | .arrayOf kind?, x =>
    if kind?.any (· != x.kind) then .error (.coded "T0412") else .ok (.list [x])
  | _, x => .ok x

/-- The value of a parameter that takes no argument, and the arguments that are left. -/
def Param.skip (p : Param) (context : Item) (args : List Item) : Except Failure (Item × List Item) :=
  if p.fromContext then
    if p.takes context.kind then .ok (context, args) else .error (.coded "T0411")
  else .ok (args.headD .missing, args.tail)

def receiveAll (context : Item) : List Param → List Bool → List Item → Except Failure (List Item)
  | p :: ps, true :: bs, x :: xs => do
    let x ← p.receive x
    let rest ← receiveAll context ps bs xs
    .ok (x :: rest)
  | p :: ps, _ :: bs, xs => do
    let (x, xs) ← p.skip context xs
    let rest ← receiveAll context ps bs xs
    .ok (x :: rest)
  | _, _, _ => .ok []

/-- The arguments as the function gets them, one for each parameter. -/
def validate (params : List Param) (context : Item) (args : List Item) :
    Except Failure (List Item) :=
  match assign params (args.map Item.kind) with
  | none => .error (.coded "T0410")
  | some taken => receiveAll context params taken args

namespace Builtin

def params (f : Builtin) : List Param :=
  let s := Accepts.only [.string]
  let n := Accepts.only [.number]
  let b := Accepts.only [.boolean]
  let o := Accepts.only [.object]
  let fn := Accepts.only [.function]
  let text := Accepts.only [.string, .function]
  let numbers := Accepts.arrayOf (some .number)
  let items := Accepts.arrayOf none
  match f with
  | uppercase | lowercase | length | trim => [.context s]
  | substring => [.context s, .needed n, .maybe n]
  | substringBefore | substringAfter => [.context s, .needed s]
  | contains => [.context s, .needed text]
  | split => [.context s, .needed text, .maybe n]
  | join => [.needed (.arrayOf (some .string)), .maybe s]
  | pad => [.context s, .needed n, .maybe s]
  | replace => [.context s, .needed text, .needed text, .maybe n]
  | string => [.context .anything, .maybe b]
  | number => [.context (.only [.number, .string, .boolean])]
  | boolean | not => [.context .anything]
  | present => [.needed .anything]
  | count => [.needed items]
  | sum | max | min | average => [.needed numbers]
  | abs | floor | ceil | sqrt => [.context n]
  | round => [.context n, .maybe n]
  | power => [.context n, .needed n]
  | append => [.needed .anything, .needed .anything]
  | reverse => [.needed items]
  | sort => [.needed items, .maybe fn]
  | distinct => [.needed .anything]
  | keys => [.context .anything]
  | lookup => [.context .anything, .needed s]
  | merge => [.needed (.arrayOf (some .object))]
  | spread => [.context .anything]
  | type => [.needed .anything]
  | map | filter => [.needed items, .needed fn]
  | single => [.needed items, .maybe fn]
  | reduce => [.needed items, .needed fn, .maybe .anyData]
  | each => [.context o, .needed fn]
  | error => [.maybe s]
  | assert => [.needed b, .maybe s]

def names : List (String × Builtin) :=
  [("uppercase", uppercase), ("lowercase", lowercase), ("length", length),
    ("substring", substring), ("substringBefore", substringBefore),
    ("substringAfter", substringAfter), ("trim", trim), ("contains", contains), ("split", split),
    ("join", join), ("pad", pad), ("replace", replace), ("string", string), ("number", number),
    ("boolean", boolean), ("not", not), ("exists", present), ("count", count), ("sum", sum),
    ("max", max), ("min", min), ("average", average), ("abs", abs), ("floor", floor),
    ("ceil", ceil), ("round", round), ("power", power), ("sqrt", sqrt), ("append", append),
    ("reverse", reverse), ("sort", sort), ("distinct", distinct), ("keys", keys),
    ("lookup", lookup), ("merge", merge), ("spread", spread), ("type", type), ("map", map),
    ("filter", filter), ("reduce", reduce), ("each", each), ("single", single),
    ("error", error), ("assert", assert)]

def named? (s : String) : Option Builtin := (names.find? (·.1 == s)).map (·.2)

/-- How many arguments the function needs at least. -/
def arity (f : Builtin) : Nat := (f.params.filter fun p => !p.canSkip).length

end Builtin

end RestOperations.Query
