import RestOperations.Query.Failure

/-!
The syntax of expressions. A path is a list of steps, each evaluated in the context of what the one
before it yields; filters, grouping and the demand for an array hang on the node they belong to.

Not all that the language has is here. Patterns between slashes, transforms, ranges, joins and
references to a parent are left out, and an expression with one of them counts as malformed.
-/

namespace RestOperations.Query

inductive BinaryOp
  | add | subtract | multiply | divide | remainder
  | equal | unequal | less | lessEqual | greater | greaterEqual
  | concat | member | both | either
deriving DecidableEq, Repr

mutual

inductive Form
  | string (s : String)
  | integer (n : Int)
  | real (x : Float)
  | constant (b : Option Bool)
  /-- A member of the context. -/
  | field (name : String)
  | wildcard
  | descendants
  | var (name : String)
  | negate (e : Expr)
  /-- With `whole`, a path keeps the array together instead of taking its items. -/
  | array (items : List Expr) (whole : Bool)
  | object (pairs : List (Expr × Expr))
  | binary (op : BinaryOp) (left right : Expr)
  | condition (test yes : Expr) (no : Option Expr)
  | block (body : List Expr)
  | bind (name : String) (value : Expr)
  | call (function : Expr) (arguments : List Expr)
  /-- A call that is the last thing a function does. -/
  | tailCall (function : Expr) (arguments : List Expr)
  | lambda (params : List String) (body : Expr)
  | pipe (left right : Expr)
  | path (steps : List Expr) (keepSingleton : Bool)
  /-- Sort keys, each with whether it descends. -/
  | sort (terms : List (Bool × Expr))

inductive Expr
  | node (form : Form) (keepArray : Bool) (filters stages : List Expr)
      (group : Option (List (Expr × Expr)))

end

namespace Expr

def form : Expr → Form | node f .. => f
def keepArray : Expr → Bool | node _ k .. => k
def filters : Expr → List Expr | node _ _ fs .. => fs
/-- The filters of a step, which apply to each of its results. -/
def stages : Expr → List Expr | node _ _ _ ss _ => ss
def group : Expr → Option (List (Expr × Expr)) | node _ _ _ _ g => g

def plain (f : Form) : Expr := node f false [] [] none

def withForm (e : Expr) (f : Form) : Expr := node f e.keepArray e.filters e.stages e.group
def keepingArray (e : Expr) : Expr := node e.form true e.filters e.stages e.group
def addFilter (e p : Expr) : Expr := node e.form e.keepArray (e.filters ++ [p]) e.stages e.group
def addStage (e p : Expr) : Expr := node e.form e.keepArray e.filters (e.stages ++ [p]) e.group
def withGroup (e : Expr) (pairs : List (Expr × Expr)) : Expr :=
  node e.form e.keepArray e.filters e.stages (some pairs)

/-- As a later step of a path: the filters apply within the step. -/
def asStep (e : Expr) : Expr :=
  if e.filters.isEmpty then e else node e.form e.keepArray [] e.filters e.group

end Expr

end RestOperations.Query
