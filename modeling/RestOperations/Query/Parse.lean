import RestOperations.Query.Syntax
import RestOperations.Query.Token

/-!
Reading an expression by the binding powers of its operators, in two passes. The first one yields the
operators as they are written. The second gathers the dots into paths and hangs filters, groups and
sort terms on the nodes they belong to, and refuses what has no meaning.
-/

namespace RestOperations.Query

/-- An expression as it is written. -/
inductive Raw
  | token (t : Token)
  | wildcard
  | descendants
  | parent
  | negate (e : Raw)
  | array (items : List Raw)
  | object (pairs : List (Raw × Raw))
  | binary (op : BinaryOp) (left right : Raw)
  | dot (left right : Raw)
  | filter (left predicate : Raw)
  | group (left : Raw) (pairs : List (Raw × Raw))
  | order (left : Raw) (terms : List (Bool × Raw))
  | condition (test yes : Raw) (no : Option Raw)
  | block (body : List Raw)
  | bind (name : String) (value : Raw)
  | call (function : Raw) (arguments : List Raw)
  | lambda (params : List String) (body : Raw)
  | pipe (left right : Raw)
  /-- An empty filter: the result stays an array. -/
  | keep (e : Raw)

namespace Raw

/-- The mark goes on the step under the filters. -/
def keepStep : Raw → Raw
  | filter left p => filter left.keepStep p
  | e => keep e

end Raw

/-- The token in hand and the text after it. -/
structure Cursor where
  token : Token
  rest : List Char

abbrev Reader := StateT Cursor (Except Failure)

namespace Reader

def fail {α : Type} (code : String) : Reader α := throw (.coded code)

def isAt (s : String) : Reader Bool := do
  match (← get).token with
  | .operator t => return t == s
  | _ => return false

def isFinished : Reader Bool := do
  match (← get).token with
  | .finish => return true
  | _ => return false

def advance (operand : Bool) : Reader Unit := do
  let (token, rest) ← Token.next operand (← get).rest
  if token.binding?.isNone then fail "S0204"
  set (Cursor.mk token rest)

/-- Passes the operator `s`, which must stand here. -/
def expect (s : String) (operand : Bool) : Reader Unit := do
  if ← isAt s then advance operand
  else if ← isFinished then fail "S0203"
  else fail "S0202"

def binaryOp? (s : String) : Option BinaryOp :=
  match s with
  | "+" => some .add
  | "-" => some .subtract
  | "*" => some .multiply
  | "/" => some .divide
  | "%" => some .remainder
  | "=" => some .equal
  | "!=" => some .unequal
  | "<" => some .less
  | "<=" => some .lessEqual
  | ">" => some .greater
  | ">=" => some .greaterEqual
  | "&" => some .concat
  | "in" => some .member
  | "and" => some .both
  | "or" => some .either
  | _ => none

def paramName : Raw → Reader String
  | .token (.var s) => return s
  | _ => fail "S0208"

mutual

/-- An expression whose operators bind tighter than `power`. -/
def expression : (fuel power : Nat) → Reader Raw
  | 0, _ => fail "S0206"
  | fuel + 1, power => do
    let token := (← get).token
    advance false
    operators fuel power (← operand fuel token)

/-- Goes on with the operators that follow the operand `left`. -/
def operators : (fuel power : Nat) → Raw → Reader Raw
  | 0, _, _ => fail "S0206"
  | fuel + 1, power, left => do
    let token := (← get).token
    let binding := token.binding?.getD 0
    if power < binding then
      advance true
      match token with
      | .operator s => operators fuel power (← operation fuel s binding left)
      | _ => return left
    else return left

/-- An expression that starts with `token`. -/
def operand : (fuel : Nat) → Token → Reader Raw
  | 0, _ => fail "S0206"
  | fuel + 1, .operator s =>
    match s with
    | "and" | "or" | "in" => return .token (.name s)
    | "-" => return .negate (← expression fuel 70)
    | "*" => return .wildcard
    | "**" => return .descendants
    | "%" => return .parent
    | "(" => do
      let body ← sequence fuel ")" ";"
      expect ")" false
      return .block body
    | "[" => do
      let items ← if ← isAt "]" then pure [] else items fuel
      expect "]" false
      return .array items
    | "\x7b" => do
      let pairs ← if ← isAt "\x7d" then pure [] else pairs fuel
      expect "\x7d" false
      return .object pairs
    | "|" => do
      -- Transforms are left out; only the faults within one are told.
      let _ ← expression fuel 0
      expect "|" false
      let _ ← expression fuel 0
      fail "S0211"
    | _ => fail "S0211"
  | _ + 1, token => return .token token

/-- An operator applied to `left`; the token after it is in hand. -/
def operation : (fuel : Nat) → (s : String) → (binding : Nat) → Raw → Reader Raw
  | 0, _, _, _ => fail "S0206"
  | fuel + 1, s, binding, left =>
    match binaryOp? s with
    | some op => return .binary op left (← expression fuel binding)
    | none =>
      match s with
      | "." => return .dot left (← expression fuel binding)
      | "~>" => return .pipe left (← expression fuel binding)
      | "?" => do
        let yes ← expression fuel 0
        if ← isAt ":" then
          advance true
          return .condition left yes (some (← expression fuel 0))
        else return .condition left yes none
      | ":=" =>
        match left with
        | .token (.var name) => return .bind name (← expression fuel (binding - 1))
        | _ => fail "S0212"
      | "[" => do
        if ← isAt "]" then
          advance true
          return left.keepStep
        else
          let predicate ← expression fuel 0
          expect "]" false
          return .filter left predicate
      | "\x7b" => do
        let pairs ← if ← isAt "\x7d" then pure [] else pairs fuel
        expect "\x7d" false
        return .group left pairs
      | "^" => do
        expect "(" true
        let terms ← terms fuel
        expect ")" true
        return .order left terms
      | "(" => do
        let arguments ← if ← isAt ")" then pure [] else items fuel
        expect ")" false
        match left with
        | .token (.name "function") | .token (.name "λ") => do
          let params ← arguments.mapM paramName
          expect "\x7b" true
          let body ← expression fuel 0
          expect "\x7d" true
          return .lambda params body
        | _ => return .call left arguments
      -- Binding a context or a position to a variable belongs to joins.
      | _ => fail "S0214"

/-- Expressions up to `close`, separated by `separator`, which may also end them. -/
def sequence : (fuel : Nat) → (close separator : String) → Reader (List Raw)
  | 0, _, _ => fail "S0206"
  | fuel + 1, close, separator => do
    if ← isAt close then return []
    let e ← expression fuel 0
    if ← isAt separator then
      advance true
      return e :: (← sequence fuel close separator)
    else return [e]

/-- One or more expressions with commas between them. -/
def items : (fuel : Nat) → Reader (List Raw)
  | 0 => fail "S0206"
  | fuel + 1 => do
    let e ← expression fuel 0
    if ← isAt "," then
      advance true
      return e :: (← items fuel)
    else return [e]

def pairs : (fuel : Nat) → Reader (List (Raw × Raw))
  | 0 => fail "S0206"
  | fuel + 1 => do
    let key ← expression fuel 0
    expect ":" true
    let value ← expression fuel 0
    if ← isAt "," then
      advance true
      return (key, value) :: (← pairs fuel)
    else return [(key, value)]

/-- Sort keys; an angle before one gives its direction. -/
def terms : (fuel : Nat) → Reader (List (Bool × Raw))
  | 0 => fail "S0206"
  | fuel + 1 => do
    let descends ← isAt ">"
    if descends || (← isAt "<") then advance true
    let e ← expression fuel 0
    if ← isAt "," then
      advance true
      return (descends, e) :: (← terms fuel)
    else return [(descends, e)]

end

end Reader

namespace Expr

/-- The steps of a path; any other expression is one step. -/
def steps (e : Expr) : List Expr :=
  match e.form with
  | .path steps _ => steps
  | _ => [e]

/-- A text within a path names a member; numbers and constants have no place there. -/
def nameStep (e : Expr) : Except Failure Expr :=
  match e.form with
  | .string s => .ok (e.withForm (.field s))
  | .integer _ => .error (.coded "S0213")
  | .real _ => .error (.coded "S0213")
  | .constant _ => .error (.coded "S0213")
  | _ => .ok e

def keepWhole (e : Expr) : Expr :=
  match e.form with
  | .array items _ => e.withForm (.array items true)
  | _ => e

def onFirst (f : Expr → Expr) : List Expr → List Expr
  | [] => []
  | e :: es => f e :: es

def onLast (f : Expr → Expr) : List Expr → List Expr
  | [] => []
  | [e] => [f e]
  | e :: es => e :: onLast f es

/-- The path of two expressions with a dot between them. -/
def join (left right : Expr) : Except Failure Expr := do
  let rest := match right.form with
    | .path steps _ => steps
    | _ => [right.asStep]
  let steps ← (left.steps ++ rest).mapM nameStep
  let keep := (match left.form with | .path _ k => k | _ => false) || steps.any (·.keepArray)
  let form := Form.path (onFirst keepWhole (onLast keepWhole steps)) keep
  return match left.form with
    | .path _ _ => left.withForm form
    | _ => plain form

/-- A group comes last: nothing may be filtered after it. -/
def endsGrouped (e : Expr) : Bool :=
  match e.form with
  | .path steps _ => (steps.getLast?.bind group).isSome
  | _ => e.group.isSome

def filterBy (e predicate : Expr) : Expr :=
  match e.form with
  | .path steps keep => e.withForm (.path (onLast (·.addStage predicate) steps) keep)
  | _ => e.addFilter predicate

def orderBy (e : Expr) (terms : List (Bool × Expr)) : Expr :=
  match e.form with
  | .path steps keep => e.withForm (.path (steps ++ [plain (.sort terms)]) keep)
  | _ => plain (.path [e, plain (.sort terms)] false)

def negated (e : Expr) : Expr :=
  match e.form with
  | .integer n => e.withForm (.integer (-n))
  | .real x => e.withForm (.real (-x))
  | _ => plain (.negate e)

def ofToken : Token → Except Failure Expr
  | .name s => .ok (plain (.path [plain (.field s)] false))
  | .var s => .ok (plain (.var s))
  | .string s => .ok (plain (.string s))
  | .integer n => .ok (plain (.integer n))
  | .real x => .ok (plain (.real x))
  | .constant b => .ok (plain (.constant b))
  | .operator _ => .error (.coded "S0201")
  | .finish => .error (.coded "S0207")

/-- Marks an expression, and the member that it is, as staying an array. -/
def kept (e : Expr) : Expr :=
  match e.form with
  | .path [node (.field s) _ fs ss g] _ =>
    (e.withForm (.path [node (.field s) true fs ss g] true)).keepingArray
  | _ => e.keepingArray

mutual

/-- With `tail`, the expression is the last thing a function does. -/
def ofRaw (tail : Bool) : Raw → Except Failure Expr
  | .token t => ofToken t
  | .wildcard => .ok (plain .wildcard)
  | .descendants => .ok (plain .descendants)
  | .parent => .error (.coded "S0217")
  | .negate e => return negated (← ofRaw false e)
  | .array items => return plain (.array (← ofRaws items) false)
  | .object ps => return plain (.object (← ofPairs ps))
  | .binary op l r => do
    let l ← ofRaw false l
    return plain (.binary op l (← ofRaw false r))
  | .dot l r => do
    let l ← ofRaw false l
    join l (← ofRaw false r)
  | .filter l p => do
    let l ← ofRaw false l
    if l.endsGrouped then throw (.coded "S0209")
    return filterBy l (← ofRaw false p)
  | .group l ps => do
    let l ← ofRaw false l
    if l.group.isSome then throw (.coded "S0210")
    return l.withGroup (← ofPairs ps)
  | .order l ts => do
    let l ← ofRaw false l
    return orderBy l (← ofTerms ts)
  | .condition t y none => do
    let t ← ofRaw false t
    return plain (.condition t (← ofRaw tail y) none)
  | .condition t y (some n) => do
    let t ← ofRaw false t
    let y ← ofRaw tail y
    return plain (.condition t y (some (← ofRaw tail n)))
  | .block body => return plain (.block (← ofBody tail body))
  | .bind name value => return plain (.bind name (← ofRaw false value))
  | .call f args => do
    let args ← ofRaws args
    let f ← ofRaw false f
    return plain (if tail then .tailCall f args else .call f args)
  | .lambda params body => return plain (.lambda params (← ofRaw true body))
  | .pipe l r => do
    let l ← ofRaw false l
    let r ← ofRaw false r
    let e := plain (.pipe l r)
    return if l.keepArray || r.keepArray then e.keepingArray else e
  | .keep e => return kept (← ofRaw tail e)

def ofRaws : List Raw → Except Failure (List Expr)
  | [] => .ok []
  | e :: es => do
    let e ← ofRaw false e
    return e :: (← ofRaws es)

/-- The expressions of a block, of which the last one gives its value. -/
def ofBody (tail : Bool) : List Raw → Except Failure (List Expr)
  | [] => .ok []
  | [e] => return [← ofRaw tail e]
  | e :: es => do
    let e ← ofRaw false e
    return e :: (← ofBody tail es)

def ofPairs : List (Raw × Raw) → Except Failure (List (Expr × Expr))
  | [] => .ok []
  | (k, v) :: ps => do
    let k ← ofRaw false k
    let v ← ofRaw false v
    return (k, v) :: (← ofPairs ps)

def ofTerms : List (Bool × Raw) → Except Failure (List (Bool × Expr))
  | [] => .ok []
  | (descends, e) :: ts => do
    let e ← ofRaw false e
    return (descends, e) :: (← ofTerms ts)

end

end Expr

/-- Reads a whole expression. -/
def readRaw (source : String) : Except Failure Raw := do
  let cs := source.toList
  let fuel := 8 * cs.length + 16
  let reader : Reader Raw := do
    Reader.advance true
    let e ← Reader.expression fuel 0
    if !(← Reader.isFinished) then Reader.fail "S0201"
    return e
  reader.run' ⟨.finish, cs⟩

def parse (source : String) : Except Failure Expr := do Expr.ofRaw false (← readRaw source)

end RestOperations.Query
