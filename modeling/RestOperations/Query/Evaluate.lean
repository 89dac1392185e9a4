import RestOperations.Query.Functions
import RestOperations.Query.Parse

/-!
The value of an expression in a context. Variables live in frames, which functions keep alive and
which a later binding may extend, so the frames are the state of an evaluation.

Each rule says how a form is evaluated given an engine for its parts, and the engine of depth `n + 1`
applies the rules with the engine of depth `n` for the parts. Depth is the only thing that runs out.
-/

namespace RestOperations.Query

/-- The variables of a block or a function call, and the frame around it. -/
structure Frame where
  bindings : List (String × Item)
  parent : Option Nat

abbrev Run := StateT (Array Frame) (Except Failure)

/-- How the parts of an expression are evaluated, and functions called. -/
structure Engine where
  eval : Expr → (context : Item) → (frame : Nat) → Run Item
  call : (function : Item) → (arguments : List Item) → (context : Item) → Run Item

namespace Run

def fail {α : Type} (code : String) : Run α := throw (.coded code)

def newFrame (parent : Nat) (bindings : List (String × Item)) : Run Nat := do
  let frames ← get
  set (frames.push ⟨bindings, some parent⟩)
  return frames.size

def bind (frame : Nat) (name : String) (value : Item) : Run Unit :=
  modify fun frames => frames.modify frame fun f =>
    { f with bindings := Item.put f.bindings name value }

/-- Looks outwards from a frame; `fuel` bounds how far. -/
def find? (frames : Array Frame) (name : String) : (fuel frame : Nat) → Option Item
  | 0, _ => none
  | fuel + 1, frame =>
    match frames[frame]? with
    | none => none
    | some f =>
      match Item.get? f.bindings name with
      | some v => some v
      | none => f.parent.bind (find? frames name fuel)

/-- The value of a variable; functions of the language stand outside all frames. -/
def variableValue (frame : Nat) (name : String) : Run Item := do
  let frames ← get
  return (find? frames name (frames.size + 1) frame).getD
    (((Builtin.named? name).map Item.builtin).getD .missing)

end Run

namespace Engine

variable (k : Engine)

/-! ### Filters and groups -/

/-- The place of an index in `n` items. An index below zero counts from the end. -/
def place? (n : Nat) (index : Int) : Except Failure (Option Nat) :=
  let i := if index < 0 then n + index else index
  if 0 ≤ i then .ok (if i < n then some i.toNat else none)
  -- One more turn is taken below the start.
  else if 0 ≤ n + i then .ok (some (n + i).toNat)
  else .error .belowStart

def literalIndex? (e : Expr) : Option Int :=
  match e.form with
  | .integer n => some n
  | .real x => Decimal.truncate? x
  | _ => none

def allNumbers : List Item → Except Failure Bool
  | [] => .ok true
  | x :: xs => do if ← x.isNumber then allNumbers xs else .ok false

/-- Whether a filter keeps the item at `index` of `n`: its result is a list of indexes, or a truth. -/
def keeps (n index : Nat) (result : Item) : Except Failure Bool := do
  let indexes? ← match result with
    | .array _ xs => do if ← allNumbers xs then pure (some xs) else pure none
    | x => do if ← x.isNumber then pure (some [x]) else pure none
  match indexes? with
  | some xs => return xs.any fun x =>
      match x.toInt? with
      | some i => (if i < 0 then n + i else i) == index
      | none => false
  | none => return result.truth

def filter (predicate : Expr) (input : Item) (frame : Nat) : Run Item := do
  let xs := match input with | .array _ xs => xs | x => x.toSequence
  match literalIndex? predicate with
  | some index =>
    match ← place? xs.length index with
    | none => return .sequence []
    | some i =>
      match xs[i]?.getD .missing with
      | .missing => return .sequence []
      | .array o ys => return .array o ys
      | x => return .sequence [x]
  | none => do
    let kept ← xs.zipIdx.filterM fun (x, i) => do
      keeps xs.length i (← k.eval predicate x frame)
    return .sequence (kept.map (·.1))

def filterAll (predicates : List Expr) (input : Item) (frame : Nat) : Run Item :=
  predicates.foldlM (fun x p => filter k p x frame) input

/-- The items of one group, and which pair they were grouped by. -/
structure Group where
  key : String
  data : Item
  pair : Nat

def addToGroup (groups : List Group) (key : String) (x : Item) (pair : Nat) :
    Except Failure (List Group) :=
  match groups with
  | [] => .ok [⟨key, x, pair⟩]
  | g :: gs =>
    if g.key = key then
      if g.pair = pair then .ok (⟨key, Item.append g.data x, pair⟩ :: gs)
      else .error (.coded "D1009")
    else (addToGroup gs key x pair).map (g :: ·)

/-- An object with a member for each key that the items yield. -/
def group (pairs : List (Expr × Expr)) (input : Item) (frame : Nat) : Run Item := do
  let xs := match input with | .array _ xs => xs | x => x.toSequence
  let xs := if xs.isEmpty then [.missing] else xs
  let groups ← xs.foldlM (fun groups x =>
    pairs.zipIdx.foldlM (fun groups (pair, i) => do
      match ← k.eval pair.1 x frame with
      | .str key => addToGroup groups key x i
      | .missing => return groups
      | _ => Run.fail "T1003") groups) []
  let members ← groups.filterMapM fun g => do
    match pairs[g.pair]? with
    | none => return none
    | some pair =>
      match ← k.eval pair.2 g.data frame with
      | .missing => return none
      | v => return some (g.key, v)
  return .object members

/-! ### Sorting -/

/-- The order of two sort keys; what has none comes last. -/
def compareKeys (a b : Item) (descends : Bool) : Except Failure Ordering :=
  match a, b with
  | .missing, .missing => .ok .eq
  | .missing, _ => .ok .gt
  | _, .missing => .ok .lt
  | .str s, .str t =>
    .ok (turned (if s = t then .eq else if s < t then .lt else .gt))
  | a, b =>
    if a.isNumeric && b.isNumeric then
      .ok (turned (if Item.lessNumber a b then .lt else if Item.lessNumber b a then .gt else .eq))
    else if (a.isNumeric || a.isText) && (b.isNumeric || b.isText) then .error (.coded "T2007")
    else .error (.coded "T2008")
where turned (o : Ordering) : Ordering := if descends then o.swap else o

def compareBy (frame : Nat) (a b : Item) : List (Bool × Expr) → Run Ordering
  | [] => return .eq
  | (descends, e) :: terms => do
    let x ← k.eval e a frame
    let y ← k.eval e b frame
    match ← compareKeys x y descends with
    | .eq => compareBy frame a b terms
    | o => return o

def sort (terms : List (Bool × Expr)) (input : Item) (frame : Nat) : Run Item := do
  match input with
  | .array o xs =>
    if xs.length ≤ 1 then return .array o xs
    return .array .data
      (← Builtin.sortBy (fun a b => return (← compareBy k frame a b terms) == .lt) xs)
  | x => return x

/-! ### Paths -/

/-- The items of the results, where only an array kept whole is one item. -/
def flattened : List Item → List Item
  | [] => []
  | .array o xs :: rest => (if o.whole then [.array o xs] else xs) ++ flattened rest
  | x :: rest => x :: flattened rest

def step (e : Expr) (input : Item) (frame : Nat) (last : Bool) : Run Item := do
  match e.form with
  | .sort terms => filterAll k e.stages (← sort k terms input frame) frame
  | _ => do
    let results ← input.items.mapM fun x => do
      filterAll k e.stages (← k.eval e x frame) frame
    let results := results.filter (!·.isMissing)
    match last, results with
    | true, [.array o xs] => return if o.sequence then .sequence xs else .array o xs
    | _, _ => return .sequence (flattened results)

/-- Whether the first step of a path is an array that is kept whole. -/
def startsWhole (e : Expr) : Bool :=
  let isWhole (e : Expr) : Bool := match e.form with | .array _ whole => whole | _ => false
  match e.form with
  | .array _ whole => whole
  | .block body => body.any fun part =>
    match part.form with
    | .path (first :: _) _ => isWhole first
    | _ => isWhole part
  | _ => false

def isEmptyResult : Item → Bool
  | .missing => true
  | .array _ [] => true
  | _ => false

def steps (frame : Nat) : List Expr → Item → Run Item
  | [], x => return x
  | e :: es, x => do
    let y ← step k e x frame es.isEmpty
    if isEmptyResult y then return y else steps frame es y

def keepSingleton : Item → Item
  | .array o xs =>
    if o.whole && !o.sequence then
      .array { Origin.ofSequence with keeps := true } (Item.array o xs).toSequence
    else .array { o with keeps := true, made := true } xs
  | x => x

def path (es : List Expr) (keep : Bool) (pairs : Option (List (Expr × Expr))) (input : Item)
    (frame : Nat) : Run Item := do
  match es with
  | [] => return .missing
  | first :: rest =>
    let isVariable := match first.form with | .var _ => true | _ => false
    let start := match input with
      | .array o xs => if isVariable then .sequence input.toSequence else .array o xs
      | x => .sequence x.toSequence
    let result ← if startsWhole first then do
        let y ← k.eval first start frame
        if isEmptyResult y then pure y else steps k frame rest y
      else steps k frame es start
    let result := if keep then keepSingleton result else result
    match pairs with
    | some pairs => group k pairs result frame
    | none => return result

/-! ### Members of any name -/

def wildcardOf (x : Item) (found : Item) : Item :=
  match x with
  | .array _ _ => Item.append found (.list x.flatten)
  | x => match found with
    | .array o xs => .array o (xs ++ [x])
    | y => y

/-- All members of an object, and of the objects of an array; arrays among them are flattened. -/
def wildcard (input : Item) : Item :=
  match input with
  | .array o (x :: xs) => if o.outer then ofSingle x else ofItems (x :: xs)
  | x => ofSingle x
where
  ofMembers (ms : List (String × Item)) : Item :=
    ms.foldl (fun found m => wildcardOf m.2 found) (.sequence [])
  ofItems (xs : List Item) : Item :=
    xs.foldl (fun found x =>
      match x, found with
      | .object ms, .array o ys => .array o (ys ++ (ofMembers ms).items)
      | x, found => wildcardOf x found) (.sequence [])
  ofSingle : Item → Item
    | .object ms => ofMembers ms
    | .array _ xs => ofItems xs
    | _ => .sequence []

mutual

/-- The item and everything within it, arrays aside. -/
def within : Item → List Item
  | .array _ xs => withinAll xs
  | .object ms => .object ms :: withinMembers ms
  | x => [x]

def withinAll : List Item → List Item
  | [] => []
  | x :: xs => within x ++ withinAll xs

def withinMembers : List (String × Item) → List Item
  | [] => []
  | (_, x) :: ms => within x ++ withinMembers ms

end

def descendants (input : Item) : Item :=
  match input with
  | .missing => .missing
  | x =>
    match within x with
    | [y] => y
    | ys => .sequence ys

/-! ### Operators -/

def arithmetic (op : BinaryOp) (a b : Item) : Except Failure Item := do
  if !a.isMissing && !(← a.isNumber) then throw (.coded "T2001")
  if !b.isMissing && !(← b.isNumber) then throw (.coded "T2002")
  if a.isMissing || b.isMissing then return .missing
  let x ← a.toFloat
  let y ← b.toFloat
  match op with
  | .add => Item.ofFloat (x + y)
  | .subtract => Item.ofFloat (x - y)
  | .multiply => Item.ofFloat (x * y)
  | .divide => if y == 0.0 then throw .divisionByZero else Item.ofFloat (x / y)
  | _ => if y == 0.0 then throw .remainderByZero else Item.ofFloat (remainder x y)
where
  /-- What is left of `x`, with its sign, after taking away whole multiples of `y`. -/
  remainder (x y : Float) : Float :=
    match Decimal.classify x, Decimal.classify y with
    | .finite negative a, .finite _ b =>
      -- Both numbers are multiples of the smaller unit.
      let e := min a.exponent b.exponent
      let r := (a.mantissa * Decimal.twoTo (a.exponent - e).toNat) %
        (b.mantissa * Decimal.twoTo (b.exponent - e).toNat)
      let size := if 0 ≤ e then Decimal.floatOfDecimal false (r * Decimal.twoTo e.toNat) 0
        else Decimal.floatOfDecimal false (r * Nat.pow 5 (-e).toNat) e
      if negative then -size else size
    | _, _ => x

def equal (a b : Item) : Except Failure Bool := do
  if a.isMissing || b.isMissing then return false
  if a.isNumeric && b.isNumeric then return (← a.toFloat) == (← b.toFloat)
  return a.same b

def comparable (x : Item) : Bool := x.isMissing || x.isNumeric || x.isText

def compare (op : BinaryOp) (a b : Item) : Except Failure Item :=
  if !comparable a || !comparable b then .error (.coded "T2010")
  else if a.isMissing || b.isMissing then .ok .missing
  else if a.isNumeric != b.isNumeric then .error (.coded "T2009")
  else
    let less (x y : Item) : Bool :=
      if x.isNumeric then Item.lessNumber x y else Item.lessText x y
    .ok (.bool (match op with
      | .less => less a b
      | .lessEqual => less a b || (!less a b && !less b a)
      | .greater => less b a
      | _ => less b a || (!less a b && !less b a)))

def anyEqual (a : Item) : List Item → Except Failure Bool
  | [] => .ok false
  | x :: xs => do if ← equal a x then return true else anyEqual a xs

def binary (op : BinaryOp) (a b : Item) : Except Failure Item :=
  match op with
  | .add | .subtract | .multiply | .divide | .remainder => arithmetic op a b
  | .equal => return .bool (← equal a b)
  | .unequal =>
    if a.isMissing || b.isMissing then .ok (.bool false) else return .bool !(← equal a b)
  | .less | .lessEqual | .greater | .greaterEqual => compare op a b
  | .concat => .ok (.str ((a.text? false).getD "" ++ (b.text? false).getD ""))
  | .member =>
    if a.isMissing || b.isMissing then .ok (.bool false) else return .bool (← anyEqual a b.items)
  | .both => .ok (.bool (a.truth && b.truth))
  | .either => .ok (.bool (a.truth || b.truth))

def negate (x : Item) : Except Failure Item := do
  match x with
  | .missing => return .missing
  | .int n => return .int (-n)
  | .float y => if ← x.isNumber then Item.ofFloat (-y) else throw (.coded "D1002")
  | _ => throw (.coded "D1002")

/-! ### Functions -/

def arity : Item → Nat
  | .builtin f => f.arity
  | .closure params .. => params.length
  | _ => 0

/-- As many of the arguments as the function asks for, and the first in any case. -/
def offered (f : Item) (x y z : Item) : List Item :=
  x :: (if 2 ≤ arity f then [y] else []) ++ (if 3 ≤ arity f then [z] else [])

/-- Calls a function on each item. -/
def callEach (f whole : Item) (xs : List Item) (call : Item → List Item → Run Item) :
    Run (List (Item × Item)) :=
  xs.zipIdx.mapM fun (x, i) => do return (x, ← call f (offered f x (.int i) whole))

def single (f whole : Item) (xs : List Item) (call : Item → List Item → Run Item) : Run Item := do
  let found ← xs.zipIdx.foldlM (fun (found : Option Item) (x, i) => do
    let fits ← if f.isMissing then pure true
      else do pure (← call f (offered f x (.int i) whole)).truth
    match fits, found with
    | true, some _ => Run.fail "D3138"
    | true, none => return some x
    | false, _ => return found) none
  match found with
  | some x => return x
  | none => Run.fail "D3139"

def reduce (f whole : Item) (xs : List Item) (start : Item) (call : Item → List Item → Run Item) :
    Run Item := do
  if arity f < 2 then Run.fail "D3050"
  let (first, rest) := match start, xs.zipIdx with
    | .missing, (x, _) :: rest => (x, rest)
    | x, rest => (x, rest)
  rest.foldlM (fun acc (x, i) =>
    call f ([acc, x] ++ (if 3 ≤ arity f then [.int i] else []) ++
      (if 4 ≤ arity f then [whole] else []))) first

/-- A function of the language on arguments that fit. Functions that it calls get their arguments
as they are. -/
def runBuiltin (f : Builtin) (args : List Item) : Run Item := do
  let args := args ++ List.replicate (f.params.length - args.length) .missing
  let result ← match f, args with
    | .map, .array o xs :: g :: _ => do
      let ys ← callEach g (.array o xs) xs call
      pure (.sequence ((ys.map (·.2)).filter (!·.isMissing)))
    | .filter, .array o xs :: g :: _ => do
      let ys ← callEach g (.array o xs) xs call
      pure (.sequence ((ys.filter (·.2.truth)).map (·.1)))
    | .reduce, .array o xs :: g :: start :: _ => reduce g (.array o xs) xs start call
    | .single, .array o xs :: g :: _ => single g (.array o xs) xs call
    | .each, .object ms :: g :: _ => do
      let ys ← ms.mapM fun (name, x) => call g (offered g x (.str name) (.object ms))
      pure (.sequence (ys.filter (!·.isMissing)))
    | .sort, .array _ xs :: g :: _ =>
      if g.isMissing || decide (xs.length ≤ 1) then pure (← f.run args)
      else do
        pure (.array .data (← Builtin.sortBy (fun a b => return !(← call g [a, b]).truth) xs))
    | _, _ => pure (← f.run args)
  Item.settled result
where
  call (g : Item) (args : List Item) : Run Item :=
    match g with
    | .builtin h => do
      Item.settled (← h.run (args ++ List.replicate (h.params.length - args.length) .missing))
    | g => k.call g args .missing

/-- One call; it may leave another one pending. -/
def applyOnce (f : Item) (args : List Item) (context : Item) : Run Item := do
  match f with
  | .builtin f => runBuiltin k f (← validate f.params context args)
  | .closure params body outer frame => do
    k.eval body outer (← Run.newFrame frame (params.zip args))
  | _ => Run.fail "T1006"

/-- Calls until none is pending. -/
def apply : (fuel : Nat) → Item → List Item → Item → Run Item
  | 0, _, _, _ => throw .tooDeep
  | fuel + 1, f, args, context => do
    match ← applyOnce k f args context with
    | .pending g args => apply fuel g args context
    | x => return x

/-- The name a call was meant for, if the dollar sign is forgotten. -/
def bareName? (e : Expr) : Option String :=
  match e.form with
  | .path (first :: _) _ => match first.form with | .field s => some s | _ => none
  | _ => none

/-- A call, with more arguments in front. -/
def invoke (function : Expr) (arguments : List Expr) (front : List Item) (input : Item)
    (frame : Nat) : Run Item := do
  let f ← k.eval function input frame
  if f.isMissing then
    match bareName? function with
    | some name => if !(← Run.variableValue frame name).isMissing then Run.fail "T1005"
    | none => pure ()
  let args ← arguments.mapM fun e => k.eval e input frame
  if f.isMissing then Run.fail "T1006"
  k.call f (front ++ args) input

/-- One function after the other. -/
def chain (f g : Item) (frame : Nat) : Run Item := do
  let inner ← Run.newFrame frame [("f", f), ("g", g)]
  let var (s : String) : Expr := .plain (.var s)
  return .closure ["x"] (.plain (.tailCall (var "g") [.plain (.call (var "f") [var "x"])]))
    .missing inner

def pipe (left right : Expr) (input : Item) (frame : Nat) : Run Item := do
  let x ← k.eval left input frame
  match right.form with
  | .call function arguments => invoke k function arguments [x] input frame
  | _ => do
    let f ← k.eval right input frame
    if !f.isFunction then Run.fail "T2006"
    if x.isFunction then chain x f frame else k.call f [x] .missing

/-! ### Forms -/

def arrayOf (es : List Expr) (whole : Bool) (input : Item) (frame : Nat) : Run Item := do
  let result ← es.foldlM (fun (xs : Item) e => do
    match e.form, ← k.eval e input frame with
    | _, .missing => return xs
    | .array .., x => return .list (xs.items ++ [x])
    | _, x => return Item.append xs x) (.list [])
  return match result with
    | .array o xs => .array { o with whole := whole } xs
    | x => x

def form (e : Expr) (input : Item) (frame : Nat) : Run Item := do
  match e.form with
  | .string s => return .str s
  | .integer n => return .int n
  | .real x => return .float x
  | .constant none => return .null
  | .constant (some b) => return .bool b
  | .field name => return Item.lookup name input
  | .wildcard => return wildcard input
  | .descendants => return descendants input
  | .var "" =>
    return match input with
      | .array o (x :: xs) => if o.outer then x else .array o (x :: xs)
      | x => x
  | .var name => Run.variableValue frame name
  | .negate e => negate (← k.eval e input frame)
  | .array es whole => arrayOf k es whole input frame
  | .object pairs => group k pairs input frame
  | .binary op l r => do
    let a ← k.eval l input frame
    match op, a.truth with
    | .both, false => return .bool false
    | .either, true => return .bool true
    | _, _ => binary op a (← k.eval r input frame)
  | .condition test yes no => do
    if (← k.eval test input frame).truth then k.eval yes input frame
    else match no with
      | some e => k.eval e input frame
      | none => return .missing
  | .block body => do
    let inner ← Run.newFrame frame []
    body.foldlM (fun _ e => k.eval e input inner) .missing
  | .bind name e => do
    let x ← k.eval e input frame
    Run.bind frame name x
    return x
  | .call f args => invoke k f args [] input frame
  | .tailCall f args => do
    let f ← k.eval f input frame
    return .pending f (← args.mapM fun e => k.eval e input frame)
  | .lambda params body => return .closure params body input frame
  | .pipe l r => pipe k l r input frame
  | .path es keep => path k es keep e.group input frame
  | .sort terms => sort k terms input frame

/-- A sequence of one item is that item, unless an array is asked for. -/
def collapse (keepArray : Bool) : Item → Item
  | .array o xs =>
    if o.sequence then
      let o := { o with keeps := o.keeps || keepArray }
      match xs with
      | [] => .missing
      | [x] => if o.keeps then .array o [x] else x
      | xs => .array o xs
    else .array o xs
  | x => x

def isPath (e : Expr) : Bool := match e.form with | .path .. => true | _ => false

def next : Engine where
  eval e input frame := do
    let x ← form k e input frame
    let x ← filterAll k e.filters x frame
    let x ← match isPath e, e.group with
      | false, some pairs => group k pairs x frame
      | _, _ => pure x
    return collapse e.keepArray x
  call f args context := apply k 100000 f args context

def exhausted : Engine where
  eval _ _ _ := throw .tooDeep
  call _ _ _ := throw .tooDeep

/-- The engine that goes `n` levels deep. -/
def ofDepth : Nat → Engine
  | 0 => exhausted
  | n + 1 => next (ofDepth n)

/-- How deep an evaluation may go. One that needs more levels, as a function that calls itself without
end does, fails. -/
def depth : Nat := 1000

end Engine

/-- The input of an evaluation; an array is wrapped, so as to be one context. -/
def inputOf (v : Value) : Item :=
  match Item.ofValue v with
  | .array o xs => .array { Origin.ofSequence with outer := true } (Item.array o xs).toSequence
  | x => x

/-- The value of the expression for the input. -/
def evaluate (e : Expr) (input : Value) : Except Failure Value := do
  let input := inputOf input
  let run := (Engine.ofDepth Engine.depth).eval e input 0
  let x ← run.run' #[⟨[("$", input)], none⟩]
  return x.toValue

end RestOperations.Query
