import RestOperations.Decimal.Numeral
import RestOperations.Decimal.Shortest
import RestOperations.Query.Signature
import RestOperations.Query.Text
import RestOperations.Text.Case

/-!
The functions of the language that call no other function. They take their arguments as the
signatures take them; the lack of a value is passed through by most.
-/

namespace RestOperations.Query

namespace Item

/-- A float result: whole numbers are integers, and there is no infinite number. -/
def ofFloat (x : Float) : Except Failure Item :=
  match Decimal.classify x with
  | .nan => .ok missing
  | .infinite _ => .error (.coded "D1001")
  | .finite _ _ =>
    match Decimal.whole? x with
    | some n => .ok (int n)
    | none => .ok (float x)

/-- Whether an item is a number; an infinite one is an error. -/
def isNumber : Item → Except Failure Bool
  | int _ => .ok true
  | float x =>
    match Decimal.classify x with
    | .nan => .ok false
    | .infinite _ => .error (.coded "D1001")
    | .finite _ _ => .ok true
  | _ => .ok false

def toFloat : Item → Except Failure Float
  | int n =>
    match Decimal.floatOfInt? n with
    | some x => .ok x
    | none => .error .tooLarge
  | float x => .ok x
  | _ => .ok (0.0 / 0.0)

/-- The number without its fraction. -/
def toInt? : Item → Option Int
  | int n => some n
  | float x => Decimal.truncate? x
  | _ => none

def lessNumber : Item → Item → Bool
  | int m, int n => m < n
  | a, b =>
    match a.toFloat, b.toFloat with
    | .ok x, .ok y => x < y
    | _, _ => false

def add : Item → Item → Except Failure Item
  | int m, int n => .ok (int (m + n))
  | a, b => do return float ((← a.toFloat) + (← b.toFloat))

/-- A result of a function, where a whole number is an integer. -/
def settled : Item → Except Failure Item
  | float x => if (Decimal.classify x) = .nan then .ok (float x) else ofFloat x
  | x => .ok x

def isText : Item → Bool
  | str _ => true
  | _ => false

def isNumeric : Item → Bool
  | int _ => true
  | float _ => true
  | _ => false

def lessText : Item → Item → Bool
  | str a, str b => a < b
  | _, _ => false

mutual

/-- All items within arrays within the item. -/
def flatten : Item → List Item
  | array _ xs => flattenAll xs
  | x => [x]

def flattenAll : List Item → List Item
  | [] => []
  | x :: xs => flatten x ++ flattenAll xs

end

/-- Both arrays as one; single items count as arrays, and an array kept whole is one item. -/
def append : Item → Item → Item
  | missing, y => y
  | x, missing => x
  | x, y =>
    let xs := match x with | array _ xs => xs | x => x.toSequence
    let ys := match y with | array o ys => if o.whole then [array o ys] else ys | y => [y]
    list (xs ++ ys)

mutual

/-- The member of that name, of every object in an array. -/
def lookup (key : String) : Item → Item
  | array _ xs => sequence (lookupAll key xs)
  | object ms =>
    match get? ms key with
    | some v => v.named
    | none => missing
  | _ => missing

def lookupAll (key : String) : List Item → List Item
  | [] => []
  | x :: xs =>
    (match lookup key x with
      | missing => []
      | array _ ys => ys
      | y => [y]) ++ lookupAll key xs

end

mutual

def keyNames : Item → List String
  | array _ xs => keyNamesAll xs
  | object ms => ms.map (·.1)
  | _ => []

def keyNamesAll : List Item → List String
  | [] => []
  | x :: xs =>
    let here := keyNames x
    here ++ (keyNamesAll xs).filter (!here.contains ·)

end

mutual

/-- One object for each member. -/
def spread : Item → Item
  | array _ xs => if xs.isEmpty then sequence [] else list (spreadAll xs)
  | object ms => sequence (ms.map fun m => object [m])
  | x => x

def spreadAll : List Item → List Item
  | [] => []
  | x :: xs =>
    (match spread x with
      | missing => []
      | array _ ys => ys
      | y => [y]) ++ spreadAll xs

end

def distinctItems (xs : List Item) : List Item :=
  (xs.foldl (fun kept x => if kept.any (same x) then kept else x :: kept) []).reverse

end Item

namespace TextFunction

def isPrefix (p s : List Char) : Bool := p.isPrefixOf s

/-- The text before the first occurrence of `part`, and the text after it. -/
def cut? (part : List Char) : List Char → Option (List Char × List Char)
  | [] => if part.isEmpty then some ([], []) else none
  | c :: cs =>
    if isPrefix part (c :: cs) then some ([], (c :: cs).drop part.length)
    else (cut? part cs).map fun (a, b) => (c :: a, b)

/-- The parts between the occurrences of a separator that is not empty. -/
def splitOn (separator : List Char) : (fuel : Nat) → List Char → List (List Char)
  | 0, cs => [cs]
  | fuel + 1, cs =>
    match cut? separator cs with
    | some (a, b) => a :: splitOn separator fuel b
    | none => [cs]

def joinWith (separator : List Char) (parts : List (List Char)) : List Char :=
  separator.intercalate parts

/-- Replaces the first occurrence, `times` times over. -/
def replaceFirst (part by' : List Char) : (times : Nat) → List Char → List Char
  | 0, cs => cs
  | times + 1, cs =>
    match cut? part cs with
    | some (a, b) => replaceFirst part by' times (a ++ by' ++ b)
    | none => cs

def isTrimmed (c : Char) : Bool := c == ' ' || c == '\t' || c == '\n' || c == '\r'

/-- One space for each run of blanks. -/
def squeeze : List Char → List Char
  | [] => []
  | c :: cs =>
    if isTrimmed c then
      match squeeze cs with
      | ' ' :: rest => ' ' :: rest
      | rest => ' ' :: rest
    else c :: squeeze cs

def dropSpace : List Char → List Char
  | ' ' :: cs => cs
  | cs => cs

def trim (cs : List Char) : List Char := (dropSpace (dropSpace (squeeze cs)).reverse).reverse

/-- `length` characters from `start`, which counts from the end if it is negative. -/
def substring (cs : List Char) (start : Int) (length? : Option Int) : List Char :=
  let from' := if 0 ≤ start then start.toNat else (cs.length + start).toNat
  match length? with
  | none => cs.drop from'
  | some n => (cs.drop from').take n.toNat

/-- Fills up to `width` characters, on the left if it is negative. -/
def pad (cs : List Char) (width : Int) (filler : List Char) : List Char :=
  let filler := if filler.isEmpty then [' '] else filler
  let room := width.natAbs - cs.length
  let fill := (List.replicate room filler).flatten.take room
  if width < 0 then fill ++ cs else cs ++ fill

end TextFunction

namespace Builtin

open Item

def unfit (f : Builtin) : Failure := .unfit ((names.find? (·.2 == f)).elim "" (·.1))

def textResult (cs : List Char) : Except Failure Item := .ok (str (String.ofList cs))

def kindName : Item → Option String
  | missing => none
  | null => some "null"
  | .bool _ => some "boolean"
  | int _ => some "number"
  | float _ => some "number"
  | str _ => some "string"
  | array .. => some "array"
  | object _ => some "object"
  | builtin _ => some "function"
  | .closure .. => some "function"
  | pending .. => none

/-- A text as a number: in hexadecimal, binary or octal after its mark, else as a decimal. -/
def readNumber (s : String) : Except Failure Item :=
  match s.toList with
  | '0' :: 'x' :: cs =>
    match Text.readHex? cs with
    | some n => .ok (int n)
    | none => .error (.notHexadecimal (String.ofList cs))
  | _ =>
    match Decimal.readFloat? s with
    | some x => settled (float x)
    | none => .error (.notNumber s)

/-- Rounds to a number of places; a half goes to the even neighbour. -/
def roundTo (x : Item) (places : Int) : Except Failure Item :=
  let rounded (negative : Bool) (d : Decimal.Scientific) : Except Failure Item :=
    let r := Decimal.roundAt (d.digits * Decimal.tenTo d.exponent.toNat)
      (Decimal.tenTo (-d.exponent).toNat) (-places)
    ofFloat (Decimal.floatOfDecimal negative r.digits r.exponent)
  match x with
  | int n => rounded (decide (n < 0)) ⟨n.natAbs, 0⟩
  | float x =>
    match Decimal.classify x with
    | .finite negative b => rounded negative (Decimal.shortest b)
    | _ => .ok (float x)
  | x => .ok x

def sumOf (xs : List Item) : Except Failure Item := xs.foldlM add (int 0)

def extreme (better : Item → Item → Bool) : List Item → Item
  | [] => missing
  | x :: xs => xs.foldl (fun best y => if better y best then y else best) x

/-- An insertion point by repeated halving; `before` says whether the new item comes before another. -/
def bisect {m : Type → Type} [Monad m] (before : Item → m Bool) (xs : Array Item) :
    (fuel lo hi : Nat) → m Nat
  | 0, lo, _ => pure lo
  | fuel + 1, lo, hi =>
    if lo < hi then do
      let mid := lo + (hi - lo) / 2
      if ← before (xs[mid]?.getD missing) then bisect before xs fuel lo mid
      else bisect before xs fuel (mid + 1) hi
    else pure lo

/-- The length of the run at the start whose neighbours all compare alike. -/
def runLength {m : Type → Type} [Monad m] (less : Item → Item → m Bool) (falling : Bool) :
    Item → List Item → m Nat
  | _, [] => pure 1
  | x, y :: ys => do
    if (← less y x) = falling then return (← runLength less falling y ys) + 1
    else return 1

/-- Sorts by a comparison that may have effects: a falling run at the start is turned round, and the
items after the first run are inserted, each after those that it does not precede. -/
def sortBy {m : Type → Type} [Monad m] (less : Item → Item → m Bool) (xs : List Item) :
    m (List Item) :=
  match xs with
  | x :: y :: rest => do
    let falling ← less y x
    let n ← runLength less falling y rest
    let run := if falling then (xs.take (n + 1)).reverse else xs.take (n + 1)
    let sorted ← (xs.drop (n + 1)).foldlM (fun (done : Array Item) z => do
      let i ← bisect (less z) done (done.size + 1) 0 done.size
      return (done.toList.take i ++ z :: done.toList.drop i).toArray) run.toArray
    return sorted.toList
  | _ => pure xs

/-- What a failed comparison calls the kind of a value. -/
def orderedKind : Item → String
  | missing => "NoneType"
  | null => "NullValue"
  | .bool _ => "bool"
  | int _ => "int"
  | float _ => "float"
  | str _ => "str"
  | array o _ => if o.made then "JList" else "list"
  | object _ => "dict"
  | _ => "JFunction"

/-- A truth value as the number it counts for. -/
def ofTruth : Item → Item
  | .bool b => int (if b then 1 else 0)
  | x => x

mutual

/-- The order of numbers, of texts, and of arrays by their first difference; nothing else has one. -/
def precedes : Item → Item → Except Failure Bool
  | str a, str b => .ok (a < b)
  | array _ xs, array _ ys => precedesItems xs ys
  | a, b =>
    match numeric? a, numeric? b with
    | some (.inl m), some (.inl n) => .ok (m < n)
    | some _, some _ => .ok (lessNumber (ofTruth a) (ofTruth b))
    | _, _ => .error (.unordered (orderedKind a) (orderedKind b))

def precedesItems : List Item → List Item → Except Failure Bool
  | [], ys => .ok (!ys.isEmpty)
  | _ :: _, [] => .ok false
  | x :: xs, y :: ys => if same x y then precedesItems xs ys else precedes x y

end

/-- The functions on texts. -/
def runText (f : Builtin) (s : List Char) (args : List Item) : Except Failure Item :=
  match f, args with
  | uppercase, _ => .ok (str (Text.upper (String.ofList s)))
  | lowercase, _ => .ok (str (Text.lower (String.ofList s)))
  | length, _ => .ok (int s.length)
  | trim, _ => textResult (TextFunction.trim s)
  | substring, start :: rest =>
    match start.toInt?, rest.head?.bind Item.toInt? with
    | some i, some n => textResult (TextFunction.substring s i (some n))
    | some i, none => textResult (TextFunction.substring s i none)
    | none, _ => .error (unfit f)
  | substringBefore, str p :: _ => textResult ((TextFunction.cut? p.toList s).elim s (·.1))
  | substringBefore, missing :: _ => textResult s
  | substringAfter, str p :: _ => textResult ((TextFunction.cut? p.toList s).elim s (·.2))
  | substringAfter, missing :: _ => textResult s
  | contains, str p :: _ => .ok (Item.bool (TextFunction.cut? p.toList s).isSome)
  | split, str p :: rest =>
    let limit? := rest.head?.bind Item.toInt?
    if limit?.any (· < 0) then .error (.coded "D3020")
    else
      let parts :=
        if p.isEmpty then s.map fun c => [c]
        else TextFunction.splitOn p.toList (s.length + 1) s
      let parts := match limit? with | some n => parts.take n.toNat | none => parts
      .ok (array .data (parts.map fun cs => str (String.ofList cs)))
  | pad, width :: rest =>
    match width.toInt?, rest.head? with
    | some w, some (str c) => textResult (TextFunction.pad s w c.toList)
    | some w, _ => textResult (TextFunction.pad s w [])
    | none, _ => .error (unfit f)
  | replace, str p :: by' :: rest =>
    let by' := ((by'.text? false).getD "").toList
    if p.isEmpty then .error (.coded "D3010")
    else
      match rest.head?.bind Item.toInt? with
      | none =>
        textResult (TextFunction.joinWith by' (TextFunction.splitOn p.toList (s.length + 1) s))
      | some n =>
        if n < 0 then .error (.coded "D3011")
        else textResult (TextFunction.replaceFirst p.toList by' n.toNat s)
  | _, _ => .error (unfit f)

/-- The functions on numbers. -/
def runNumber (f : Builtin) (x : Item) (args : List Item) : Except Failure Item :=
  match f, x, args with
  | abs, int n, _ => .ok (int n.natAbs)
  | abs, float x, _ => settled (float x.abs)
  | floor, int n, _ => .ok (int n)
  | floor, float x, _ => .ok ((Decimal.floor? x).elim (float x) int)
  | ceil, int n, _ => .ok (int n)
  | ceil, float x, _ => .ok ((Decimal.floor? (-x)).elim (float x) (int <| -·))
  | round, x, places => roundTo x ((places.head?.bind Item.toInt?).getD 0)
  | sqrt, x, _ => do
    let v ← x.toFloat
    if v < 0.0 then .error (.coded "D3060") else ofFloat v.sqrt
  | power, x, y :: _ =>
    if y.isMissing then .error (unfit f)
    else do
      let v := Float.pow (← x.toFloat) (← y.toFloat)
      if Decimal.isFinite v then ofFloat v else .error (.coded "D3061")
  | _, _, _ => .error (unfit f)

/-- The functions on arrays of numbers. -/
def runNumbers (f : Builtin) (xs : List Item) : Except Failure Item :=
  match f with
  | sum => do settled (← sumOf xs)
  | max => settled (extreme (fun a b => lessNumber b a) xs)
  | min => settled (extreme lessNumber xs)
  | average =>
    if xs.isEmpty then .ok missing
    else do
      let total ← sumOf xs
      settled (float ((← total.toFloat) / Float.ofNat xs.length))
  | _ => .error (unfit f)

def reversed (o : Origin) (xs : List Item) : Item :=
  if xs.length ≤ 1 then array o xs else array .data xs.reverse

/-- A function that calls no other, on its arguments. -/
def run (f : Builtin) (args : List Item) : Except Failure Item :=
  match f, args with
  | present, x :: _ => .ok (Item.bool !x.isMissing)
  | count, missing :: _ => .ok (int 0)
  | count, x :: _ => .ok (int x.items.length)
  | string, x :: pretty => .ok (((x.text? (pretty.any Item.truth)).map str).getD missing)
  | boolean, x :: _ => .ok ((x.truth?.map Item.bool).getD missing)
  | not, x :: _ => .ok ((x.truth?.map fun b => Item.bool !b).getD missing)
  | type, x :: _ => .ok (((kindName x).map str).getD missing)
  | keys, x :: _ => .ok (sequence ((keyNames x).map str))
  | append, x :: y :: _ => .ok (Item.append x y)
  | error, _ => .error (.coded "D3137")
  | assert, x :: _ => if x.truth then .ok missing else .error (.coded "D3141")
  | _, missing :: _ => .ok missing
  | number, null :: _ => .error (.coded "T0410")
  | number, .bool b :: _ => .ok (int (if b then 1 else 0))
  | number, str s :: _ => readNumber s
  | number, x :: _ => settled x
  | lookup, x :: str k :: _ => settled (Item.lookup k x)
  | spread, x :: _ => .ok (Item.spread x)
  | distinct, array o xs :: _ =>
    if xs.length ≤ 1 then .ok (array o xs)
    else .ok (if o.made then sequence (distinctItems xs) else array .data (distinctItems xs))
  | distinct, x :: _ => .ok x
  | join, array _ xs :: separator :: _ =>
    let separator := match separator with | str s => s.toList | _ => []
    textResult (TextFunction.joinWith separator (xs.map fun x =>
      match x with | str s => s.toList | _ => []))
  | merge, array _ xs :: _ =>
    .ok (object (xs.foldl (fun ms x => match x with
      | object ns => ns.foldl (fun ms (k, v) => put ms k v) ms
      | _ => ms) []))
  | reverse, array o xs :: _ => .ok (reversed o xs)
  | sort, array o xs :: _ =>
    if xs.length ≤ 1 then .ok (array o xs) else do return array .data (← sortBy precedes xs)
  | f, str s :: rest => runText f s.toList rest
  | f, array _ xs :: _ => runNumbers f xs
  | f, x :: rest => runNumber f x rest
  | f, [] => .error (unfit f)

end Builtin

end RestOperations.Query
