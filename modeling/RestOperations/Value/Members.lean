import RestOperations.Decimal.Binary64
import RestOperations.Value

/-!
The members of a map: which keys are the same, and writing and finding a member. A write to a key
that is there already replaces the value and keeps the place and the key.
-/

namespace RestOperations.Value

/-- The number that a key is, if it is one. -/
def numeric? : Value → Option Value
  | bool b => some (int (if b then 1 else 0))
  | int n => some (int n)
  | float x => some (match Decimal.whole? x with | some n => int n | none => float x)
  | _ => none

mutual

def sameKey : Value → Value → Bool
  | null, null => true
  | str a, str b => a == b
  | tuple as, tuple bs => sameKeys as bs
  | octets a, octets b => a == b
  | date a, date b => a == b
  | moment a, moment b => a == b
  | a, b =>
    match numeric? a, numeric? b with
    | some (int m), some (int n) => m == n
    | some (float x), some (float y) => x == y
    | _, _ => false

def sameKeys : List Value → List Value → Bool
  | [], [] => true
  | a :: as, b :: bs => sameKey a b && sameKeys as bs
  | _, _ => false

end

mutual

/-- Keys are scalars, or tuples of keys. -/
def isKey : Value → Bool
  | list _ => false
  | set _ => false
  | map _ => false
  | tuple xs => areKeys xs
  | _ => true

def areKeys : List Value → Bool
  | [] => true
  | x :: xs => isKey x && areKeys xs

end

def put (members : List (Value × Value)) (k v : Value) : List (Value × Value) :=
  match members with
  | [] => [(k, v)]
  | (k', v') :: rest => if sameKey k' k then (k', v) :: rest else (k', v') :: put rest k v

def get? (members : List (Value × Value)) (k : Value) : Option Value :=
  (members.find? fun m => sameKey m.1 k).map (·.2)

/-- The map of the members, of which the last one of a key wins. -/
def ofMembers (members : List (Value × Value)) : Value :=
  map (members.foldl (fun ms m => put ms m.1 m.2) [])

@[simp] theorem sameKey_str (a b : String) : sameKey (str a) (str b) = (a == b) := by
  simp [sameKey]

@[simp] theorem get?_nil (k : Value) : get? [] k = none := rfl

theorem get?_put_str (ms : List (Value × Value)) (a : String) (v : Value) :
    get? (put ms (str a) v) (str a) = some v := by
  induction ms with
  | nil => simp [put, get?]
  | cons m ms ih =>
    by_cases h : sameKey m.1 (str a) = true
    · simp [put, get?, h]
    · simp only [put, h, Bool.false_eq_true, ↓reduceIte, get?, List.find?_cons]
      simpa [get?] using ih

end RestOperations.Value
