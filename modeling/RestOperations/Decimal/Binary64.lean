/-!
The exact value of a floating-point number: a sign, and a natural number times a power of two.
Everything the library says about floats in text goes through this view.
-/

namespace RestOperations.Decimal

/-- The power of two with the exponent `k`. -/
abbrev twoTo (k : Nat) : Nat := Nat.pow 2 k

/-- The power of ten with the exponent `k`. -/
abbrev tenTo (k : Nat) : Nat := Nat.pow 10 k

/-- A finite magnitude, `mantissa · 2 ^ exponent`. -/
structure Binary64 where
  mantissa : Nat
  exponent : Int
deriving DecidableEq, Repr

inductive FloatClass
  | nan
  | infinite (negative : Bool)
  | finite (negative : Bool) (value : Binary64)
deriving DecidableEq, Repr

/-- Reads the three fields of the interchange format. -/
def classify (x : Float) : FloatClass :=
  let bits : Nat := x.toBits.toNat
  let negative := bits / twoTo 63 == 1
  let e : Nat := bits / twoTo 52 % 2048
  let f : Nat := bits % twoTo 52
  if e = 2047 then if f = 0 then .infinite negative else .nan
  else if e = 0 then .finite negative ⟨f, -1074⟩
  else .finite negative ⟨twoTo 52 + f, e - 1075⟩

namespace Binary64

def num (b : Binary64) : Nat := b.mantissa * twoTo b.exponent.toNat

def den (b : Binary64) : Nat := twoTo (-b.exponent).toNat

def isWhole (b : Binary64) : Bool := b.num % b.den == 0

/-- The whole part. -/
def floor (b : Binary64) : Nat := b.num / b.den

end Binary64

def isFinite (x : Float) : Bool :=
  match classify x with
  | .finite _ _ => true
  | _ => false

/-- The number without its fraction, for finite numbers. -/
def truncate? (x : Float) : Option Int :=
  match classify x with
  | .finite true b => some (-b.floor)
  | .finite false b => some b.floor
  | _ => none

/-- The integer that the number is, for whole numbers. -/
def whole? (x : Float) : Option Int :=
  match classify x with
  | .finite negative b =>
    if b.isWhole then some (if negative then -b.floor else b.floor) else none
  | _ => none

/-- The greatest integer that is not above the number. -/
def floor? (x : Float) : Option Int :=
  match classify x with
  | .finite false b => some b.floor
  | .finite true b => some (if b.isWhole then -b.floor else -b.floor - 1)
  | _ => none

end RestOperations.Decimal
