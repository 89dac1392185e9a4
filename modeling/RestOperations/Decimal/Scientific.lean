import RestOperations.Decimal.Binary64

/-!
A decimal fraction as its digits and an exponent, the two ways of writing it, and the rounding of a
binary number to a number of decimal digits.
-/

namespace RestOperations.Decimal

def digitCount (n : Nat) : Nat := (Nat.toDigits 10 n).length

/-- The number `digits · 10 ^ exponent`. -/
structure Scientific where
  digits : Nat
  exponent : Int
deriving DecidableEq, Repr

namespace Scientific

/-- The exponent of the first digit. -/
def leading (d : Scientific) : Int := d.exponent + digitCount d.digits - 1

def dropZeros : Nat → Nat → Nat → Nat × Nat
  | 0, n, k => (n, k)
  | fuel + 1, n, k => if n ≠ 0 ∧ n % 10 = 0 then dropZeros fuel (n / 10) (k + 1) else (n, k)

/-- The same number with no zero at its end. -/
def strip (d : Scientific) : Scientific :=
  if d.digits = 0 then ⟨0, 0⟩
  else
    let (n, k) := dropZeros (digitCount d.digits) d.digits 0
    ⟨n, d.exponent + k⟩

/-- With a point among the digits, or zeros around them. -/
def positional (d : Scientific) : String :=
  let ds := Nat.toDigits 10 d.digits
  if 0 ≤ d.exponent then String.ofList (ds ++ List.replicate d.exponent.toNat '0')
  else
    let places := (-d.exponent).toNat
    let padded := List.replicate (places + 1 - ds.length) '0' ++ ds
    String.ofList (padded.take (padded.length - places)) ++ "." ++
      String.ofList (padded.drop (padded.length - places))

/-- One digit before the point, and the exponent with its sign in at least `width` digits. -/
def exponential (width : Nat) (d : Scientific) : String :=
  let fraction := match Nat.toDigits 10 d.digits with
    | [c] => String.singleton c
    | c :: cs => String.ofList (c :: '.' :: cs)
    | [] => ""
  let e := toString d.leading.natAbs
  fraction ++ (if d.leading < 0 then "e-" else "e+") ++
    String.ofList (List.replicate (width - e.length) '0') ++ e

end Scientific

/-- The exponent of the first digit of `num / den`: the `k` with `10 ^ k ≤ num / den < 10 ^ (k + 1)`. -/
def magnitude (num den : Nat) : Int :=
  if den ≤ num then (digitCount (num / den) : Int) - 1
  else -(digitCount ((den - 1) / num) : Int)

/-- The nearest natural number to `num / den`; a half goes to the even neighbour. -/
def roundDiv (num den : Nat) : Nat :=
  let q := num / den
  let r := num % den
  if 2 * r < den then q else if den < 2 * r then q + 1 else if q % 2 = 0 then q else q + 1

/-- Rounds `num / den` to a multiple of `10 ^ e`. -/
def roundAt (num den : Nat) (e : Int) : Scientific :=
  ⟨roundDiv (num * tenTo (-e).toNat) (den * tenTo e.toNat), e⟩

/-- Rounds a positive number to `n` digits. -/
def roundDigits (n : Nat) (b : Binary64) : Scientific :=
  roundAt b.num b.den (magnitude b.num b.den - n + 1)

end RestOperations.Decimal
