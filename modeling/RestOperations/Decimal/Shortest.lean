import RestOperations.Decimal.Scientific

/-!
The fewest decimal digits that read back as the same floating-point number, and of those the nearest
to it. For each number of digits the grid of decimals with its spacing is tried at the two neighbours
of the number; the first grid with a point that reads back is taken.
-/

namespace RestOperations.Decimal

/-- The numbers that round to `b`, in quarters of its last place: the lower and the upper bound. -/
def bounds (b : Binary64) : Nat × Nat :=
  -- Below a power of two the neighbour is only half as far.
  let below := if b.mantissa = twoTo 52 ∧ b.exponent ≠ -1074 then 1 else 2
  (4 * b.mantissa - below, 4 * b.mantissa + 2)

/-- How `d · 10 ^ e` compares with `quarters / 4` last places of `b`. -/
def compareQuarters (b : Binary64) (d : Nat) (e : Int) (quarters : Nat) : Ordering :=
  compare (d * tenTo e.toNat * 4 * b.den) (quarters * twoTo b.exponent.toNat * tenTo (-e).toNat)

/-- The bounds themselves read back if the last bit of the number is zero. -/
def readsBack (b : Binary64) (d : Nat) (e : Int) : Bool :=
  let (lo, hi) := bounds b
  let even := b.mantissa % 2 == 0
  (match compareQuarters b d e lo with | .gt => true | .eq => even | .lt => false) &&
  (match compareQuarters b d e hi with | .lt => true | .eq => even | .gt => false)

/-- The point of the grid `10 ^ e` to take, if one of the two around the number reads back. -/
def gridPoint? (b : Binary64) (e : Int) : Option Scientific :=
  let num := b.num * tenTo (-e).toNat
  let den := b.den * tenTo e.toNat
  let d := num / den
  match readsBack b d e, readsBack b (d + 1) e with
  | true, true => some ⟨roundDiv num den, e⟩
  | true, false => some ⟨d, e⟩
  | false, true => some ⟨d + 1, e⟩
  | false, false => none

/-- Tries the grids from the coarsest, `left` of them. -/
def search (b : Binary64) (top : Int) : Nat → Scientific
  | 0 => roundAt b.num b.den top
  | left + 1 =>
    match gridPoint? b top with
    | some d => d
    | none => search b (top - 1) left

def shortest (b : Binary64) : Scientific :=
  if b.mantissa = 0 then ⟨0, 0⟩ else (search b (magnitude b.num b.den) 17).strip

example : shortest ⟨twoTo 52, -52⟩ = ⟨1, 0⟩ := by decide +kernel
example : shortest ⟨1, -1074⟩ = ⟨5, -324⟩ := by decide +kernel

end RestOperations.Decimal
