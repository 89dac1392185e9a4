/-!
Characters as one or two units of two octets, or as one unit of four, with either octet first.
-/

namespace RestOperations.Text

inductive Endian
  | little
  | big
deriving DecidableEq, Repr

inductive UnitDefect
  | truncated
  | loneHalf
  | tooLarge
deriving DecidableEq, Repr

structure UnitFailure where
  defect : UnitDefect
  position : Nat
  octets : List UInt8
deriving DecidableEq, Repr

def Endian.pair (e : Endian) (a b : UInt8) : Nat :=
  match e with
  | .little => a.toNat + 256 * b.toNat
  | .big => 256 * a.toNat + b.toNat

namespace Utf16

/-- The units of the text; an octet may be left over. -/
def units (e : Endian) : List UInt8 → List Nat × List UInt8
  | a :: b :: rest => let (us, more) := units e rest; (e.pair a b :: us, more)
  | more => ([], more)

/-- Pairs the halves. With `halves`, a half that stands alone is let through as a replacement
character. -/
def join (halves : Bool) : List Nat → Option (List Char)
  | [] => some []
  | [u] =>
    if 0xD800 ≤ u ∧ u < 0xE000 then if halves then some ['\uFFFD'] else none
    else some [Char.ofNat u]
  | u :: v :: rest =>
    if 0xD800 ≤ u ∧ u < 0xE000 then
      if u < 0xDC00 ∧ 0xDC00 ≤ v ∧ v < 0xE000 then
        (join halves rest).map (Char.ofNat (0x10000 + (u - 0xD800) * 0x400 + (v - 0xDC00)) :: ·)
      else if halves then (join halves (v :: rest)).map ('\uFFFD' :: ·)
      else none
    else (join halves (v :: rest)).map (Char.ofNat u :: ·)

def decode (halves : Bool) (e : Endian) (bs : List UInt8) : Except UnitFailure (List Char) :=
  let (us, more) := units e bs
  match join halves us with
  | none => .error ⟨.loneHalf, 0, []⟩
  | some cs => if more.isEmpty then .ok cs else .error ⟨.truncated, bs.length - more.length, more⟩

end Utf16

namespace Utf32

def decodeFrom (e : Endian) (position : Nat) : List UInt8 → Except UnitFailure (List Char)
  | a :: b :: c :: d :: rest =>
    let n := match e with
      | .little => e.pair a b + 0x10000 * e.pair c d
      | .big => 0x10000 * e.pair a b + e.pair c d
    if 0x110000 ≤ n then .error ⟨.tooLarge, position, [a, b, c, d]⟩
    else do
      let cs ← decodeFrom e (position + 4) rest
      .ok ((if 0xD800 ≤ n ∧ n < 0xE000 then '\uFFFD' else Char.ofNat n) :: cs)
  | [] => .ok []
  | more => .error ⟨.truncated, position, more⟩

def decode (e : Endian) (bs : List UInt8) : Except UnitFailure (List Char) := decodeFrom e 0 bs

end Utf32

end RestOperations.Text
