/-!
Characters as one to four octets. A decoder takes the longest start of a well-formed sequence; what
stands in the way after it is reported, or replaced by the replacement character.
-/

namespace RestOperations.Text.Utf8

inductive Defect
  | invalidStart
  | invalidContinuation
  | unexpectedEnd
deriving DecidableEq, Repr

/-- How many octets follow the first one, and between which bounds the next one lies. -/
def follow? (b : Nat) : Option (Nat × Nat × Nat) :=
  if 0xC2 ≤ b ∧ b ≤ 0xDF then some (1, 0x80, 0xBF)
  else if b = 0xE0 then some (2, 0xA0, 0xBF)
  else if b = 0xED then some (2, 0x80, 0x9F)
  else if 0xE1 ≤ b ∧ b ≤ 0xEF then some (2, 0x80, 0xBF)
  else if b = 0xF0 then some (3, 0x90, 0xBF)
  else if b = 0xF4 then some (3, 0x80, 0x8F)
  else if 0xF1 ≤ b ∧ b ≤ 0xF3 then some (3, 0x80, 0xBF)
  else none

/-- What starts here: a character in `taken` octets, or a defect after them. -/
inductive Step
  | char (c : Char) (taken : Nat) (rest : List UInt8)
  | bad (defect : Defect) (taken : Nat) (rest : List UInt8)

/-- Takes `left` more octets, of which the next one is between `lo` and `hi`. -/
def takeFollow (taken value : Nat) : (left lo hi : Nat) → List UInt8 → Step
  | 0, _, _, rest => .char (Char.ofNat value) taken rest
  | _ + 1, _, _, [] => .bad .unexpectedEnd taken []
  | left + 1, lo, hi, b :: rest =>
    if lo ≤ b.toNat ∧ b.toNat ≤ hi then
      takeFollow (taken + 1) (value * 64 + b.toNat % 64) left 0x80 0xBF rest
    else .bad .invalidContinuation taken (b :: rest)

def step (b : UInt8) (rest : List UInt8) : Step :=
  if b.toNat < 0x80 then .char (Char.ofNat b.toNat) 1 rest
  else match follow? b.toNat with
    | none => .bad .invalidStart 1 rest
    | some (n, lo, hi) => takeFollow 1 (b.toNat % Nat.pow 2 (6 - n)) n lo hi rest

structure Failure where
  defect : Defect
  position : Nat
  octets : List UInt8
deriving DecidableEq, Repr

/-- What follows the three octets of half a surrogate pair. -/
def afterHalf? : List UInt8 → Option (List UInt8)
  | a :: b :: c :: rest =>
    if a = 0xED ∧ 0xA0 ≤ b ∧ b ≤ 0xBF ∧ 0x80 ≤ c ∧ c ≤ 0xBF then some rest else none
  | _ => none

/-- Decodes `left` octets at most, the first of them at `position`. With `halves`, half a surrogate
pair is let through as a replacement character. -/
def decodeFrom (halves : Bool) : (left position : Nat) → List UInt8 → Except Failure (List Char)
  | 0, _, _ => .ok []
  | _, _, [] => .ok []
  | left + 1, position, b :: rest =>
    match step b rest with
    | .char c taken more => do
      let cs ← decodeFrom halves left (position + taken) more
      .ok (c :: cs)
    | .bad defect taken _ =>
      match (if halves then afterHalf? (b :: rest) else none) with
      | some more => do
        let cs ← decodeFrom halves left (position + 3) more
        .ok ('\uFFFD' :: cs)
      | none => .error ⟨defect, position, (b :: rest).take taken⟩

def decode (bs : List UInt8) : Except Failure (List Char) := decodeFrom false bs.length 0 bs

def decodeHalves (bs : List UInt8) : Except Failure (List Char) := decodeFrom true bs.length 0 bs

def decodeLossyFrom : (left : Nat) → List UInt8 → List Char
  | 0, _ => []
  | _, [] => []
  | left + 1, b :: rest =>
    match step b rest with
    | .char c _ more => c :: decodeLossyFrom left more
    | .bad _ _ more => '\uFFFD' :: decodeLossyFrom left more

/-- Every defect becomes one replacement character. -/
def decodeLossy (bs : List UInt8) : List Char := decodeLossyFrom bs.length bs

def encode (cs : List Char) : List UInt8 := cs.flatMap String.utf8EncodeChar

end RestOperations.Text.Utf8
