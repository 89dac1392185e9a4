import RestOperations.Proofs.Decimal.Numerals
import RestOperations.Proofs.Json.Refused

/-!
Conversions that undo writing. A value within a text is read back by the conversion that is meant for
values of its kind: integers as integers and as numbers, truth values by their words, lists and maps
as JSON. The last of these come back however deep they are, wherever JSON is read to that depth.
-/

namespace RestOperations

namespace Decimal

open Text

/-- Digits are read as they are, and all of them. -/
lemma digitRun_ascii {cs : List Char} (h : ∀ c ∈ cs, c.isDigit = true) (b : Bool) :
    digitRun b cs = (cs.map (·.toNat - 48), []) := by
  induction cs generalizing b with
  | nil => rw [digitRun, List.map_nil]
  | cons c cs ih =>
    rw [List.forall_mem_cons] at h
    have hc : c ≠ '_' := by
      rintro rfl
      exact absurd h.1 (by decide)
    have hvalue : decimalValue? c = some (c.toNat - 48) := by rw [decimalValue?, if_pos h.1]
    rw [digitRun.eq_4 b c cs fun _ _ h' _ => hc h', hvalue, List.map_cons]
    dsimp only
    rw [ih h.2]

lemma isDigit_toDigits (n : Nat) : ∀ c ∈ Nat.toDigits 10 n, c.isDigit = true :=
  fun _ hc => Nat.isDigit_of_mem_toDigits (by omega) (by omega) hc

lemma isDigitLike_toDigits (n : Nat) : ∀ c ∈ Nat.toDigits 10 n, isDigitLike c = true :=
  fun c hc => isDigitLike_of_isDecimal (isDecimal_of_isDigit (isDigit_toDigits n c hc))

/-- The sign and the digits that an integer is written with. -/
lemma takeSign_writeInt (n : Int) :
    takeSign (trimNumeral (Json.writeInt n)) = (decide (n < 0), Nat.toDigits 10 n.natAbs) := by
  have hdigits := isDigitLike_toDigits n.natAbs
  rw [Json.writeInt_eq]
  split
  · next hneg =>
    have hsolid : ∀ c ∈ '-' :: Nat.toDigits 10 n.natAbs, isNumeralBlank c = false := by
      rw [List.forall_mem_cons]
      refine ⟨by decide, fun c hc => ?_⟩
      rw [isNumeralBlank, not_isBlank_of_isDigitLike (hdigits c hc), Bool.false_and]
    have htrim : trimNumeral ([] ++ ('-' :: Nat.toDigits 10 n.natAbs) ++ []) =
        '-' :: Nat.toDigits 10 n.natAbs :=
      trimNumeral_append (by simp) (by simp) (List.cons_ne_nil _ _) hsolid
    rw [List.nil_append, List.append_nil] at htrim
    rw [htrim, decide_eq_true hneg]
    rfl
  · next hpos => rw [trimNumeral_digits hdigits, takeSign_digits hdigits, decide_eq_false hpos]

lemma signed_natAbs (n : Int) : signed (decide (n < 0)) n.natAbs = n := by
  by_cases h : n < 0
  · rw [decide_eq_true h, signed, if_pos rfl]
    omega
  · rw [decide_eq_false h, signed, if_neg Bool.false_ne_true]
    omega

/-- An integer is read back from its text, if it is not too long. -/
theorem readInt_toString {n : Int} (h : isWritable n = true) : readInt (toString n) = .ok n := by
  have hlength : ((Nat.toDigits 10 n.natAbs).map (·.toNat - 48)).length ≤ digitLimit := by
    rw [List.length_map]
    exact Json.length_digits_of_isWritable h
  have hne : ((Nat.toDigits 10 n.natAbs).map (·.toNat - 48)).isEmpty = false := by
    simp [Nat.toDigits_ne_nil]
  have hsign : takeSign (trimNumeral (toString n).toList) =
      (decide (n < 0), Nat.toDigits 10 n.natAbs) := takeSign_writeInt n
  rw [readInt, hsign]
  dsimp only
  rw [digitRun_ascii (isDigit_toDigits n.natAbs)]
  dsimp only
  rw [hne, if_neg (by simp), if_neg (Nat.not_lt.mpr hlength), if_pos List.isEmpty_nil,
    Json.ofDigits_toDigits, signed_natAbs]

end Decimal

namespace Value

/-- A list or a map. -/
def isCollection : Value → Bool
  | list _ => true
  | map _ => true
  | _ => false

lemma inText_int {n : Int} (h : Decimal.isWritable n = true) : (int n).inText = .ok (toString n) := by
  simp only [inText, isWritable, h, ↓reduceIte]
  rfl

lemma inText_collection {v : Value} (h : v.isCollection = true) : v.inText = Json.text v := by
  cases v with
  | list xs => rfl
  | map ms => rfl
  | _ => cases h

end Value

namespace Conversion

lemma readInteger_toString {n : Int} (h : Decimal.isWritable n = true) :
    readInteger (toString n) = .ok n := by
  rw [readInteger, Decimal.readInt_toString h, mapError_ok]

lemma apply_object_eq_ok [Json.Depth] {s : String} {v : Value} :
    object.apply (.str s) = .ok v ↔ Json.read s = .ok v := by
  rw [apply, toObject, mapError_eq_ok]

/-- **Conversions undo writing.** An integer that is not too long is read back from its text as an
integer and as a number, and a truth value from its word. A list or a map of what JSON has is read
back as an object by every reader that goes as deep as the value does, and by no other. -/
theorem restores_inText [Json.Depth] :
    (∀ n : Int, Decimal.isWritable n = true → ∃ s, (Value.int n).inText = .ok s ∧
      integer.apply (.str s) = .ok (.int n) ∧ number.apply (.str s) = .ok (.int n)) ∧
    (∀ b : Bool, ∃ s, (Value.bool b).inText = .ok s ∧ boolean.apply (.str s) = .ok (.bool b)) ∧
    ∀ v : Value, v.isCollection = true → Json.isData v = true →
      ((∃ s, v.inText = .ok s ∧ object.apply (.str s) = .ok v) ↔
        Json.nesting v ≤ Json.Depth.limit) := by
  refine ⟨fun n hn => ?_, fun b => ?_, fun v hcollection hv => ?_⟩
  · have hread := readInteger_toString hn
    refine ⟨toString n, Value.inText_int hn, ?_, ?_⟩
    · rw [apply, toInteger, hread]
      rfl
    · rw [apply, toNumber, readNumber, hread]
  · cases b with
    | true => exact ⟨"true", rfl, rfl⟩
    | false => exact ⟨"false", rfl, rfl⟩
  · obtain ⟨s, hs, hread⟩ := Json.read_text_iff hv
    rw [Value.inText_collection hcollection, hs, ← hread]
    constructor
    · rintro ⟨_, ⟨⟩, happly⟩
      exact apply_object_eq_ok.mp happly
    · exact fun h => ⟨s, rfl, apply_object_eq_ok.mpr h⟩

attribute [local instance] Json.Depth.thousand

/-- A map with values of all sorts, and text that JSON has escapes for. -/
def sample : Value :=
  .map [(.str "é😀\"\n", .list [.null, .bool false, .int (-40), .map []]), (.str "", .str "\\")]

theorem sample_restored :
    (∃ s, (Value.int (-40)).inText = .ok s ∧ integer.apply (.str s) = .ok (.int (-40)) ∧
      number.apply (.str s) = .ok (.int (-40))) ∧
    (∃ s, (Value.bool false).inText = .ok s ∧ boolean.apply (.str s) = .ok (.bool false)) ∧
    ∃ s, sample.inText = .ok s ∧ object.apply (.str s) = .ok sample := by
  obtain ⟨hint, hbool, hcollection⟩ := restores_inText
  have hdata : Json.isData sample = true := by decide +kernel
  have hdepth : Json.nesting sample ≤ Json.Depth.limit := by decide +kernel
  exact ⟨hint (-40) (by decide +kernel), hbool false, (hcollection sample rfl hdata).mpr hdepth⟩

end Conversion

end RestOperations
