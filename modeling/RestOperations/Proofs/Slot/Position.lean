import Mathlib.Data.List.TakeWhile
import RestOperations.Proofs.Json.Fits
import RestOperations.Scope

/-!
Positions of slots. A name of nothing but digits stands for a position, yet not every such name can
be read: digits that stand in no numeral make it look like a number only, and so does a numeral that
is too long. Here it is shown that these are the only two causes.
-/

namespace RestOperations

namespace Text

lemma blank_apart_decimals : ∀ z ∈ decimalZeros, ∀ r ∈ blankRanges, r.2 < z ∨ z + 10 ≤ r.1 := by
  decide

lemma blank_apart_signs : ∀ d ∈ signDigits, ∀ r ∈ blankRanges, r.2 < d.1 ∨ d.2 < r.1 := by
  decide

lemma blank_apart_ascii : ∀ r ∈ blankRanges, r.2 < 48 ∨ 57 < r.1 := by decide

lemma not_isBlank_of_apart {c : Char} (h : ∀ r ∈ blankRanges, r.2 < c.toNat ∨ c.toNat < r.1) :
    isBlank c = false := by
  rw [isBlank, inRanges, List.any_eq_false]
  intro r hr
  have := h r hr
  simp only [Bool.and_eq_true, decide_eq_true_eq]
  omega

lemma not_isBlank_of_isDecimal {c : Char} (h : isDecimal c = true) : isBlank c = false := by
  refine not_isBlank_of_apart fun r hr => ?_
  unfold isDecimal decimalValue? at h
  split at h
  · next hd =>
    have := blank_apart_ascii r hr
    simp only [Char.isDigit, Bool.and_eq_true, decide_eq_true_eq] at hd
    have h1 : 48 ≤ c.toNat := hd.1
    have h2 : c.toNat ≤ 57 := hd.2
    omega
  · split at h
    · simp at h
    · rw [Option.isSome_map, List.find?_isSome] at h
      obtain ⟨z, hz, hzc⟩ := h
      have := blank_apart_decimals z hz r hr
      simp only [Bool.and_eq_true, decide_eq_true_eq] at hzc
      omega

lemma not_isBlank_of_isDigitLike {c : Char} (h : isDigitLike c = true) : isBlank c = false := by
  rw [isDigitLike, Bool.or_eq_true] at h
  rcases h with h | h
  · exact not_isBlank_of_isDecimal h
  · refine not_isBlank_of_apart fun r hr => ?_
    rw [Bool.and_eq_true, inRanges, List.any_eq_true] at h
    obtain ⟨-, d, hd, hdc⟩ := h
    have := blank_apart_signs d hd r hr
    simp only [Bool.and_eq_true, decide_eq_true_eq] at hdc
    omega

end Text

namespace Decimal

open Text

/-- Nothing is cut off around digits. -/
lemma trimNumeral_digits {cs : List Char} (h : ∀ c ∈ cs, isDigitLike c = true) :
    trimNumeral cs = cs := by
  have keep : ∀ ds : List Char, (∀ c ∈ ds, isDigitLike c = true) →
      ds.dropWhile isNumeralBlank = ds := by
    intro ds hds
    rw [List.dropWhile_eq_self_iff]
    intro hl
    simp [isNumeralBlank, not_isBlank_of_isDigitLike (hds _ (List.getElem_mem hl))]
  rw [trimNumeral, keep cs h, keep cs.reverse (by simpa using h), List.reverse_reverse]

lemma takeSign_digits {cs : List Char} (h : ∀ c ∈ cs, isDigitLike c = true) :
    takeSign cs = (false, cs) := by
  unfold takeSign
  split
  · exact absurd (h '-' (by simp)) (by decide)
  · exact absurd (h '+' (by simp)) (by decide)
  · rfl

/-- Without underscores, a run of digits goes as far as there are decimal digits. -/
lemma digitRun_digits {cs : List Char} (h : ∀ c ∈ cs, isDigitLike c = true) (b : Bool) :
    (digitRun b cs).1.length = (cs.takeWhile isDecimal).length ∧
      (digitRun b cs).2 = cs.dropWhile isDecimal := by
  induction cs generalizing b with
  | nil => exact ⟨rfl, rfl⟩
  | cons c cs ih =>
    have hc : c ≠ '_' := by
      rintro rfl
      exact absurd (h '_' (by simp)) (by decide)
    have ih := ih (fun d hd => h d (List.mem_cons_of_mem _ hd)) true
    rw [digitRun.eq_4 b c cs fun _ _ h' _ => hc h']
    cases hv : decimalValue? c with
    | none => simp [isDecimal, hv]
    | some d => simpa [isDecimal, hv] using ih

/-- A text of digits is a numeral if all of them are decimal and they are not too many. -/
lemma isOk_readInt_digits {s : String} (hs : looksNumeric s = true) :
    (readInt s).isOk = true ↔
      (∀ c ∈ s.toList, isDecimal c = true) ∧ s.toList.length ≤ digitLimit := by
  rw [looksNumeric, Bool.and_eq_true, List.all_eq_true] at hs
  obtain ⟨hne, h⟩ := hs
  have hne' : s.toList ≠ [] := by simpa using hne
  obtain ⟨hlen, hrest⟩ := digitRun_digits h false
  rw [readInt, trimNumeral_digits h, takeSign_digits h]
  simp only [hrest]
  constructor
  · intro hok
    split at hok
    · cases hok
    · split at hok
      · cases hok
      · next hl =>
        split at hok
        · next he =>
          have hall := List.dropWhile_eq_nil_iff.mp (List.isEmpty_iff.mp he)
          rw [hlen, List.takeWhile_eq_self_iff.mpr hall] at hl
          exact ⟨hall, by omega⟩
        · cases hok
  · rintro ⟨hall, hl⟩
    rw [List.takeWhile_eq_self_iff.mpr hall] at hlen
    have hds : (digitRun false s.toList).1 ≠ [] := by
      rw [← List.length_pos_iff, hlen, List.length_pos_iff]
      exact hne'
    have hl' : ¬ digitLimit < (digitRun false s.toList).1.length := by omega
    rw [List.dropWhile_eq_nil_iff.mpr hall]
    simp [hl', hds, Except.isOk, Except.toBool]

end Decimal

namespace Slot

/-- If the name looks like a number, it is one that can be read. -/
def Readable (s : Slot) : Prop :=
  Text.looksNumeric s.name = true →
    (∀ c ∈ s.name.toList, Text.isDecimal c = true) ∧ s.name.toList.length ≤ Decimal.digitLimit

theorem isOk_index (s : Slot) : s.index.isOk = true ↔ s.Readable := by
  rw [index, isOk_mapError, position, Readable]
  by_cases h : Text.looksNumeric s.name = true
  · simp [h, Decimal.isOk_readInt_digits h]
  · simp [h, Except.isOk, Except.toBool]

lemma contained_index (s : Slot) : Contained s.index ↔ s.Readable := by
  rw [← isOk_index, index, isOk_mapError, contained_mapError fun _ => rfl]

end Slot

end RestOperations
