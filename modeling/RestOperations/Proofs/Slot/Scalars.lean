import RestOperations.Proofs.Outcome
import RestOperations.Scope

/-!
Scalar conversions: to texts, numbers, integers and truth values. What such a conversion yields is of
the kind that it is for, and what is of that kind already stays as it is. So the values of its kind
are those that it does not change, and to convert once more changes nothing.
-/

namespace RestOperations

namespace Conversion

/-- The conversions to texts, numbers and truth values. -/
def scalars : List Conversion := [string, number, integer, boolean]

/-- The values that a scalar conversion is for. A truth value is no number. -/
inductive Target : Conversion → Value → Prop
  | string (s : String) : Target string (.str s)
  | whole (n : Int) : Target number (.int n)
  | float (x : Float) : Target number (.float x)
  | integer (n : Int) : Target integer (.int n)
  | boolean (b : Bool) : Target boolean (.bool b)

variable {v w : Value}

lemma target_toText (h : toText v = .ok w) : string.Target w := by
  unfold toText at h
  split at h
  · cases h
    exact .string _
  · obtain ⟨s, -, rfl⟩ := map_eq_ok.mp (mapError_eq_ok.mp h)
    exact .string s

/-- A text yields an integer or a float. -/
lemma target_readNumber {s : String} (h : readNumber s = .ok w) : number.Target w := by
  unfold readNumber at h
  split at h
  · cases h
    exact .whole _
  · split at h <;> cases h
    exact .float _

lemma target_toNumber (h : toNumber v = .ok w) : number.Target w := by
  unfold toNumber at h
  split at h
  · cases h
    exact .float _
  · exact target_readNumber h
  · exact target_readNumber (mapError_eq_ok.mp h)
  · obtain ⟨n, -, rfl⟩ := map_eq_ok.mp h
    exact .whole n

/-- What a scalar conversion yields is what it is for. -/
lemma target_of_apply [Json.Depth] {c : Conversion} (hc : c ∈ scalars) (h : c.apply v = .ok w) :
    c.Target w := by
  cases c with
  | string => exact target_toText h
  | number => exact target_toNumber h
  | integer =>
    obtain ⟨n, -, rfl⟩ := map_eq_ok.mp h
    exact .integer n
  | boolean =>
    obtain ⟨b, -, rfl⟩ := map_eq_ok.mp h
    exact .boolean b
  | object => simp [scalars] at hc
  | other name => simp [scalars] at hc

/-- What a scalar conversion is for, it leaves as it is. -/
lemma Target.apply_eq [Json.Depth] {c : Conversion} (h : c.Target v) : c.apply v = .ok v := by
  cases h <;> rfl

end Conversion

namespace Slot

open Conversion

variable {s : Slot} {c : Conversion} {v w : Value}

lemma convert_eq_ok [Json.Depth] (h : s.conversion = some c) :
    s.convert v = .ok w ↔ c.apply v = .ok w := by
  rw [convert, h]
  exact mapError_eq_ok

/-- **Scalar conversions settle what they convert.** What a slot with a scalar conversion makes of a
value is of the kind that the conversion is for, is not changed by converting it once more, and is
the value itself if that is of the kind. A value is converted to itself if and only if it is. -/
theorem convert_settles [Json.Depth] (h : s.conversion = some c) (hc : c ∈ scalars) (v : Value) :
    (∀ w, s.convert v = .ok w →
      c.Target w ∧ s.convert w = .ok w ∧ (c.Target v → w = v)) ∧
    (s.convert v = .ok v ↔ c.Target v) := by
  simp only [convert_eq_ok h]
  refine ⟨fun w hw => ?_, target_of_apply hc, Target.apply_eq⟩
  have htarget := target_of_apply hc hw
  refine ⟨htarget, htarget.apply_eq, fun hv => ?_⟩
  rw [hv.apply_eq] at hw
  cases hw
  rfl

attribute [local instance] Json.Depth.thousand

/-- A slot for a number. -/
def amount : Slot := ⟨"amount", .query, false, some .number, none⟩

/-- Digits between blanks are a number, and a number stays. -/
theorem spaced_digits_settled :
    amount.conversion = some number ∧ number ∈ scalars ∧
      amount.convert (.str " +1_0\n") = .ok (.int 10) ∧
      number.Target (.int 10) ∧ amount.convert (.int 10) = .ok (.int 10) := by
  have hread : amount.convert (.str " +1_0\n") = .ok (.int 10) := rfl
  obtain ⟨htarget, hagain, -⟩ :=
    (convert_settles (s := amount) rfl (by simp [scalars]) (.str " +1_0\n")).1 (.int 10) hread
  exact ⟨rfl, by simp [scalars], hread, htarget, hagain⟩

end Slot

end RestOperations
