import RestOperations.Value
import Mathlib.Tactic.Lemma

/-!
Values without null inside. The members of maps and the items of lists that are null can be left out,
at any depth; a map or a list that loses all of them stays, and so does the order of the others.
-/

namespace RestOperations

namespace Value

mutual

/-- No member and no item is null, at any depth. -/
def isNullFree : Value → Bool
  | list xs => itemsNullFree xs
  | map ms => membersNullFree ms
  | _ => true

def itemsNullFree : List Value → Bool
  | [] => true
  | x :: xs => !x.isNull && isNullFree x && itemsNullFree xs

def membersNullFree : List (Value × Value) → Bool
  | [] => true
  | (_, v) :: ms => !v.isNull && isNullFree v && membersNullFree ms

end

mutual

/-- The value without the members and items that are null, at any depth. -/
def withoutNulls : Value → Value
  | list xs => list (itemsWithoutNulls xs)
  | map ms => map (membersWithoutNulls ms)
  | v => v

def itemsWithoutNulls : List Value → List Value
  | [] => []
  | x :: xs => if x.isNull then itemsWithoutNulls xs else withoutNulls x :: itemsWithoutNulls xs

def membersWithoutNulls : List (Value × Value) → List (Value × Value)
  | [] => []
  | (k, v) :: ms =>
    if v.isNull then membersWithoutNulls ms else (k, withoutNulls v) :: membersWithoutNulls ms

end

@[simp] lemma isNull_withoutNulls (v : Value) : v.withoutNulls.isNull = v.isNull := by
  cases v <;> simp [withoutNulls, isNull]

mutual

/-- No null is left. -/
theorem isNullFree_withoutNulls : ∀ v : Value, v.withoutNulls.isNullFree = true
  | list xs => itemsNullFree_withoutNulls xs
  | map ms => membersNullFree_withoutNulls ms
  | null | bool _ | int _ | float _ | str _ | tuple _ | set _ | octets _ | date _ | moment _
  | function _ => rfl

theorem itemsNullFree_withoutNulls : ∀ xs, itemsNullFree (itemsWithoutNulls xs) = true
  | [] => rfl
  | x :: xs => by
    rw [itemsWithoutNulls]
    split
    · exact itemsNullFree_withoutNulls xs
    · next hnull =>
      rw [itemsNullFree, isNull_withoutNulls, Bool.eq_false_iff.mpr hnull, isNullFree_withoutNulls x,
        itemsNullFree_withoutNulls xs]
      rfl

theorem membersNullFree_withoutNulls : ∀ ms, membersNullFree (membersWithoutNulls ms) = true
  | [] => rfl
  | (k, v) :: ms => by
    rw [membersWithoutNulls]
    split
    · exact membersNullFree_withoutNulls ms
    · next hnull =>
      rw [membersNullFree, isNull_withoutNulls, Bool.eq_false_iff.mpr hnull,
        isNullFree_withoutNulls v, membersNullFree_withoutNulls ms]
      rfl

end

mutual

/-- Where no null is, none is left out. -/
theorem withoutNulls_of_isNullFree : ∀ v : Value, v.isNullFree = true → v.withoutNulls = v
  | list xs, h => by rw [withoutNulls, itemsWithoutNulls_of_nullFree xs h]
  | map ms, h => by rw [withoutNulls, membersWithoutNulls_of_nullFree ms h]
  | null, _ | bool _, _ | int _, _ | float _, _ | str _, _ | tuple _, _ | set _, _ | octets _, _
  | date _, _ | moment _, _ | function _, _ => rfl

theorem itemsWithoutNulls_of_nullFree :
    ∀ xs, itemsNullFree xs = true → itemsWithoutNulls xs = xs
  | [], _ => rfl
  | x :: xs, h => by
    rw [itemsNullFree, Bool.and_eq_true, Bool.and_eq_true, Bool.not_eq_true'] at h
    obtain ⟨⟨hnull, hx⟩, hxs⟩ := h
    rw [itemsWithoutNulls, hnull, withoutNulls_of_isNullFree x hx,
      itemsWithoutNulls_of_nullFree xs hxs]
    rfl

theorem membersWithoutNulls_of_nullFree :
    ∀ ms, membersNullFree ms = true → membersWithoutNulls ms = ms
  | [], _ => rfl
  | (k, v) :: ms, h => by
    rw [membersNullFree, Bool.and_eq_true, Bool.and_eq_true, Bool.not_eq_true'] at h
    obtain ⟨⟨hnull, hv⟩, hms⟩ := h
    rw [membersWithoutNulls, hnull, withoutNulls_of_isNullFree v hv,
      membersWithoutNulls_of_nullFree ms hms]
    rfl

end

end Value

end RestOperations
