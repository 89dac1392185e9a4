import Mathlib.Data.List.Nodup
import Mathlib.Tactic.Lemma
import RestOperations.Value.Members

/-!
Members of maps under names. A member is found by the first key that is the name, and writing to
another key does not change what is found.
-/

namespace RestOperations

namespace Value

variable {name : String}

@[simp] lemma sameKey_str_right {v : Value} : sameKey v (.str name) = true ↔ v = .str name := by
  cases v <;> simp [sameKey, numeric?]

@[simp] lemma sameKey_str_left {v : Value} : sameKey (.str name) v = true ↔ v = .str name := by
  cases v with
  | str s =>
    rw [sameKey_str, beq_iff_eq, str.injEq]
    exact eq_comm
  | _ => simp [sameKey, numeric?]

/-- The values that stand under the name, in order. -/
def under (name : String) (pairs : List (Value × Value)) : List Value :=
  (pairs.filter fun p => sameKey p.1 (.str name)).map (·.2)

@[simp] lemma under_nil : under name [] = [] := rfl

lemma under_cons_self (v : Value) (pairs : List (Value × Value)) :
    under name ((.str name, v) :: pairs) = v :: under name pairs := by
  simp [under]

lemma under_cons_of_ne {k : Value} (h : k ≠ .str name) (v : Value)
    (pairs : List (Value × Value)) : under name ((k, v) :: pairs) = under name pairs := by
  have hk : sameKey k (.str name) = false := by
    rwa [Bool.eq_false_iff, ne_eq, sameKey_str_right]
  simp [under, hk]

lemma under_append (pairs pairs' : List (Value × Value)) :
    under name (pairs ++ pairs') = under name pairs ++ under name pairs' := by
  simp [under]

/-- Among members with texts for keys, a name has as many values as it occurs. -/
lemma length_under_texts (es : List (String × Value)) :
    (under name (es.map fun e => (.str e.1, e.2))).length = (es.map (·.1)).count name := by
  induction es with
  | nil => rfl
  | cons e es ih =>
    rw [List.map_cons, List.map_cons, List.count_cons]
    by_cases h : e.1 = name
    · rw [h, under_cons_self, List.length_cons, ih]
      simp
    · rw [under_cons_of_ne (by simpa using h), ih]
      simp [h]

/-- Where no name occurs twice, its first value is its last. -/
lemma head?_under_texts {es : List (String × Value)} (h : (es.map (·.1)).Nodup) :
    (under name (es.map fun e => (.str e.1, e.2))).head? =
      (under name (es.map fun e => (.str e.1, e.2))).getLast? := by
  have hle := List.nodup_iff_count_le_one.mp h name
  rw [← length_under_texts] at hle
  generalize under name (es.map fun e => (.str e.1, e.2)) = values at hle ⊢
  match values, hle with
  | [], _ => rfl
  | [v], _ => rfl

lemma get?_eq_head?_under (ms : List (Value × Value)) :
    get? ms (.str name) = (under name ms).head? := by
  rw [get?, under, List.head?_map, List.head?_filter]

lemma get?_append (ms ms' : List (Value × Value)) :
    get? (ms ++ ms') (.str name) = (get? ms (.str name)).or (get? ms' (.str name)) := by
  simp only [get?_eq_head?_under, under_append, List.head?_append]

lemma get?_concat_eq_none {ms : List (Value × Value)} {name' : String} {v : Value} :
    get? (ms ++ [(.str name', v)]) (.str name) = none ↔
      get? ms (.str name) = none ∧ name' ≠ name := by
  rw [get?_append, Option.or_eq_none_iff]
  refine and_congr_right fun _ => ?_
  simp [get?]

/-- A member that is written to under another key is not the one of the name. -/
lemma get?_put_of_ne {k : Value} (h : k ≠ .str name) (ms : List (Value × Value)) (v : Value) :
    get? (put ms k v) (.str name) = get? ms (.str name) := by
  rw [get?_eq_head?_under, get?_eq_head?_under]
  congr 1
  induction ms with
  | nil => rw [put, under_cons_of_ne h]
  | cons m ms ih =>
    obtain ⟨k', v'⟩ := m
    rw [put]
    by_cases hname : k' = .str name
    · rw [if_neg (by rwa [hname, sameKey_str_left]), hname, under_cons_self, under_cons_self, ih]
    · split
      · rw [under_cons_of_ne hname, under_cons_of_ne hname]
      · rw [under_cons_of_ne hname, under_cons_of_ne hname, ih]

/-- Members under new keys are put at the end. -/
lemma put_of_get?_eq_none {ms : List (Value × Value)} {k : String} (h : get? ms (.str k) = none)
    (v : Value) : put ms (.str k) v = ms ++ [(.str k, v)] := by
  induction ms with
  | nil => rfl
  | cons m ms ih =>
    have hm : sameKey m.1 (.str k) = false ∧ get? ms (.str k) = none := by
      cases hsame : sameKey m.1 (.str k) with
      | true => simp [get?, hsame] at h
      | false => simpa [get?, hsame] using h
    rw [put, hm.1, ih hm.2]
    rfl

end Value

end RestOperations
