import Mathlib.Tactic.Lemma
import RestOperations.Text.Percent

/-!
What percent encoding leaves of a text: unreserved characters and escapes. None of the characters
that separate the parts of a URL is among them.
-/

namespace RestOperations.Text.Percent

/-- A digit of an escape. -/
def IsHexDigit (c : Char) : Prop := c ∈ "0123456789ABCDEF".toList

/-- Nothing but unreserved characters and escapes. -/
inductive Escaped : List Char → Prop
  | nil : Escaped []
  | unreserved {c : Char} {cs : List Char} : isUnreserved c = true → Escaped cs → Escaped (c :: cs)
  | escape {high low : Char} {cs : List Char} :
      IsHexDigit high → IsHexDigit low → Escaped cs → Escaped ('%' :: high :: low :: cs)

lemma Escaped.append {as bs : List Char} (has : Escaped as) (hbs : Escaped bs) :
    Escaped (as ++ bs) := by
  induction has with
  | nil => exact hbs
  | unreserved hc _ ih => exact .unreserved hc ih
  | escape hhigh hlow _ ih => exact .escape hhigh hlow ih

lemma Escaped.flatMap {α : Type} {f : α → List Char} (h : ∀ a, Escaped (f a)) (xs : List α) :
    Escaped (xs.flatMap f) := by
  induction xs with
  | nil => exact .nil
  | cons x xs ih =>
    rw [List.flatMap_cons]
    exact (h x).append ih

instance : DecidablePred IsHexDigit := fun c => inferInstanceAs (Decidable (c ∈ _))

lemma isHexDigit_toUpper_hexDigit : ∀ n < 16, IsHexDigit (hexDigit n).toUpper := by
  decide

lemma escaped_encodeOctet (b : UInt8) : Escaped (encodeOctet b) := by
  have hdigits : encodeOctet b =
      ['%', (hexDigit (b.toNat / 16 % 16)).toUpper, (hexDigit (b.toNat % 16)).toUpper] := rfl
  rw [hdigits]
  exact .escape (isHexDigit_toUpper_hexDigit _ (Nat.mod_lt _ (by decide)))
    (isHexDigit_toUpper_hexDigit _ (Nat.mod_lt _ (by decide))) .nil

lemma escaped_encodeChar (c : Char) : Escaped (encodeChar c) := by
  unfold encodeChar
  split
  · next hc => exact .unreserved hc .nil
  · exact .flatMap escaped_encodeOctet _

theorem escaped_encodeChars (cs : List Char) : Escaped (encodeChars cs) :=
  .flatMap escaped_encodeChar cs

def separators : List Char := ['/', '?', '#', '&', '=', ':', '@']

/-- The character separates parts of a URL. -/
def isSeparator (c : Char) : Bool := separators.contains c

lemma isSeparator_of_isUnreserved {c : Char} (h : isUnreserved c = true) :
    isSeparator c = false := by
  have hnone : separators.all (fun c => !isUnreserved c) = true := by decide
  refine Bool.eq_false_iff.mpr fun hc => ?_
  have hreserved := List.all_eq_true.mp hnone c (List.contains_iff_mem.mp hc)
  rw [h] at hreserved
  cases hreserved

lemma isSeparator_of_isHexDigit {c : Char} (h : IsHexDigit c) : isSeparator c = false := by
  have hnone : "0123456789ABCDEF".toList.all (fun c => !isSeparator c) = true := by decide
  simpa using List.all_eq_true.mp hnone c h

lemma Escaped.filter_isSeparator {cs : List Char} (h : Escaped cs) :
    cs.filter isSeparator = [] := by
  induction h with
  | nil => rfl
  | unreserved hc _ ih =>
    rw [List.filter_cons_of_neg (by simp [isSeparator_of_isUnreserved hc]), ih]
  | escape hhigh hlow _ ih =>
    rw [List.filter_cons_of_neg (by decide),
      List.filter_cons_of_neg (by simp [isSeparator_of_isHexDigit hhigh]),
      List.filter_cons_of_neg (by simp [isSeparator_of_isHexDigit hlow]), ih]

lemma Escaped.not_mem_of_isSeparator {cs : List Char} {c : Char} (h : Escaped cs)
    (hc : isSeparator c = true) : c ∉ cs := by
  intro hmem
  have hfilter : c ∈ cs.filter isSeparator := List.mem_filter.mpr ⟨hmem, hc⟩
  rw [h.filter_isSeparator] at hfilter
  exact List.not_mem_nil hfilter

end RestOperations.Text.Percent
