import Mathlib.Data.List.TakeWhile
import RestOperations.Proofs.Text.Percent
import RestOperations.Text.Utf8

/-!
Escaped text read back. The octets that it stands for are those of the text in UTF-8, so that no two
texts are escaped the same. Where escaped texts are followed by a character that they cannot have in
them, it is plain where each of them ends.
-/

namespace RestOperations.Text

/-! ### What escaped text stands for -/

lemma Utf8.encode_injective {as bs : List Char} (h : Utf8.encode as = Utf8.encode bs) : as = bs := by
  have htexts : String.ofList as = String.ofList bs := by
    rw [← String.toByteArray_inj, String.toByteArray_ofList, String.toByteArray_ofList]
    exact congrArg List.toByteArray h
  exact String.ofList_inj.mp htexts

namespace Percent

/-- The octet with these hexadecimal digits. -/
def octetOf (high low : Char) : UInt8 :=
  UInt8.ofNat ((hexValue? high).getD 0 * 16 + (hexValue? low).getD 0)

/-- The octets that escaped text stands for. -/
def unescape : List Char → List UInt8
  | [] => []
  | '%' :: high :: low :: cs => octetOf high low :: unescape cs
  | c :: cs => UInt8.ofNat c.toNat :: unescape cs

lemma hexValue?_toUpper_hexDigit : ∀ n < 16, hexValue? (hexDigit n).toUpper = some n := by
  decide

lemma unescape_encodeOctet (b : UInt8) (rest : List Char) :
    unescape (encodeOctet b ++ rest) = b :: unescape rest := by
  have hhigh : b.toNat / 16 % 16 < 16 := Nat.mod_lt _ (by decide)
  have hlow : b.toNat % 16 < 16 := Nat.mod_lt _ (by decide)
  have hdigits : encodeOctet b ++ rest = '%' :: (hexDigit (b.toNat / 16 % 16)).toUpper ::
      (hexDigit (b.toNat % 16)).toUpper :: rest := rfl
  rw [hdigits, unescape, octetOf, hexValue?_toUpper_hexDigit _ hhigh,
    hexValue?_toUpper_hexDigit _ hlow, Option.getD_some, Option.getD_some]
  have hb : b.toNat < 256 := b.toNat_lt
  have hvalue : b.toNat / 16 % 16 * 16 + b.toNat % 16 = b.toNat := by omega
  rw [hvalue, UInt8.ofNat_toNat]

lemma unescape_encodeOctets (bs : List UInt8) (rest : List Char) :
    unescape (bs.flatMap encodeOctet ++ rest) = bs ++ unescape rest := by
  induction bs with
  | nil => rfl
  | cons b bs ih =>
    rw [List.flatMap_cons, List.append_assoc, unescape_encodeOctet, ih, List.cons_append]

lemma ne_percent_of_isUnreserved {c : Char} (h : isUnreserved c = true) : c ≠ '%' := by
  rintro rfl
  revert h
  decide

lemma toNat_of_isUnreserved {c : Char} (h : isUnreserved c = true) : c.toNat ≤ 127 := by
  delta isUnreserved Char.isAlphanum Char.isAlpha Char.isUpper Char.isLower Char.isDigit at h
  simp only [Bool.or_eq_true, Bool.and_eq_true, decide_eq_true_eq, beq_iff_eq, ge_iff_le,
    UInt32.le_iff_toNat_le] at h
  obtain (((h | rfl) | rfl) | rfl) | rfl := h
  · change ((65 ≤ c.toNat ∧ c.toNat ≤ 90) ∨ 97 ≤ c.toNat ∧ c.toNat ≤ 122) ∨
      48 ≤ c.toNat ∧ c.toNat ≤ 57 at h
    omega
  all_goals decide

lemma utf8_of_isUnreserved {c : Char} (h : isUnreserved c = true) :
    String.utf8EncodeChar c = [UInt8.ofNat c.toNat] := by
  have hsmall : c.val.toNat ≤ 127 := toNat_of_isUnreserved h
  exact if_pos hsmall

lemma unescape_encodeChar (c : Char) (rest : List Char) :
    unescape (encodeChar c ++ rest) = String.utf8EncodeChar c ++ unescape rest := by
  unfold encodeChar
  split
  · next hc =>
    rw [utf8_of_isUnreserved hc, List.singleton_append, unescape]
    · rfl
    · rintro high low cs rfl
      exact absurd rfl (ne_percent_of_isUnreserved hc)
  · exact unescape_encodeOctets _ rest

/-- Escaped text stands for the octets of the text. -/
theorem unescape_encodeChars (cs : List Char) : unescape (encodeChars cs) = Utf8.encode cs := by
  induction cs with
  | nil => rfl
  | cons c cs ih => rw [encodeChars_cons, unescape_encodeChar, ih, Utf8.encode, Utf8.encode,
      List.flatMap_cons]

/-- No two texts are escaped the same. -/
theorem encodeChars_injective {as bs : List Char} (h : encodeChars as = encodeChars bs) :
    as = bs := by
  apply Utf8.encode_injective
  rw [← unescape_encodeChars, h, unescape_encodeChars]

/-! ### Where escaped text ends -/

/-- The character may stand in escaped text. -/
def mayStand (c : Char) : Bool := isUnreserved c || c == '%'

lemma isUnreserved_of_isHexDigit {c : Char} (h : IsHexDigit c) : isUnreserved c = true := by
  have hall : "0123456789ABCDEF".toList.all isUnreserved = true := by decide
  exact List.all_eq_true.mp hall c h

lemma Escaped.mayStand {cs : List Char} (h : Escaped cs) : ∀ c ∈ cs, mayStand c = true := by
  induction h with
  | nil => simp
  | unreserved hc _ ih =>
    rw [List.forall_mem_cons]
    exact ⟨by rw [Percent.mayStand, hc, Bool.true_or], ih⟩
  | escape hhigh hlow _ ih =>
    rw [List.forall_mem_cons, List.forall_mem_cons, List.forall_mem_cons]
    refine ⟨by decide, ?_, ?_, ih⟩
    · rw [Percent.mayStand, isUnreserved_of_isHexDigit hhigh, Bool.true_or]
    · rw [Percent.mayStand, isUnreserved_of_isHexDigit hlow, Bool.true_or]

/-- The first character of a text that cannot stand in escaped text. -/
lemma exists_first {t : List Char} (h : t.any (fun c => !mayStand c) = true) :
    ∃ run c after, t = run ++ c :: after ∧ (∀ d ∈ run, mayStand d = true) ∧
      mayStand c = false := by
  have hne : t.dropWhile mayStand ≠ [] := by
    intro hnil
    obtain ⟨c, hc, hnot⟩ := List.any_eq_true.mp h
    rw [List.dropWhile_eq_nil_iff.mp hnil c hc] at hnot
    cases hnot
  refine ⟨t.takeWhile mayStand, (t.dropWhile mayStand).head hne, (t.dropWhile mayStand).tail,
    ?_, fun _ => List.mem_takeWhile_imp, List.head_dropWhile_not mayStand hne⟩
  rw [List.cons_head_tail, List.takeWhile_append_dropWhile]

/-- Escaped texts before the same text end at the same place, if that text has a character that they
cannot have in them, though it need not start with it. -/
lemma Escaped.eq_of_append_eq {as bs t xs ys : List Char} (has : Escaped as) (hbs : Escaped bs)
    (ht : t.any (fun c => !Percent.mayStand c) = true) (h : as ++ (t ++ xs) = bs ++ (t ++ ys)) :
    as = bs := by
  obtain ⟨run, c, after, rfl, hrun, hc⟩ := exists_first ht
  have htake {cs : List Char} (hcs : Escaped cs) (zs : List Char) :
      (cs ++ (run ++ c :: after ++ zs)).takeWhile Percent.mayStand = cs ++ run := by
    rw [List.append_assoc, List.takeWhile_append_of_pos hcs.mayStand,
      List.takeWhile_append_of_pos hrun, List.cons_append, List.takeWhile_cons_of_neg (by simp [hc]),
      List.append_nil]
  have hruns : as ++ run = bs ++ run := by
    rw [← htake has xs, h, htake hbs ys]
  exact List.append_cancel_right hruns

end Percent

end RestOperations.Text
