import Mathlib.Algebra.Group.Nat.Defs
import RestOperations.Json.Writer
import RestOperations.Proofs.Json.Depth

/-!
Strings, integers and words, written and read back. A string is read to its closing quote, whatever
follows it; a number is read as far as there are digits, so that what follows it counts.
-/

namespace RestOperations

namespace Text

lemma hexValue?_hexDigit : ∀ d < 16, hexValue? (hexDigit d) = some d := by decide

lemma readHex?_concat (cs : List Char) (c : Char) :
    readHex? (cs ++ [c]) =
      (readHex? cs).bind fun n => (hexValue? c).bind fun d => some (n * 16 + d) := by
  rw [readHex?, List.foldl_append]
  rfl

/-- The digits that are written are read back. -/
lemma readHex?_hex (width n : Nat) : readHex? (hex width n) = some (n % 16 ^ width) := by
  induction width generalizing n with
  | zero =>
    rw [Nat.pow_zero, Nat.mod_one]
    rfl
  | succ width ih =>
    have hdigit : hexValue? (hexDigit (n % 16)) = some (n % 16) :=
      hexValue?_hexDigit _ (Nat.mod_lt n (by omega))
    have hsplit : n % 16 ^ (width + 1) = n % 16 + 16 * (n / 16 % 16 ^ width) := by
      rw [Nat.pow_succ', Nat.mod_mul]
    rw [hex, readHex?_concat, ih, hdigit, hsplit]
    simp only [Option.bind_some]
    congr 1
    omega

end Text

namespace Json

/-! ### Strings -/

lemma readUnit?_hex {n : Nat} (hn : n < 0x10000) {more : List Char} (hmore : more ≠ []) :
    readUnit? (Text.hex 4 n ++ more) = some (n, more) := by
  obtain ⟨e, more, rfl⟩ := List.exists_cons_of_ne_nil hmore
  obtain ⟨a, b, c, d, hdigits⟩ : ∃ a b c d, Text.hex 4 n = [a, b, c, d] := ⟨_, _, _, _, rfl⟩
  have hmod : n % 16 ^ 4 = n := Nat.mod_eq_of_lt hn
  have hread : Text.readHex? [a, b, c, d] = some n := by
    rw [← hdigits, Text.readHex?_hex, hmod]
  rw [hdigits]
  change (Text.readHex? [a, b, c, d]).map (fun n => (n, e :: more)) = _
  rw [hread]
  rfl

lemma readLowUnit?_unitEscape {n : Nat} (hn : isLowUnit n = true) {more : List Char}
    (hmore : more ≠ []) : readLowUnit? (unitEscape n ++ more) = some (n, more) := by
  have hlt : n < 0x10000 := by
    simp only [isLowUnit, Bool.and_eq_true, decide_eq_true_eq] at hn
    omega
  rw [unitEscape, List.cons_append, List.cons_append, readLowUnit?, readUnit?_hex hlt hmore]
  exact if_pos hn

/-- A character is no half of a pair. -/
lemma not_unit (c : Char) : isHighUnit c.toNat = false ∧ isLowUnit c.toNat = false := by
  have hvalid : c.toNat < 0xD800 ∨ 0xDFFF < c.toNat ∧ c.toNat < 0x110000 := c.valid
  simp only [isHighUnit, isLowUnit, Bool.and_eq_false_iff, decide_eq_false_iff_not]
  omega

section Characters

variable (opening fuel : Nat) {more : List Char}

/-- A character as a single unit. -/
lemma readChars_unit {c : Char} (hc : c.toNat < 0x10000) (hmore : more ≠ []) :
    readChars opening (fuel + 1) (unitEscape c.toNat ++ more) =
      readChars opening fuel more >>= fun p => .ok (c :: p.1, p.2) := by
  obtain ⟨hhigh, hlow⟩ := not_unit c
  rw [unitEscape, List.cons_append, List.cons_append, readChars, readUnit?_hex hc hmore]
  simp only [hhigh, hlow, Bool.or_self, Bool.false_eq_true, ↓reduceIte, Char.ofNat_toNat]

/-- A character as a pair of units. -/
lemma readChars_pair {c : Char} (hc : 0x10000 ≤ c.toNat) (hmore : more ≠ []) :
    readChars opening (fuel + 1) (unitEscape (0xD7C0 + c.toNat / 0x400) ++
        (unitEscape (0xDC00 + c.toNat % 0x400) ++ more)) =
      readChars opening fuel more >>= fun p => .ok (c :: p.1, p.2) := by
  have hvalid : c.toNat < 0xD800 ∨ 0xDFFF < c.toNat ∧ c.toNat < 0x110000 := c.valid
  have hhigh : isHighUnit (0xD7C0 + c.toNat / 0x400) = true := by
    simp only [isHighUnit, Bool.and_eq_true, decide_eq_true_eq]
    omega
  have hlow : isLowUnit (0xDC00 + c.toNat % 0x400) = true := by
    simp only [isLowUnit, Bool.and_eq_true, decide_eq_true_eq]
    omega
  have hjoin : 0x10000 + (0xD7C0 + c.toNat / 0x400 - 0xD800) * 0x400 +
      (0xDC00 + c.toNat % 0x400 - 0xDC00) = c.toNat := by
    omega
  have hnext : unitEscape (0xDC00 + c.toNat % 0x400) ++ more ≠ [] := by simp [unitEscape]
  rw [unitEscape, List.cons_append, List.cons_append, readChars, readUnit?_hex (by omega) hnext]
  simp only [hhigh, ↓reduceIte, readLowUnit?_unitEscape hlow hmore, hjoin, Char.ofNat_toNat]

/-- The characters that have an escape of their own. -/
def escapes : List Char := ['"', '\\', '\n', '\r', '\t', '\x08', '\x0c']

lemma readChars_short :
    ∀ c ∈ escapes, readChars opening (fuel + 1) (escapeChar c ++ more) =
      readChars opening fuel more >>= fun p => .ok (c :: p.1, p.2) := by
  simp only [escapes, List.forall_mem_cons]
  exact ⟨rfl, rfl, rfl, rfl, rfl, rfl, rfl, by simp⟩

/-- A character is read back, however it is written. -/
lemma readChars_escapeChar (c : Char) (hmore : more ≠ []) :
    readChars opening (fuel + 1) (escapeChar c ++ more) =
      readChars opening fuel more >>= fun p => .ok (c :: p.1, p.2) := by
  by_cases hshort : c ∈ escapes
  · exact readChars_short opening fuel c hshort
  simp only [escapes, List.mem_cons, List.not_mem_nil, or_false, not_or] at hshort
  obtain ⟨hquote, hslash, hn, hr, ht, hb, hf⟩ := hshort
  rw [escapeChar, if_neg hquote, if_neg hslash, if_neg hn, if_neg hr, if_neg ht, if_neg hb,
    if_neg hf]
  split
  · next hplain =>
    rw [List.singleton_append, readChars, if_neg (by omega)]
    all_goals simp [hquote, hslash]
  split
  · next hlt => exact readChars_unit opening fuel hlt hmore
  · next hge =>
    rw [List.append_assoc]
    exact readChars_pair opening fuel (Nat.le_of_not_lt hge) hmore

end Characters

lemma escapeChar_ne_nil (c : Char) : escapeChar c ≠ [] := by
  unfold escapeChar unitEscape
  grind

lemma length_le_escaped (cs : List Char) : cs.length ≤ (cs.flatMap escapeChar).length := by
  induction cs with
  | nil => simp
  | cons c cs ih =>
    have hpos : 0 < (escapeChar c).length := List.length_pos_iff.mpr (escapeChar_ne_nil c)
    rw [List.flatMap_cons, List.length_append, List.length_cons]
    omega

/-- All characters up to the closing quote. -/
lemma readChars_written (opening : Nat) {fuel : Nat} (cs rest : List Char)
    (hfuel : cs.length < fuel) :
    readChars opening fuel (cs.flatMap escapeChar ++ '"' :: rest) = .ok (cs, rest) := by
  induction cs generalizing fuel with
  | nil =>
    obtain ⟨fuel, rfl⟩ := Nat.exists_eq_add_one_of_ne_zero (by omega : fuel ≠ 0)
    rfl
  | cons c cs ih =>
    rw [List.length_cons] at hfuel
    obtain ⟨fuel, rfl⟩ := Nat.exists_eq_add_one_of_ne_zero (by omega : fuel ≠ 0)
    have hmore : cs.flatMap escapeChar ++ '"' :: rest ≠ [] := by simp
    rw [List.flatMap_cons, List.append_assoc, readChars_escapeChar opening fuel c hmore,
      ih (by omega), ok_bind]

lemma writeString_append (s : String) (rest : List Char) :
    writeString s ++ rest = '"' :: (s.toList.flatMap escapeChar ++ '"' :: rest) := by
  simp [writeString]

/-- A string is read back, whatever follows it. -/
lemma readString_written (s : String) (rest : List Char) :
    readString (s.toList.flatMap escapeChar ++ '"' :: rest) = .ok (s, rest) := by
  have hle := length_le_escaped s.toList
  have hfuel : s.toList.length < (s.toList.flatMap escapeChar ++ '"' :: rest).length + 1 := by
    rw [List.length_append]
    omega
  rw [readString, readChars_written _ s.toList rest hfuel, ok_bind]
  change Except.ok (String.ofList s.toList, rest) = _
  rw [String.ofList_toList]

/-! ### Integers -/

/-- The text may follow a value: it is at its end, or goes on after the value. -/
def Follows (rest : List Char) : Prop := ∀ c ∈ rest.head?, c ∈ [',', ']', '}']

lemma follows_nil : Follows [] := by simp [Follows]

lemma follows_cons {c : Char} (hc : c ∈ [',', ']', '}']) (cs : List Char) : Follows (c :: cs) := by
  intro d hd
  obtain rfl := Option.some.inj hd
  exact hc

lemma Follows.not_digit {rest : List Char} (h : Follows rest) :
    ∀ c ∈ rest.head?, c.isDigit = false := by
  intro c hc
  have hall : [',', ']', '}'].all (fun c => !c.isDigit) = true := rfl
  simpa using List.all_eq_true.mp hall c (h c hc)

lemma takeDigits_append {cs rest : List Char} (hcs : ∀ c ∈ cs, c.isDigit = true)
    (hrest : Follows rest) : takeDigits (cs ++ rest) = (cs.map (·.toNat - 48), rest) := by
  have hnone : rest.takeWhile Char.isDigit = [] ∧ rest.dropWhile Char.isDigit = rest := by
    cases rest with
    | nil => exact ⟨rfl, rfl⟩
    | cons c rest =>
      have hc := hrest.not_digit c rfl
      simp [hc]
  rw [takeDigits, List.takeWhile_append_of_pos hcs, List.dropWhile_append_of_pos hcs, hnone.1,
    hnone.2, List.append_nil]

lemma head?_toDigits {n : Nat} (hn : 0 < n) : (Nat.toDigits 10 n).head? ≠ some '0' := by
  induction n using Nat.strongRecOn with
  | ind n ih =>
    rw [Nat.toDigits_eq_if (by omega)]
    split
    · next hlt =>
      have hall : ∀ d < 10, 0 < d → d.digitChar ≠ '0' := by decide
      simpa using hall n hlt hn
    · next hge =>
      have hne : Nat.toDigits 10 (n / 10) ≠ [] := Nat.toDigits_ne_nil
      obtain ⟨c, cs, hcs⟩ := List.exists_cons_of_ne_nil hne
      have hhead := ih (n / 10) (by omega) (by omega)
      rw [hcs] at hhead ⊢
      exact hhead

/-- The digits of a number are taken as a whole, with no zero before them. -/
lemma takeWhole_toDigits (n : Nat) {rest : List Char} (hrest : Follows rest) :
    takeWhole (Nat.toDigits 10 n ++ rest) = ((Nat.toDigits 10 n).map (·.toNat - 48), rest) := by
  have hdigits : ∀ c ∈ Nat.toDigits 10 n, c.isDigit = true := fun c hc =>
    Nat.isDigit_of_mem_toDigits (by omega) (by omega) hc
  obtain rfl | hn := Nat.eq_zero_or_pos n
  · rfl
  · have hhead := head?_toDigits hn
    have htake := takeDigits_append hdigits hrest
    unfold takeWhole
    split
    · next heq =>
      obtain ⟨c, cs, hcs⟩ := List.exists_cons_of_ne_nil (Nat.toDigits_ne_nil (b := 10) (n := n))
      rw [hcs] at heq hhead
      obtain rfl : c = '0' := (List.cons.inj heq).1
      exact absurd rfl hhead
    · exact htake

lemma ofDigits_toDigits (n : Nat) :
    Decimal.ofDigits 10 ((Nat.toDigits 10 n).map (·.toNat - 48)) = n := by
  have hn : Nat.ofDigitChars 10 (Nat.toDigits 10 n) 0 = n :=
    Nat.ofDigitChars_toDigits (by omega) (by omega)
  rw [Nat.ofDigitChars] at hn
  rw [Decimal.ofDigits, List.foldl_map]
  simp only [Nat.mul_comm _ 10]
  exact hn

/-- What may follow a number adds nothing to it. -/
lemma Follows.takes_nothing {rest : List Char} (h : Follows rest) :
    takeFraction rest = ([], rest) ∧ takeExponent? rest = none := by
  cases rest with
  | nil => exact ⟨rfl, rfl⟩
  | cons c rest =>
    have hc : c ∈ [',', ']', '}'] := h c rfl
    simp only [List.mem_cons, List.not_mem_nil, or_false] at hc
    rcases hc with rfl | rfl | rfl <;> exact ⟨rfl, rfl⟩

/-- The digits of a number are read back, if there are not too many. -/
lemma readUnsigned_toDigits {digits : Option Nat} (left : Nat) (negative : Bool) {n : Nat}
    {rest : List Char} (hdigits : ∀ l ∈ digits, (Nat.toDigits 10 n).length ≤ l)
    (hrest : Follows rest) :
    readUnsigned digits left negative (Nat.toDigits 10 n ++ rest) =
      .ok (.int (Decimal.signed negative n), rest) := by
  obtain ⟨hfraction, hexponent⟩ := hrest.takes_nothing
  have hwhole : ((Nat.toDigits 10 n).map (·.toNat - 48)).isEmpty = false := by
    simp [Nat.toDigits_ne_nil]
  have hfits : digits.any (· < ((Nat.toDigits 10 n).map (·.toNat - 48)).length) = false := by
    rw [List.length_map]
    cases digits with
    | none => rfl
    | some l => simpa using hdigits l rfl
  simp only [readUnsigned, takeWhole_toDigits n hrest, hwhole, hfraction, hexponent, hfits,
    ofDigits_toDigits, Bool.false_eq_true, ↓reduceIte, List.isEmpty_nil]

/-- How an integer is written: its digits, with a minus before them if it is negative. -/
lemma writeInt_eq (n : Int) :
    writeInt n = if n < 0 then '-' :: Nat.toDigits 10 n.natAbs else Nat.toDigits 10 n.natAbs := by
  cases n with
  | ofNat m =>
    have htext : toString (Int.ofNat m) = m.repr := rfl
    rw [writeInt, htext, Nat.repr, String.toList_ofList, if_neg (by simp)]
    rfl
  | negSucc m =>
    have htext : toString (Int.negSucc m) = "-" ++ m.succ.repr := rfl
    have hsign : "-".toList = ['-'] := rfl
    rw [writeInt, htext, Nat.repr, String.toList_append, hsign, String.toList_ofList,
      if_pos (by simp)]
    rfl

lemma exists_toDigits_eq_cons (n : Nat) :
    ∃ c cs, Nat.toDigits 10 n = c :: cs ∧ c.isDigit = true := by
  obtain ⟨c, cs, hcs⟩ := List.exists_cons_of_ne_nil (Nat.toDigits_ne_nil (b := 10) (n := n))
  have hmem : c ∈ Nat.toDigits 10 n := by simp [hcs]
  exact ⟨c, cs, hcs, Nat.isDigit_of_mem_toDigits (by omega) (by omega) hmem⟩

lemma exists_writeInt_eq_cons (n : Int) :
    ∃ c cs, writeInt n = c :: cs ∧ (c = '-' ∨ c.isDigit = true) := by
  obtain ⟨c, cs, hcs, hc⟩ := exists_toDigits_eq_cons n.natAbs
  rw [writeInt_eq, hcs]
  split
  · exact ⟨'-', _, rfl, .inl rfl⟩
  · exact ⟨c, cs, rfl, .inr hc⟩

lemma ne_of_isDigit {c : Char} (hc : c.isDigit = true) {cs : List Char}
    (hcs : cs.all (fun d => !d.isDigit) = true) : ∀ d ∈ cs, c ≠ d := by
  rintro d hd rfl
  have hnot := List.all_eq_true.mp hcs c hd
  rw [hc] at hnot
  cases hnot

/-- An integer is read back, if it has not too many digits. -/
lemma readNumber_written {digits : Option Nat} {n : Int} {rest : List Char}
    (hdigits : ∀ l ∈ digits, (Nat.toDigits 10 n.natAbs).length ≤ l) (hrest : Follows rest) :
    readNumber digits (writeInt n ++ rest) = .ok (.int n, rest) := by
  rw [writeInt_eq]
  split
  · next hneg =>
    have hn : Decimal.signed true n.natAbs = n := by
      rw [Decimal.signed, if_pos rfl]
      omega
    rw [List.cons_append, readNumber_minus, readUnsigned_toDigits _ true hdigits hrest, hn]
  · next hpos =>
    have hn : Decimal.signed false n.natAbs = n := by
      rw [Decimal.signed, if_neg (by simp)]
      omega
    have hhead : (Nat.toDigits 10 n.natAbs ++ rest).head? ≠ some '-' := by
      obtain ⟨c, cs, hcs, hc⟩ := exists_toDigits_eq_cons n.natAbs
      rw [hcs]
      intro heq
      obtain rfl := Option.some.inj heq
      cases hc
    rw [readNumber_plain hhead, readUnsigned_toDigits _ false hdigits hrest, hn]

/-- An integer that can be written has no more digits than may be read. -/
lemma length_digits_of_isWritable {n : Int} (h : Decimal.isWritable n = true) :
    (Nat.toDigits 10 n.natAbs).length ≤ Decimal.digitLimit := by
  have hle {k : Nat} (hk : 0 < k) (hlt : n.natAbs < Decimal.tenTo k) :
      (Nat.toDigits 10 n.natAbs).length ≤ k :=
    (Nat.length_toDigits_le_iff (by omega) hk).mpr hlt
  have hlt : n.natAbs < Decimal.tenTo Decimal.digitLimit := of_decide_eq_true h
  exact hle (by decide) hlt

/-- Words are not read where they do not stand. -/
lemma readLiteral?_eq_none {cs : List Char}
    (h : ∀ word ∈ literals.map (·.1), word.toList.isPrefixOf cs = false) :
    readLiteral? cs = none := by
  rw [readLiteral?, List.findSome?_eq_none_iff]
  rintro ⟨word, v⟩ hmem
  have hword := h word (List.mem_map_of_mem hmem)
  exact if_neg (by simp [hword])

/-- No word begins like an integer. -/
lemma readLiteral?_writeInt (n : Int) (rest : List Char) :
    readLiteral? (writeInt n ++ rest) = none := by
  have hwords : literals.map (·.1) = ["null", "true", "false", "NaN", "Infinity", "-Infinity"] := rfl
  obtain ⟨c, cs, hcs, hc⟩ := exists_toDigits_eq_cons n.natAbs
  have hne : ∀ d ∈ ['n', 't', 'f', 'N', 'I', '-'], c ≠ d := ne_of_isDigit hc rfl
  simp only [List.forall_mem_cons, ne_comm (a := c)] at hne
  refine readLiteral?_eq_none ?_
  rw [hwords, writeInt_eq, hcs]
  split <;> simp [List.isPrefixOf, hne]

end Json

end RestOperations
