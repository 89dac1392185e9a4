import RestOperations.Json.Writer
import RestOperations.Proofs.Outcome
import RestOperations.Proofs.Value.Members

/-!
Values that JSON has a form of their own for, and how deep they go. The members of such a map stand
under keys that are all different, and no value is deeper than its text is long.
-/

namespace RestOperations.Json

mutual

/-- The value is made of what JSON has: null, truth values, texts, integers that are not too long,
lists, and maps with texts for keys that are all different. -/
def isData : Value → Bool
  | .null => true
  | .bool _ => true
  | .int n => Decimal.isWritable n
  | .str _ => true
  | .list xs => itemsAreData xs
  | .map ms => membersAreData ms
  | _ => false

def itemsAreData : List Value → Bool
  | [] => true
  | x :: xs => isData x && itemsAreData xs

def membersAreData : List (Value × Value) → Bool
  | [] => true
  | (.str k, v) :: ms => (Value.get? ms (.str k)).isNone && isData v && membersAreData ms
  | _ => false

end

mutual

/-- How deep collections lie in each other. -/
def nesting : Value → Nat
  | .list xs => nestingOfItems xs + 1
  | .map ms => nestingOfMembers ms + 1
  | _ => 0

def nestingOfItems : List Value → Nat
  | [] => 0
  | x :: xs => max (nesting x) (nestingOfItems xs)

def nestingOfMembers : List (Value × Value) → Nat
  | [] => 0
  | (_, v) :: ms => max (nesting v) (nestingOfMembers ms)

end

lemma membersAreData_cons {key v : Value} {ms : List (Value × Value)}
    (h : membersAreData ((key, v) :: ms) = true) :
    ∃ k, key = .str k ∧ Value.get? ms (.str k) = none ∧ isData v = true ∧
      membersAreData ms = true := by
  cases key with
  | str k =>
    rw [membersAreData, Bool.and_eq_true, Bool.and_eq_true, Option.isNone_iff_eq_none] at h
    exact ⟨k, rfl, h.1.1, h.1.2, h.2⟩
  | _ => cases h

/-- Members under keys that are all new are put at the end, in order. -/
lemma foldl_put_data {ms before : List (Value × Value)} (h : membersAreData ms = true)
    (hnew : ∀ k, (Value.get? ms (.str k)).isSome = true → Value.get? before (.str k) = none) :
    ms.foldl (fun ms m => Value.put ms m.1 m.2) before = before ++ ms := by
  induction ms generalizing before with
  | nil => simp
  | cons m ms ih =>
    obtain ⟨key, v⟩ := m
    obtain ⟨k, rfl, hfresh, -, hms⟩ := membersAreData_cons h
    have hk : Value.get? before (.str k) = none := hnew k (by simp [Value.get?])
    have hrest : ∀ k', (Value.get? ms (.str k')).isSome = true →
        Value.get? (before ++ [(.str k, v)]) (.str k') = none := by
      intro k' hk'
      refine Value.get?_concat_eq_none.mpr ⟨hnew k' ?_, ?_⟩
      · change (Value.get? ([(.str k, v)] ++ ms) (.str k')).isSome = true
        rw [Value.get?_append, Option.isSome_or, hk', Bool.or_true]
      · rintro rfl
        rw [hfresh] at hk'
        cases hk'
    rw [List.foldl_cons, Value.put_of_get?_eq_none hk, ih hms hrest, List.append_assoc,
      List.singleton_append]

/-- The members of data are a map as they are. -/
lemma ofMembers_data {ms : List (Value × Value)} (h : membersAreData ms = true) :
    Value.ofMembers ms = .map ms := by
  rw [Value.ofMembers, foldl_put_data h (by simp), List.nil_append]

/-! ### Texts of collections -/

section Views

variable {α : Type}

/-- A map from texts that differ is data if its values are. -/
lemma isData_texts (view : α → Value) {es : List (String × α)} (hes : (es.map (·.1)).Nodup)
    (hdata : ∀ e ∈ es, isData (view e.2) = true) :
    isData (.map (es.map fun e => (.str e.1, view e.2))) = true := by
  rw [isData]
  induction es with
  | nil => rfl
  | cons e es ih =>
    rw [List.map_cons, List.nodup_cons] at hes
    rw [List.forall_mem_cons] at hdata
    have hnone : Value.get? (es.map fun e => (.str e.1, view e.2)) (.str e.1) = none := by
      rw [Value.get?, Option.map_eq_none_iff, List.find?_eq_none]
      intro m hm hsame
      obtain ⟨e', he', rfl⟩ := List.mem_map.mp hm
      rw [Value.sameKey_str, beq_iff_eq] at hsame
      exact hes.1 (List.mem_map.mpr ⟨e', he', hsame⟩)
    rw [List.map_cons, membersAreData, hnone, hdata.1, ih hes.2 hdata.2]
    rfl

lemma itemsAreData_map (view : α → Value) {as : List α}
    (hdata : ∀ a ∈ as, isData (view a) = true) : itemsAreData (as.map view) = true := by
  induction as with
  | nil => rfl
  | cons a as ih =>
    rw [List.forall_mem_cons] at hdata
    rw [List.map_cons, itemsAreData, hdata.1, ih hdata.2]
    rfl

lemma isData_ofTexts (texts : List String) : isData (.ofTexts texts) = true := by
  rw [Value.ofTexts, isData]
  exact itemsAreData_map .str fun _ _ => rfl

end Views

lemma joined_cons (separator part : List Char) {parts : List (List Char)} (h : parts ≠ []) :
    joined separator (part :: parts) = part ++ (separator ++ joined separator parts) := by
  obtain ⟨next, parts, rfl⟩ := List.exists_cons_of_ne_nil h
  rw [joined, List.append_assoc]

lemma length_le_joined (separator part : List Char) (parts : List (List Char)) :
    max part.length (joined separator parts).length ≤
      (joined separator (part :: parts)).length := by
  cases parts with
  | nil => simp [joined]
  | cons next parts =>
    rw [joined_cons separator part (by simp)]
    simp only [List.length_append]
    omega

mutual

/-- A text is no shorter than its value is deep. -/
theorem nesting_le_length (style : Style) :
    ∀ v {cs : List Char}, writeChars style v = .ok cs → nesting v ≤ cs.length
  | .list xs, cs => fun h => by
    obtain ⟨texts, htexts, h⟩ := bind_eq_ok.mp h
    obtain rfl := Except.ok.inj h
    have hitems := nestingOfItems_le_length style xs htexts
    rw [nesting]
    simp only [List.length_append, List.length_cons, List.length_nil]
    omega
  | .map ms, cs => fun h => by
    obtain ⟨texts, htexts, h⟩ := bind_eq_ok.mp h
    obtain rfl := Except.ok.inj h
    have hmembers := nestingOfMembers_le_length style ms htexts
    rw [nesting]
    simp only [List.length_append, List.length_cons, List.length_nil]
    omega
  | .null, _ => fun _ => Nat.zero_le _
  | .bool _, _ => fun _ => Nat.zero_le _
  | .int _, _ => fun _ => Nat.zero_le _
  | .float _, _ => fun _ => Nat.zero_le _
  | .str _, _ => fun _ => Nat.zero_le _
  | .tuple _, _ => fun _ => Nat.zero_le _
  | .set _, _ => fun _ => Nat.zero_le _
  | .octets _, _ => fun _ => Nat.zero_le _
  | .date _, _ => fun _ => Nat.zero_le _
  | .moment _, _ => fun _ => Nat.zero_le _
  | .function _, _ => fun _ => Nat.zero_le _

theorem nestingOfItems_le_length (style : Style) :
    ∀ xs {texts : List (List Char)}, writeItems style xs = .ok texts →
      nestingOfItems xs ≤ (joined style.itemSeparator texts).length
  | [], _, _ => Nat.zero_le _
  | x :: xs, _, h => by
    obtain ⟨cs, hcs, h⟩ := bind_eq_ok.mp h
    obtain ⟨texts, htexts, h⟩ := bind_eq_ok.mp h
    obtain rfl := Except.ok.inj h
    have hx := nesting_le_length style x hcs
    have hxs := nestingOfItems_le_length style xs htexts
    have hle := length_le_joined style.itemSeparator cs texts
    rw [nestingOfItems]
    omega

theorem nestingOfMembers_le_length (style : Style) :
    ∀ ms {texts : List (List Char)}, writeMembers style ms = .ok texts →
      nestingOfMembers ms ≤ (joined style.itemSeparator texts).length
  | [], _, _ => Nat.zero_le _
  | (k, v) :: ms, _, h => by
    obtain ⟨key, -, h⟩ := bind_eq_ok.mp h
    obtain ⟨cs, hcs, h⟩ := bind_eq_ok.mp h
    obtain ⟨texts, htexts, h⟩ := bind_eq_ok.mp h
    obtain rfl := Except.ok.inj h
    have hv := nesting_le_length style v hcs
    have hms := nestingOfMembers_le_length style ms htexts
    have hle := length_le_joined style.itemSeparator (key ++ style.keySeparator ++ cs) texts
    rw [List.length_append] at hle
    rw [nestingOfMembers]
    omega

end

end RestOperations.Json
