import RestOperations.Proofs.Json.Fits
import RestOperations.Proofs.Json.RoundTrip

/-!
Values that are written and not read back, since they are too deep for the reader. A reader has so
many levels for collections within each other, and it is for want of levels that it stops at the text
of a value with more of them. With the converse in `RoundTrip`, the texts of data that can be read back
are those of data that is not too deep.
-/

namespace RestOperations.Json

/-- What is read goes deeper than there are levels. -/
def OutOfLevels {α : Type} (r : Except Stop α) : Prop :=
  ∃ kind left, r = .error ⟨.lessDepth kind, left⟩

lemma OutOfLevels.bind {α β : Type} {r : Except Stop α} (h : OutOfLevels r)
    (next : α → Except Stop β) : OutOfLevels (r >>= next) := by
  obtain ⟨kind, left, rfl⟩ := h
  exact ⟨kind, left, rfl⟩

/-! ### Parts of collections -/

lemma exists_joined_eq (separator part : List Char) (parts : List (List Char)) :
    ∃ tail, joined separator (part :: parts) = part ++ tail := by
  cases parts with
  | nil => exact ⟨[], (List.append_nil part).symm⟩
  | cons next parts => exact ⟨_, joined_cons separator part (List.cons_ne_nil next parts)⟩

lemma begins_items {xs : List Value} (hne : xs ≠ []) (hdata : itemsAreData xs = true)
    {texts : List (List Char)} (h : writeItems .spaced xs = .ok texts) :
    Begins (joined [',', ' '] texts) := by
  obtain ⟨x, xs, rfl⟩ := List.exists_cons_of_ne_nil hne
  obtain ⟨cs, hcs, h⟩ := bind_eq_ok.mp h
  obtain ⟨texts, -, h⟩ := bind_eq_ok.mp h
  cases h
  rw [itemsAreData, Bool.and_eq_true] at hdata
  exact (begins_written hdata.1 hcs).joined _ _

lemma begins_members {ms : List (Value × Value)} (hne : ms ≠ []) (hdata : membersAreData ms = true)
    {texts : List (List Char)} (h : writeMembers .spaced ms = .ok texts) :
    Begins (joined [',', ' '] texts) := by
  obtain ⟨⟨key, v⟩, ms, rfl⟩ := List.exists_cons_of_ne_nil hne
  obtain ⟨keyText, hkey, h⟩ := bind_eq_ok.mp h
  obtain ⟨cs, -, h⟩ := bind_eq_ok.mp h
  obtain ⟨texts, -, h⟩ := bind_eq_ok.mp h
  cases h
  obtain ⟨k, rfl, -⟩ := membersAreData_cons hdata
  cases hkey
  have hquote : Begins (writeString k) := ⟨'"', _, rfl, rfl⟩
  exact ((hquote.append _).append _).joined _ _

/-- A member that has no value has nothing after it either. -/
lemma outOfLevels_member {digits : Option Nat} {depth fuel : Nat} (k : String) {cs : List Char}
    (hcs : skipBlank cs = cs) (h : OutOfLevels (readValue digits depth fuel cs)) :
    OutOfLevels (readMembers digits depth (fuel + 1) (writeString k ++ ([':', ' '] ++ cs))) := by
  have hblank : skipBlank (' ' :: cs) = cs := hcs
  rw [writeString_append, readMembers, readString_written, ok_bind]
  change OutOfLevels (readValue digits depth fuel (skipBlank (' ' :: cs)) >>= _)
  rw [hblank]
  exact h.bind _

/-! ### Values -/

/-- Where there are fewer levels than the value has, its text is refused for that. -/
def RefusedBelow (digits : Option Nat) (v : Value) : Prop :=
  ∀ {cs rest : List Char} {depth fuel : Nat}, writeChars .spaced v = .ok cs → depth < nesting v →
    2 * cs.length ≤ fuel → OutOfLevels (readValue digits depth fuel (cs ++ rest))

section RefusedBelow

variable {digits : Option Nat}

/-- Items are read back up to the first one that is too deep. -/
lemma outOfLevels_items {xs : List Value} (hdata : itemsAreData xs = true)
    (hback : ∀ x ∈ xs, ReadsBack digits x) (hall : ∀ x ∈ xs, RefusedBelow digits x)
    {texts : List (List Char)} {depth fuel : Nat} (h : writeItems .spaced xs = .ok texts)
    (hdepth : depth < nestingOfItems xs) (hfuel : 2 * (joined [',', ' '] texts).length < fuel)
    (rest : List Char) :
    OutOfLevels (readItems digits depth fuel (joined [',', ' '] texts ++ ']' :: rest)) := by
  induction xs generalizing texts fuel with
  | nil => exact absurd hdepth (Nat.not_lt_zero depth)
  | cons x xs ih =>
    obtain ⟨cs, hcs, h⟩ := bind_eq_ok.mp h
    obtain ⟨texts, htexts, h⟩ := bind_eq_ok.mp h
    cases h
    obtain ⟨fuel, rfl⟩ := Nat.exists_eq_add_one_of_ne_zero (by omega : fuel ≠ 0)
    rw [itemsAreData, Bool.and_eq_true] at hdata
    rw [nestingOfItems] at hdepth
    have hlength := length_le_joined [',', ' '] cs texts
    have hxfuel : 2 * cs.length ≤ fuel := by omega
    by_cases hx : depth < nesting x
    · obtain ⟨tail, htail⟩ := exists_joined_eq [',', ' '] cs texts
      rw [htail, List.append_assoc, readItems]
      exact (hall x List.mem_cons_self hcs hx hxfuel).bind _
    · have hxs : depth < nestingOfItems xs := by omega
      have hne : xs ≠ [] := by
        rintro rfl
        exact absurd hxs (Nat.not_lt_zero depth)
      have hmore := begins_items hne hdata.2 htexts
      have hparts : texts ≠ [] := by
        rintro rfl
        obtain ⟨c, cs, heq, -⟩ := hmore
        cases heq
      rw [joined_cons _ _ hparts] at hfuel ⊢
      simp only [List.length_append, List.length_cons, List.length_nil] at hfuel
      have hothers := ih hdata.2 (fun x hx => hback x (List.mem_cons_of_mem _ hx))
        (fun x hx => hall x (List.mem_cons_of_mem _ hx)) htexts hxs (by omega : _ < fuel)
      have hfollows : Follows (',' :: ' ' :: (joined [',', ' '] texts ++ ']' :: rest)) :=
        follows_cons (by simp) _
      have hread := hback x List.mem_cons_self hcs (Nat.le_of_not_lt hx) hxfuel hfollows
      rw [List.append_assoc, List.append_assoc]
      change OutOfLevels (readItems digits depth (fuel + 1)
        (cs ++ ',' :: ' ' :: (joined [',', ' '] texts ++ ']' :: rest)))
      rw [readItems_more hread (hmore.append _).skipBlank_eq]
      exact hothers.bind _

lemma refusedBelow_list {xs : List Value} (hdata : itemsAreData xs = true)
    (hback : ∀ x ∈ xs, ReadsBack digits x) (hall : ∀ x ∈ xs, RefusedBelow digits x) :
    RefusedBelow digits (.list xs) := by
  intro cs rest depth fuel h hdepth hfuel
  obtain ⟨texts, htexts, h⟩ := bind_eq_ok.mp h
  obtain rfl := Except.ok.inj h
  have htext : '[' :: joined [',', ' '] texts ++ [']'] ++ rest =
      '[' :: (joined [',', ' '] texts ++ ']' :: rest) := by
    simp
  change 2 * ('[' :: joined [',', ' '] texts ++ [']']).length ≤ fuel at hfuel
  change OutOfLevels (readValue digits depth fuel ('[' :: joined [',', ' '] texts ++ [']'] ++ rest))
  simp only [List.length_append, List.length_cons, List.length_nil] at hfuel
  obtain ⟨fuel, rfl⟩ := Nat.exists_eq_add_one_of_ne_zero (by omega : fuel ≠ 0)
  rw [htext]
  cases depth with
  | zero => exact ⟨"array", _, rfl⟩
  | succ depth =>
    rw [nesting] at hdepth
    have hitems : depth < nestingOfItems xs := by omega
    have hne : xs ≠ [] := by
      rintro rfl
      exact absurd hitems (Nat.not_lt_zero depth)
    have hmore : Begins (joined [',', ' '] texts ++ ']' :: rest) :=
      (begins_items hne hdata htexts).append _
    have hskip := hmore.skipBlank_eq
    rw [readValue_list digits depth fuel (by rw [hskip]; exact hmore.head?_ne rfl), hskip]
    exact (outOfLevels_items hdata hback hall htexts hitems (by omega) rest).bind _

/-- Members are read back up to the first one that is too deep. -/
lemma outOfLevels_members {ms : List (Value × Value)} (hdata : membersAreData ms = true)
    (hback : ∀ m ∈ ms, ReadsBack digits m.2) (hall : ∀ m ∈ ms, RefusedBelow digits m.2)
    {texts : List (List Char)} {depth fuel : Nat} (h : writeMembers .spaced ms = .ok texts)
    (hdepth : depth < nestingOfMembers ms) (hfuel : 2 * (joined [',', ' '] texts).length < fuel)
    (rest : List Char) :
    OutOfLevels (readMembers digits depth fuel (joined [',', ' '] texts ++ '}' :: rest)) := by
  induction ms generalizing texts fuel with
  | nil => exact absurd hdepth (Nat.not_lt_zero depth)
  | cons m ms ih =>
    obtain ⟨key, v⟩ := m
    obtain ⟨keyText, hkey, h⟩ := bind_eq_ok.mp h
    obtain ⟨cs, hcs, h⟩ := bind_eq_ok.mp h
    obtain ⟨texts, htexts, h⟩ := bind_eq_ok.mp h
    obtain rfl := Except.ok.inj h
    obtain ⟨k, rfl, -, hv, hms⟩ := membersAreData_cons hdata
    obtain rfl := Except.ok.inj hkey
    obtain ⟨fuel, rfl⟩ := Nat.exists_eq_add_one_of_ne_zero (by omega : fuel ≠ 0)
    rw [nestingOfMembers] at hdepth
    have hvalue : Begins cs := begins_written hv hcs
    have hmember : writeString k ++ Style.spaced.keySeparator ++ cs =
        writeString k ++ ([':', ' '] ++ cs) := List.append_assoc _ _ _
    have hlength := length_le_joined [',', ' '] (writeString k ++ ([':', ' '] ++ cs)) texts
    rw [hmember] at hfuel ⊢
    simp only [List.length_append, List.length_cons, List.length_nil] at hlength
    have hvfuel : 2 * cs.length ≤ fuel := by omega
    by_cases hdeep : depth < nesting v
    · obtain ⟨tail, htail⟩ :=
        exists_joined_eq [',', ' '] (writeString k ++ ([':', ' '] ++ cs)) texts
      have htext : writeString k ++ ([':', ' '] ++ cs) ++ tail ++ '}' :: rest =
          writeString k ++ ([':', ' '] ++ (cs ++ (tail ++ '}' :: rest))) := by
        simp
      rw [htail, htext]
      exact outOfLevels_member k (hvalue.append _).skipBlank_eq
        (hall (.str k, v) List.mem_cons_self hcs hdeep hvfuel)
    · have hothers : depth < nestingOfMembers ms := by omega
      have hne : ms ≠ [] := by
        rintro rfl
        exact absurd hothers (Nat.not_lt_zero depth)
      have hmore := begins_members hne hms htexts
      have hparts : texts ≠ [] := by
        rintro rfl
        obtain ⟨c, cs, heq, -⟩ := hmore
        cases heq
      rw [joined_cons _ _ hparts] at hfuel ⊢
      simp only [List.length_append, List.length_cons, List.length_nil] at hfuel
      have hrefused := ih hms (fun m hm => hback m (List.mem_cons_of_mem _ hm))
        (fun m hm => hall m (List.mem_cons_of_mem _ hm)) htexts hothers (by omega : _ < fuel)
      have hfollows : Follows (',' :: ' ' :: (joined [',', ' '] texts ++ '}' :: rest)) :=
        follows_cons (by simp) _
      have hread := hback (.str k, v) List.mem_cons_self hcs (Nat.le_of_not_lt hdeep) hvfuel hfollows
      have htext : writeString k ++ ([':', ' '] ++ cs) ++ ([',', ' '] ++ joined [',', ' '] texts) ++
          '}' :: rest = writeString k ++ ([':', ' '] ++
            (cs ++ ',' :: ' ' :: (joined [',', ' '] texts ++ '}' :: rest))) := by
        simp
      rw [htext, readMembers_more k (hvalue.append _).skipBlank_eq hread
        (hmore.append _).skipBlank_eq]
      exact hrefused.bind _

lemma refusedBelow_map {ms : List (Value × Value)} (hdata : membersAreData ms = true)
    (hback : ∀ m ∈ ms, ReadsBack digits m.2) (hall : ∀ m ∈ ms, RefusedBelow digits m.2) :
    RefusedBelow digits (.map ms) := by
  intro cs rest depth fuel h hdepth hfuel
  obtain ⟨texts, htexts, h⟩ := bind_eq_ok.mp h
  obtain rfl := Except.ok.inj h
  have htext : '{' :: joined [',', ' '] texts ++ ['}'] ++ rest =
      '{' :: (joined [',', ' '] texts ++ '}' :: rest) := by
    simp
  change 2 * ('{' :: joined [',', ' '] texts ++ ['}']).length ≤ fuel at hfuel
  change OutOfLevels (readValue digits depth fuel ('{' :: joined [',', ' '] texts ++ ['}'] ++ rest))
  simp only [List.length_append, List.length_cons, List.length_nil] at hfuel
  obtain ⟨fuel, rfl⟩ := Nat.exists_eq_add_one_of_ne_zero (by omega : fuel ≠ 0)
  rw [htext]
  cases depth with
  | zero => exact ⟨"object", _, rfl⟩
  | succ depth =>
    rw [nesting] at hdepth
    have hmembers : depth < nestingOfMembers ms := by omega
    have hne : ms ≠ [] := by
      rintro rfl
      exact absurd hmembers (Nat.not_lt_zero depth)
    have hmore : Begins (joined [',', ' '] texts ++ '}' :: rest) :=
      (begins_members hne hdata htexts).append _
    have hskip := hmore.skipBlank_eq
    rw [readValue_map (by rw [hskip]; exact hmore.head?_ne rfl), hskip]
    exact (outOfLevels_members hdata hback hall htexts hmembers (by omega) rest).bind _

/-- What has no levels is never too deep. -/
lemma refusedBelow_flat {v : Value} (h : nesting v = 0) : RefusedBelow digits v := by
  intro cs rest depth fuel _ hdepth
  rw [h] at hdepth
  exact absurd hdepth (Nat.not_lt_zero depth)

mutual

/-- All data is refused where it is too deep. -/
theorem refusedBelow (hdigits : ∀ l ∈ digits, Decimal.digitLimit ≤ l) :
    ∀ v, isData v = true → RefusedBelow digits v
  | .list xs => fun h => by
    rw [isData] at h
    exact refusedBelow_list h (itemsReadBack hdigits xs h) (itemsRefused hdigits xs h)
  | .map ms => fun h => by
    rw [isData] at h
    exact refusedBelow_map h (membersReadBack hdigits ms h) (membersRefused hdigits ms h)
  | .null => fun _ => refusedBelow_flat rfl
  | .bool _ => fun _ => refusedBelow_flat rfl
  | .int _ => fun _ => refusedBelow_flat rfl
  | .str _ => fun _ => refusedBelow_flat rfl
  | .float _ => nofun
  | .tuple _ => nofun
  | .set _ => nofun
  | .octets _ => nofun
  | .date _ => nofun
  | .moment _ => nofun
  | .function _ => nofun

theorem itemsRefused (hdigits : ∀ l ∈ digits, Decimal.digitLimit ≤ l) :
    ∀ xs, itemsAreData xs = true → ∀ x ∈ xs, RefusedBelow digits x
  | [] => fun _ => by simp
  | x :: xs => fun h => by
    rw [itemsAreData, Bool.and_eq_true] at h
    exact List.forall_mem_cons.mpr ⟨refusedBelow hdigits x h.1, itemsRefused hdigits xs h.2⟩

theorem membersRefused (hdigits : ∀ l ∈ digits, Decimal.digitLimit ≤ l) :
    ∀ ms, membersAreData ms = true → ∀ m ∈ ms, RefusedBelow digits m.2
  | [] => fun _ => by simp
  | (k, v) :: ms => fun h => by
    obtain ⟨_, -, -, hv, hms⟩ := membersAreData_cons h
    exact List.forall_mem_cons.mpr ⟨refusedBelow hdigits v hv, membersRefused hdigits ms hms⟩

end

end RefusedBelow

/-! ### Whole texts -/

/-- The text of data that is too deep is refused, and for that reason. -/
theorem tooDeep_text [Depth] {v : Value} {s : String} (hv : isData v = true) (h : text v = .ok s)
    (hdeep : Depth.limit < nesting v) : TooDeep s := by
  obtain ⟨cs, hcs, rfl⟩ := map_eq_ok.mp h
  have hbegins : Begins cs := begins_written hv hcs
  have hdigits : ∀ l ∈ some Decimal.digitLimit, Decimal.digitLimit ≤ l := by
    rintro l ⟨⟩
    exact Nat.le_refl _
  have hvalue : OutOfLevels (readValue (some Decimal.digitLimit) Depth.limit
      (2 * cs.length + 2) (cs ++ [])) :=
    refusedBelow hdigits v hv hcs hdeep (by omega)
  rw [List.append_nil] at hvalue
  obtain ⟨kind, left, hall⟩ := hvalue.bind atEnd
  refine ⟨.of cs ⟨.lessDepth kind, left⟩, ?_, rfl⟩
  rw [read, readWith, String.toList_ofList, readAll_eq _ (hbegins.head?_ne rfl),
    hbegins.skipBlank_eq, depthFor, Option.map_some, Limits.digits_inForce, Limits.depth_inForce,
    hall, mapError_error]

/-! ### What can be read back -/

mutual

/-- Data is what JSON has, without numbers that are no integers. -/
theorem isJson_of_isData : ∀ v, isData v = true → isJson v = true
  | .list xs => fun h => by
    rw [isData] at h
    rw [isJson, itemsAreJson_of_data xs h]
  | .map ms => fun h => by
    rw [isData] at h
    rw [isJson, membersAreJson_of_data ms h]
  | .int n => fun h => by
    rw [isData] at h
    rw [isJson, h]
  | .null => fun _ => rfl
  | .bool _ => fun _ => rfl
  | .str _ => fun _ => rfl
  | .float _ => nofun
  | .tuple _ => nofun
  | .set _ => nofun
  | .octets _ => nofun
  | .date _ => nofun
  | .moment _ => nofun
  | .function _ => nofun

theorem itemsAreJson_of_data : ∀ xs, itemsAreData xs = true → itemsAreJson xs = true
  | [], _ => rfl
  | x :: xs, h => by
    rw [itemsAreData, Bool.and_eq_true] at h
    rw [itemsAreJson, isJson_of_isData x h.1, itemsAreJson_of_data xs h.2]
    rfl

theorem membersAreJson_of_data : ∀ ms, membersAreData ms = true → membersAreJson ms = true
  | [], _ => rfl
  | (key, v) :: ms, h => by
    obtain ⟨k, rfl, -, hv, hms⟩ := membersAreData_cons h
    rw [membersAreJson, isJson_of_isData v hv, membersAreJson_of_data ms hms]
    rfl

end

/-- **What is read back.** Data has a text, and the text is read back as what it is of if and only if
the data is not deeper than a reader goes. -/
theorem read_text_iff [Depth] {v : Value} (hv : isData v = true) :
    ∃ s, text v = .ok s ∧ (read s = .ok v ↔ nesting v ≤ Depth.limit) := by
  obtain ⟨s, hs⟩ := exists_text (isJson_of_isData v hv)
  refine ⟨s, hs, fun hread => ?_, fun hdepth => readWith_text hv (suits_inForce hdepth) hs⟩
  by_contra hdeep
  obtain ⟨e, he, -⟩ := tooDeep_text hv hs (Nat.lt_of_not_le hdeep)
  rw [hread] at he
  cases he

end RestOperations.Json
