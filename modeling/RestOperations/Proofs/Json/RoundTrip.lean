import RestOperations.Proofs.Json.Data
import RestOperations.Proofs.Json.Scalars

/-!
Values written and read back. What is made of null, truth values, texts, integers that are not too
long, lists, and maps with texts for keys comes back from its text as it was, however deep it goes,
where the reader has the levels for it. Each reader stops where its value ends, so that the parts
of a collection can be read one after the other.
-/

namespace RestOperations.Json

/-! ### How a value begins -/

/-- The character is no blank and no mark of the octet order, and closes nothing. -/
def begins (c : Char) : Bool := !isBlank c && c != ']' && c != '}' && c != '\uFEFF'

def Begins (cs : List Char) : Prop := ∃ c more, cs = c :: more ∧ begins c = true

lemma begins_of_isDigit {c : Char} (hc : c.isDigit = true) : begins c = true := by
  have hne : ∀ d ∈ [' ', '\t', '\n', '\r', ']', '}', '\uFEFF'], c ≠ d :=
    ne_of_isDigit hc rfl
  simp only [List.forall_mem_cons] at hne
  simp [begins, isBlank, hne]

lemma begins_writeInt (n : Int) : Begins (writeInt n) := by
  obtain ⟨c, cs, hcs, hc⟩ := exists_writeInt_eq_cons n
  refine ⟨c, cs, hcs, ?_⟩
  rcases hc with rfl | hc
  · rfl
  · exact begins_of_isDigit hc

lemma begins_written {v : Value} {cs : List Char} (hv : isData v = true)
    (h : writeChars .spaced v = .ok cs) : Begins cs := by
  cases v with
  | null =>
    cases h
    exact ⟨'n', _, rfl, rfl⟩
  | bool b =>
    cases h
    cases b with
    | true => exact ⟨'t', _, rfl, rfl⟩
    | false => exact ⟨'f', _, rfl, rfl⟩
  | int n =>
    rw [isData] at hv
    rw [writeChars, writeInt?, if_pos hv] at h
    cases h
    exact begins_writeInt n
  | str s =>
    cases h
    exact ⟨'"', _, rfl, rfl⟩
  | list xs =>
    obtain ⟨texts, -, h⟩ := bind_eq_ok.mp h
    cases h
    exact ⟨'[', _, rfl, rfl⟩
  | map ms =>
    obtain ⟨texts, -, h⟩ := bind_eq_ok.mp h
    cases h
    exact ⟨'{', _, rfl, rfl⟩
  | _ => cases hv

lemma Begins.append {cs : List Char} (h : Begins cs) (more : List Char) : Begins (cs ++ more) := by
  obtain ⟨c, rest, rfl, hc⟩ := h
  exact ⟨c, rest ++ more, rfl, hc⟩

lemma Begins.head?_ne {cs : List Char} (h : Begins cs) {c : Char} (hc : begins c = false) :
    cs.head? ≠ some c := by
  obtain ⟨d, rest, rfl, hd⟩ := h
  intro heq
  obtain rfl := Option.some.inj heq
  rw [hc] at hd
  cases hd

lemma Begins.skipBlank_eq {cs : List Char} (h : Begins cs) : skipBlank cs = cs := by
  obtain ⟨c, rest, rfl, hc⟩ := h
  simp only [begins, Bool.and_eq_true, Bool.not_eq_true'] at hc
  exact skipBlank_cons hc.1.1.1 rest

/-- The parts begin as their first one does. -/
lemma Begins.joined {part : List Char} (h : Begins part) (separator : List Char)
    (parts : List (List Char)) : Begins (joined separator (part :: parts)) := by
  cases parts with
  | nil => exact h
  | cons next parts =>
    rw [joined_cons separator part (by simp)]
    exact h.append _

/-! ### Parts of values -/

section Parts

variable {digits : Option Nat} {depth fuel : Nat} {rest : List Char}

/-- What is neither a string nor a collection is a word or a number. -/
lemma readValue_plain {c : Char} (hc : c ∉ ['"', '[', '{']) (cs : List Char) :
    readValue digits depth (fuel + 1) (c :: cs) =
      (readLiteral? (c :: cs)).elim (readNumber digits (c :: cs)) .ok := by
  simp only [List.mem_cons, List.not_mem_nil, or_false, not_or] at hc
  rw [readValue]
  · cases readLiteral? (c :: cs) <;> rfl
  all_goals simp [hc]

/-- The last item. -/
lemma readItems_last {cs : List Char} {x : Value}
    (h : readValue digits depth fuel cs = .ok (x, ']' :: rest)) :
    readItems digits depth (fuel + 1) cs = .ok ([x], rest) := by
  rw [readItems, h, ok_bind]
  rfl

/-- An item, and then others. -/
lemma readItems_more {cs more : List Char} {x : Value}
    (h : readValue digits depth fuel cs = .ok (x, ',' :: ' ' :: more))
    (hmore : skipBlank more = more) :
    readItems digits depth (fuel + 1) cs =
      readItems digits depth fuel more >>= fun p => .ok (x :: p.1, p.2) := by
  have hblank : skipBlank (' ' :: more) = more := hmore
  rw [readItems, h, ok_bind]
  change (readItems digits depth fuel (skipBlank (' ' :: more)) >>= _) = _
  rw [hblank]

/-- The last member. -/
lemma readMembers_last (k : String) {cs : List Char} {v : Value} (hcs : skipBlank cs = cs)
    (h : readValue digits depth fuel cs = .ok (v, '}' :: rest)) :
    readMembers digits depth (fuel + 1) (writeString k ++ ([':', ' '] ++ cs)) =
      .ok ([(.str k, v)], rest) := by
  have hblank : skipBlank (' ' :: cs) = cs := hcs
  rw [writeString_append, readMembers, readString_written, ok_bind]
  change (readValue digits depth fuel (skipBlank (' ' :: cs)) >>= _) = _
  rw [hblank, h, ok_bind]
  rfl

/-- A member, and then others. -/
lemma readMembers_more (k : String) {cs more : List Char} {v : Value} (hcs : skipBlank cs = cs)
    (h : readValue digits depth fuel cs = .ok (v, ',' :: ' ' :: more))
    (hmore : skipBlank more = more) :
    readMembers digits depth (fuel + 1) (writeString k ++ ([':', ' '] ++ cs)) =
      readMembers digits depth fuel more >>= fun p => .ok ((.str k, v) :: p.1, p.2) := by
  have hblank : skipBlank (' ' :: cs) = cs := hcs
  have hblank' : skipBlank (' ' :: more) = more := hmore
  rw [writeString_append, readMembers, readString_written, ok_bind]
  change (readValue digits depth fuel (skipBlank (' ' :: cs)) >>= _) = _
  rw [hblank, h, ok_bind]
  change (readMembers digits depth fuel (skipBlank (' ' :: more)) >>= _) = _
  rw [hblank']

/-- A map that does not end at once has members, one level down. -/
lemma readValue_map {cs : List Char} (h : (skipBlank cs).head? ≠ some '}') :
    readValue digits (depth + 1) (fuel + 1) ('{' :: cs) =
      readMembers digits depth fuel (skipBlank cs) >>= fun p => .ok (Value.ofMembers p.1, p.2) := by
  rw [readValue, if_neg (by omega)]
  split
  · next hclose =>
    rw [hclose] at h
    exact absurd rfl h
  · rfl

end Parts

/-! ### Values -/

/-- The text of the value is read back, with levels enough, before all that may follow a value. -/
def ReadsBack (digits : Option Nat) (v : Value) : Prop :=
  ∀ {cs rest : List Char} {depth fuel : Nat}, writeChars .spaced v = .ok cs → nesting v ≤ depth →
    2 * cs.length ≤ fuel → Follows rest → readValue digits depth fuel (cs ++ rest) = .ok (v, rest)

section ReadsBack

variable {digits : Option Nat}

lemma readsBack_null : ReadsBack digits .null := by
  intro cs rest depth fuel h _ hfuel _
  cases h
  obtain ⟨fuel, rfl⟩ := Nat.exists_eq_add_one_of_ne_zero (by simp at hfuel; omega : fuel ≠ 0)
  rfl

lemma readsBack_bool (b : Bool) : ReadsBack digits (.bool b) := by
  intro cs rest depth fuel h _ hfuel _
  cases h
  have hpos : 0 < (writeBool b).length := by cases b <;> decide
  obtain ⟨fuel, rfl⟩ := Nat.exists_eq_add_one_of_ne_zero (by omega : fuel ≠ 0)
  cases b <;> rfl

lemma readsBack_str (s : String) : ReadsBack digits (.str s) := by
  intro cs rest depth fuel h _ hfuel _
  cases h
  have hpos : 0 < (writeString s).length := by simp [writeString]
  obtain ⟨fuel, rfl⟩ := Nat.exists_eq_add_one_of_ne_zero (by omega : fuel ≠ 0)
  rw [writeString_append, readValue, readString_written, ok_bind]

lemma readsBack_int {n : Int} (hdigits : ∀ l ∈ digits, Decimal.digitLimit ≤ l)
    (hn : Decimal.isWritable n = true) : ReadsBack digits (.int n) := by
  intro cs rest depth fuel h _ hfuel hrest
  rw [writeChars, writeInt?, if_pos hn] at h
  obtain rfl := Except.ok.inj h
  have hlength := length_digits_of_isWritable hn
  have hread : readNumber digits (writeInt n ++ rest) = .ok (.int n, rest) :=
    readNumber_written (fun l hl => hlength.trans (hdigits l hl)) hrest
  have hword := readLiteral?_writeInt n rest
  obtain ⟨c, cs, hcs, hc⟩ := exists_writeInt_eq_cons n
  have hplain : c ∉ ['"', '[', '{'] := by
    rcases hc with rfl | hc
    · decide
    · exact fun hmem => ne_of_isDigit hc rfl c hmem rfl
  rw [hcs] at hfuel hread hword ⊢
  rw [List.length_cons] at hfuel
  obtain ⟨fuel, rfl⟩ := Nat.exists_eq_add_one_of_ne_zero (by omega : fuel ≠ 0)
  rw [List.cons_append] at hread hword ⊢
  rw [readValue_plain hplain, hword, Option.elim_none, hread]

/-- Items are read back one by one. -/
lemma readItems_written {xs : List Value} (hne : xs ≠ []) (hdata : itemsAreData xs = true)
    (hall : ∀ x ∈ xs, ReadsBack digits x) {texts : List (List Char)} {depth fuel : Nat}
    (h : writeItems .spaced xs = .ok texts) (hdepth : nestingOfItems xs ≤ depth)
    (hfuel : 2 * (joined [',', ' '] texts).length < fuel) (rest : List Char) :
    Begins (joined [',', ' '] texts) ∧
      readItems digits depth fuel (joined [',', ' '] texts ++ ']' :: rest) = .ok (xs, rest) := by
  -- Each item takes one step of the reader, and at least one character of the text.
  induction xs generalizing texts fuel with
  | nil => exact absurd rfl hne
  | cons x xs ih =>
    obtain ⟨cs, hcs, h⟩ := bind_eq_ok.mp h
    obtain ⟨texts, htexts, h⟩ := bind_eq_ok.mp h
    cases h
    obtain ⟨fuel, rfl⟩ := Nat.exists_eq_add_one_of_ne_zero (by omega : fuel ≠ 0)
    rw [itemsAreData, Bool.and_eq_true] at hdata
    rw [nestingOfItems] at hdepth
    have hbegins : Begins cs := begins_written hdata.1 hcs
    refine ⟨hbegins.joined _ _, ?_⟩
    cases xs with
    | nil =>
      cases htexts
      rw [joined] at hfuel ⊢
      exact readItems_last (hall x (by simp) hcs (by omega) (by omega) (follows_cons (by simp) rest))
    | cons y ys =>
      have hne : texts ≠ [] := by
        rintro rfl
        obtain ⟨_, -, h⟩ := bind_eq_ok.mp htexts
        obtain ⟨_, -, h⟩ := bind_eq_ok.mp h
        cases h
      rw [joined_cons _ _ hne] at hfuel ⊢
      simp only [List.length_append, List.length_cons, List.length_nil] at hfuel
      have hxdepth : nesting x ≤ depth := by omega
      have hxfuel : 2 * cs.length ≤ fuel := by omega
      obtain ⟨hmore, hread⟩ := ih (by simp) hdata.2 (fun x hx => hall x (by simp [hx])) htexts
        (by omega) (by omega : _ < fuel)
      have hfollows : Follows (',' :: ' ' :: (joined [',', ' '] texts ++ ']' :: rest)) :=
        follows_cons (by simp) _
      have hx := hall x (by simp) hcs hxdepth hxfuel hfollows
      rw [List.append_assoc, List.append_assoc]
      change readItems digits depth (fuel + 1)
        (cs ++ ',' :: ' ' :: (joined [',', ' '] texts ++ ']' :: rest)) = _
      rw [readItems_more hx (hmore.append _).skipBlank_eq, hread, ok_bind]

/-- A list is read back if its items are. -/
lemma readsBack_list {xs : List Value} (hdata : itemsAreData xs = true)
    (hall : ∀ x ∈ xs, ReadsBack digits x) : ReadsBack digits (.list xs) := by
  intro cs rest depth fuel h hdepth hfuel _
  obtain ⟨texts, htexts, h⟩ := bind_eq_ok.mp h
  obtain rfl := Except.ok.inj h
  have htext : '[' :: joined [',', ' '] texts ++ [']'] ++ rest =
      '[' :: (joined [',', ' '] texts ++ ']' :: rest) := by
    simp
  change 2 * ('[' :: joined [',', ' '] texts ++ [']']).length ≤ fuel at hfuel
  change readValue digits depth fuel ('[' :: joined [',', ' '] texts ++ [']'] ++ rest) = _
  simp only [List.length_append, List.length_cons, List.length_nil] at hfuel
  rw [nesting] at hdepth
  obtain ⟨depth, rfl⟩ := Nat.exists_eq_add_one_of_ne_zero (by omega : depth ≠ 0)
  obtain ⟨fuel, rfl⟩ := Nat.exists_eq_add_one_of_ne_zero (by omega : fuel ≠ 0)
  rw [htext]
  by_cases hne : xs = []
  · subst hne
    cases htexts
    rfl
  · have hitems : nestingOfItems xs ≤ depth := by omega
    have hlength : 2 * (joined [',', ' '] texts).length < fuel := by omega
    obtain ⟨hbegins, hread⟩ := readItems_written hne hdata hall htexts hitems hlength rest
    have hmore : Begins (joined [',', ' '] texts ++ ']' :: rest) := hbegins.append _
    have hskip := hmore.skipBlank_eq
    rw [readValue_list digits depth fuel (by rw [hskip]; exact hmore.head?_ne rfl), hskip, hread,
      ok_bind]

/-- Members are read back one by one. -/
lemma readMembers_written {ms : List (Value × Value)} (hne : ms ≠ [])
    (hdata : membersAreData ms = true) (hall : ∀ m ∈ ms, ReadsBack digits m.2)
    {texts : List (List Char)} {depth fuel : Nat} (h : writeMembers .spaced ms = .ok texts)
    (hdepth : nestingOfMembers ms ≤ depth) (hfuel : 2 * (joined [',', ' '] texts).length < fuel)
    (rest : List Char) :
    Begins (joined [',', ' '] texts) ∧
      readMembers digits depth fuel (joined [',', ' '] texts ++ '}' :: rest) = .ok (ms, rest) := by
  induction ms generalizing texts fuel with
  | nil => exact absurd rfl hne
  | cons m ms ih =>
    obtain ⟨key, v⟩ := m
    obtain ⟨keyText, hkey, h⟩ := bind_eq_ok.mp h
    obtain ⟨cs, hcs, h⟩ := bind_eq_ok.mp h
    obtain ⟨texts, htexts, h⟩ := bind_eq_ok.mp h
    obtain rfl := Except.ok.inj h
    obtain ⟨k, rfl, -, hv, hms⟩ := membersAreData_cons hdata
    obtain rfl := Except.ok.inj hkey
    obtain ⟨fuel, rfl⟩ := Nat.exists_eq_add_one_of_ne_zero (by omega : fuel ≠ 0)
    rw [nestingOfMembers] at hdepth
    have hmember : writeString k ++ Style.spaced.keySeparator ++ cs =
        writeString k ++ ([':', ' '] ++ cs) := List.append_assoc _ _ _
    have hkey : Begins (writeString k) := ⟨'"', _, rfl, rfl⟩
    have hvalue : Begins cs := begins_written hv hcs
    have hvdepth : nesting v ≤ depth := by omega
    have hread {more : List Char} (hfuel : 2 * cs.length ≤ fuel) (hmore : Follows more) :
        readValue digits depth fuel (cs ++ more) = .ok (v, more) :=
      hall (.str k, v) (by simp) hcs hvdepth hfuel hmore
    rw [hmember] at hfuel ⊢
    refine ⟨(hkey.append _).joined _ _, ?_⟩
    cases ms with
    | nil =>
      cases htexts
      rw [joined] at hfuel ⊢
      simp only [List.length_append, List.length_cons, List.length_nil] at hfuel
      rw [List.append_assoc, List.append_assoc]
      exact readMembers_last k (hvalue.append _).skipBlank_eq
        (hread (by omega) (follows_cons (by simp) rest))
    | cons m ms =>
      have hne : texts ≠ [] := by
        rintro rfl
        obtain ⟨_, -, h⟩ := bind_eq_ok.mp htexts
        obtain ⟨_, -, h⟩ := bind_eq_ok.mp h
        obtain ⟨_, -, h⟩ := bind_eq_ok.mp h
        cases h
      rw [joined_cons _ _ hne] at hfuel ⊢
      simp only [List.length_append, List.length_cons, List.length_nil] at hfuel
      obtain ⟨hmore, hothers⟩ := ih (by simp) hms (fun m hm => hall m (by simp [hm])) htexts
        (by omega) (by omega : _ < fuel)
      have hfollows : Follows (',' :: ' ' :: (joined [',', ' '] texts ++ '}' :: rest)) :=
        follows_cons (by simp) _
      have htext : writeString k ++ ([':', ' '] ++ cs) ++ ([',', ' '] ++ joined [',', ' '] texts) ++
          '}' :: rest = writeString k ++ ([':', ' '] ++
            (cs ++ ',' :: ' ' :: (joined [',', ' '] texts ++ '}' :: rest))) := by
        simp
      rw [htext, readMembers_more k (hvalue.append _).skipBlank_eq (hread (by omega) hfollows)
        (hmore.append _).skipBlank_eq, hothers, ok_bind]

/-- A map is read back if its members are. -/
lemma readsBack_map {ms : List (Value × Value)} (hdata : membersAreData ms = true)
    (hall : ∀ m ∈ ms, ReadsBack digits m.2) : ReadsBack digits (.map ms) := by
  intro cs rest depth fuel h hdepth hfuel _
  obtain ⟨texts, htexts, h⟩ := bind_eq_ok.mp h
  obtain rfl := Except.ok.inj h
  have htext : '{' :: joined [',', ' '] texts ++ ['}'] ++ rest =
      '{' :: (joined [',', ' '] texts ++ '}' :: rest) := by
    simp
  change 2 * ('{' :: joined [',', ' '] texts ++ ['}']).length ≤ fuel at hfuel
  change readValue digits depth fuel ('{' :: joined [',', ' '] texts ++ ['}'] ++ rest) = _
  simp only [List.length_append, List.length_cons, List.length_nil] at hfuel
  rw [nesting] at hdepth
  obtain ⟨depth, rfl⟩ := Nat.exists_eq_add_one_of_ne_zero (by omega : depth ≠ 0)
  obtain ⟨fuel, rfl⟩ := Nat.exists_eq_add_one_of_ne_zero (by omega : fuel ≠ 0)
  rw [htext]
  by_cases hne : ms = []
  · subst hne
    cases htexts
    rfl
  · have hmembers : nestingOfMembers ms ≤ depth := by omega
    have hlength : 2 * (joined [',', ' '] texts).length < fuel := by omega
    obtain ⟨hbegins, hread⟩ := readMembers_written hne hdata hall htexts hmembers hlength rest
    have hmore : Begins (joined [',', ' '] texts ++ '}' :: rest) := hbegins.append _
    have hskip := hmore.skipBlank_eq
    rw [readValue_map (by rw [hskip]; exact hmore.head?_ne rfl), hskip, hread, ok_bind,
      ofMembers_data hdata]

mutual

/-- All data is read back. -/
theorem readsBack (hdigits : ∀ l ∈ digits, Decimal.digitLimit ≤ l) :
    ∀ v, isData v = true → ReadsBack digits v
  | .null => fun _ => readsBack_null
  | .bool b => fun _ => readsBack_bool b
  | .int n => fun h => by
    rw [isData] at h
    exact readsBack_int hdigits h
  | .str s => fun _ => readsBack_str s
  | .list xs => fun h => by
    rw [isData] at h
    exact readsBack_list h (itemsReadBack hdigits xs h)
  | .map ms => fun h => by
    rw [isData] at h
    exact readsBack_map h (membersReadBack hdigits ms h)
  | .float _ => fun h => by cases h
  | .tuple _ => fun h => by cases h
  | .set _ => fun h => by cases h
  | .octets _ => fun h => by cases h
  | .date _ => fun h => by cases h
  | .moment _ => fun h => by cases h
  | .function _ => fun h => by cases h

theorem itemsReadBack (hdigits : ∀ l ∈ digits, Decimal.digitLimit ≤ l) :
    ∀ xs, itemsAreData xs = true → ∀ x ∈ xs, ReadsBack digits x
  | [] => fun _ => by simp
  | x :: xs => fun h => by
    rw [itemsAreData, Bool.and_eq_true] at h
    exact List.forall_mem_cons.mpr ⟨readsBack hdigits x h.1, itemsReadBack hdigits xs h.2⟩

theorem membersReadBack (hdigits : ∀ l ∈ digits, Decimal.digitLimit ≤ l) :
    ∀ ms, membersAreData ms = true → ∀ m ∈ ms, ReadsBack digits m.2
  | [] => fun _ => by simp
  | (k, v) :: ms => fun h => by
    obtain ⟨_, -, -, hv, hms⟩ := membersAreData_cons h
    exact List.forall_mem_cons.mpr ⟨readsBack hdigits v hv, membersReadBack hdigits ms hms⟩

end

end ReadsBack

/-! ### Whole texts -/

/-- The limits leave room for the integers and the levels of the value. -/
def Suits (limits : Option Limits) (v : Value) : Prop :=
  ∀ l ∈ limits, Decimal.digitLimit ≤ l.digits ∧ nesting v ≤ l.depth

lemma suits_inForce [Depth] {v : Value} (h : nesting v ≤ Depth.limit) : Suits (some .inForce) v := by
  intro l hl
  obtain rfl := Option.some.inj hl
  exact ⟨Nat.le_refl _, h⟩

/-- **What is written is read.** Data is read back from its text, by any reader whose limits leave
room for it. -/
theorem readWith_text {v : Value} {s : String} {limits : Option Limits} (hv : isData v = true)
    (hlimits : Suits limits v) (h : text v = .ok s) : readWith limits s = .ok v := by
  obtain ⟨cs, hcs, rfl⟩ := map_eq_ok.mp h
  have hbegins : Begins cs := begins_written hv hcs
  have hdigits : ∀ l ∈ limits.map (·.digits), Decimal.digitLimit ≤ l := by
    intro digits hdigits
    obtain ⟨l, hl, rfl⟩ := Option.map_eq_some_iff.mp hdigits
    exact (hlimits l hl).1
  have hdepth : nesting v ≤ depthFor limits cs := by
    cases limits with
    | none => exact nesting_le_length _ v hcs
    | some l => exact (hlimits l rfl).2
  have hread : readValue (limits.map (·.digits)) (depthFor limits cs) (2 * cs.length + 2) (cs ++ []) =
      .ok (v, []) :=
    readsBack hdigits v hv hcs hdepth (by omega) follows_nil
  rw [List.append_nil] at hread
  rw [readWith, String.toList_ofList, readAll_eq limits (hbegins.head?_ne rfl), hbegins.skipBlank_eq,
    hread]
  rfl

end RestOperations.Json
