import Mathlib.Data.List.TakeWhile
import RestOperations.Proofs.Outcome

/-!
How deep a JSON text may go. A reader takes what it reads from the front of the text, and each level
that it goes down costs the text an opening bracket. So a text without more such brackets than there
may be levels is never refused for its depth, and one that begins with too many always is.
-/

namespace RestOperations.Json

/-- The character opens a collection, if it does not stand in a string. -/
def opens (c : Char) : Bool := c == '[' || c == '{'

/-- How many characters of the text may open a collection. -/
def openings (cs : List Char) : Nat := cs.countP opens

/-- The text is refused for its depth. -/
def TooDeep [Depth] (text : String) : Prop := ∃ e, read text = .error e ∧ e.isTooDeep = true

instance [Depth] (text : String) : Decidable (TooDeep text) :=
  match h : read text with
  | .ok v => isFalse (by simp [TooDeep, h])
  | .error e => decidable_of_iff (e.isTooDeep = true) (by simp [TooDeep, h])

/-- What is left is the end of the text; and where the reader stops for depth, the text has more
openings than that. -/
def Keeps {α : Type} (depth : Nat) (cs : List Char) : Except Stop (α × List Char) → Prop
  | .ok (_, rest) => rest <:+ cs
  | .error stop => ∀ kind, stop.expected = .lessDepth kind → depth < openings cs

section Keeps

variable {α β : Type} {depth : Nat} {cs rest : List Char}

lemma openings_le_of_suffix (h : rest <:+ cs) : openings rest ≤ openings cs :=
  h.sublist.countP_le

lemma Keeps.of_suffix {r : Except Stop (α × List Char)} (hr : Keeps depth rest r)
    (h : rest <:+ cs) : Keeps depth cs r := by
  cases r with
  | ok p => exact List.IsSuffix.trans hr h
  | error stop =>
    intro kind hkind
    have hlt := hr kind hkind
    have hle := openings_le_of_suffix h
    omega

/-- One reader after another. -/
lemma Keeps.bind {r : Except Stop (α × List Char)}
    {next : α × List Char → Except Stop (β × List Char)} (hr : Keeps depth cs r)
    (hnext : ∀ a rest, Keeps depth rest (next (a, rest))) : Keeps depth cs (r >>= next) := by
  cases r with
  | error stop => exact hr
  | ok p => exact (hnext p.1 p.2).of_suffix hr

/-- The result is put into shape, and no more is read. -/
lemma Keeps.shape {r : Except Stop (α × List Char)} {g : α → β} (hr : Keeps depth cs r) :
    Keeps depth cs (r >>= fun p => .ok (g p.1, p.2)) :=
  hr.bind fun _ rest => List.suffix_refl rest

/-- A stop for another reason than depth. -/
lemma keeps_stop {e : Expectation} {left : Nat} (h : ∀ kind, e ≠ .lessDepth kind) :
    Keeps (α := α) depth cs (.error ⟨e, left⟩) :=
  fun kind hkind => absurd hkind (h kind)

lemma suffix_skipBlank (cs : List Char) : skipBlank cs <:+ cs := List.dropWhile_suffix _

lemma skipBlank_cons_suffix {c : Char} (h : skipBlank cs = c :: rest) : rest <:+ cs :=
  (List.suffix_cons c rest).trans (h ▸ suffix_skipBlank cs)

end Keeps

/-! ### Strings -/

lemma suffix_readUnit? {cs rest : List Char} {n : Nat} (h : readUnit? cs = some (n, rest)) :
    rest <:+ cs := by
  unfold readUnit? at h
  split at h
  · next a b c d e rest' =>
    obtain ⟨_, _, heq⟩ := Option.map_eq_some_iff.mp h
    cases heq
    exact ⟨[a, b, c, d], rfl⟩
  · cases h

lemma suffix_readLowUnit? {cs rest : List Char} {n : Nat} (h : readLowUnit? cs = some (n, rest)) :
    rest <:+ cs := by
  unfold readLowUnit? at h
  split at h
  · split at h
    · next hunit =>
      split at h
      · cases h
        have hrest := suffix_readUnit? hunit
        exact (hrest.trans (List.suffix_cons _ _)).trans (List.suffix_cons _ _)
      · cases h
    · cases h
  · cases h

lemma keeps_readChars (depth opening fuel : Nat) (cs : List Char) :
    Keeps depth cs (readChars opening fuel cs) := by
  fun_induction readChars opening fuel cs with
  | case1 => exact keeps_stop (by simp)
  | case2 => exact keeps_stop (by simp)
  | case3 => exact List.suffix_cons _ _
  | case4 => exact keeps_stop (by simp)
  | case5 => exact keeps_stop (by simp)
  | case6 _ rest n after hunit low rest' hlow ih =>
    -- Both halves of a pair are read.
    have hafter : after <:+ rest := suffix_readUnit? hunit
    have hrest : rest' <:+ after := by
      split at hlow
      · exact suffix_readLowUnit? hlow
      · cases hlow
    have hall : rest' <:+ '\\' :: 'u' :: rest :=
      (hrest.trans hafter).trans ((List.suffix_cons _ _).trans (List.suffix_cons _ _))
    exact ih.shape.of_suffix hall
  | case7 _ rest n after hunit _ ih =>
    have hall : after <:+ '\\' :: 'u' :: rest :=
      (suffix_readUnit? hunit).trans ((List.suffix_cons _ _).trans (List.suffix_cons _ _))
    exact ih.shape.of_suffix hall
  | case8 => exact keeps_stop (by simp)
  | case9 _ _ _ _ _ _ ih =>
    exact ih.shape.of_suffix ((List.suffix_cons _ _).trans (List.suffix_cons _ _))
  | case10 => exact keeps_stop (by simp)
  | case11 _ _ _ _ _ _ _ _ ih => exact ih.shape.of_suffix (List.suffix_cons _ _)

lemma keeps_readString (depth : Nat) (rest : List Char) : Keeps depth rest (readString rest) :=
  (keeps_readChars depth _ _ rest).shape

/-! ### Numbers and words -/

lemma suffix_takeDigits (cs : List Char) : (takeDigits cs).2 <:+ cs := List.dropWhile_suffix _

lemma suffix_takeWhole (cs : List Char) : (takeWhole cs).2 <:+ cs := by
  unfold takeWhole
  split
  · exact List.suffix_cons _ _
  · exact suffix_takeDigits cs

lemma suffix_takeFraction (cs : List Char) : (takeFraction cs).2 <:+ cs := by
  unfold takeFraction
  split
  · next rest =>
    split
    · exact List.suffix_refl _
    · exact (suffix_takeDigits rest).trans (List.suffix_cons _ _)
  · exact List.suffix_refl _

lemma suffix_takeSign (cs : List Char) : (Decimal.takeSign cs).2 <:+ cs := by
  unfold Decimal.takeSign
  split
  · exact List.suffix_cons _ _
  · exact List.suffix_cons _ _
  · exact List.suffix_refl _

lemma suffix_takeExponent? {cs rest : List Char} {e : Int} (h : takeExponent? cs = some (e, rest)) :
    rest <:+ cs := by
  cases cs with
  | nil => cases h
  | cons c cs =>
    simp only [takeExponent?] at h
    split at h
    · split at h
      · cases h
      · cases h
        have hdigits := suffix_takeDigits (Decimal.takeSign cs).2
        exact (hdigits.trans (suffix_takeSign cs)).trans (List.suffix_cons _ _)
    · cases h

/-- A number after its sign. `left` counts the characters from the sign on. -/
def readUnsigned (digits : Option Nat) (left : Nat) (negative : Bool) (cs : List Char) :
    Except Stop (Value × List Char) :=
  let (whole, rest) := takeWhole cs
  if whole.isEmpty then .error ⟨.value, left⟩
  else
    let (fraction, rest) := takeFraction rest
    match takeExponent? rest with
    | some (e, rest) =>
      .ok (readNumber.real negative (whole ++ fraction) (e - fraction.length), rest)
    | none =>
      if fraction.isEmpty then
        if digits.any (· < whole.length) then .error ⟨.fewerDigits whole.length, rest.length⟩
        else .ok (.int (Decimal.signed negative (Decimal.ofDigits 10 whole)), rest)
      else .ok (readNumber.real negative (whole ++ fraction) (-(fraction.length : Int)), rest)

lemma readNumber_minus (digits : Option Nat) (cs : List Char) :
    readNumber digits ('-' :: cs) = readUnsigned digits (cs.length + 1) true cs := rfl

lemma readNumber_plain {digits : Option Nat} {cs : List Char} (h : cs.head? ≠ some '-') :
    readNumber digits cs = readUnsigned digits cs.length false cs := by
  cases cs with
  | nil => rfl
  | cons c cs =>
    have hc : c ≠ '-' := fun heq => h (by rw [heq]; rfl)
    unfold readNumber
    split
    next negative rest hstart =>
    split at hstart
    · next hcons => exact absurd (List.cons.inj hcons).1 hc
    · cases hstart
      rfl

lemma keeps_readUnsigned (digits : Option Nat) (depth left : Nat) (negative : Bool)
    (cs : List Char) : Keeps depth cs (readUnsigned digits left negative cs) := by
  have hwhole := suffix_takeWhole cs
  have hfraction := (suffix_takeFraction (takeWhole cs).2).trans hwhole
  simp only [readUnsigned]
  split
  · exact keeps_stop (by simp)
  · split
    · next hexp => exact (suffix_takeExponent? hexp).trans hfraction
    · split
      · split
        · exact keeps_stop (by simp)
        · exact hfraction
      · exact hfraction

lemma keeps_readNumber (digits : Option Nat) (depth : Nat) (cs : List Char) :
    Keeps depth cs (readNumber digits cs) := by
  by_cases hminus : cs.head? = some '-'
  · obtain ⟨rest, rfl⟩ := List.head?_eq_some_iff.mp hminus
    rw [readNumber_minus]
    exact (keeps_readUnsigned digits depth _ true rest).of_suffix (List.suffix_cons _ _)
  · rw [readNumber_plain hminus]
    exact keeps_readUnsigned digits depth _ false cs

lemma suffix_readLiteral? {cs rest : List Char} {v : Value}
    (h : readLiteral? cs = some (v, rest)) : rest <:+ cs := by
  obtain ⟨⟨word, w⟩, -, hword⟩ := List.exists_of_findSome?_eq_some h
  dsimp only at hword
  split at hword
  · cases hword
    exact List.drop_suffix _ _
  · cases hword

/-! ### Values -/

/-- At the bottom, an opening is one too many. -/
lemma keeps_bottom {α : Type} {c : Char} {rest : List Char} (hc : opens c = true) (stop : Stop) :
    Keeps (α := α) 0 (c :: rest) (.error stop) := by
  intro kind _
  rw [openings, List.countP_cons_of_pos hc]
  omega

/-- Above it, an opening leads one level down. -/
lemma Keeps.down {α : Type} {depth : Nat} {c : Char} {rest : List Char}
    {r : Except Stop (α × List Char)} (hc : opens c = true)
    (hr : Keeps (depth - 1) (skipBlank rest) r) : Keeps depth (c :: rest) r := by
  have hrest := suffix_skipBlank rest
  cases r with
  | ok p => exact List.IsSuffix.trans hr (hrest.trans (List.suffix_cons _ _))
  | error stop =>
    intro kind hkind
    have hlt := hr kind hkind
    have hle := openings_le_of_suffix hrest
    have hcons : openings (c :: rest) = openings rest + 1 := List.countP_cons_of_pos hc
    omega

section Readers

variable {digits : Option Nat} {fuel : Nat}

lemma keeps_readValue
    (hitems : ∀ depth cs, Keeps depth cs (readItems digits depth fuel cs))
    (hmembers : ∀ depth cs, Keeps depth cs (readMembers digits depth fuel cs))
    (depth : Nat) (cs : List Char) : Keeps depth cs (readValue digits depth (fuel + 1) cs) := by
  unfold readValue
  split
  · next heq => cases heq
  · exact (keeps_readString depth _).shape.of_suffix (List.suffix_cons _ _)
  · next fuel' rest heq =>
    cases heq
    split
    · next hdepth =>
      rw [hdepth]
      exact keeps_bottom (by decide) _
    · split
      · next hclose => exact (skipBlank_cons_suffix hclose).trans (List.suffix_cons _ _)
      · exact (hitems (depth - 1) (skipBlank rest)).shape.down (by decide)
  · next fuel' rest heq =>
    cases heq
    split
    · next hdepth =>
      rw [hdepth]
      exact keeps_bottom (by decide) _
    · split
      · next hclose => exact (skipBlank_cons_suffix hclose).trans (List.suffix_cons _ _)
      · exact (hmembers (depth - 1) (skipBlank rest)).shape.down (by decide)
  · split
    · next hword => exact suffix_readLiteral? hword
    · exact keeps_readNumber digits depth _

lemma keeps_readItems
    (hvalue : ∀ depth cs, Keeps depth cs (readValue digits depth fuel cs))
    (hitems : ∀ depth cs, Keeps depth cs (readItems digits depth fuel cs))
    (depth : Nat) (cs : List Char) : Keeps depth cs (readItems digits depth (fuel + 1) cs) := by
  rw [readItems]
  refine (hvalue depth cs).bind fun x rest => ?_
  dsimp only
  split
  · next hclose => exact skipBlank_cons_suffix hclose
  · next rest' hcomma =>
    have hrest := skipBlank_cons_suffix hcomma
    have hmore := (hitems depth (skipBlank rest')).shape (g := fun xs => x :: xs)
    exact hmore.of_suffix ((suffix_skipBlank rest').trans hrest)
  · exact keeps_stop (by simp)

lemma keeps_readMembers
    (hvalue : ∀ depth cs, Keeps depth cs (readValue digits depth fuel cs))
    (hmembers : ∀ depth cs, Keeps depth cs (readMembers digits depth fuel cs))
    (depth : Nat) (cs : List Char) : Keeps depth cs (readMembers digits depth (fuel + 1) cs) := by
  unfold readMembers
  split
  · next heq => cases heq
  · next fuel' rest heq =>
    cases heq
    refine ((keeps_readString depth rest).of_suffix (List.suffix_cons _ _)).bind fun k rest => ?_
    dsimp only
    split
    · next rest' hcolon =>
      have hrest := (suffix_skipBlank rest').trans (skipBlank_cons_suffix hcolon)
      refine ((hvalue depth (skipBlank rest')).of_suffix hrest).bind fun v rest => ?_
      dsimp only
      split
      · next hclose => exact skipBlank_cons_suffix hclose
      · next rest' hcomma =>
        have hrest := skipBlank_cons_suffix hcomma
        have hmore := (hmembers depth (skipBlank rest')).shape (g := fun ms => (.str k, v) :: ms)
        exact hmore.of_suffix ((suffix_skipBlank rest').trans hrest)
      · exact keeps_stop (by simp)
    · exact keeps_stop (by simp)
  · exact keeps_stop (by simp)

end Readers

/-- All readers of values keep to the text, with as many levels as there are. -/
lemma keeps_readers (digits : Option Nat) (fuel : Nat) :
    (∀ depth cs, Keeps depth cs (readValue digits depth fuel cs)) ∧
    (∀ depth cs, Keeps depth cs (readItems digits depth fuel cs)) ∧
    ∀ depth cs, Keeps depth cs (readMembers digits depth fuel cs) := by
  induction fuel with
  | zero =>
    refine ⟨fun depth cs => ?_, fun depth cs => ?_, fun depth cs => ?_⟩
    · exact keeps_stop (by simp)
    · exact keeps_stop (by simp)
    · exact keeps_stop (by simp)
  | succ fuel ih =>
    obtain ⟨hvalue, hitems, hmembers⟩ := ih
    exact ⟨keeps_readValue hitems hmembers, keeps_readItems hvalue hitems,
      keeps_readMembers hvalue hmembers⟩

/-! ### Whole texts -/

/-- How many levels there may be in a text. -/
def depthFor (limits : Option Limits) (cs : List Char) : Nat :=
  match limits with
  | some l => l.depth
  | none => cs.length

/-- Nothing but blanks may follow the value of a text. -/
def atEnd (p : Value × List Char) : Except Stop Value :=
  if (skipBlank p.2).isEmpty then .ok p.1 else .error ⟨.endOfText, (skipBlank p.2).length⟩

lemma readAll_eq (limits : Option Limits) {cs : List Char} (h : cs.head? ≠ some '\uFEFF') :
    readAll limits cs =
      readValue (limits.map (·.digits)) (depthFor limits cs) (2 * cs.length + 2) (skipBlank cs) >>=
        atEnd := by
  unfold readAll
  rw [if_neg h]
  rfl

lemma readAll_marked (limits : Option Limits) {cs : List Char} (h : cs.head? = some '\uFEFF') :
    readAll limits cs = .error ⟨.noByteOrderMark, cs.length⟩ := by
  unfold readAll
  rw [if_pos h]
  rfl

lemma lessDepth_readAll {l : Limits} {cs : List Char} {stop : Stop} {kind : String}
    (h : readAll (some l) cs = .error stop) (hkind : stop.expected = .lessDepth kind) :
    l.depth < openings cs := by
  by_cases hmark : cs.head? = some '\uFEFF'
  · rw [readAll_marked _ hmark] at h
    cases h
    cases hkind
  · rw [readAll_eq _ hmark] at h
    have hkeeps := (keeps_readers (some l.digits) (2 * cs.length + 2)).1 l.depth (skipBlank cs)
    have hle := openings_le_of_suffix (suffix_skipBlank cs)
    obtain hvalue | ⟨p, -, hend⟩ := bind_eq_error.mp h
    · rw [depthFor, Option.map_some] at hvalue
      rw [hvalue] at hkeeps
      have hlt := hkeeps kind hkind
      omega
    · -- What stops at the end of the value is not its depth.
      unfold atEnd at hend
      split at hend
      · cases hend
      · cases hend
        cases hkind

/-- A text with few openings is not refused for its depth. -/
theorem not_tooDeep_of_openings [Depth] {text : String}
    (h : openings text.toList ≤ Depth.limit) : ¬ TooDeep text := by
  rintro ⟨e, he, hdeep⟩
  obtain ⟨stop, hstop, rfl⟩ := mapError_eq_error.mp he
  unfold ReadError.isTooDeep ReadError.of at hdeep
  split at hdeep
  · next kind hkind =>
    have hlt : Depth.limit < openings text.toList := lessDepth_readAll hstop hkind
    omega
  · cases hdeep

/-! ### Texts that are too deep -/

lemma skipBlank_cons {c : Char} (h : isBlank c = false) (cs : List Char) :
    skipBlank (c :: cs) = c :: cs := by
  rw [skipBlank, List.dropWhile_cons_of_neg (by simp [h])]

/-- A list that does not end at once has items, one level down. -/
lemma readValue_list (digits : Option Nat) (depth fuel : Nat) {cs : List Char}
    (h : (skipBlank cs).head? ≠ some ']') :
    readValue digits (depth + 1) (fuel + 1) ('[' :: cs) =
      readItems digits depth fuel (skipBlank cs) >>= fun p => .ok (.list p.1, p.2) := by
  rw [readValue, if_neg (by omega)]
  split
  · next hclose =>
    rw [hclose] at h
    exact absurd rfl h
  · rfl

/-- Lists within lists, more of them than there may be levels. -/
lemma readValue_nested (digits : Option Nat) {depth n fuel : Nat} (rest : List Char)
    (hn : depth < n) (hfuel : 2 * depth < fuel) :
    ∃ left, readValue digits depth fuel (List.replicate n '[' ++ rest) =
      .error ⟨.lessDepth "array", left⟩ := by
  induction depth generalizing n fuel with
  | zero =>
    obtain ⟨n, rfl⟩ := Nat.exists_eq_add_one_of_ne_zero (by omega : n ≠ 0)
    obtain ⟨fuel, rfl⟩ := Nat.exists_eq_add_one_of_ne_zero (by omega : fuel ≠ 0)
    exact ⟨_, rfl⟩
  | succ depth ih =>
    obtain ⟨n, rfl⟩ : ∃ m, n = m + 2 := ⟨n - 2, by omega⟩
    obtain ⟨fuel, rfl⟩ : ∃ m, fuel = m + 2 := ⟨fuel - 2, by omega⟩
    obtain ⟨left, hleft⟩ : ∃ left, readValue digits depth fuel
        (List.replicate (n + 1) '[' ++ rest) = .error ⟨.lessDepth "array", left⟩ :=
      ih (by omega) (by omega)
    refine ⟨left, ?_⟩
    have hskip : skipBlank (List.replicate (n + 1) '[' ++ rest) =
        List.replicate (n + 1) '[' ++ rest := skipBlank_cons (by decide) _
    have hhead : (skipBlank (List.replicate (n + 1) '[' ++ rest)).head? ≠ some ']' := by
      rw [hskip, List.replicate_succ]
      simp
    have hitems : readItems digits depth (fuel + 1) (List.replicate (n + 1) '[' ++ rest) =
        .error ⟨.lessDepth "array", left⟩ := by
      rw [readItems, hleft, error_bind]
    rw [List.replicate_succ, List.cons_append, readValue_list digits depth (fuel + 1) hhead, hskip,
      hitems, error_bind]

/-- A text that begins with too many brackets is too deep, whatever follows. -/
theorem tooDeep_nested [Depth] {n : Nat} (h : Depth.limit < n) (rest : List Char) :
    TooDeep (String.ofList (List.replicate n '[' ++ rest)) := by
  obtain ⟨m, rfl⟩ := Nat.exists_eq_add_one_of_ne_zero (by omega : n ≠ 0)
  have hlength : (List.replicate (m + 1) '[' ++ rest).length = m + 1 + rest.length := by simp
  have hskip : skipBlank (List.replicate (m + 1) '[' ++ rest) =
      List.replicate (m + 1) '[' ++ rest := skipBlank_cons (by decide) _
  have hfuel : 2 * Depth.limit < 2 * (List.replicate (m + 1) '[' ++ rest).length + 2 := by
    omega
  obtain ⟨left, hleft⟩ := readValue_nested (some Decimal.digitLimit) rest h hfuel
  have hall : readAll (some .inForce) (List.replicate (m + 1) '[' ++ rest) =
      .error ⟨.lessDepth "array", left⟩ := by
    rw [readAll_eq _ (by simp [List.replicate_succ]), hskip, depthFor, Option.map_some,
      Limits.digits_inForce, Limits.depth_inForce, hleft, error_bind]
  refine ⟨.of (List.replicate (m + 1) '[' ++ rest) ⟨.lessDepth "array", left⟩, ?_, rfl⟩
  rw [read, readWith, String.toList_ofList, hall, mapError_error]

end RestOperations.Json
