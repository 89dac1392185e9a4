import Mathlib.Data.List.TakeWhile
import Mathlib.Tactic.Lemma
import RestOperations.Slot.Grammar

/-!
The grammar of slots in text, apart from how it is read: what a slot looks like, and where the slots
of a text are. Reading finds a slot exactly where one is written, and a text has its slots in one
way only.
-/

namespace RestOperations

namespace SlotSyntax

/-- The parts of a slot are as they may be written. -/
structure WellFormed (s : SlotSyntax) : Prop where
  named : s.name ≠ []
  name : ∀ c ∈ s.name, isNameChar c = true
  conversion : ∀ t, s.conversion = some t → t ≠ [] ∧ ∀ c ∈ t, Text.isWord c = true
  default : ∀ d, s.default = some d → ∀ c ∈ d, (c != '}') = true

def conversionSource : Option (List Char) → List Char
  | some t => ':' :: t
  | none => []

def defaultSource : Option (List Char) → List Char
  | some d => '=' :: d
  | none => []

lemma source_append (s : SlotSyntax) (rest : List Char) :
    s.source ++ rest = '{' :: (markSource s.required ++ (s.name ++
      (conversionSource s.conversion ++ (defaultSource s.default ++ '}' :: rest)))) := by
  obtain ⟨required, name, _ | t, _ | d⟩ := s <;>
    simp [source, conversionSource, defaultSource]

/-! ### Runs of characters -/

/-- The run ends here: nothing follows, or a character that does not belong to it. -/
def Ends (p : Char → Bool) (cs : List Char) : Prop := ∀ c, cs.head? = some c → p c = false

@[simp] lemma ends_cons {p : Char → Bool} {c : Char} {cs : List Char} :
    Ends p (c :: cs) ↔ p c = false := by
  simp [Ends]

lemma takeWhile_run {p : Char → Bool} {run rest : List Char} (hrun : ∀ c ∈ run, p c = true)
    (hrest : Ends p rest) : (run ++ rest).takeWhile p = run := by
  rw [List.takeWhile_append_of_pos hrun]
  cases rest with
  | nil => simp
  | cons c rest => simp [ends_cons.mp hrest]

lemma dropWhile_run {p : Char → Bool} {run rest : List Char} (hrun : ∀ c ∈ run, p c = true)
    (hrest : Ends p rest) : (run ++ rest).dropWhile p = rest := by
  rw [List.dropWhile_append_of_pos hrun]
  cases rest with
  | nil => simp
  | cons c rest => simp [ends_cons.mp hrest]

lemma mem_takeWhile {p : Char → Bool} {cs : List Char} : ∀ c ∈ cs.takeWhile p, p c = true :=
  fun _ => List.mem_takeWhile_imp

/-! ### What is read -/

lemma takeMark_append (cs : List Char) : markSource (takeMark cs).1 ++ (takeMark cs).2 = cs := by
  unfold takeMark
  split <;> rfl

lemma takeConversion_append (cs : List Char) :
    conversionSource (takeConversion cs).1 ++ (takeConversion cs).2 = cs := by
  unfold takeConversion
  split
  · split
    · rfl
    · exact congrArg (':' :: ·) List.takeWhile_append_dropWhile
  · rfl

lemma takeConversion_words {cs t : List Char} (h : (takeConversion cs).1 = some t) :
    t ≠ [] ∧ ∀ c ∈ t, Text.isWord c = true := by
  unfold takeConversion at h
  split at h
  · split at h
    · cases h
    · next hne =>
      cases h
      exact ⟨by simpa using hne, mem_takeWhile⟩
  · cases h

lemma takeDefault_append (cs : List Char) :
    defaultSource (takeDefault cs).1 ++ (takeDefault cs).2 = cs := by
  unfold takeDefault
  split
  · exact congrArg ('=' :: ·) List.takeWhile_append_dropWhile
  · rfl

lemma takeDefault_open {cs d : List Char} (h : (takeDefault cs).1 = some d) :
    ∀ c ∈ d, (c != '}') = true := by
  unfold takeDefault at h
  split at h
  · cases h
    exact mem_takeWhile
  · cases h

/-- What is read as a slot is one, and stands there. -/
lemma wellFormed_of_read? {cs rest : List Char} {s : SlotSyntax} (h : read? cs = some (s, rest)) :
    s.WellFormed ∧ cs = s.source ++ rest := by
  cases cs with
  | nil => cases h
  | cons c cs =>
    by_cases hc : c = '{'
    · subst hc
      have hmark := takeMark_append cs
      have hname := List.takeWhile_append_dropWhile (p := isNameChar) (l := (takeMark cs).2)
      have hconv := takeConversion_append ((takeMark cs).2.dropWhile isNameChar)
      have hdef := takeDefault_append (takeConversion ((takeMark cs).2.dropWhile isNameChar)).2
      simp only [read?] at h
      split at h
      · cases h
      · next name rest' hne hend =>
        cases h
        refine ⟨⟨fun he => hend he, mem_takeWhile, fun _ => takeConversion_words,
          fun _ => takeDefault_open⟩, ?_⟩
        rw [source_append, ← hne, hdef, hconv, hname, hmark]
      · cases h
    · simp [read?, hc] at h

/-! ### What is written -/

lemma takeMark_markSource (m : Option Bool) {cs : List Char} (h : Ends (· ∈ ['^', '!']) cs) :
    takeMark (markSource m ++ cs) = (m, cs) := by
  rcases m with _ | _ | _
  · rw [markSource, List.nil_append]
    unfold takeMark
    split
    · exact absurd (h '^' rfl) (by decide)
    · exact absurd (h '!' rfl) (by decide)
    · rfl
  · rfl
  · rfl

lemma takeConversion_conversionSource {o : Option (List Char)} {cs : List Char}
    (ho : ∀ t, o = some t → t ≠ [] ∧ ∀ c ∈ t, Text.isWord c = true)
    (hcs : Ends (fun c => Text.isWord c || c == ':') cs) :
    takeConversion (conversionSource o ++ cs) = (o, cs) := by
  cases o with
  | none =>
    rw [conversionSource, List.nil_append]
    unfold takeConversion
    split
    · exact absurd (hcs ':' rfl) (by simp)
    · rfl
  | some t =>
    obtain ⟨hne, ht⟩ := ho t rfl
    have hend : Ends Text.isWord cs := fun c hc => (Bool.or_eq_false_iff.mp (hcs c hc)).1
    simp only [conversionSource, List.cons_append, takeConversion, takeWhile_run ht hend,
      dropWhile_run ht hend]
    rw [if_neg (by simpa using hne)]

lemma takeDefault_defaultSource {o : Option (List Char)} (rest : List Char)
    (ho : ∀ d, o = some d → ∀ c ∈ d, (c != '}') = true) :
    takeDefault (defaultSource o ++ '}' :: rest) = (o, '}' :: rest) := by
  cases o with
  | none => rfl
  | some d =>
    have hend : Ends (· != '}') ('}' :: rest) := by
      rintro c ⟨rfl⟩
      rfl
    simp only [defaultSource, List.cons_append, takeDefault, takeWhile_run (ho d rfl) hend,
      dropWhile_run (ho d rfl) hend]

/-- Where the name, the conversion and the default end is where they may end. -/
lemma ends_name {s : SlotSyntax} (h : s.WellFormed) (rest : List Char) :
    Ends (· ∈ ['^', '!']) (s.name ++ rest) := by
  obtain ⟨c, cs, hname⟩ := List.exists_cons_of_ne_nil h.named
  have hc := h.name c (by simp [hname])
  rw [hname, List.cons_append, ends_cons, decide_eq_false_iff_not]
  intro hmem
  obtain rfl | rfl : c = '^' ∨ c = '!' := by simpa using hmem
  · exact absurd hc (by decide)
  · exact absurd hc (by decide)

lemma ends_conversion (s : SlotSyntax) (rest : List Char) :
    Ends isNameChar
      (conversionSource s.conversion ++ (defaultSource s.default ++ '}' :: rest)) := by
  cases s.conversion with
  | none => cases s.default <;> exact ends_cons.mpr (by decide)
  | some t => exact ends_cons.mpr (by decide)

lemma ends_default (s : SlotSyntax) (rest : List Char) :
    Ends (fun c => Text.isWord c || c == ':') (defaultSource s.default ++ '}' :: rest) := by
  cases s.default <;> exact ends_cons.mpr (by decide)

/-- A slot is read where one is written. -/
lemma read?_source {s : SlotSyntax} (h : s.WellFormed) (rest : List Char) :
    read? (s.source ++ rest) = some (s, rest) := by
  rw [source_append]
  simp only [read?]
  rw [takeMark_markSource _ (ends_name h _), takeWhile_run h.name (ends_conversion s rest),
    dropWhile_run h.name (ends_conversion s rest),
    takeConversion_conversionSource h.conversion (ends_default s rest),
    takeDefault_defaultSource rest h.default]
  obtain ⟨c, cs, hname⟩ := List.exists_cons_of_ne_nil h.named
  simp only [hname]
  rw [← hname]

theorem read?_eq_some_iff {cs rest : List Char} {s : SlotSyntax} :
    read? cs = some (s, rest) ↔ s.WellFormed ∧ cs = s.source ++ rest := by
  constructor
  · exact wellFormed_of_read?
  · rintro ⟨h, rfl⟩
    exact read?_source h rest

end SlotSyntax

end RestOperations
