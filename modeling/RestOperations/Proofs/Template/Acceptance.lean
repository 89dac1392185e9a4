import RestOperations.Proofs.Slot.Pieces
import RestOperations.Proofs.Template.Slots

/-!
Which values can be compiled. A computation accepts what meets a condition if it succeeds exactly
then, and if all that it reports otherwise is a configuration fault. Compiling accepts the values
whose texts are well written, at any depth: a text after a dollar sign is an expression, and the slots
of any other text have conversions that there are, if they have one. The keys of maps are not looked
at, and tuples and sets are plain data.
-/

namespace RestOperations

/-- The computation succeeds if and only if the condition holds; otherwise the configuration is at
fault. -/
structure Accepts {α : Type} (P : Prop) (r : Except Fault α) : Prop where
  isOk_iff : r.isOk = true ↔ P
  faults : FaultsIn (fun f => f.isConfiguration = true) r

namespace Accepts

variable {α β : Type} {P Q : Prop} {r : Except Fault α}

lemma ok (a : α) (h : P) : Accepts P (.ok a) := ⟨iff_of_true rfl h, faultsIn_ok a⟩

lemma error {f : Fault} (hf : f.isConfiguration = true) (h : ¬ P) :
    Accepts P (.error f : Except Fault α) :=
  ⟨iff_of_false Bool.false_ne_true h, (faultsIn_error f).mpr hf⟩

lemma congr (h : Accepts P r) (hpq : P ↔ Q) : Accepts Q r := ⟨h.isOk_iff.trans hpq, h.faults⟩

/-- Both parts have their conditions, where that of the second one is the same for all results. -/
lemma bind {next : α → Except Fault β} (h : Accepts P r) (hnext : ∀ a, Accepts Q (next a)) :
    Accepts (P ∧ Q) (r >>= next) := by
  refine ⟨?_, h.faults.bind fun a => (hnext a).faults⟩
  rw [← h.isOk_iff]
  cases r with
  | error f => simp [Except.isOk, Except.toBool]
  | ok a => simpa [Except.isOk, Except.toBool] using (hnext a).isOk_iff

lemma map (h : Accepts P r) (g : α → β) : Accepts P (r.map g) :=
  ⟨by rw [isOk_map, h.isOk_iff], (faultsIn_map r g).mpr h.faults⟩

lemma bind_ok (h : Accepts P r) (g : α → β) : Accepts P (r >>= fun a => .ok (g a)) :=
  (h.bind fun a => ok (g a) trivial).congr (and_iff_left trivial)

lemma mapError {ε : Type} {r : Except ε α} {g : ε → Fault} (hg : ∀ e, (g e).isConfiguration = true)
    (h : r.isOk = true ↔ P) : Accepts P (r.mapError g) :=
  ⟨by rw [isOk_mapError, h], faultsIn_mapError hg r⟩

end Accepts

namespace SlotSyntax

/-- The slot has no conversion, or one that there is. -/
def IsKnown (s : SlotSyntax) : Prop :=
  ∀ t, s.conversion = some t → ∃ c, Conversion.Called (String.ofList t) c

lemma isKnown_iff {s : SlotSyntax} : s.IsKnown ↔ ∀ name, ¬ Piece.AsksInVain s name := by
  unfold IsKnown Piece.AsksInVain
  cases s.conversion <;> simp

/-- Where a slot has a conversion that there is, it is the slot that is meant. -/
lemma isOk_toSlot (s : SlotSyntax) (d : Destination) : (s.toSlot d).isOk = true ↔ s.IsKnown := by
  rw [isKnown_iff]
  obtain ⟨hok, -, hknown⟩ | ⟨name, hname, herror⟩ := Piece.toSlot_cases d s
  · rw [hok]
    exact iff_of_true rfl hknown
  · rw [herror]
    exact iff_of_false Bool.false_ne_true fun hknown => hknown name hname

/-- All slots of the text are known. -/
def AllKnown (cs : List Char) : Prop := ∃ ss, Occur cs ss ∧ ∀ s ∈ ss, s.IsKnown

lemma allKnown_nil : AllKnown [] := ⟨[], .nil, by simp⟩

lemma allKnown_of_read? {cs rest : List Char} {s : SlotSyntax} (h : read? cs = some (s, rest)) :
    AllKnown cs ↔ s.IsKnown ∧ AllKnown rest := by
  constructor
  · rintro ⟨ss, hss, hknown⟩
    obtain ⟨ss, rfl, hrest⟩ := (occur_of_read? h).mp hss
    rw [List.forall_mem_cons] at hknown
    exact ⟨hknown.1, ss, hrest, hknown.2⟩
  · rintro ⟨hs, ss, hrest, hknown⟩
    exact ⟨s :: ss, (occur_of_read? h).mpr ⟨ss, rfl, hrest⟩, List.forall_mem_cons.mpr ⟨hs, hknown⟩⟩

lemma allKnown_of_plain {c : Char} {cs : List Char} (h : read? (c :: cs) = none) :
    AllKnown (c :: cs) ↔ AllKnown cs := by
  rw [AllKnown, AllKnown]
  simp only [occur_of_plain h]

end SlotSyntax

namespace Part

open SlotSyntax

/-- A text is split if and only if all its slots are known. -/
lemma isOk_splitFrom {d : Destination} {gathered : List Char} {fuel : Nat} {cs : List Char}
    (hfuel : cs.length ≤ fuel) : (splitFrom d gathered fuel cs).isOk = true ↔ AllKnown cs := by
  induction fuel generalizing gathered cs with
  | zero =>
    obtain rfl := List.length_eq_zero_iff.mp (Nat.le_zero.mp hfuel)
    exact iff_of_true rfl allKnown_nil
  | succ fuel ih =>
    cases cs with
    | nil => exact iff_of_true rfl allKnown_nil
    | cons c cs =>
      rw [splitFrom]
      split
      · next s rest hread =>
        have hlength := length_of_read? hread
        have hrest : (splitFrom d [] fuel rest).isOk = true ↔ AllKnown rest := ih (by omega)
        rw [allKnown_of_read? hread, ← isOk_toSlot s d, ← hrest]
        cases s.toSlot d <;> cases splitFrom d [] fuel rest <;> simp [Except.isOk, Except.toBool]
      · next hread => rw [ih (by simpa using hfuel), allKnown_of_plain hread]

end Part

namespace Template

open SlotSyntax

/-- The text is a dollar sign and an expression. -/
def IsExpression (s : String) : Prop :=
  ∃ source e, s.toList = '$' :: source ∧ Query.parse (String.ofList source) = .ok e

/-- A text after a dollar sign is an expression, and any other text has known slots only. -/
inductive WellWritten : String → Prop
  | expression {s : String} : IsExpression s → WellWritten s
  | text {s : String} : s.toList.head? ≠ some '$' → AllKnown s.toList → WellWritten s

lemma isExpression_iff {s : String} {source : List Char} (h : s.toList = '$' :: source) :
    IsExpression s ↔ ∃ e, Query.parse (String.ofList source) = .ok e := by
  constructor
  · rintro ⟨source', e, h', he⟩
    rw [h] at h'
    cases h'
    exact ⟨e, he⟩
  · rintro ⟨e, he⟩
    exact ⟨source, e, h, he⟩

lemma wellWritten_expression {s : String} {source : List Char} (h : s.toList = '$' :: source) :
    WellWritten s ↔ ∃ e, Query.parse (String.ofList source) = .ok e := by
  rw [← isExpression_iff h]
  constructor
  · rintro (hs | ⟨hs, -⟩)
    · exact hs
    · exact absurd (by rw [h]; rfl) hs
  · exact .expression

lemma wellWritten_text {s : String} (h : ∀ source, s.toList = '$' :: source → False) :
    WellWritten s ↔ AllKnown s.toList := by
  constructor
  · rintro (⟨source, _, hs, -⟩ | ⟨-, hknown⟩)
    · exact (h source hs).elim
    · exact hknown
  · refine .text fun hs => ?_
    obtain ⟨source, hsource⟩ := List.head?_eq_some_iff.mp hs
    exact h source hsource

lemma isConfiguration_unknownConversion (u : UnknownConversion) :
    (unknownConversion u).isConfiguration = true := rfl

lemma accepts_partsOf (s : String) (d : Destination) :
    Accepts (AllKnown s.toList) (partsOf s d) :=
  .mapError isConfiguration_unknownConversion (Part.isOk_splitFrom (le_of_eq s.length_toList))

lemma accepts_compileExpression (source : String) (d : Destination) :
    Accepts (∃ e, Query.parse source = .ok e) (compileExpression source d) := by
  unfold compileExpression
  cases hparse : Query.parse source with
  | ok e => exact .ok _ ⟨e, rfl⟩
  | error cause => exact .error rfl (by rintro ⟨_, ⟨⟩⟩)

lemma accepts_compileText (s : String) (d : Destination) :
    Accepts (AllKnown s.toList) (compileText s d) := by
  unfold compileText
  split
  · next written hread =>
    refine .mapError isConfiguration_unknownConversion ?_
    rw [isOk_map, isOk_toSlot, allKnown_of_read? hread]
    exact (and_iff_left allKnown_nil).symm
  · exact (accepts_partsOf s d).bind_ok _

lemma accepts_compileString (s : String) (d : Destination) :
    Accepts (WellWritten s) (compileString s d) := by
  unfold compileString
  split
  · next source hs =>
    exact (accepts_compileExpression _ d).congr (wellWritten_expression hs).symm
  · next hs => exact (accepts_compileText s d).congr (wellWritten_text hs).symm

lemma accepts_compileUrl (s : String) : Accepts (WellWritten s) (compileUrl s) := by
  unfold compileUrl
  split
  · next source hs =>
    exact (accepts_compileExpression _ .path).congr (wellWritten_expression hs).symm
  · next hs => exact ((accepts_partsOf s .path).bind_ok _).congr (wellWritten_text hs).symm

variable (d : Destination)

mutual

/-- A value is compiled if and only if all its texts are well written. -/
theorem accepts_compile :
    ∀ v : Value, Accepts (∀ s ∈ v.texts, WellWritten s) (compile d v)
  | .str s => (accepts_compileString s d).congr List.forall_mem_singleton.symm
  | .map ms => (accepts_compileMembers ms).bind_ok _
  | .list xs => (accepts_compileItems xs).bind_ok _
  | .null | .bool _ | .int _ | .float _ | .tuple _ | .set _ | .octets _ | .date _ | .moment _
  | .function _ => .ok _ (List.forall_mem_nil _)

theorem accepts_compileMembers :
    ∀ ms, Accepts (∀ s ∈ Value.textsOfMembers ms, WellWritten s) (compileMembers d ms)
  | [] => .ok _ (List.forall_mem_nil _)
  | (_, v) :: ms =>
    ((accepts_compile v).bind fun _ => (accepts_compileMembers ms).bind_ok _).congr
      List.forall_mem_append.symm

theorem accepts_compileItems :
    ∀ xs, Accepts (∀ s ∈ Value.textsOfItems xs, WellWritten s) (compileItems d xs)
  | [] => .ok _ (List.forall_mem_nil _)
  | x :: xs =>
    ((accepts_compile x).bind fun _ => (accepts_compileItems xs).bind_ok _).congr
      List.forall_mem_append.symm

end

lemma accepts_compileEntries (es : List (String × Value)) :
    Accepts (∀ s ∈ es.flatMap (·.2.texts), WellWritten s) (compileEntries d es) := by
  induction es with
  | nil => exact .ok _ (List.forall_mem_nil _)
  | cons e es ih =>
    rw [List.flatMap_cons]
    exact ((accepts_compile d e.2).bind fun _ => ih.bind_ok _).congr List.forall_mem_append.symm

end Template

end RestOperations
