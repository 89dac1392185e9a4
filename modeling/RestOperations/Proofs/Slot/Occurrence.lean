import RestOperations.Proofs.Outcome
import RestOperations.Proofs.Slot.Grammar

/-!
Where the slots of a text are. A text is gone through from left to right: where a slot is written it
is taken as a whole, any other character is plain text. Splitting a text into parts finds these
slots, each of them once and in order.
-/

namespace RestOperations

namespace SlotSyntax

/-- The slots of a text, from left to right. -/
inductive Occur : List Char → List SlotSyntax → Prop
  | nil : Occur [] []
  | slot {s : SlotSyntax} {rest : List Char} {ss : List SlotSyntax} :
      s.WellFormed → Occur rest ss → Occur (s.source ++ rest) (s :: ss)
  | plain {c : Char} {cs : List Char} {ss : List SlotSyntax} :
      (∀ s rest, WellFormed s → c :: cs ≠ s.source ++ rest) → Occur cs ss → Occur (c :: cs) ss

lemma read?_eq_none_iff {cs : List Char} :
    read? cs = none ↔ ∀ (s : SlotSyntax) (rest), s.WellFormed → cs ≠ s.source ++ rest := by
  rw [Option.eq_none_iff_forall_ne_some, Prod.forall]
  simp only [ne_eq, read?_eq_some_iff, not_and]

/-- At a slot, the slots are this one and those of what follows it. -/
lemma occur_of_read? {cs rest : List Char} {s : SlotSyntax} {ss : List SlotSyntax}
    (h : read? cs = some (s, rest)) : Occur cs ss ↔ ∃ ss', ss = s :: ss' ∧ Occur rest ss' := by
  constructor
  · intro ho
    cases ho with
    | nil => cases h
    | slot hs hrest =>
      rw [read?_source hs] at h
      cases h
      exact ⟨_, rfl, hrest⟩
    | plain hno _ =>
      rw [read?_eq_none_iff.mpr hno] at h
      cases h
  · rintro ⟨ss', rfl, hrest⟩
    obtain ⟨hs, rfl⟩ := wellFormed_of_read? h
    exact .slot hs hrest

/-- At a plain character, the slots are those of what follows it. -/
lemma occur_of_plain {c : Char} {cs : List Char} {ss : List SlotSyntax}
    (h : read? (c :: cs) = none) : Occur (c :: cs) ss ↔ Occur cs ss := by
  constructor
  · intro ho
    generalize ht : c :: cs = text at ho
    cases ho with
    | nil => cases ht
    | slot hs _ =>
      rw [ht, read?_source hs] at h
      cases h
    | plain _ hrest =>
      cases ht
      exact hrest
  · exact .plain (read?_eq_none_iff.mp h)

/-- A text has its slots in one way only. -/
theorem Occur.unique {cs : List Char} {ss ss' : List SlotSyntax} (h : Occur cs ss)
    (h' : Occur cs ss') : ss = ss' := by
  induction h generalizing ss' with
  | nil =>
    cases h' with
    | nil => rfl
  | slot hs _ ih =>
    obtain ⟨ss'', rfl, hrest⟩ := (occur_of_read? (read?_source hs _)).mp h'
    rw [ih hrest]
  | plain hno _ ih => exact ih ((occur_of_plain (read?_eq_none_iff.mpr hno)).mp h')

lemma toSlot_eq {s : SlotSyntax} {d : Destination} {slot : Slot} (h : s.toSlot d = .ok slot) :
    slot = s.slotIn d := by
  unfold toSlot at h
  split at h
  · cases h
  · cases h
    rfl

end SlotSyntax

namespace Part

open SlotSyntax

lemma slots_flush (gathered : List Char) (parts : List Part) :
    (flush gathered ++ parts).filterMap slot? = parts.filterMap slot? := by
  unfold flush
  split <;> rfl

lemma length_of_read? {cs rest : List Char} {s : SlotSyntax} (h : read? cs = some (s, rest)) :
    rest.length < cs.length := by
  obtain ⟨-, rfl⟩ := wellFormed_of_read? h
  rw [source_append]
  simp only [List.length_cons, List.length_append]
  omega

/-- The parts have the slots of the text. -/
lemma slots_splitFrom {d : Destination} {gathered : List Char} {fuel : Nat} {cs : List Char}
    {parts : List Part} (hfuel : cs.length ≤ fuel)
    (h : splitFrom d gathered fuel cs = .ok parts) :
    ∃ ss, Occur cs ss ∧ parts.filterMap slot? = ss.map (·.slotIn d) := by
  induction fuel generalizing gathered cs parts with
  | zero =>
    obtain rfl := List.length_eq_zero_iff.mp (Nat.le_zero.mp hfuel)
    cases h
    exact ⟨[], .nil, by simpa using slots_flush gathered []⟩
  | succ fuel ih =>
    cases cs with
    | nil =>
      cases h
      exact ⟨[], .nil, by simpa using slots_flush gathered []⟩
    | cons c cs =>
      rw [splitFrom] at h
      split at h
      · next s rest hs =>
        obtain ⟨slot, hslot, h⟩ := bind_eq_ok.mp h
        obtain ⟨parts', hparts, h⟩ := bind_eq_ok.mp h
        cases h
        have hlen := length_of_read? hs
        obtain ⟨ss, hss, hslots⟩ := ih (by omega) hparts
        refine ⟨s :: ss, (occur_of_read? hs).mpr ⟨ss, rfl, hss⟩, ?_⟩
        rw [slots_flush, List.filterMap_cons_some (f := slot?) rfl, hslots, toSlot_eq hslot,
          List.map_cons]
      · next hs =>
        obtain ⟨ss, hss, hparts⟩ := ih (by simpa using hfuel) h
        exact ⟨ss, (occur_of_plain hs).mpr hss, hparts⟩

theorem slots_split {s : String} {d : Destination} {parts : List Part}
    (h : split s d = .ok parts) :
    ∃ ss, Occur s.toList ss ∧ parts.filterMap slot? = ss.map (·.slotIn d) :=
  slots_splitFrom (le_of_eq s.length_toList) h

end Part

end RestOperations
