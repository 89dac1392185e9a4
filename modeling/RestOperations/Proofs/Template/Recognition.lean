import Mathlib.Computability.Language
import RestOperations.Proofs.Slot.Pieces
import RestOperations.Proofs.Template.Slots

/-!
Texts that are slots. A text is compiled to a lone slot if it is one as a whole, and else to its parts
or to itself. Whether it is one as a whole is a matter of a regular pattern, while splitting searches
the text from left to right; both judge each text alike.
-/

namespace RestOperations

open Computability

namespace SlotSyntax

/-! ### Slots as a regular pattern -/

/-- One character of a class. -/
def one (p : Char → Bool) : Language Char := {cs | ∃ c, p c = true ∧ cs = [c]}

/-- Characters of a class, at least one. -/
def run (p : Char → Bool) : Language Char := one p * (one p)∗

def perhaps (L : Language Char) : Language Char := 1 + L

/-- A brace, perhaps a mark, a name, perhaps a conversion, perhaps a default, and a brace. -/
def pattern : Language Char :=
  one (· == '{') * perhaps (one fun c => c == '^' || c == '!') * run isNameChar *
    perhaps (one (· == ':') * run Text.isWord) * perhaps (one (· == '=') * (one (· != '}'))∗) *
    one (· == '}')

variable {p : Char → Bool} {cs : List Char}

lemma mem_star_iff : cs ∈ (one p)∗ ↔ ∀ c ∈ cs, p c = true := by
  rw [Language.mem_kstar]
  constructor
  · rintro ⟨runs, rfl, hruns⟩ c hc
    obtain ⟨here, hhere, hc⟩ := List.mem_flatten.mp hc
    obtain ⟨c', hc', rfl⟩ := hruns here hhere
    rwa [List.mem_singleton.mp hc]
  · intro h
    refine ⟨cs.map fun c => [c], ?_, fun here hhere => ?_⟩
    · rw [← List.flatMap_def, List.flatMap_singleton']
    · obtain ⟨c, hc, rfl⟩ := List.mem_map.mp hhere
      exact ⟨c, h c hc, rfl⟩

lemma mem_run_iff : cs ∈ run p ↔ cs ≠ [] ∧ ∀ c ∈ cs, p c = true := by
  rw [run, Language.mem_mul]
  constructor
  · rintro ⟨_, ⟨c, hc, rfl⟩, more, hmore, rfl⟩
    exact ⟨List.cons_ne_nil _ _, List.forall_mem_cons.mpr ⟨hc, mem_star_iff.mp hmore⟩⟩
  · rintro ⟨hne, h⟩
    obtain ⟨c, more, rfl⟩ := List.exists_cons_of_ne_nil hne
    rw [List.forall_mem_cons] at h
    exact ⟨[c], ⟨c, h.1, rfl⟩, more, mem_star_iff.mpr h.2, rfl⟩

/-- A sign and what follows it. -/
lemma mem_sign_iff {sign : Char} {L : Language Char} :
    cs ∈ one (· == sign) * L ↔ ∃ more ∈ L, cs = sign :: more := by
  rw [Language.mem_mul]
  constructor
  · rintro ⟨_, ⟨c, hc, rfl⟩, more, hmore, rfl⟩
    obtain rfl : c = sign := by simpa using hc
    exact ⟨more, hmore, rfl⟩
  · rintro ⟨more, hmore, rfl⟩
    exact ⟨[sign], ⟨sign, beq_self_eq_true sign, rfl⟩, more, hmore, rfl⟩

lemma mem_mark_iff :
    cs ∈ perhaps (one fun c => c == '^' || c == '!') ↔ ∃ m, cs = markSource m := by
  rw [perhaps, Language.mem_add, Language.mem_one]
  constructor
  · rintro (rfl | ⟨c, hc, rfl⟩)
    · exact ⟨none, rfl⟩
    · obtain rfl | rfl : c = '^' ∨ c = '!' := by simpa using hc
      · exact ⟨some true, rfl⟩
      · exact ⟨some false, rfl⟩
  · rintro ⟨_ | _ | _, rfl⟩
    · exact .inl rfl
    · exact .inr ⟨'!', rfl, rfl⟩
    · exact .inr ⟨'^', rfl, rfl⟩

lemma mem_conversion_iff :
    cs ∈ perhaps (one (· == ':') * run Text.isWord) ↔
      ∃ o, (∀ t, o = some t → t ≠ [] ∧ ∀ c ∈ t, Text.isWord c = true) ∧
        cs = conversionSource o := by
  rw [perhaps, Language.mem_add, Language.mem_one, mem_sign_iff]
  constructor
  · rintro (rfl | ⟨t, ht, rfl⟩)
    · exact ⟨none, nofun, rfl⟩
    · exact ⟨some t, by rintro _ ⟨⟩; exact mem_run_iff.mp ht, rfl⟩
  · rintro ⟨_ | t, ht, rfl⟩
    · exact .inl rfl
    · exact .inr ⟨t, mem_run_iff.mpr (ht t rfl), rfl⟩

lemma mem_default_iff :
    cs ∈ perhaps (one (· == '=') * (one (· != '}'))∗) ↔
      ∃ o, (∀ d, o = some d → ∀ c ∈ d, (c != '}') = true) ∧ cs = defaultSource o := by
  rw [perhaps, Language.mem_add, Language.mem_one, mem_sign_iff]
  constructor
  · rintro (rfl | ⟨d, hd, rfl⟩)
    · exact ⟨none, nofun, rfl⟩
    · exact ⟨some d, by rintro _ ⟨⟩; exact mem_star_iff.mp hd, rfl⟩
  · rintro ⟨_ | d, hd, rfl⟩
    · exact .inl rfl
    · exact .inr ⟨d, mem_star_iff.mpr (hd d rfl), rfl⟩

/-- What the pattern has is what slots are written as. -/
theorem mem_pattern_iff : cs ∈ pattern ↔ ∃ s : SlotSyntax, s.WellFormed ∧ cs = s.source := by
  simp only [pattern, mul_assoc, mem_sign_iff]
  constructor
  · rintro ⟨_, ⟨mark, hmark, _, ⟨name, hname, _, ⟨colon, hcolon, _, ⟨equals, hequals, _, ⟨c, hc, rfl⟩,
      rfl⟩, rfl⟩, rfl⟩, rfl⟩, rfl⟩
    obtain rfl : c = '}' := by simpa using hc
    obtain ⟨required, rfl⟩ := mem_mark_iff.mp hmark
    obtain ⟨hne, hname⟩ := mem_run_iff.mp hname
    obtain ⟨conversion, hconversion, rfl⟩ := mem_conversion_iff.mp hcolon
    obtain ⟨default, hdefault, rfl⟩ := mem_default_iff.mp hequals
    refine ⟨⟨required, name, conversion, default⟩, ⟨hne, hname, hconversion, hdefault⟩, ?_⟩
    rw [← List.append_nil (source _), source_append]
  · rintro ⟨s, hs, rfl⟩
    rw [← List.append_nil s.source, source_append]
    exact ⟨_, ⟨_, mem_mark_iff.mpr ⟨_, rfl⟩, _, ⟨_, mem_run_iff.mpr ⟨hs.named, hs.name⟩, _,
      ⟨_, mem_conversion_iff.mpr ⟨_, hs.conversion, rfl⟩, _,
        ⟨_, mem_default_iff.mpr ⟨_, hs.default, rfl⟩, _, ⟨'}', rfl, rfl⟩, rfl⟩, rfl⟩, rfl⟩, rfl⟩, rfl⟩

/-- A text that is a slot as a whole is read as one, and nothing is left. -/
lemma read?_whole_iff : (∃ s, read? cs = some (s, [])) ↔ cs ∈ pattern := by
  simp only [mem_pattern_iff, read?_eq_some_iff, List.append_nil]

end SlotSyntax

namespace Template

open SlotSyntax

variable {s : String} {d : Destination} {parts : List Part}

/-- The template of a text by its parts. -/
def ofParts (s : String) : List Part → Template
  | [.slot r] => .slot r
  | parts => if parts.any Part.isSlot then .text parts else .literal (.str s)

/-- The template is the one for a text with these parts. -/
structure FollowsParts (s : String) (parts : List Part) (t : Template) : Prop where
  lone : ∀ r, t = .slot r ↔ parts = [.slot r]
  plain : ∀ v, t = .literal v ↔ v = .str s ∧ ∀ r, Part.slot r ∉ parts
  mixed : ∀ ps, t = .text ps ↔
    ps = parts ∧ (∃ r, Part.slot r ∈ parts) ∧ ∀ r, parts ≠ [.slot r]
  slots : t.slots = slotsOfParts parts

/-! ### Parts and templates -/

lemma any_isSlot_iff : parts.any Part.isSlot = true ↔ ∃ r, Part.slot r ∈ parts := by
  rw [List.any_eq_true]
  constructor
  · rintro ⟨_ | r, hmem, hslot⟩
    · cases hslot
    · exact ⟨r, hmem⟩
  · rintro ⟨r, hmem⟩
    exact ⟨.slot r, hmem, rfl⟩

lemma followsParts_ofParts (s : String) (parts : List Part) :
    FollowsParts s parts (ofParts s parts) := by
  unfold ofParts
  split
  · next r =>
    exact {
      lone := by simp
      plain := by simp
      mixed := by simp
      slots := rfl }
  · next hlone =>
    have hne : ∀ r, parts ≠ [.slot r] := fun r h => hlone r h
    by_cases hany : parts.any Part.isSlot = true
    · have hslot := any_isSlot_iff.mp hany
      rw [if_pos hany]
      exact {
        lone := fun r => iff_of_false nofun (hne r)
        plain := fun v => iff_of_false nofun fun h => hslot.elim h.2
        mixed := fun ps => by simp [hslot, hne, eq_comm]
        slots := rfl }
    · have hnone : ∀ r, Part.slot r ∉ parts := fun r hr => hany (any_isSlot_iff.mpr ⟨r, hr⟩)
      rw [if_neg hany]
      exact {
        lone := fun r => iff_of_false nofun (hne r)
        plain := fun v => by simp [hnone, eq_comm]
        mixed := fun ps => iff_of_false nofun fun h => h.2.1.elim hnone
        slots := (slotsOfParts_eq_nil (Bool.eq_false_iff.mpr hany)).symm }

/-- A text that is a slot as a whole has this slot for its only part. -/
lemma split_whole {w : SlotSyntax} (h : read? s.toList = some (w, [])) :
    Part.split s d = (w.toSlot d).map fun r => [.slot r] := by
  have hpieces : Piece.Splits s.toList [.slot w] :=
    (Piece.splits_slot_iff h).mpr ⟨[], rfl, Piece.splits_nil_iff.mpr rfl⟩
  rw [Piece.split_eq d hpieces, Piece.toParts_cons, Piece.toPart]
  cases w.toSlot d <;> rfl

/-- A text whose only part is a slot is this slot as a whole. -/
lemma whole_of_split {r : Slot} (h : Part.split s d = .ok [.slot r]) :
    ∃ w, read? s.toList = some (w, []) := by
  obtain ⟨ps, hps⟩ := Piece.exists_splits s.toList
  rw [Piece.split_eq d hps, Piece.toParts_eq_ok] at h
  cases h with
  | cons hdenotes hnil =>
    cases hnil
    cases hdenotes with
    | slot hwrites =>
      exact ⟨_, read?_eq_some_iff.mpr ⟨hps.wellFormed _ List.mem_cons_self, hps.whole.symm⟩⟩

/-- What a text is compiled to depends on its parts only. -/
lemma compileText_eq (s : String) (d : Destination) :
    compileText s d = (partsOf s d).map (ofParts s) := by
  rw [compileText]
  split
  · next w hread =>
    rw [partsOf, split_whole hread]
    cases w.toSlot d <;> rfl
  · next hread =>
    rw [partsOf]
    cases hsplit : Part.split s d with
    | error u => rfl
    | ok parts =>
      -- A lone slot among the parts would have been read as the whole text.
      have hlone : ∀ r, parts ≠ [.slot r] := by
        rintro r rfl
        obtain ⟨w, hw⟩ := whole_of_split hsplit
        exact hread w hw
      rw [mapError_ok, ok_bind, Except.map, ofParts.eq_2 _ _ hlone]

lemma compile_str (hs : s.toList.head? ≠ some '$') (d : Destination) :
    compile d (.str s) = compileText s d := by
  rw [compile, compileString]
  split
  · next h => simp [h] at hs
  · rfl

/-- **Both ways to find slots agree.** A text that is no expression is compiled if and only if it can
be split, with the same fault otherwise, and its template is settled by its parts: it is a lone slot
if that is the only part, the text itself if no part is a slot, and else text with these parts; its
slots are those among the parts, in order. It is a lone slot if and only if the whole text is one. -/
theorem compiled_by_parts (hs : s.toList.head? ≠ some '$') (d : Destination) :
    (∀ f, compile d (.str s) = .error f ↔
      ∃ u, Part.split s d = .error u ∧ unknownConversion u = f) ∧
    ∀ parts, Part.split s d = .ok parts → ∃ t, compile d (.str s) = .ok t ∧
      FollowsParts s parts t ∧ ((∃ r, t = .slot r) ↔ s.toList ∈ pattern) := by
  rw [compile_str hs, compileText_eq]
  refine ⟨fun f => by rw [map_eq_error, partsOf, mapError_eq_error], fun parts hparts => ?_⟩
  have hfollows := followsParts_ofParts s parts
  refine ⟨ofParts s parts, by rw [partsOf, hparts]; rfl, hfollows, ?_⟩
  simp only [hfollows.lone]
  rw [← read?_whole_iff]
  constructor
  · rintro ⟨r, rfl⟩
    exact whole_of_split hparts
  · rintro ⟨w, hw⟩
    rw [split_whole hw] at hparts
    obtain ⟨r, -, rfl⟩ := map_eq_ok.mp hparts
    exact ⟨r, rfl⟩

/-- A slot with a brace in its default, which the first brace that closes ends. -/
def tangled : String := "\x7bx=\x7by\x7d\x7d"

def tangledParts : List Part := [.slot ⟨"x", .query, false, none, some "\x7by"⟩, .text "\x7d"]

/-- It is not a slot as a whole. -/
theorem tangled_by_parts :
    tangled.toList.head? ≠ some '$' ∧ Part.split tangled .query = .ok tangledParts ∧
      compile .query (.str tangled) = .ok (.text tangledParts) ∧ tangled.toList ∉ pattern := by
  have hstart : tangled.toList.head? ≠ some '$' := by decide
  have hsplit : Part.split tangled .query = .ok tangledParts := by decide +kernel
  obtain ⟨t, ht, hfollows, hwhole⟩ := (compiled_by_parts hstart .query).2 tangledParts hsplit
  have htext : t = .text tangledParts :=
    (hfollows.mixed _).mpr ⟨rfl, ⟨_, List.mem_cons_self⟩, by simp [tangledParts]⟩
  subst htext
  exact ⟨hstart, hsplit, ht, fun h => by simpa using hwhole.mpr h⟩

end Template

end RestOperations
