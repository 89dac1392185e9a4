import RestOperations.Proofs.Slot.Occurrence
import RestOperations.Template.Compile
import Mathlib.Data.List.Chain

/-!
The pieces of a text: its slots as they are written, and the plain text between them. They make up
the text, no two plain ones are next to each other, and no slot starts within plain text. This
settles them, and splitting a text yields what they stand for: the parts of the text, or the first
of its slots that asks for a conversion that there is not.
-/

namespace RestOperations

/-- The conversions that there are, by their names. -/
inductive Conversion.Called : String → Conversion → Prop
  | string : Called "string" .string
  | number : Called "number" .number
  | integer : Called "integer" .integer
  | boolean : Called "boolean" .boolean
  | object : Called "object" .object

/-- Plain text, or a slot as it is written. -/
inductive Piece
  | plain (cs : List Char)
  | slot (s : SlotSyntax)

namespace Piece

open SlotSyntax

def source : Piece → List Char
  | plain cs => cs
  | slot s => s.source

def isPlain : Piece → Bool
  | plain _ => true
  | slot _ => false

/-- The text that the pieces are of. -/
def sources (ps : List Piece) : List Char := ps.flatMap source

@[simp] lemma sources_nil : sources [] = [] := rfl

@[simp] lemma sources_cons (p : Piece) (ps : List Piece) :
    sources (p :: ps) = p.source ++ sources ps := rfl

/-- No slot starts within plain text, not even one that goes on in the pieces that follow. -/
def NoneStarts : List Piece → Prop
  | [] => True
  | slot _ :: ps => NoneStarts ps
  | plain cs :: ps =>
    (∀ i < cs.length, ∀ (s : SlotSyntax) (rest : List Char), s.WellFormed →
      cs.drop i ++ sources ps ≠ s.source ++ rest) ∧ NoneStarts ps

/-- The pieces are those of the text. -/
structure Splits (text : List Char) (ps : List Piece) : Prop where
  whole : sources ps = text
  wellFormed : ∀ s, slot s ∈ ps → s.WellFormed
  nonempty : ∀ cs, plain cs ∈ ps → cs ≠ []
  apart : ps.IsChain fun p q => p.isPlain = true → q.isPlain = false
  noneStarts : NoneStarts ps

/-- Plain text before the pieces, which becomes one with the plain text that they start with. -/
def addPlain (run : List Char) : List Piece → List Piece
  | plain cs :: ps => plain (run ++ cs) :: ps
  | ps => if run.isEmpty then ps else plain run :: ps

/-! ### The pieces of a text -/

variable {c : Char} {cs rest : List Char} {ps ps' : List Piece} {s : SlotSyntax}

lemma source_ne_nil (s : SlotSyntax) : s.source ≠ [] := by
  have h := source_append s []
  rw [List.append_nil] at h
  rw [h]
  exact List.cons_ne_nil _ _

lemma noneStarts_of_read? (h : read? (c :: cs) = none) (hps : sources ps = cs) :
    ∀ (s : SlotSyntax) (rest : List Char), s.WellFormed → c :: sources ps ≠ s.source ++ rest := by
  rw [hps]
  exact read?_eq_none_iff.mp h

lemma splits_nil_iff : Splits [] ps ↔ ps = [] := by
  constructor
  · intro h
    cases ps with
    | nil => rfl
    | cons p ps =>
      have hsource : p.source = [] := (List.append_eq_nil_iff.mp h.whole).1
      cases p with
      | plain cs => exact absurd hsource (h.nonempty cs (by simp))
      | slot s => exact absurd hsource (source_ne_nil s)
  · rintro rfl
    exact ⟨rfl, by simp, by simp, .nil, trivial⟩

/-- Where a slot is written, the first piece is this slot. -/
lemma splits_slot_iff (h : read? cs = some (s, rest)) :
    Splits cs ps ↔ ∃ ps', ps = slot s :: ps' ∧ Splits rest ps' := by
  obtain ⟨hs, rfl⟩ := read?_eq_some_iff.mp h
  constructor
  · intro hps
    cases ps with
    | nil =>
      have hnil : s.source = [] := (List.append_eq_nil_iff.mp hps.whole.symm).1
      exact absurd hnil (source_ne_nil s)
    | cons p ps =>
      cases p with
      | plain cs =>
        have hlength : 0 < cs.length := List.length_pos_iff.mpr (hps.nonempty cs (by simp))
        exact absurd hps.whole (hps.noneStarts.1 0 hlength s rest hs)
      | slot r =>
        have hr := hps.wellFormed r (by simp)
        have hread : read? (s.source ++ rest) = some (r, sources ps) :=
          read?_eq_some_iff.mpr ⟨hr, hps.whole.symm⟩
        rw [h] at hread
        cases hread
        exact ⟨ps, rfl, rfl, fun r hr => hps.wellFormed r (by simp [hr]),
          fun cs hcs => hps.nonempty cs (by simp [hcs]), hps.apart.tail, hps.noneStarts⟩
  · rintro ⟨ps, rfl, hps⟩
    refine ⟨?_, ?_, ?_, ?_, hps.noneStarts⟩
    · rw [sources_cons, hps.whole, source]
    · intro r hr
      obtain heq | hr := List.mem_cons.mp hr
      · cases heq
        exact hs
      · exact hps.wellFormed r hr
    · intro cs hcs
      exact hps.nonempty cs (by simpa using hcs)
    · exact List.isChain_cons.mpr ⟨fun _ _ hslot => absurd hslot Bool.false_ne_true, hps.apart⟩

lemma plain_nonempty_cons (hcs : cs ≠ []) (hps : ∀ cs, plain cs ∈ ps → cs ≠ []) :
    ∀ cs', plain cs' ∈ plain cs :: ps → cs' ≠ [] := by
  intro cs' h
  obtain heq | h := List.mem_cons.mp h
  · cases heq
    exact hcs
  · exact hps cs' h

lemma apart_of_plain {cs' : List Char}
    (h : (plain cs :: ps).IsChain fun p q => p.isPlain = true → q.isPlain = false) :
    (plain cs' :: ps).IsChain fun p q => p.isPlain = true → q.isPlain = false :=
  List.isChain_cons.mpr ⟨(List.isChain_cons.mp h).1, h.tail⟩

/-- Plain text may start with one more character where no slot is written. -/
lemma Splits.addPlain (h : Splits cs ps) (hread : read? (c :: cs) = none) :
    Splits (c :: cs) (addPlain [c] ps) := by
  have hstart := noneStarts_of_read? hread h.whole
  match ps, h with
  | plain run :: ps, h =>
    exact {
      whole := congrArg (c :: ·) h.whole
      wellFormed := fun s hs => h.wellFormed s (by simpa [Piece.addPlain] using hs)
      nonempty := plain_nonempty_cons (List.cons_ne_nil _ _) fun cs hcs =>
        h.nonempty cs (List.mem_cons_of_mem _ hcs)
      apart := apart_of_plain h.apart
      noneStarts := ⟨Nat.forall_lt_succ_left.mpr ⟨hstart, h.noneStarts.1⟩, h.noneStarts.2⟩ }
  | [], h =>
    exact {
      whole := congrArg (c :: ·) h.whole
      wellFormed := by simp [Piece.addPlain]
      nonempty := by simp [Piece.addPlain]
      apart := .singleton _
      noneStarts := ⟨Nat.forall_lt_succ_left.mpr ⟨hstart, nofun⟩, trivial⟩ }
  | slot s :: ps, h =>
    exact {
      whole := congrArg (c :: ·) h.whole
      wellFormed := fun s hs => h.wellFormed s (by simpa [Piece.addPlain] using hs)
      nonempty := plain_nonempty_cons (List.cons_ne_nil _ _) h.nonempty
      apart := List.isChain_cons.mpr ⟨by rintro q ⟨rfl⟩ -; rfl, h.apart⟩
      noneStarts := ⟨Nat.forall_lt_succ_left.mpr ⟨hstart, nofun⟩, h.noneStarts⟩ }

/-- Where no slot is written, the first piece is plain text from this character on. -/
lemma Splits.exists_addPlain (h : Splits (c :: cs) ps) (hread : read? (c :: cs) = none) :
    ∃ ps', ps = Piece.addPlain [c] ps' ∧ Splits cs ps' := by
  match ps, h with
  | [], h => cases h.whole
  | slot s :: ps, h =>
    have hs := h.wellFormed s List.mem_cons_self
    exact absurd h.whole.symm (read?_eq_none_iff.mp hread s _ hs)
  | plain [] :: ps, h => exact absurd rfl (h.nonempty [] List.mem_cons_self)
  | plain [a] :: ps, h =>
    obtain ⟨rfl, hwhole⟩ := List.cons_eq_cons.mp h.whole
    have hhead := (List.isChain_cons.mp h.apart).1
    refine ⟨ps, ?_, hwhole, fun s hs => h.wellFormed s (List.mem_cons_of_mem _ hs),
      fun cs hcs => h.nonempty cs (List.mem_cons_of_mem _ hcs), h.apart.tail, h.noneStarts.2⟩
    -- Another plain piece cannot follow, so that the character stays apart.
    match ps, hhead with
    | [], _ => rfl
    | slot s :: ps, _ => rfl
    | plain cs :: ps, hhead => cases hhead (plain cs) rfl rfl
  | plain (a :: b :: more) :: ps, h =>
    obtain ⟨rfl, hwhole⟩ := List.cons_eq_cons.mp h.whole
    exact ⟨plain (b :: more) :: ps, rfl, {
      whole := hwhole
      wellFormed := fun s hs => h.wellFormed s (by simpa using hs)
      nonempty := plain_nonempty_cons (List.cons_ne_nil _ _) fun cs hcs =>
        h.nonempty cs (List.mem_cons_of_mem _ hcs)
      apart := apart_of_plain h.apart
      noneStarts := ⟨(Nat.forall_lt_succ_left.mp h.noneStarts.1).2, h.noneStarts.2⟩ }⟩

lemma splits_plain_iff (h : read? (c :: cs) = none) :
    Splits (c :: cs) ps ↔ ∃ ps', ps = addPlain [c] ps' ∧ Splits cs ps' := by
  constructor
  · intro hps
    exact hps.exists_addPlain h
  · rintro ⟨ps, rfl, hps⟩
    exact hps.addPlain h

/-- Every text has pieces. -/
lemma exists_splits (cs : List Char) : ∃ ps, Splits cs ps := by
  induction hn : cs.length using Nat.strong_induction_on generalizing cs with
  | _ n ih =>
    subst hn
    cases cs with
    | nil => exact ⟨[], splits_nil_iff.mpr rfl⟩
    | cons c cs =>
      cases hread : read? (c :: cs) with
      | none =>
        obtain ⟨ps, hps⟩ := ih cs.length (Nat.lt_succ_self _) cs rfl
        exact ⟨addPlain [c] ps, (splits_plain_iff hread).mpr ⟨ps, rfl, hps⟩⟩
      | some p =>
        obtain ⟨ps, hps⟩ := ih p.2.length (Part.length_of_read? hread) p.2 rfl
        exact ⟨slot p.1 :: ps, (splits_slot_iff hread).mpr ⟨ps, rfl, hps⟩⟩

/-- A text has its pieces in one way only. -/
lemma Splits.unique (h : Splits cs ps) (h' : Splits cs ps') : ps = ps' := by
  induction hn : cs.length using Nat.strong_induction_on generalizing cs ps ps' with
  | _ n ih =>
    subst hn
    cases cs with
    | nil => rw [splits_nil_iff.mp h, splits_nil_iff.mp h']
    | cons c cs =>
      cases hread : read? (c :: cs) with
      | none =>
        obtain ⟨qs, rfl, hqs⟩ := (splits_plain_iff hread).mp h
        obtain ⟨qs', rfl, hqs'⟩ := (splits_plain_iff hread).mp h'
        rw [ih cs.length (Nat.lt_succ_self _) hqs hqs' rfl]
      | some p =>
        obtain ⟨qs, rfl, hqs⟩ := (splits_slot_iff hread).mp h
        obtain ⟨qs', rfl, hqs'⟩ := (splits_slot_iff hread).mp h'
        rw [ih p.2.length (Part.length_of_read? hread) hqs hqs' rfl]

/-! ### What a text is split into -/

/-- The slot is the one that is written so, in a text for this part of the request. -/
structure Writes (d : Destination) (s : SlotSyntax) (r : Slot) : Prop where
  name : r.name = String.ofList s.name
  destination : r.destination = d
  required : r.required = true ↔ s.required = some true ∨ s.required = none ∧ d = .path
  conversion : Option.Rel Conversion.Called (s.conversion.map String.ofList) r.conversion
  default : r.default = s.default.map String.ofList

/-- The part that a piece stands for. -/
inductive Denotes (d : Destination) : Piece → Part → Prop
  | plain (cs : List Char) : Denotes d (plain cs) (.text (String.ofList cs))
  | slot {s : SlotSyntax} {r : Slot} : Writes d s r → Denotes d (slot s) (.slot r)

/-- The slot asks for a conversion of a name that none has. -/
def AsksInVain (s : SlotSyntax) (name : String) : Prop :=
  s.conversion.map String.ofList = some name ∧ ∀ c, ¬ Conversion.Called name c

/-- The first of the slots that ask for a conversion in vain. -/
def FirstInVain (ps : List Piece) (s : SlotSyntax) (name : String) : Prop :=
  ∃ before after, ps = before ++ slot s :: after ∧ AsksInVain s name ∧
    ∀ r, slot r ∈ before → ∀ name, ¬ AsksInVain r name

/-- The conversion of this name is known, or it is one that there is not. -/
lemma ofName_cases (name : String) :
    Conversion.Called name (Conversion.ofName name) ∨
      Conversion.ofName name = .other name ∧ ∀ c, ¬ Conversion.Called name c := by
  unfold Conversion.ofName
  split
  · exact .inl .string
  · exact .inl .number
  · exact .inl .integer
  · exact .inl .boolean
  · exact .inl .object
  · refine .inr ⟨rfl, fun c hc => ?_⟩
    cases hc <;> contradiction

lemma called_eq_ofName {name : String} {c : Conversion} (h : Conversion.Called name c) :
    c = Conversion.ofName name := by
  cases h <;> rfl

lemma not_called_other (name other : String) : ¬ Conversion.Called name (.other other) := nofun

/-- A slot is as it is written, or there is not the conversion that it asks for. -/
lemma toSlot_cases (d : Destination) (s : SlotSyntax) :
    (s.toSlot d = .ok (s.slotIn d) ∧ Writes d s (s.slotIn d) ∧ ∀ name, ¬ AsksInVain s name) ∨
      ∃ name, AsksInVain s name ∧ s.toSlot d = .error ⟨name, String.ofList s.source⟩ := by
  have hrequired : (s.slotIn d).required = true ↔
      s.required = some true ∨ s.required = none ∧ d = .path := by
    obtain ⟨_ | _ | _, _, _, _⟩ := s <;> simp [slotIn]
  cases ht : s.conversion with
  | none =>
    have hconversion : (s.slotIn d).conversion = none := by simp [slotIn, ht]
    refine .inl ⟨by rw [toSlot, hconversion], ⟨rfl, rfl, hrequired, ?_, rfl⟩, ?_⟩
    · rw [hconversion, ht]
      exact .none
    · rintro name ⟨hname, -⟩
      simp [ht] at hname
  | some t =>
    have hconversion : (s.slotIn d).conversion = some (.ofName (String.ofList t)) := by
      simp [slotIn, ht]
    obtain hc | ⟨hc, hnone⟩ := ofName_cases (String.ofList t)
    · refine .inl ⟨?_, ⟨rfl, rfl, hrequired, ?_, rfl⟩, ?_⟩
      · rw [toSlot]
        split
        · next name hother =>
          rw [hconversion, Option.some_inj] at hother
          exact absurd (hother ▸ hc) (not_called_other _ name)
        · rfl
      · rw [hconversion, ht]
        exact .some hc
      · rintro name ⟨hname, hnone⟩
        obtain rfl : String.ofList t = name := by simpa [ht] using hname
        exact hnone _ hc
    · refine .inr ⟨String.ofList t, ⟨by rw [ht, Option.map_some], hnone⟩, ?_⟩
      rw [toSlot, hconversion, hc]

lemma Writes.unique {d : Destination} {r r' : Slot} (h : Writes d s r) (h' : Writes d s r') :
    r = r' := by
  obtain ⟨name, destination, required, conversion, default⟩ := r
  obtain ⟨name', destination', required', conversion', default'⟩ := r'
  obtain ⟨rfl, rfl, hrequired, hconversion, rfl⟩ := h
  obtain ⟨rfl, rfl, hrequired', hconversion', rfl⟩ := h'
  obtain rfl : required = required' := Bool.eq_iff_iff.mpr (hrequired.trans hrequired'.symm)
  obtain rfl : conversion = conversion' := by
    dsimp only at hconversion hconversion'
    generalize s.conversion.map String.ofList = o at hconversion hconversion'
    cases hconversion with
    | none =>
      cases hconversion'
      rfl
    | some hc =>
      cases hconversion' with
      | some hc' => rw [called_eq_ofName hc, called_eq_ofName hc']
  rfl

lemma Writes.not_asksInVain {d : Destination} {r : Slot} {name : String} (h : Writes d s r) :
    ¬ AsksInVain s name := by
  rintro ⟨hname, hnone⟩
  have hconversion := h.conversion
  rw [hname] at hconversion
  generalize r.conversion = o at hconversion
  cases hconversion with
  | some hc => exact hnone _ hc

lemma toSlot_eq_ok {d : Destination} {r : Slot} : s.toSlot d = .ok r ↔ Writes d s r := by
  constructor
  · intro h
    obtain ⟨hok, hwrites, -⟩ | ⟨name, -, herror⟩ := toSlot_cases d s
    · rw [hok] at h
      cases h
      exact hwrites
    · rw [herror] at h
      cases h
  · intro h
    obtain ⟨hok, hwrites, -⟩ | ⟨name, hname, -⟩ := toSlot_cases d s
    · rw [hok, hwrites.unique h]
    · exact absurd hname h.not_asksInVain

lemma toSlot_eq_error {d : Destination} {u : UnknownConversion} :
    s.toSlot d = .error u ↔ AsksInVain s u.name ∧ u.source = String.ofList s.source := by
  obtain ⟨hok, -, hnone⟩ | ⟨name, hname, herror⟩ := toSlot_cases d s
  · rw [hok]
    exact ⟨nofun, fun h => absurd h.1 (hnone _)⟩
  · rw [herror]
    constructor
    · rintro ⟨⟩
      exact ⟨hname, rfl⟩
    · rintro ⟨⟨hname', -⟩, hsource⟩
      obtain rfl : name = u.name := Option.some_inj.mp (hname.1.symm.trans hname')
      rw [← hsource]

def toPart (d : Destination) : Piece → Except UnknownConversion Part
  | plain cs => .ok (.text (String.ofList cs))
  | slot s => (s.toSlot d).map .slot

lemma toPart_eq_ok {d : Destination} {p : Piece} {part : Part} :
    toPart d p = .ok part ↔ Denotes d p part := by
  cases p with
  | plain cs =>
    constructor
    · rintro ⟨⟩
      exact .plain cs
    · rintro ⟨⟩
      rfl
  | slot s =>
    rw [toPart, map_eq_ok]
    constructor
    · rintro ⟨r, hr, rfl⟩
      exact .slot (toSlot_eq_ok.mp hr)
    · rintro ⟨hwrites⟩
      exact ⟨_, toSlot_eq_ok.mpr ‹_›, rfl⟩

/-- What the pieces stand for, one after the other. -/
def toParts (d : Destination) (ps : List Piece) : Except UnknownConversion (List Part) :=
  ps.mapM (toPart d)

lemma toParts_cons (d : Destination) (p : Piece) (ps : List Piece) :
    toParts d (p :: ps) = toPart d p >>= fun part => (toParts d ps).map (part :: ·) := by
  rw [toParts, List.mapM_cons]
  rfl

lemma toParts_eq_ok {d : Destination} {parts : List Part} :
    toParts d ps = .ok parts ↔ List.Forall₂ (Denotes d) ps parts := by
  have hpart : (fun p part => toPart d p = .ok part) = Denotes d := by
    funext p part
    exact propext toPart_eq_ok
  rw [toParts, mapM_eq_ok, hpart]

lemma firstInVain_nil {name : String} : ¬ FirstInVain [] s name := by
  rintro ⟨before, after, h, -⟩
  simp at h

/-- It is the first piece, or the first of those that follow. -/
lemma firstInVain_cons {p : Piece} {name : String} :
    FirstInVain (p :: ps) s name ↔ p = slot s ∧ AsksInVain s name ∨
      (∀ r, p = slot r → ∀ name, ¬ AsksInVain r name) ∧ FirstInVain ps s name := by
  constructor
  · rintro ⟨before, after, h, hs, hbefore⟩
    cases before with
    | nil => exact .inl ⟨(List.cons_eq_cons.mp h).1, hs⟩
    | cons q before =>
      obtain ⟨rfl, rfl⟩ := List.cons_eq_cons.mp h
      refine .inr ⟨?_, before, after, rfl, hs, fun r hr => hbefore r (List.mem_cons_of_mem _ hr)⟩
      rintro r rfl
      exact hbefore r List.mem_cons_self
  · rintro (⟨rfl, hs⟩ | ⟨hp, before, after, rfl, hs, hbefore⟩)
    · exact ⟨[], ps, rfl, hs, by simp⟩
    · refine ⟨p :: before, after, rfl, hs, fun r hr => ?_⟩
      obtain rfl | hr := List.mem_cons.mp hr
      · exact hp r rfl
      · exact hbefore r hr

lemma toPart_eq_error {d : Destination} {p : Piece} {u : UnknownConversion} :
    toPart d p = .error u ↔
      ∃ s, p = slot s ∧ AsksInVain s u.name ∧ u.source = String.ofList s.source := by
  cases p with
  | plain cs => simp [toPart]
  | slot s => simp [toPart, map_eq_error, toSlot_eq_error]

lemma toParts_eq_error {d : Destination} {u : UnknownConversion} :
    toParts d ps = .error u ↔
      ∃ s, FirstInVain ps s u.name ∧ u.source = String.ofList s.source := by
  induction ps with
  | nil => simp [toParts, pure, Except.pure, firstInVain_nil]
  | cons p ps ih =>
    rw [toParts_cons, bind_eq_error]
    simp only [map_eq_error, firstInVain_cons]
    constructor
    · rintro (h | ⟨part, hpart, h⟩)
      · obtain ⟨s, rfl, hs, hsource⟩ := toPart_eq_error.mp h
        exact ⟨s, .inl ⟨rfl, hs⟩, hsource⟩
      · obtain ⟨s, hs, hsource⟩ := ih.mp h
        refine ⟨s, .inr ⟨?_, hs⟩, hsource⟩
        rintro r rfl name
        obtain ⟨⟩ | ⟨hwrites⟩ := toPart_eq_ok.mp hpart
        exact hwrites.not_asksInVain
    · rintro ⟨s, ⟨rfl, hs⟩ | ⟨hp, hs⟩, hsource⟩
      · exact .inl (toPart_eq_error.mpr ⟨s, rfl, hs, hsource⟩)
      · refine .inr ?_
        cases hpart : toPart d p with
        | ok part => exact ⟨part, rfl, ih.mpr ⟨s, hs, hsource⟩⟩
        | error u =>
          obtain ⟨r, rfl, hr, -⟩ := toPart_eq_error.mp hpart
          exact absurd hr (hp r rfl _)

lemma addPlain_nil (ps : List Piece) : addPlain [] ps = ps := by
  cases ps with
  | nil => rfl
  | cons p ps => cases p <;> rfl

lemma addPlain_addPlain (run : List Char) (c : Char) (ps : List Piece) :
    addPlain run (addPlain [c] ps) = addPlain (run ++ [c]) ps := by
  cases ps with
  | nil => simp [addPlain]
  | cons p ps => cases p <;> simp [addPlain]

lemma toParts_addPlain {d : Destination} (gathered : List Char)
    (hps : ∀ p ∈ ps.head?, p.isPlain = false) :
    toParts d (addPlain gathered.reverse ps) = (toParts d ps).map (Part.flush gathered ++ ·) := by
  have hadd : addPlain gathered.reverse ps =
      if gathered.isEmpty then ps else plain gathered.reverse :: ps := by
    match ps, hps with
    | [], _ => simp [addPlain]
    | slot s :: ps, _ => simp [addPlain]
    | plain cs :: ps, hps => cases hps (plain cs) rfl
  rw [hadd, Part.flush]
  split
  · cases toParts d ps <;> rfl
  · rw [toParts_cons]
    rfl

/-- Splitting goes through the pieces. -/
lemma splitFrom_eq {d : Destination} {gathered : List Char} {fuel : Nat} (hfuel : cs.length ≤ fuel)
    (h : Splits cs ps) :
    Part.splitFrom d gathered fuel cs = toParts d (addPlain gathered.reverse ps) := by
  induction fuel generalizing gathered cs ps with
  | zero =>
    obtain rfl := List.length_eq_zero_iff.mp (Nat.le_zero.mp hfuel)
    rw [splits_nil_iff.mp h, toParts_addPlain _ (by simp)]
    simp [Part.splitFrom, toParts, pure, Except.pure, Except.map]
  | succ fuel ih =>
    cases cs with
    | nil =>
      rw [splits_nil_iff.mp h, toParts_addPlain _ (by simp)]
      simp [Part.splitFrom, toParts, pure, Except.pure, Except.map]
    | cons c cs =>
      rw [Part.splitFrom]
      split
      · next s rest hread =>
        obtain ⟨ps, rfl, hps⟩ := (splits_slot_iff hread).mp h
        have hlength := Part.length_of_read? hread
        rw [ih (by omega) hps, List.reverse_nil, addPlain_nil,
          toParts_addPlain _ (by rintro p ⟨⟩; rfl), toParts_cons, toPart]
        cases s.toSlot d with
        | error u => rfl
        | ok slot => cases toParts d ps <;> rfl
      · next hread =>
        obtain ⟨ps, rfl, hps⟩ := (splits_plain_iff hread).mp h
        rw [ih (by simpa using hfuel) hps, addPlain_addPlain, List.reverse_cons]

/-- The parts of a text are what its pieces stand for. -/
lemma split_eq {s : String} (d : Destination) (h : Splits s.toList ps) :
    Part.split s d = toParts d ps := by
  rw [Part.split, splitFrom_eq (le_of_eq s.length_toList) h, List.reverse_nil, addPlain_nil]

/-- **A text is split as the grammar of slots has it.** Its pieces are settled by the text: they make
it up, plain text is not empty and ends only where a slot is written, and no slot starts within it.
Splitting the text yields what they stand for, each slot as it is written. It goes wrong if and only
if a slot asks for a conversion that there is not, with a configuration fault that names the first
one that does. -/
theorem split_by_grammar (s : String) (d : Destination) :
    ∃ ps, Splits s.toList ps ∧ (∀ ps', Splits s.toList ps' → ps' = ps) ∧
      (∀ parts, Part.split s d = .ok parts ↔ List.Forall₂ (Denotes d) ps parts) ∧
      ((∃ u, Part.split s d = .error u) ↔ ∃ r name, slot r ∈ ps ∧ AsksInVain r name) ∧
      (∀ f, Template.partsOf s d = .error f →
        ∃ r name, FirstInVain ps r name ∧ f = .unknownConversion name (String.ofList r.source) ∧
          f.isConfiguration = true) := by
  obtain ⟨ps, hps⟩ := exists_splits s.toList
  refine ⟨ps, hps, fun ps' hps' => hps'.unique hps, fun parts => ?_, ?_, fun f hf => ?_⟩
  · rw [split_eq d hps, toParts_eq_ok]
  · rw [split_eq d hps]
    constructor
    · rintro ⟨u, hu⟩
      obtain ⟨r, ⟨before, after, rfl, hr, -⟩, -⟩ := toParts_eq_error.mp hu
      exact ⟨r, u.name, by simp, hr⟩
    · rintro ⟨r, name, hr, hname⟩
      cases hparts : toParts d ps with
      | error u => exact ⟨u, rfl⟩
      | ok parts =>
        obtain ⟨part, -, hpart⟩ := forall₂_mem_left (toParts_eq_ok.mp hparts) hr
        cases hpart with
        | slot hwrites => exact absurd hname hwrites.not_asksInVain
  · obtain ⟨u, hu, rfl⟩ := mapError_eq_error.mp hf
    rw [split_eq d hps] at hu
    obtain ⟨r, hr, hsource⟩ := toParts_eq_error.mp hu
    exact ⟨r, u.name, hr, by rw [Template.unknownConversion, hsource], rfl⟩

end Piece

end RestOperations
