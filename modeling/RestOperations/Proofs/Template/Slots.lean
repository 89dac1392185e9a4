import RestOperations.Proofs.Slot.Occurrence
import RestOperations.Proofs.Template.Faults
import RestOperations.Template.Compile

/-!
The slots of a template are those of the texts it is written with: of every text within the value,
at any depth and in order, but for the texts that are expressions and for the keys of maps.
Evaluating a template asks for these slots and for no others.
-/

namespace RestOperations

namespace Value

mutual

/-- Every text within the value, in order. Keys do not count. -/
def texts : Value → List String
  | str s => [s]
  | list xs => textsOfItems xs
  | map ms => textsOfMembers ms
  | _ => []

def textsOfItems : List Value → List String
  | [] => []
  | x :: xs => texts x ++ textsOfItems xs

def textsOfMembers : List (Value × Value) → List String
  | [] => []
  | (_, v) :: ms => texts v ++ textsOfMembers ms

end

end Value

namespace SlotSyntax

/-- The slots of some texts, one text after the other. A text after a dollar sign is an expression
and has none. -/
inductive Listed : List String → List SlotSyntax → Prop
  | nil : Listed [] []
  | expression {s : String} {texts : List String} {ss : List SlotSyntax} :
      s.toList.head? = some '$' → Listed texts ss → Listed (s :: texts) ss
  | text {s : String} {texts : List String} {ss ss' : List SlotSyntax} :
      s.toList.head? ≠ some '$' → Occur s.toList ss → Listed texts ss' →
        Listed (s :: texts) (ss ++ ss')

lemma Listed.append {texts texts' : List String} {ss ss' : List SlotSyntax}
    (h : Listed texts ss) (h' : Listed texts' ss') : Listed (texts ++ texts') (ss ++ ss') := by
  induction h with
  | nil => exact h'
  | expression hs _ ih => exact .expression hs ih
  | text hs hss _ ih =>
    rw [List.append_assoc]
    exact .text hs hss ih

/-- Texts have their slots in one way only. -/
theorem Listed.unique {texts : List String} {ss ss' : List SlotSyntax} (h : Listed texts ss)
    (h' : Listed texts ss') : ss = ss' := by
  induction h generalizing ss' with
  | nil =>
    cases h'
    rfl
  | expression hs _ ih =>
    cases h' with
    | expression _ h' => exact ih h'
    | text hs' _ _ => exact absurd hs hs'
  | text hs hss _ ih =>
    cases h' with
    | expression hs' _ => exact absurd hs' hs
    | text _ hss' h' => rw [hss.unique hss', ih h']

lemma listed_one {s : String} {ss : List SlotSyntax} (hs : s.toList.head? ≠ some '$')
    (h : Occur s.toList ss) : Listed [s] ss := by
  simpa using Listed.text hs h .nil

end SlotSyntax

namespace Template

open SlotSyntax

/-! ### Compilation -/

lemma slots_partsOf {s : String} {d : Destination} {parts : List Part}
    (h : partsOf s d = .ok parts) :
    ∃ ss, Occur s.toList ss ∧ slotsOfParts parts = ss.map (·.slotIn d) :=
  Part.slots_split (mapError_eq_ok.mp h)

lemma slots_compileExpression {source : String} {d : Destination} {t : Template}
    (h : compileExpression source d = .ok t) : t.slots = [] := by
  unfold compileExpression at h
  split at h <;> cases h
  rfl

/-- Without a slot among them, parts have no slots. -/
lemma slotsOfParts_eq_nil {parts : List Part} (h : parts.any Part.isSlot = false) :
    slotsOfParts parts = [] := by
  rw [slotsOfParts, List.filterMap_eq_nil_iff]
  intro p hp
  have := List.any_eq_false.mp h p hp
  simpa [Part.isSlot] using this

lemma slots_compileText {s : String} {d : Destination} {t : Template}
    (h : compileText s d = .ok t) :
    ∃ ss, Occur s.toList ss ∧ t.slots = ss.map (·.slotIn d) := by
  unfold compileText at h
  split at h
  · next written hread =>
    rw [mapError_eq_ok, map_eq_ok] at h
    obtain ⟨slot, hslot, rfl⟩ := h
    exact ⟨[written], (occur_of_read? hread).mpr ⟨[], rfl, .nil⟩, by
      rw [slots, toSlot_eq hslot, List.map_singleton]⟩
  · obtain ⟨parts, hparts, h⟩ := bind_eq_ok.mp h
    obtain ⟨ss, hss, hslots⟩ := slots_partsOf hparts
    refine ⟨ss, hss, ?_⟩
    cases h
    split
    · exact hslots
    · next hany => rw [slots, ← hslots, slotsOfParts_eq_nil (by simpa using hany)]

lemma slots_compileString {s : String} {d : Destination} {t : Template}
    (h : compileString s d = .ok t) :
    ∃ ss, Listed [s] ss ∧ t.slots = ss.map (·.slotIn d) := by
  unfold compileString at h
  split at h
  · next source hs =>
    exact ⟨[], .expression (by rw [hs]; rfl) .nil, slots_compileExpression h⟩
  · next hs =>
    obtain ⟨ss, hss, hslots⟩ := slots_compileText h
    refine ⟨ss, listed_one (fun hd => ?_) hss, hslots⟩
    obtain ⟨source, hsource⟩ := List.head?_eq_some_iff.mp hd
    exact hs source hsource

mutual

/-- A compiled template has the slots of the texts of its value. -/
theorem slots_compile (d : Destination) :
    ∀ v t, compile d v = .ok t → ∃ ss, Listed v.texts ss ∧ t.slots = ss.map (·.slotIn d)
  | .str s, t, h => slots_compileString h
  | .map ms, t, h => by
    obtain ⟨ts, hts, h⟩ := bind_eq_ok.mp h
    cases h
    exact slots_compileMembers d ms ts hts
  | .list xs, t, h => by
    obtain ⟨ts, hts, h⟩ := bind_eq_ok.mp h
    cases h
    exact slots_compileItems d xs ts hts
  | .null, t, h | .bool _, t, h | .int _, t, h | .float _, t, h | .tuple _, t, h
  | .set _, t, h | .octets _, t, h | .date _, t, h | .moment _, t, h | .function _, t, h => by
    cases h
    exact ⟨[], .nil, rfl⟩

theorem slots_compileMembers (d : Destination) :
    ∀ ms ts, compileMembers d ms = .ok ts →
      ∃ ss, Listed (Value.textsOfMembers ms) ss ∧ slotsOfMembers ts = ss.map (·.slotIn d)
  | [], ts, h => by
    cases h
    exact ⟨[], .nil, rfl⟩
  | (k, v) :: ms, ts, h => by
    obtain ⟨t, ht, h⟩ := bind_eq_ok.mp h
    obtain ⟨ts, hts, h⟩ := bind_eq_ok.mp h
    cases h
    obtain ⟨ss, hss, hslots⟩ := slots_compile d v t ht
    obtain ⟨ss', hss', hslots'⟩ := slots_compileMembers d ms ts hts
    exact ⟨ss ++ ss', hss.append hss', by
      rw [slotsOfMembers, hslots, hslots', List.map_append]⟩

theorem slots_compileItems (d : Destination) :
    ∀ xs ts, compileItems d xs = .ok ts →
      ∃ ss, Listed (Value.textsOfItems xs) ss ∧ slotsOfItems ts = ss.map (·.slotIn d)
  | [], ts, h => by
    cases h
    exact ⟨[], .nil, rfl⟩
  | x :: xs, ts, h => by
    obtain ⟨t, ht, h⟩ := bind_eq_ok.mp h
    obtain ⟨ts, hts, h⟩ := bind_eq_ok.mp h
    cases h
    obtain ⟨ss, hss, hslots⟩ := slots_compile d x t ht
    obtain ⟨ss', hss', hslots'⟩ := slots_compileItems d xs ts hts
    exact ⟨ss ++ ss', hss.append hss', by
      rw [slotsOfItems, hslots, hslots', List.map_append]⟩

end

lemma slots_compileEntries {d : Destination} {es : List (String × Value)}
    {ts : List (String × Template)} (h : compileEntries d es = .ok ts) :
    ∃ ss, Listed (es.flatMap (·.2.texts)) ss ∧ ts.flatMap (·.2.slots) = ss.map (·.slotIn d) := by
  induction es generalizing ts with
  | nil =>
    cases h
    exact ⟨[], .nil, rfl⟩
  | cons e es ih =>
    obtain ⟨t, ht, h⟩ := bind_eq_ok.mp h
    obtain ⟨ts, hts, h⟩ := bind_eq_ok.mp h
    cases h
    obtain ⟨ss, hss, hslots⟩ := slots_compile d e.2 t ht
    obtain ⟨ss', hss', hslots'⟩ := ih hts
    exact ⟨ss ++ ss', hss.append hss', by
      rw [List.flatMap_cons, hslots, hslots', List.map_append]⟩

lemma slots_compileUrl {s : String} {t : Template} (h : compileUrl s = .ok t) :
    ∃ ss, Listed [s] ss ∧ t.slots = ss.map (·.slotIn .path) := by
  unfold compileUrl at h
  split at h
  · next source hs =>
    exact ⟨[], .expression (by rw [hs]; rfl) .nil, slots_compileExpression h⟩
  · next hs =>
    obtain ⟨parts, hparts, h⟩ := bind_eq_ok.mp h
    obtain ⟨ss, hss, hslots⟩ := slots_partsOf hparts
    cases h
    refine ⟨ss, listed_one (fun hd => ?_) hss, hslots⟩
    obtain ⟨source, hsource⟩ := List.head?_eq_some_iff.mp hd
    exact hs source hsource

/-! ### Evaluation -/

section Locality

variable {fill fill' : Slot → Except Fault Value}

lemma textOfParts_congr {parts : List Part} (h : ∀ s ∈ slotsOfParts parts, fill s = fill' s) :
    textOfParts fill parts = textOfParts fill' parts := by
  induction parts with
  | nil => rfl
  | cons p rest ih =>
    cases p with
    | text s =>
      rw [textOfParts, textOfParts, ih h]
    | slot s =>
      have hs := h s List.mem_cons_self
      rw [textOfParts, textOfParts, hs, ih fun r hr => h r (List.mem_cons_of_mem s hr)]

lemma urlOfParts_congr {parts : List Part} (h : ∀ s ∈ slotsOfParts parts, fill s = fill' s) :
    urlOfParts fill parts = urlOfParts fill' parts := by
  fun_induction urlOfParts fill parts with
  | case1 => rfl
  | case2 t s rest ih =>
    have hs := h s List.mem_cons_self
    have hrest := ih fun r hr => h r (List.mem_cons_of_mem s hr)
    rw [urlOfParts, hs, hrest]
  | case3 t rest hne ih =>
    rw [ih h, urlOfParts]
    exact hne
  | case4 s rest ih =>
    have hs := h s List.mem_cons_self
    rw [urlOfParts, hs, ih fun r hr => h r (List.mem_cons_of_mem s hr)]

variable (data : Value)

mutual

/-- Evaluation asks for the slots of the template and for no others. -/
theorem fillWith_congr :
    ∀ t : Template, (∀ s ∈ t.slots, fill s = fill' s) → t.fillWith fill data = t.fillWith fill' data
  | literal _, _ => rfl
  | slot s, h => h s (List.mem_singleton_self s)
  | text parts, h => by rw [fillWith, fillWith, textOfParts_congr h]
  | url parts, h => by rw [fillWith, fillWith, urlOfParts_congr h]
  | expression _ _, _ => rfl
  | mapping ms, h => by rw [fillWith, fillWith, fillMembers_congr ms h]
  | sequence ts, h => by rw [fillWith, fillWith, fillItems_congr ts h]

theorem fillMembers_congr :
    ∀ ms : List (Value × Template), (∀ s ∈ slotsOfMembers ms, fill s = fill' s) →
      fillMembers fill data ms = fillMembers fill' data ms
  | [], _ => rfl
  | (k, t) :: ms, h => by
    rw [slotsOfMembers, List.forall_mem_append] at h
    rw [fillMembers, fillMembers, fillWith_congr t h.1, fillMembers_congr ms h.2]

theorem fillItems_congr :
    ∀ ts : List Template, (∀ s ∈ slotsOfItems ts, fill s = fill' s) →
      fillItems fill data ts = fillItems fill' data ts
  | [], _ => rfl
  | t :: ts, h => by
    rw [slotsOfItems, List.forall_mem_append] at h
    rw [fillItems, fillItems, fillWith_congr t h.1, fillItems_congr ts h.2]

end

end Locality

end Template

end RestOperations
