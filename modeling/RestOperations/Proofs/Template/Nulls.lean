import RestOperations.Proofs.Template.Acceptance
import RestOperations.Proofs.Value.Nulls

/-!
Structured templates and null. The maps and lists that a template makes by itself have no null in
them: a member or an item that comes to null is left out, at any depth. Null gets into the result only
as part of a value that a slot or an expression hands over as a whole. Plain data, without slots and
expressions, comes to itself without its nulls, whatever the call.
-/

namespace RestOperations

namespace SlotSyntax

/-- No slot is written anywhere in the text. -/
def NoneIn (cs : List Char) : Prop :=
  ∀ (s : SlotSyntax) (before after : List Char), s.WellFormed → cs ≠ before ++ s.source ++ after

lemma noneIn_iff {cs : List Char} : NoneIn cs ↔ Occur cs [] := by
  induction cs with
  | nil =>
    refine iff_of_true (fun s before after _ h => ?_) .nil
    have := congrArg List.length h
    simp [source] at this
  | cons c cs ih =>
    constructor
    · intro h
      refine .plain (fun s rest hs => h s [] rest hs) (ih.mp fun s before after hs heq => ?_)
      exact h s (c :: before) after hs (by rw [heq]; rfl)
    · intro h
      cases h with
      | plain hno hrest =>
        intro s before after hs heq
        cases before with
        | nil => exact hno s after hs heq
        | cons _ before =>
          exact ih.mpr hrest s before after hs (List.cons_eq_cons.mp heq).2

end SlotSyntax

namespace Value

mutual

/-- Leaving out nulls takes no text away. -/
theorem texts_withoutNulls : ∀ v : Value, v.withoutNulls.texts = v.texts
  | list xs => texts_itemsWithoutNulls xs
  | map ms => texts_membersWithoutNulls ms
  | null | bool _ | int _ | float _ | str _ | tuple _ | set _ | octets _ | date _ | moment _
  | function _ => rfl

theorem texts_itemsWithoutNulls : ∀ xs, textsOfItems (itemsWithoutNulls xs) = textsOfItems xs
  | [] => rfl
  | x :: xs => by
    rw [itemsWithoutNulls]
    split
    · next hnull =>
      rw [isNull_iff.mp hnull, texts_itemsWithoutNulls xs]
      rfl
    · rw [textsOfItems, textsOfItems, texts_withoutNulls x, texts_itemsWithoutNulls xs]

theorem texts_membersWithoutNulls :
    ∀ ms, textsOfMembers (membersWithoutNulls ms) = textsOfMembers ms
  | [] => rfl
  | (k, v) :: ms => by
    rw [membersWithoutNulls]
    split
    · next hnull =>
      rw [isNull_iff.mp hnull, texts_membersWithoutNulls ms]
      rfl
    · rw [textsOfMembers, textsOfMembers, texts_withoutNulls v, texts_membersWithoutNulls ms]

end

end Value

namespace Template

open SlotSyntax

variable {scope : Scope} {d : Destination}

/-! ### Values that are handed over -/

/-- The value comes from the call: the text is nothing but a slot with an argument, or an
expression. -/
inductive Given [Json.Depth] (scope : Scope) (d : Destination) (s : String) (u : Value) : Prop
  | argument {r : SlotSyntax} {a : Value} : read? s.toList = some (r, []) →
      scope.given (r.slotIn d) = .ok a → a ≠ .null → (r.slotIn d).convert a = .ok u →
        Given scope d s u
  | result {source : List Char} {e : Query.Expr} : s.toList = '$' :: source →
      Query.parse (String.ofList source) = .ok e → evaluateExpression scope.data e d = .ok u →
        Given scope d s u

/-- The value comes from the default of a slot: the text is nothing but this slot, and it has no
argument. -/
inductive Preset [Json.Depth] (scope : Scope) (d : Destination) (s : String) (u : Value) : Prop
  | mk {r : SlotSyntax} {text : String} : read? s.toList = some (r, []) →
      scope.given (r.slotIn d) = .ok .null → (r.slotIn d).default = some text →
        (r.slotIn d).convert (.str text) = .ok u → Preset scope d s u

lemma lookup_cases [Json.Depth] {s : String} {r : SlotSyntax} {u : Value}
    (hread : read? s.toList = some (r, []))
    (h : scope.lookup (r.slotIn d) = .ok u) :
    u = .null ∨ Given scope d s u ∨ Preset scope d s u := by
  obtain ⟨a, ha, h⟩ := bind_eq_ok.mp h
  cases hnull : a.isNull with
  | false =>
    have hne : a ≠ .null := mt Value.isNull_iff.mpr (by simp [hnull])
    simp only [hnull, Bool.false_eq_true, if_false] at h
    exact .inr (.inl (.argument hread ha hne h))
  | true =>
    obtain rfl := Value.isNull_iff.mp hnull
    cases hdefault : (r.slotIn d).default with
    | none =>
      simp only [hnull, if_true, Slot.defaultValue, hdefault] at h
      exact .inl (Except.ok.inj h).symm
    | some text =>
      simp only [if_true, Slot.defaultValue, hdefault, Value.isNull, Bool.false_eq_true,
        if_false] at h
      exact .inr (.inr (.mk hread ha hdefault h))

/-- A text comes to null, to a text, or to a value that is handed over. -/
lemma compileText_evaluate_cases [Json.Depth] {s : String} {t : Template} {u : Value}
    (ht : compileText s d = .ok t) (hu : t.evaluate scope = .ok u) :
    u = .null ∨ (∃ text, u = .str text) ∨ Given scope d s u ∨ Preset scope d s u := by
  unfold compileText at ht
  split at ht
  · next r hread =>
    rw [mapError_eq_ok, map_eq_ok] at ht
    obtain ⟨slot, hslot, rfl⟩ := ht
    rw [toSlot_eq hslot] at hu
    exact (lookup_cases hread hu).imp_right .inr
  · obtain ⟨parts, -, ht⟩ := bind_eq_ok.mp ht
    cases ht
    split at hu
    · obtain ⟨text?, -, hu⟩ := bind_eq_ok.mp hu
      cases hu
      cases text? with
      | none => exact .inl rfl
      | some text => exact .inr (.inl ⟨text, rfl⟩)
    · cases hu
      exact .inr (.inl ⟨s, rfl⟩)

lemma compileString_evaluate_cases [Json.Depth] {s : String} {t : Template} {u : Value}
    (ht : compileString s d = .ok t) (hu : t.evaluate scope = .ok u) :
    u = .null ∨ (∃ text, u = .str text) ∨ Given scope d s u ∨ Preset scope d s u := by
  unfold compileString at ht
  split at ht
  · next source hs =>
    unfold compileExpression at ht
    split at ht
    · next e hparse =>
      cases ht
      exact .inr (.inr (.inl (.result hs hparse hu)))
    · cases ht
  · exact compileText_evaluate_cases ht hu

/-! ### What a template makes by itself -/

mutual

/-- What a value, as a template, comes to: a text to what it stands for, a map and a list to what is
left of their parts, and anything else to itself. -/
inductive Yields [Json.Depth] (scope : Scope) (d : Destination) : Value → Value → Prop
  | text {s : String} {t : Template} {w : Value} : compileString s d = .ok t →
      t.evaluate scope = .ok w → Yields scope d (.str s) w
  | map {ms ws : List (Value × Value)} : YieldsMembers scope d ms ws →
      Yields scope d (.map ms) (.map ws)
  | list {xs ws : List Value} : YieldsItems scope d xs ws → Yields scope d (.list xs) (.list ws)
  | itself {v : Value} : (∀ s, v ≠ .str s) → (∀ ms, v ≠ .map ms) → (∀ xs, v ≠ .list xs) →
      Yields scope d v v

/-- A member is kept with what it comes to, unless this is null. -/
inductive YieldsMembers [Json.Depth] (scope : Scope) (d : Destination) :
    List (Value × Value) → List (Value × Value) → Prop
  | nil : YieldsMembers scope d [] []
  | kept {k v w : Value} {ms ws : List (Value × Value)} : Yields scope d v w → w ≠ .null →
      YieldsMembers scope d ms ws → YieldsMembers scope d ((k, v) :: ms) ((k, w) :: ws)
  | leftOut {k v : Value} {ms ws : List (Value × Value)} : Yields scope d v .null →
      YieldsMembers scope d ms ws → YieldsMembers scope d ((k, v) :: ms) ws

/-- An item is kept as what it comes to, unless this is null. -/
inductive YieldsItems [Json.Depth] (scope : Scope) (d : Destination) :
    List Value → List Value → Prop
  | nil : YieldsItems scope d [] []
  | kept {x w : Value} {xs ws : List Value} : Yields scope d x w → w ≠ .null →
      YieldsItems scope d xs ws → YieldsItems scope d (x :: xs) (w :: ws)
  | leftOut {x : Value} {xs ws : List Value} : Yields scope d x .null →
      YieldsItems scope d xs ws → YieldsItems scope d (x :: xs) ws

end

lemma yields_map_iff [Json.Depth] {ms : List (Value × Value)} {w : Value} :
    Yields scope d (.map ms) w ↔ ∃ ws, YieldsMembers scope d ms ws ∧ w = .map ws := by
  constructor
  · rintro (_ | hms | _ | ⟨-, hmap, -⟩)
    · exact ⟨_, hms, rfl⟩
    · exact absurd rfl (hmap ms)
  · rintro ⟨ws, hms, rfl⟩
    exact .map hms

lemma yields_list_iff [Json.Depth] {xs : List Value} {w : Value} :
    Yields scope d (.list xs) w ↔ ∃ ws, YieldsItems scope d xs ws ∧ w = .list ws := by
  constructor
  · rintro (_ | _ | hxs | ⟨-, -, hlist⟩)
    · exact ⟨_, hxs, rfl⟩
    · exact absurd rfl (hlist xs)
  · rintro ⟨ws, hxs, rfl⟩
    exact .list hxs

lemma yields_str_iff [Json.Depth] {s : String} {t : Template} {w : Value}
    (ht : compileString s d = .ok t) :
    Yields scope d (.str s) w ↔ t.evaluate scope = .ok w := by
  constructor
  · rintro (⟨ht', hw⟩ | _ | _ | ⟨hstr, -, -⟩)
    · rwa [Except.ok.inj (ht.symm.trans ht')]
    · exact absurd rfl (hstr s)
  · exact .text ht

lemma yields_itself_iff [Json.Depth] {v w : Value} (hstr : ∀ s, v ≠ .str s)
    (hmap : ∀ ms, v ≠ .map ms)
    (hlist : ∀ xs, v ≠ .list xs) : Yields scope d v w ↔ v = w := by
  constructor
  · rintro (_ | _ | _ | _)
    · exact absurd rfl (hstr _)
    · exact absurd rfl (hmap _)
    · exact absurd rfl (hlist _)
    · rfl
  · rintro rfl
    exact .itself hstr hmap hlist

lemma yieldsMembers_nil_iff [Json.Depth] {ws : List (Value × Value)} :
    YieldsMembers scope d [] ws ↔ ws = [] := by
  constructor
  · rintro ⟨⟩
    rfl
  · rintro rfl
    exact .nil

lemma yieldsItems_nil_iff [Json.Depth] {ws : List Value} : YieldsItems scope d [] ws ↔ ws = [] := by
  constructor
  · rintro ⟨⟩
    rfl
  · rintro rfl
    exact .nil

lemma yieldsMembers_cons_iff [Json.Depth] {k v : Value} {ms ws : List (Value × Value)} :
    YieldsMembers scope d ((k, v) :: ms) ws ↔ ∃ w ws', Yields scope d v w ∧
      YieldsMembers scope d ms ws' ∧ ws = if w.isNull then ws' else (k, w) :: ws' := by
  constructor
  · rintro (_ | ⟨hv, hne, hms⟩ | ⟨hv, hms⟩)
    · exact ⟨_, _, hv, hms, by rw [if_neg (mt Value.isNull_iff.mp hne)]⟩
    · exact ⟨_, _, hv, hms, rfl⟩
  · rintro ⟨w, ws', hv, hms, rfl⟩
    split
    · next hnull =>
      rw [Value.isNull_iff.mp hnull] at hv
      exact .leftOut hv hms
    · next hnull => exact .kept hv (mt Value.isNull_iff.mpr hnull) hms

lemma yieldsItems_cons_iff [Json.Depth] {x : Value} {xs ws : List Value} :
    YieldsItems scope d (x :: xs) ws ↔ ∃ w ws', Yields scope d x w ∧
      YieldsItems scope d xs ws' ∧ ws = if w.isNull then ws' else w :: ws' := by
  constructor
  · rintro (_ | ⟨hx, hne, hxs⟩ | ⟨hx, hxs⟩)
    · exact ⟨_, _, hx, hxs, by rw [if_neg (mt Value.isNull_iff.mp hne)]⟩
    · exact ⟨_, _, hx, hxs, rfl⟩
  · rintro ⟨w, ws', hx, hxs, rfl⟩
    split
    · next hnull =>
      rw [Value.isNull_iff.mp hnull] at hx
      exact .leftOut hx hxs
    · next hnull => exact .kept hx (mt Value.isNull_iff.mpr hnull) hxs

lemma fillMembers_cons_eq_ok [Json.Depth] {k : Value} {t : Template} {ts : List (Value × Template)}
    {ws : List (Value × Value)} :
    fillMembers scope.lookup scope.data ((k, t) :: ts) = .ok ws ↔ ∃ w ws', t.evaluate scope = .ok w ∧
      fillMembers scope.lookup scope.data ts = .ok ws' ∧
        ws = if w.isNull then ws' else (k, w) :: ws' := by
  rw [fillMembers, bind_eq_ok]
  simp only [bind_eq_ok, Except.ok.injEq, evaluate, exists_and_left, eq_comm (b := ws)]

lemma fillItems_cons_eq_ok [Json.Depth] {t : Template} {ts : List Template} {ws : List Value} :
    fillItems scope.lookup scope.data (t :: ts) = .ok ws ↔ ∃ w ws', t.evaluate scope = .ok w ∧
      fillItems scope.lookup scope.data ts = .ok ws' ∧
        ws = if w.isNull then ws' else w :: ws' := by
  rw [fillItems, bind_eq_ok]
  simp only [bind_eq_ok, Except.ok.injEq, evaluate, exists_and_left, eq_comm (b := ws)]

mutual

theorem evaluate_iff_yields [Json.Depth] :
    ∀ (v : Value) {t : Template} {w : Value}, compile d v = .ok t →
      (t.evaluate scope = .ok w ↔ Yields scope d v w)
  | .str s, t, w, ht => (yields_str_iff ht).symm
  | .map ms, t, w, ht => by
    obtain ⟨ts, hts, ht⟩ := bind_eq_ok.mp ht
    cases ht
    rw [yields_map_iff, evaluate, fillWith, bind_eq_ok]
    exact exists_congr fun ws => and_congr (fillMembers_iff_yields ms hts)
      ⟨fun h => (Except.ok.inj h).symm, fun h => by rw [h]⟩
  | .list xs, t, w, ht => by
    obtain ⟨ts, hts, ht⟩ := bind_eq_ok.mp ht
    cases ht
    rw [yields_list_iff, evaluate, fillWith, bind_eq_ok]
    exact exists_congr fun ws => and_congr (fillItems_iff_yields xs hts)
      ⟨fun h => (Except.ok.inj h).symm, fun h => by rw [h]⟩
  | .null, t, w, ht | .bool _, t, w, ht | .int _, t, w, ht | .float _, t, w, ht
  | .tuple _, t, w, ht | .set _, t, w, ht | .octets _, t, w, ht | .date _, t, w, ht
  | .moment _, t, w, ht | .function _, t, w, ht => by
    cases ht
    rw [yields_itself_iff (by simp) (by simp) (by simp), evaluate, fillWith, Except.ok.injEq]

theorem fillMembers_iff_yields [Json.Depth] :
    ∀ (ms : List (Value × Value)) {ts : List (Value × Template)} {ws : List (Value × Value)},
      compileMembers d ms = .ok ts →
        (fillMembers scope.lookup scope.data ts = .ok ws ↔ YieldsMembers scope d ms ws)
  | [], ts, ws, hts => by
    cases hts
    rw [yieldsMembers_nil_iff, fillMembers, Except.ok.injEq, eq_comm]
  | (k, v) :: ms, ts, ws, hts => by
    obtain ⟨t, ht, hts⟩ := bind_eq_ok.mp hts
    obtain ⟨ts, hts', hts⟩ := bind_eq_ok.mp hts
    cases hts
    simp only [yieldsMembers_cons_iff, fillMembers_cons_eq_ok, evaluate_iff_yields v ht,
      fillMembers_iff_yields ms hts']

theorem fillItems_iff_yields [Json.Depth] :
    ∀ (xs : List Value) {ts : List Template} {ws : List Value}, compileItems d xs = .ok ts →
      (fillItems scope.lookup scope.data ts = .ok ws ↔ YieldsItems scope d xs ws)
  | [], ts, ws, hts => by
    cases hts
    rw [yieldsItems_nil_iff, fillItems, Except.ok.injEq, eq_comm]
  | x :: xs, ts, ws, hts => by
    obtain ⟨t, ht, hts⟩ := bind_eq_ok.mp hts
    obtain ⟨ts, hts', hts⟩ := bind_eq_ok.mp hts
    cases hts
    simp only [yieldsItems_cons_iff, fillItems_cons_eq_ok, evaluate_iff_yields x ht,
      fillItems_iff_yields xs hts']

end

/-- The value is handed over by one of the texts. -/
def HandedOver [Json.Depth] (scope : Scope) (d : Destination) (texts : List String) (u : Value) :
    Prop :=
  ∃ s ∈ texts, Given scope d s u ∨ Preset scope d s u

mutual

/-- Nulls come with values that are handed over. -/
theorem isNullFree_of_yields [Json.Depth] :
    ∀ {v w : Value}, Yields scope d v w →
      (∀ u, HandedOver scope d v.texts u → u.isNullFree = true) → w.isNullFree = true
  | _, _, .text ht hw, h => by
    obtain rfl | ⟨text, rfl⟩ | hgiven := compileString_evaluate_cases ht hw
    · rfl
    · rfl
    · exact h _ ⟨_, List.mem_singleton_self _, hgiven⟩
  | _, _, .map hms, h => membersNullFree_of_yields hms h
  | _, _, .list hxs, h => itemsNullFree_of_yields hxs h
  | v, _, .itself _ hmap hlist, _ => by
    cases v with
    | map ms => exact absurd rfl (hmap ms)
    | list xs => exact absurd rfl (hlist xs)
    | _ => rfl

theorem membersNullFree_of_yields [Json.Depth] :
    ∀ {ms ws : List (Value × Value)}, YieldsMembers scope d ms ws →
      (∀ u, HandedOver scope d (Value.textsOfMembers ms) u → u.isNullFree = true) →
        Value.membersNullFree ws = true
  | _, _, .nil, _ => rfl
  | _, _, .kept hv hne hms, h => by
    have hnull := Bool.eq_false_iff.mpr (mt Value.isNull_iff.mp hne)
    have hw := isNullFree_of_yields hv fun u ⟨s, hs, hu⟩ => h u ⟨s, List.mem_append_left _ hs, hu⟩
    have hws := membersNullFree_of_yields hms fun u ⟨s, hs, hu⟩ =>
      h u ⟨s, List.mem_append_right _ hs, hu⟩
    rw [Value.membersNullFree, hnull, hw, hws]
    rfl
  | _, _, .leftOut _ hms, h =>
    membersNullFree_of_yields hms fun u ⟨s, hs, hu⟩ => h u ⟨s, List.mem_append_right _ hs, hu⟩

theorem itemsNullFree_of_yields [Json.Depth] :
    ∀ {xs ws : List Value}, YieldsItems scope d xs ws →
      (∀ u, HandedOver scope d (Value.textsOfItems xs) u → u.isNullFree = true) →
        Value.itemsNullFree ws = true
  | _, _, .nil, _ => rfl
  | _, _, .kept hx hne hxs, h => by
    have hnull := Bool.eq_false_iff.mpr (mt Value.isNull_iff.mp hne)
    have hw := isNullFree_of_yields hx fun u ⟨s, hs, hu⟩ => h u ⟨s, List.mem_append_left _ hs, hu⟩
    have hws := itemsNullFree_of_yields hxs fun u ⟨s, hs, hu⟩ =>
      h u ⟨s, List.mem_append_right _ hs, hu⟩
    rw [Value.itemsNullFree, hnull, hw, hws]
    rfl
  | _, _, .leftOut _ hxs, h =>
    itemsNullFree_of_yields hxs fun u ⟨s, hs, hu⟩ => h u ⟨s, List.mem_append_right _ hs, hu⟩

end

/-! ### Plain data -/

/-- The text is neither an expression nor has it a slot. -/
def PlainText (s : String) : Prop := s.toList.head? ≠ some '$' ∧ NoneIn s.toList

lemma compileString_of_plainText {s : String} (h : PlainText s) :
    compileString s d = .ok (literal (.str s)) := by
  obtain ⟨hdollar, hnone⟩ := h
  obtain ⟨parts, hparts⟩ := isOk_iff.mp
    ((accepts_partsOf s d).isOk_iff.mpr ⟨[], noneIn_iff.mp hnone, List.forall_mem_nil _⟩)
  obtain ⟨ss, hss, hslots⟩ := slots_partsOf hparts
  obtain rfl := (noneIn_iff.mp hnone).unique hss
  have hany : parts.any Part.isSlot = false := by
    rw [List.any_eq_false]
    intro p hp
    simp [Part.isSlot, List.filterMap_eq_nil_iff.mp hslots p hp]
  have htext : compileText s d = .ok (literal (.str s)) := by
    unfold compileText
    split
    · next r hread =>
      obtain ⟨hr, heq⟩ := wellFormed_of_read? hread
      exact absurd heq (hnone r [] [] hr)
    · rw [hparts, ok_bind, hany]
      rfl
  unfold compileString
  split
  · next source hs => exact absurd (by rw [hs]; rfl) hdollar
  · exact htext

mutual

/-- Plain data yields itself without its nulls. -/
theorem yields_withoutNulls [Json.Depth] :
    ∀ v : Value, (∀ s ∈ v.texts, PlainText s) → Yields scope d v v.withoutNulls
  | .str s, h => .text (compileString_of_plainText (h s (List.mem_singleton_self s))) rfl
  | .map ms, h => .map (yieldsMembers_withoutNulls ms h)
  | .list xs, h => .list (yieldsItems_withoutNulls xs h)
  | .null, _ | .bool _, _ | .int _, _ | .float _, _ | .tuple _, _ | .set _, _ | .octets _, _
  | .date _, _ | .moment _, _ | .function _, _ => .itself (by simp) (by simp) (by simp)

theorem yieldsMembers_withoutNulls [Json.Depth] :
    ∀ ms, (∀ s ∈ Value.textsOfMembers ms, PlainText s) →
      YieldsMembers scope d ms (Value.membersWithoutNulls ms)
  | [], _ => .nil
  | (k, v) :: ms, h => by
    rw [Value.textsOfMembers, List.forall_mem_append] at h
    rw [yieldsMembers_cons_iff, Value.membersWithoutNulls, ← v.isNull_withoutNulls]
    exact ⟨_, _, yields_withoutNulls v h.1, yieldsMembers_withoutNulls ms h.2, rfl⟩

theorem yieldsItems_withoutNulls [Json.Depth] :
    ∀ xs, (∀ s ∈ Value.textsOfItems xs, PlainText s) →
      YieldsItems scope d xs (Value.itemsWithoutNulls xs)
  | [], _ => .nil
  | x :: xs, h => by
    rw [Value.textsOfItems, List.forall_mem_append] at h
    rw [yieldsItems_cons_iff, Value.itemsWithoutNulls, ← x.isNull_withoutNulls]
    exact ⟨_, _, yields_withoutNulls x h.1, yieldsItems_withoutNulls xs h.2, rfl⟩

end

lemma wellWritten_of_plainText {s : String} (h : PlainText s) : WellWritten s :=
  .text h.1 ⟨[], noneIn_iff.mp h.2, List.forall_mem_nil _⟩

lemma evaluate_plain [Json.Depth] {v : Value} (d : Destination) (h : ∀ s ∈ v.texts, PlainText s) :
    ∃ t, compile d v = .ok t ∧ ∀ scope, t.evaluate scope = .ok v.withoutNulls := by
  obtain ⟨t, ht⟩ := isOk_iff.mp
    ((accepts_compile d v).isOk_iff.mpr fun s hs => wellWritten_of_plainText (h s hs))
  exact ⟨t, ht, fun scope => (evaluate_iff_yields v ht).mpr (yields_withoutNulls v h)⟩

/-- **A template makes no nulls.** What a template comes to has the maps and the lists of its value,
without the members and items that come to null, at any depth; a text comes to null, to a text, or to a
value that is handed over as a whole. If there is a null within the result nevertheless, there is one
within a value that is handed over: within the argument of a slot that is a text by itself, the default
of such a slot, or the result of an expression. A value without slots and expressions comes to itself
without its nulls for every call, and this once more to itself. -/
theorem nulls_left_out [Json.Depth] (d : Destination) (v : Value) :
    (∀ t scope w, compile d v = .ok t → t.evaluate scope = .ok w →
      Yields scope d v w ∧
      (∀ s u, Yields scope d (.str s) u →
        u = .null ∨ (∃ text, u = .str text) ∨ Given scope d s u ∨ Preset scope d s u) ∧
      (w.isNullFree = false → ∃ u, HandedOver scope d v.texts u ∧ u.isNullFree = false)) ∧
    ((∀ s ∈ v.texts, PlainText s) →
      v.withoutNulls.isNullFree = true ∧
      (∃ t, compile d v = .ok t ∧ ∀ scope, t.evaluate scope = .ok v.withoutNulls) ∧
      ∃ t, compile d v.withoutNulls = .ok t ∧ ∀ scope, t.evaluate scope = .ok v.withoutNulls) := by
  refine ⟨fun t scope w ht hw => ?_, fun hplain => ?_⟩
  · have hyields := (evaluate_iff_yields v ht).mp hw
    refine ⟨hyields, fun s u hu => ?_, fun hnull => ?_⟩
    · cases hu with
      | text ht hu => exact compileString_evaluate_cases ht hu
      | itself hstr => exact absurd rfl (hstr s)
    · by_contra hnone
      push Not at hnone
      have hfree := isNullFree_of_yields hyields fun u hu => (Bool.not_eq_false _).mp (hnone u hu)
      exact Bool.false_ne_true (hnull.symm.trans hfree)
  · have hfree := v.isNullFree_withoutNulls
    have hagain := evaluate_plain d (v := v.withoutNulls) (by rwa [v.texts_withoutNulls])
    rw [v.withoutNulls.withoutNulls_of_isNullFree hfree] at hagain
    exact ⟨hfree, evaluate_plain d hplain, hagain⟩

attribute [local instance] Json.Depth.thousand

/-- A note with nulls of its own, and with slots. -/
def noteValue : Value :=
  .map [(.str "note", .null), (.str "tags", .list [.null, .str "\x7btag\x7d", .str "\x7blabel\x7d"]),
    (.str "extra", .str "\x7bextra\x7d")]

/-- A call without a tag, and with a null within what is extra. -/
def noteScope : Scope :=
  ⟨[(.str "label", .str "new"), (.str "extra", .list [.null])], [], .null⟩

/-- Data with nulls, and with braces that are no slots. -/
def plainNote : Value :=
  .map [(.str "$a", .list [.null, .map [(.int 1, .null)]]), (.str "b", .str "\x7b\x7d")]

theorem note_nulls_left_out :
    (∃ t, compile .body noteValue = .ok t ∧ ∃ w, t.evaluate noteScope = .ok w ∧
      w.texts = ["new"] ∧ w.isNullFree = false ∧ Yields noteScope .body noteValue w ∧
        ∃ u, HandedOver noteScope .body noteValue.texts u ∧ u.isNullFree = false) ∧
    ∃ t, compile .body plainNote = .ok t ∧ ∀ scope, t.evaluate scope =
      .ok (.map [(.str "$a", .list [.map []]), (.str "b", .str "\x7b\x7d")]) := by
  obtain ⟨t, ht, w, hw, htexts, hnull⟩ :
      ∃ t, compile .body noteValue = .ok t ∧ ∃ w, t.evaluate noteScope = .ok w ∧
        w.texts = ["new"] ∧ w.isNullFree = false := by
    decide +kernel
  obtain ⟨hyields, -, hhanded⟩ := (nulls_left_out .body noteValue).1 t noteScope w ht hw
  have hplain : ∀ s ∈ plainNote.texts, PlainText s := by
    refine List.forall_mem_singleton.mpr ⟨by decide, noneIn_iff.mpr ?_⟩
    have hbraces : "\x7b\x7d".toList = ['{', '}'] := by decide
    rw [hbraces]
    exact (occur_of_plain (by decide)).mpr ((occur_of_plain (by decide)).mpr .nil)
  exact ⟨⟨t, ht, w, hw, htexts, hnull, hyields, hhanded hnull⟩,
    ((nulls_left_out .body plainNote).2 hplain).2.1⟩

/-- A slot with a default that has a null within. -/
def presetValue : Value := .list [.str "\x7bx:object=[null]\x7d"]

lemma given_of_nothing {options a : Value} {s : Slot} (h : Scope.given ⟨[], [], options⟩ s = .ok a) :
    a = .null := by
  rw [Scope.given, map_eq_ok] at h
  obtain ⟨_ | i, -, rfl⟩ := h <;> rfl

/-- Nulls come from defaults, too, where neither an argument nor an expression has any. -/
theorem null_of_default :
    ¬ ∀ (d : Destination) (v : Value) (t : Template) (scope : Scope) (w : Value),
      compile d v = .ok t → t.evaluate scope = .ok w → w.isNullFree = false →
        ∃ s ∈ v.texts, ∃ u, Given scope d s u ∧ u.isNullFree = false := by
  intro h
  obtain ⟨t, ht, w, hw, hnull⟩ : ∃ t, compile .body presetValue = .ok t ∧
      ∃ w, t.evaluate ⟨[], [], .null⟩ = .ok w ∧ w.isNullFree = false := by
    decide +kernel
  obtain ⟨s, hs, u, hgiven, -⟩ := h _ _ t _ w ht hw hnull
  obtain rfl := List.mem_singleton.mp hs
  cases hgiven with
  | argument _ hgiven hne _ => exact hne (given_of_nothing hgiven)
  | result hs =>
    have hbrace : "\x7bx:object=[null]\x7d".toList.head? = some '{' := by decide
    rw [hs, List.head?_cons, Option.some.injEq] at hbrace
    exact absurd hbrace (by decide)

end Template

end RestOperations
