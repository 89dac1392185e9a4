import Mathlib.Data.List.Nodup
import RestOperations.Operation.Template
import RestOperations.Proofs.Outcome

/-!
What a check makes of the parts of a record. A text may stand in a map more than once, since octets
can encode it too; in the result each name has one entry, at the place of the first one and with the
value of the last. What a check has made of a map or a list passes it once more as it is.
-/

namespace RestOperations

namespace Schema

variable {α : Type}

lemma names_putEntry_of_mem {es : List (String × α)} {e : String × α}
    (h : e.1 ∈ es.map (·.1)) : (putEntry es e).map (·.1) = es.map (·.1) := by
  induction es with
  | nil => cases h
  | cons e' es ih =>
    obtain ⟨k, a⟩ := e'
    rw [putEntry]
    split
    · rfl
    · next hne =>
      have hmem : e.1 ∈ es.map (·.1) := (List.mem_cons.mp h).resolve_left fun heq =>
        hne (beq_iff_eq.mpr heq.symm)
      rw [List.map_cons, List.map_cons, ih hmem]

lemma putEntry_of_not_mem {es : List (String × α)} {e : String × α}
    (h : e.1 ∉ es.map (·.1)) : putEntry es e = es ++ [e] := by
  induction es with
  | nil => rfl
  | cons e' es ih =>
    obtain ⟨k, a⟩ := e'
    rw [List.map_cons, List.mem_cons, not_or] at h
    rw [putEntry, if_neg (by simpa using Ne.symm h.1), ih h.2, List.cons_append]

/-- Where names differ, they still do after an entry is put. -/
lemma nodup_putEntry {es : List (String × α)} (e : String × α) (h : (es.map (·.1)).Nodup) :
    ((putEntry es e).map (·.1)).Nodup := by
  by_cases hmem : e.1 ∈ es.map (·.1)
  · rwa [names_putEntry_of_mem hmem]
  · rw [putEntry_of_not_mem hmem, List.map_append, List.nodup_append]
    refine ⟨h, List.nodup_singleton _, fun name hname other hother heq => hmem ?_⟩
    rw [List.map_singleton, List.mem_singleton] at hother
    rwa [← hother, ← heq]

lemma nodup_foldl_putEntry {es : List (String × α)} (more : List (String × α))
    (h : (es.map (·.1)).Nodup) : ((more.foldl putEntry es).map (·.1)).Nodup := by
  induction more generalizing es with
  | nil => exact h
  | cons e more ih => exact ih (nodup_putEntry e h)

/-- The names of a checked map are all different. -/
theorem nodup_texts {check : Value → Checked α} {v : Value} {es : List (String × α)}
    (h : texts check v = .ok es) : (es.map (·.1)).Nodup := by
  cases v with
  | map ms =>
    obtain ⟨checked, -, rfl⟩ := map_eq_ok.mp h
    exact nodup_foldl_putEntry checked List.nodup_nil
  | _ => cases h

/-- Entries with names of their own are put one after the other. -/
lemma foldl_putEntry_of_nodup {es more : List (String × α)} (h : ((es ++ more).map (·.1)).Nodup) :
    more.foldl putEntry es = es ++ more := by
  induction more generalizing es with
  | nil => rw [List.foldl_nil, List.append_nil]
  | cons e more ih =>
    have hmem : e.1 ∉ es.map (·.1) := by
      intro hmem
      rw [List.map_append, List.nodup_append] at h
      exact h.2.2 _ hmem _ List.mem_cons_self rfl
    rw [List.append_cons] at h ⊢
    rw [List.foldl_cons, putEntry_of_not_mem hmem, ih h]

/-- What passes the checks as it is passes all of them. -/
lemma all_map_ok {β : Type} {xs : List α} {check : α → Checked β} {g : α → β}
    (h : ∀ x ∈ xs, check x = .ok (g x)) : Checked.all (xs.map check) = .ok (xs.map g) := by
  induction xs with
  | nil => rfl
  | cons x xs ih =>
    rw [List.forall_mem_cons] at h
    rw [List.map_cons, Checked.all, h.1, ih h.2]
    rfl

lemma all_map_map_ok {β γ : Type} {xs : List γ} {view : γ → α} {check : α → Checked β} {g : γ → β}
    (h : ∀ x ∈ xs, check (view x) = .ok (g x)) :
    Checked.all ((xs.map view).map check) = .ok (xs.map g) := by
  rw [List.map_map]
  exact all_map_ok h

/-- A map from texts that differ is taken entry by entry. -/
lemma texts_of_nodup (view : α → Value) {es : List (String × α)} {check : Value → Checked α}
    (hes : (es.map (·.1)).Nodup) (hcheck : ∀ e ∈ es, check (view e.2) = .ok e.2) :
    texts check (.map (es.map fun e => (.str e.1, view e.2))) = .ok es := by
  have hput : es.foldl putEntry [] = es := foldl_putEntry_of_nodup hes
  rw [texts, all_map_map_ok (g := id), List.map_id]
  · exact congrArg Except.ok hput
  · intro e he
    change Checked.both _ ((check (view e.2)).within _) = _
    rw [hcheck e he]
    rfl

/-- A member that may be left out is checked, or it is the default. -/
lemma optional_eq_ok {ms : List (Value × Value)} {name : String} {default a : α}
    {check : Value → Checked α} (h : optional ms name default check = .ok a) :
    a = default ∨ ∃ v, check v = .ok a := by
  unfold optional at h
  split at h
  · next v _ => exact .inr ⟨v, mapError_eq_ok.mp h⟩
  · exact .inl (Except.ok.inj h).symm

/-- What may be null is checked unless it is. -/
lemma nullable_eq_ok {check : Value → Checked α} {v : Value} {a? : Option α}
    (h : nullable check v = .ok a?) : a? = none ∨ ∃ a, a? = some a ∧ check v = .ok a := by
  unfold nullable at h
  split at h
  · exact .inl (Except.ok.inj h).symm
  · obtain ⟨a, ha, rfl⟩ := map_eq_ok.mp h
    exact .inr ⟨a, rfl, ha⟩

/-- Where there is a checked map, its names are all different. -/
lemma nodup_nullable_texts {ms : List (Value × Value)} {name : String} {check : Value → Checked α}
    {es? : Option (List (String × α))}
    (h : optional ms name none (nullable (texts check)) = .ok es?) :
    ∀ es ∈ es?, (es.map (·.1)).Nodup := by
  intro es hes
  obtain rfl | ⟨v, hv⟩ := optional_eq_ok h
  · cases hes
  · obtain rfl | ⟨es', rfl, hes'⟩ := nullable_eq_ok hv
    · cases hes
    · cases hes
      exact nodup_texts hes'

lemma nodup_optional_texts {ms : List (Value × Value)} {name : String} {check : Value → Checked α}
    {es : List (String × α)} (h : optional ms name [] (texts check) = .ok es) :
    (es.map (·.1)).Nodup := by
  obtain rfl | ⟨v, hv⟩ := optional_eq_ok h
  · exact List.nodup_nil
  · exact nodup_texts hv

lemma nonEmptyText_ne {v : Value} {s : String} (h : nonEmptyText v = .ok s) : s ≠ "" := by
  obtain ⟨s', -, h⟩ := bind_eq_ok.mp h
  split at h
  · cases h
  · next hne =>
    cases h
    rintro rfl
    exact hne rfl

lemma nonEmptyText_str {s : String} (h : s ≠ "") : nonEmptyText (.str s) = .ok s := by
  have hne : s.isEmpty = false := by simpa using h
  change (if s.isEmpty then _ else _) = _
  rw [hne]
  rfl

/-- A member that has to be there is checked. -/
lemma required_eq_ok {ms : List (Value × Value)} {name : String} {a : α}
    {check : Value → Checked α} (h : required ms name check = .ok a) : ∃ v, check v = .ok a := by
  unfold required at h
  split at h
  · next v _ => exact ⟨v, mapError_eq_ok.mp h⟩
  · cases h

lemma required_of_member {ms : List (Value × Value)} {name : String} {v : Value} {a : α}
    {check : Value → Checked α} (hv : Value.get? ms (.str name) = some v) (ha : check v = .ok a) :
    required ms name check = .ok a := by
  rw [required, hv]
  exact mapError_eq_ok.mpr ha

lemma optional_of_member {ms : List (Value × Value)} {name : String} {v : Value} {default a : α}
    {check : Value → Checked α} (hv : Value.get? ms (.str name) = some v) (ha : check v = .ok a) :
    optional ms name default check = .ok a := by
  rw [optional, hv]
  exact mapError_eq_ok.mpr ha

/-- What comes of all checks comes of one of them each. -/
lemma mem_of_all {checks : List (Checked α)} {as : List α} (h : Checked.all checks = .ok as) :
    ∀ a ∈ as, .ok a ∈ checks := by
  induction checks generalizing as with
  | nil =>
    cases h
    simp
  | cons c checks ih =>
    obtain ⟨⟨a, as⟩, hboth, rfl⟩ := map_eq_ok.mp h
    obtain ⟨rfl, hall⟩ := Checked.both_ok_iff.mp hboth
    exact List.forall_mem_cons.mpr
      ⟨List.mem_cons_self, fun a ha => List.mem_cons_of_mem _ (ih hall a ha)⟩

/-- Each item of a checked list has passed the check. -/
lemma mem_of_list {check : Value → Checked α} {v : Value} {as : List α}
    (h : list check v = .ok as) : ∀ a ∈ as, ∃ x, check x = .ok a := by
  intro a ha
  obtain ⟨xs, hxs⟩ : ∃ xs, items check xs = .ok as := by
    cases v with
    | list xs => exact ⟨xs, h⟩
    | tuple xs => exact ⟨xs, h⟩
    | set xs => exact ⟨xs, h⟩
    | _ => cases h
  obtain ⟨⟨x, i⟩, -, hx⟩ := List.mem_map.mp (mem_of_all hxs a ha)
  exact ⟨x, mapError_eq_ok.mp hx⟩

/-- A list of what passes the check is taken item by item. -/
lemma list_of_checked (view : α → Value) {as : List α} {check : Value → Checked α}
    (hcheck : ∀ a ∈ as, check (view a) = .ok a) : list check (.list (as.map view)) = .ok as := by
  rw [list, items, List.zipIdx_map, all_map_map_ok (g := Prod.fst), List.zipIdx_map_fst]
  intro e he
  change (check (view e.1)).within _ = _
  rw [hcheck e.1 (List.fst_mem_of_mem_zipIdx he)]
  rfl

end Schema

namespace OperationTemplate

/-- The entries of the query, and those of the headers, have different names. -/
theorem nodup_ofValue {v : Value} {t : OperationTemplate} (h : ofValue v = .ok t) :
    (t.query.map (·.1)).Nodup ∧ (t.headers.map (·.1)).Nodup := by
  obtain ⟨ms, -, h⟩ := bind_eq_ok.mp h
  obtain ⟨⟨⟨⟨method, url⟩, ⟨query, headers⟩, body, response⟩, _⟩, hall, h⟩ := bind_eq_ok.mp h
  cases h
  simp only [Checked.both_ok_iff] at hall
  obtain ⟨⟨-, ⟨hquery, hheaders⟩, -⟩, -⟩ := hall
  exact ⟨Schema.nodup_optional_texts hquery, Schema.nodup_optional_texts hheaders⟩

end OperationTemplate

end RestOperations
