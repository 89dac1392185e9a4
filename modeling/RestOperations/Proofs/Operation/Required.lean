import RestOperations.Operation.Call
import RestOperations.Proofs.Outcome

/-!
The check that comes before anything of a request is made. It goes through the slots in order,
passes the required ones that have something to fill them, and ends at the first one that does not.
-/

namespace RestOperations

namespace Scope

/-- There is something to fill the slot with. -/
def Provides [Json.Depth] (scope : Scope) (s : Slot) : Prop :=
  ∃ v, scope.lookup s = .ok v ∧ v.isNull = false

/-- Nothing is there to fill the slot with. -/
def Lacks [Json.Depth] (scope : Scope) (s : Slot) : Prop := scope.lookup s = .ok .null

instance decidableLacks [Json.Depth] (scope : Scope) (s : Slot) : Decidable (scope.Lacks s) :=
  decidable_of_iff (∃ v, scope.lookup s = .ok v ∧ v.isNull = true) (by simp [Lacks])

lemma provides_of_ok [Json.Depth] {scope : Scope} {s : Slot} {v : Value}
    (h : scope.lookup s = .ok v)
    (hnull : v ≠ .null) : scope.Provides s :=
  ⟨v, h, Bool.eq_false_iff.mpr (mt Value.isNull_iff.mp hnull)⟩

/-- What is not provided is lacking, or something is wrong with it. -/
lemma lacks_of_not_provides [Json.Depth] {scope : Scope} {s : Slot} (h : ¬ scope.Provides s) :
    (∃ f, scope.lookup s = .error f) ∨ scope.Lacks s := by
  cases hv : scope.lookup s with
  | error f => exact .inl ⟨f, rfl⟩
  | ok v =>
    have hnull : v = .null := Classical.byContradiction fun hn => h (provides_of_ok hv hn)
    exact .inr (by rw [Lacks, hv, hnull])

lemma Provides.not_lacks [Json.Depth] {scope : Scope} {s : Slot} (h : scope.Provides s) :
    ¬ scope.Lacks s := by
  obtain ⟨v, hv, hnull⟩ := h
  intro hl
  rw [Lacks, hv, Except.ok.injEq] at hl
  simp [hl, Value.isNull] at hnull

end Scope

namespace Operation

variable (op : Operation) (scope : Scope)

/-- Nothing stops the check before it gets to the slot. -/
def Reaches [Json.Depth] (slots : List Slot) (s : Slot) : Prop :=
  ∃ before after, slots = before ++ s :: after ∧ s.required = true ∧
    ∀ r ∈ before, r.required = true → scope.Provides r

lemma reaches_cons [Json.Depth] {s t : Slot} {slots : List Slot} :
    Reaches scope (s :: slots) t ↔
      t = s ∧ s.required = true ∨
        (s.required = true → scope.Provides s) ∧ Reaches scope slots t := by
  constructor
  · rintro ⟨before, after, heq, ht, hbefore⟩
    cases before with
    | nil =>
      obtain ⟨rfl, -⟩ := List.cons_eq_cons.mp heq
      exact .inl ⟨rfl, ht⟩
    | cons r before =>
      obtain ⟨rfl, rfl⟩ := List.cons_eq_cons.mp heq
      exact .inr ⟨hbefore s (by simp), before, after, rfl, ht,
        fun r hr => hbefore r (List.mem_cons_of_mem _ hr)⟩
  · rintro (⟨rfl, ht⟩ | ⟨hs, before, after, rfl, ht, hbefore⟩)
    · exact ⟨[], slots, rfl, ht, by simp⟩
    · exact ⟨s :: before, after, rfl, ht, List.forall_mem_cons.mpr ⟨hs, hbefore⟩⟩

lemma requireSlots_cons [Json.Depth] (s : Slot) (slots : List Slot) :
    op.requireSlots scope (s :: slots) =
      if s.required then
        scope.lookup s >>= fun v =>
          if v.isNull then .error (.argumentMissing op.title s) else op.requireSlots scope slots
      else op.requireSlots scope slots := by
  rw [requireSlots]
  split <;> rfl

/-- A required slot that is provided does not stop the check. -/
lemma requireSlots_provided [Json.Depth] {s : Slot} (h : s.required = true → scope.Provides s)
    (slots : List Slot) : op.requireSlots scope (s :: slots) = op.requireSlots scope slots := by
  rw [requireSlots_cons]
  split
  · next hs =>
    obtain ⟨v, hv, hnull⟩ := h hs
    rw [hv, ok_bind, if_neg (by simp [hnull])]
  · rfl

/-- A required slot that is not provided stops it, with what is wrong about the slot. -/
lemma requireSlots_stopped [Json.Depth] {s : Slot} (hs : s.required = true) (h : ¬ scope.Provides s)
    (slots : List Slot) (f : Fault) :
    op.requireSlots scope (s :: slots) = .error f ↔
      scope.lookup s = .error f ∨ scope.Lacks s ∧ f = .argumentMissing op.title s := by
  rw [requireSlots_cons, if_pos hs, Scope.Lacks]
  obtain ⟨e, hv⟩ | hv := Scope.lacks_of_not_provides h
  · simp [hv]
  · rw [Scope.Lacks] at hv
    rw [hv, ok_bind, if_pos (Value.isNull_iff.mpr rfl), Except.error.injEq]
    simp only [reduceCtorEq, true_and, false_or]
    exact eq_comm

/-- The check goes wrong exactly at the first required slot that is not provided. -/
theorem requireSlots_eq_error [Json.Depth] {slots : List Slot} {f : Fault} :
    op.requireSlots scope slots = .error f ↔
      ∃ s, Reaches scope slots s ∧
        (scope.lookup s = .error f ∨ scope.Lacks s ∧ f = .argumentMissing op.title s) := by
  induction slots with
  | nil => simp [requireSlots, Reaches]
  | cons s slots ih =>
    by_cases hs : s.required = true → scope.Provides s
    · rw [op.requireSlots_provided scope hs, ih]
      refine exists_congr fun t => and_congr_left fun ht => ?_
      rw [reaches_cons, and_iff_right hs, or_iff_right]
      rintro ⟨rfl, hreq⟩
      rcases ht with ht | ⟨ht, -⟩
      · obtain ⟨v, hv, -⟩ := hs hreq
        rw [hv] at ht
        cases ht
      · exact (hs hreq).not_lacks ht
    · obtain ⟨hreq, hprov⟩ := Classical.not_imp.mp hs
      rw [op.requireSlots_stopped scope hreq hprov]
      constructor
      · exact fun h => ⟨s, (reaches_cons scope).mpr (.inl ⟨rfl, hreq⟩), h⟩
      · rintro ⟨t, ht, h⟩
        obtain ⟨rfl, -⟩ | ⟨hs', -⟩ := (reaches_cons scope).mp ht
        · exact h
        · exact absurd hs' hs

/-- Every required slot is provided. -/
def AllProvided [Json.Depth] (slots : List Slot) : Prop :=
  ∀ s ∈ slots, s.required = true → scope.Provides s

theorem requireSlots_eq_ok [Json.Depth] {slots : List Slot} :
    op.requireSlots scope slots = .ok () ↔ AllProvided scope slots := by
  unfold AllProvided
  induction slots with
  | nil => simp [requireSlots]
  | cons s slots ih =>
    rw [List.forall_mem_cons]
    by_cases hs : s.required = true → scope.Provides s
    · rw [op.requireSlots_provided scope hs, ih]
      exact (and_iff_right hs).symm
    · obtain ⟨hreq, hprov⟩ := Classical.not_imp.mp hs
      have hstop := op.requireSlots_stopped scope hreq hprov slots
      constructor
      · intro hok
        rw [hok] at hstop
        obtain ⟨e, hv⟩ | hv := Scope.lacks_of_not_provides hprov
        · exact absurd ((hstop e).mpr (.inl hv)) (by simp)
        · exact absurd ((hstop _).mpr (.inr ⟨hv, rfl⟩)) (by simp)
      · exact fun h => absurd h.1 hs

end Operation

end RestOperations
