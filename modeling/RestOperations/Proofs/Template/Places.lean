import RestOperations.Proofs.Operation.Entries
import RestOperations.Proofs.Value.Members
import RestOperations.Proofs.Value.Places

/-!
Templates with one place left open. What stands around the place is compiled and evaluated as it is,
whatever the place holds, as long as that comes to a value.
-/

namespace RestOperations

namespace Template

variable {d : Destination} {scope : Scope}

/-! ### Around a place -/

lemma compileMembers_cons_eq (d : Destination) (m : Value × Value) (ms : List (Value × Value)) :
    compileMembers d (m :: ms) = ((compile d m.2).map fun t => [(m.1, t)]) >>= fun here =>
      (compileMembers d ms).map (here ++ ·) := by
  rw [compileMembers]
  cases compile d m.2 <;> cases compileMembers d ms <;> rfl

lemma compileItems_cons_eq (d : Destination) (x : Value) (xs : List Value) :
    compileItems d (x :: xs) = ((compile d x).map fun t => [t]) >>= fun here =>
      (compileItems d xs).map (here ++ ·) := by
  rw [compileItems]
  cases compile d x <;> cases compileItems d xs <;> rfl

variable {fill : Slot → Except Fault Value} {data : Value}

lemma fillMembers_cons_eq (m : Value × Template) (ms : List (Value × Template)) :
    fillMembers fill data (m :: ms) =
      ((m.2.fillWith fill data).map fun v => if v.isNull then [] else [(m.1, v)]) >>= fun here =>
        (fillMembers fill data ms).map (here ++ ·) := by
  rw [fillMembers]
  cases m.2.fillWith fill data with
  | error f => rfl
  | ok v => cases fillMembers fill data ms <;> cases hnull : v.isNull <;> simp [Except.map, hnull]

lemma fillItems_cons_eq (t : Template) (ts : List Template) :
    fillItems fill data (t :: ts) =
      ((t.fillWith fill data).map fun v => if v.isNull then [] else [v]) >>= fun here =>
        (fillItems fill data ts).map (here ++ ·) := by
  rw [fillItems]
  cases t.fillWith fill data with
  | error f => rfl
  | ok v => cases fillItems fill data ts <;> cases hnull : v.isNull <;> simp [Except.map, hnull]

/-- A place in a template, with all that stands around it. -/
inductive Place
  | here
  | member (before : List (Value × Template)) (key : Value) (inner : Place)
      (after : List (Value × Template))
  | item (before : List Template) (inner : Place) (after : List Template)

/-- The whole template, if this is at the place. -/
def Place.holding : Place → Template → Template
  | here, t => t
  | member before key inner after, t => mapping (before ++ (key, inner.holding t) :: after)
  | item before inner after, t => sequence (before ++ inner.holding t :: after)

end Template

namespace Value.Place

open Template (compile compileMembers compileItems compileMembers_cons_eq compileItems_cons_eq)

variable {d : Destination} {v : Value} {t : Template}

/-- The place in the template that the value is compiled to. -/
def compiled (d : Destination) : Place → Except Fault Template.Place
  | here => .ok .here
  | member before key inner after => do
    let front ← compileMembers d before
    let place ← inner.compiled d
    let back ← compileMembers d after
    .ok (.member front key place back)
  | item before inner after => do
    let front ← compileItems d before
    let place ← inner.compiled d
    let back ← compileItems d after
    .ok (.item front place back)

lemma compile_holding (h : compile d v = .ok t) (p : Place) :
    compile d (p.holding v) = (p.compiled d).map (·.holding t) := by
  induction p with
  | here => exact h
  | member before key inner after ih =>
    have hmember : ((compile d (inner.holding v)).map fun t => [(key, t)]) =
        (inner.compiled d).map fun place => [(key, place.holding t)] := by
      rw [ih]
      cases inner.compiled d <;> rfl
    rw [holding, compile, around_of_cons (f := compileMembers d) rfl (compileMembers_cons_eq d) hmember,
      compiled]
    cases compileMembers d before <;> cases inner.compiled d <;> cases compileMembers d after <;> rfl
  | item before inner after ih =>
    have hitem : ((compile d (inner.holding v)).map fun t => [t]) =
        (inner.compiled d).map fun place => [place.holding t] := by
      rw [ih]
      cases inner.compiled d <;> rfl
    rw [holding, compile, around_of_cons (f := compileItems d) rfl (compileItems_cons_eq d) hitem,
      compiled]
    cases compileItems d before <;> cases inner.compiled d <;> cases compileItems d after <;> rfl

lemma compiled_eq_here {p : Place} {p' : Template.Place} (h : p.compiled d = .ok p') :
    p' = .here ↔ p = .here := by
  cases p with
  | here =>
    cases h
    simp
  | member before key inner after =>
    simp only [compiled, bind_eq_ok] at h
    obtain ⟨front, -, place, -, back, -, ⟨⟩⟩ := h
    simp
  | item before inner after =>
    simp only [compiled, bind_eq_ok] at h
    obtain ⟨front, -, place, -, back, -, ⟨⟩⟩ := h
    simp

end Value.Place

namespace Template

variable {d : Destination} {scope : Scope} {t : Template} {u : Value}

namespace Place

/-- The place in the value that the template comes to. -/
def evaluated [Json.Depth] (scope : Scope) : Place → Except Fault Value.Place
  | here => .ok .here
  | member before key inner after => do
    let front ← fillMembers scope.lookup scope.data before
    let place ← inner.evaluated scope
    let back ← fillMembers scope.lookup scope.data after
    .ok (.member front key place back)
  | item before inner after => do
    let front ← fillItems scope.lookup scope.data before
    let place ← inner.evaluated scope
    let back ← fillItems scope.lookup scope.data after
    .ok (.item front place back)

/-- A value at the place is there, and so is all that it stands in. -/
lemma evaluate_holding [Json.Depth] (h : t.evaluate scope = .ok u) (hu : u.isNull = false)
    (p : Place) :
    (p.holding t).evaluate scope = (p.evaluated scope).map (·.holding u) := by
  induction p with
  | here => exact h
  | member before key inner after ih =>
    have hmember : (((inner.holding t).evaluate scope).map fun v =>
        if v.isNull then [] else [(key, v)]) =
          (inner.evaluated scope).map fun place => [(key, place.holding u)] := by
      rw [ih]
      cases inner.evaluated scope <;> simp [Except.map, Value.Place.isNull_holding hu]
    rw [holding, evaluate, fillWith,
      around_of_cons (f := fillMembers scope.lookup scope.data) rfl fillMembers_cons_eq hmember,
      evaluated]
    cases fillMembers scope.lookup scope.data before <;> cases inner.evaluated scope <;>
      cases fillMembers scope.lookup scope.data after <;> rfl
  | item before inner after ih =>
    have hitem : (((inner.holding t).evaluate scope).map fun v => if v.isNull then [] else [v]) =
        (inner.evaluated scope).map fun place => [place.holding u] := by
      rw [ih]
      cases inner.evaluated scope <;> simp [Except.map, Value.Place.isNull_holding hu]
    rw [holding, evaluate, fillWith,
      around_of_cons (f := fillItems scope.lookup scope.data) rfl fillItems_cons_eq hitem, evaluated]
    cases fillItems scope.lookup scope.data before <;> cases inner.evaluated scope <;>
      cases fillItems scope.lookup scope.data after <;> rfl

lemma evaluated_eq_here [Json.Depth] {p : Place} {p' : Value.Place}
    (h : p.evaluated scope = .ok p') :
    p' = .here ↔ p = .here := by
  cases p with
  | here =>
    cases h
    simp
  | member before key inner after =>
    simp only [evaluated, bind_eq_ok] at h
    obtain ⟨front, -, place, -, back, -, ⟨⟩⟩ := h
    simp
  | item before inner after =>
    simp only [evaluated, bind_eq_ok] at h
    obtain ⟨front, -, place, -, back, -, ⟨⟩⟩ := h
    simp

end Place

/-! ### Entries -/

/-- A place in the value of one of some entries, with the other entries. -/
structure EntryPlace where
  before : List (String × Value)
  key : String
  inner : Value.Place
  after : List (String × Value)

namespace EntryPlace

/-- The entries, if this is at the place. -/
def holding (e : EntryPlace) (v : Value) : List (String × Value) :=
  e.before ++ (e.key, e.inner.holding v) :: e.after

/-- The place in the values that the entries come to. -/
def evaluated [Json.Depth] (d : Destination) (scope : Scope) (e : EntryPlace) :
    Except Fault EntryPlace := do
  let front ← compileEntries d e.before
  let place ← e.inner.compiled d
  let back ← compileEntries d e.after
  let before ← evaluateEntries scope front
  let inner ← place.evaluated scope
  let after ← evaluateEntries scope back
  .ok ⟨before, e.key, inner, after⟩

/-- **What a place comes to is all that the other entries, and the rest of its own, see of it.** -/
theorem evaluate_holding [Json.Depth] {v : Value} (ht : compile d v = .ok t)
    (hu : t.evaluate scope = .ok u)
    (hnull : u.isNull = false) (e : EntryPlace) :
    (compileEntries d (e.holding v) >>= evaluateEntries scope) =
      (e.evaluated d scope).map (·.holding u) := by
  have hcompiled : ((compile d (e.inner.holding v)).map fun t => [(e.key, t)]) =
      (e.inner.compiled d).map fun place => [(e.key, place.holding t)] := by
    rw [Value.Place.compile_holding ht]
    cases e.inner.compiled d <;> rfl
  have hevaluated (place : Place) : (((place.holding t).evaluate scope).map fun v =>
      if v.isNull then [] else [(e.key, v)]) =
        (place.evaluated scope).map fun inner => [(e.key, inner.holding u)] := by
    rw [Place.evaluate_holding hu hnull]
    cases place.evaluated scope <;> simp [Except.map, Value.Place.isNull_holding hnull]
  have hentries (front back : List (String × Template)) (place : Place) :
      evaluateEntries scope (front ++ (e.key, place.holding t) :: back) =
        evaluateEntries scope front >>= fun before => place.evaluated scope >>= fun inner =>
          (evaluateEntries scope back).map fun after =>
            before ++ (e.key, inner.holding u) :: after :=
    around_of_cons (f := evaluateEntries scope) rfl evaluateEntries_cons_eq (hevaluated place) _ _
  rw [holding, around_of_cons (f := compileEntries d) rfl (compileEntries_cons_eq d) hcompiled,
    evaluated]
  cases compileEntries d e.before with
  | error f => rfl
  | ok front =>
    cases e.inner.compiled d with
    | error f => rfl
    | ok place =>
      cases compileEntries d e.after with
      | error f => rfl
      | ok back =>
        change evaluateEntries scope (front ++ (e.key, place.holding t) :: back) = _
        rw [hentries, ok_bind, ok_bind, ok_bind]
        cases evaluateEntries scope front <;> cases place.evaluated scope <;>
          cases evaluateEntries scope back <;> rfl

/-- A place within a collection stays within one. -/
lemma inner_eq_here [Json.Depth] {e e' : EntryPlace} (h : e.evaluated d scope = .ok e') :
    e'.inner = .here ↔ e.inner = .here := by
  simp only [evaluated, bind_eq_ok] at h
  obtain ⟨front, -, place, hplace, back, -, before, -, inner, hinner, after, -, ⟨⟩⟩ := h
  rw [Place.evaluated_eq_here hinner, Value.Place.compiled_eq_here hplace]

end EntryPlace

end Template

end RestOperations
