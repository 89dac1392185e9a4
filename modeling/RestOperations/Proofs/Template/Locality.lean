import RestOperations.Proofs.Template.Slots

/-!
Templates without expressions. What such a template comes to is settled by what fills its slots, and
by nothing else of the call. Of a query or of headers, each entry is evaluated by itself: it is the
same where its own slots are filled the same.
-/

namespace RestOperations.Template

mutual

/-- No expression stands anywhere in the template. -/
def isPlain : Template → Bool
  | literal _ => true
  | slot _ => true
  | text _ => true
  | url _ => true
  | expression _ _ => false
  | mapping ms => membersPlain ms
  | sequence ts => itemsPlain ts

def membersPlain : List (Value × Template) → Bool
  | [] => true
  | (_, t) :: ms => isPlain t && membersPlain ms

def itemsPlain : List Template → Bool
  | [] => true
  | t :: ts => isPlain t && itemsPlain ts

end

section Data

variable {fill : Slot → Except Fault Value} {data data' : Value}

mutual

/-- Without expressions, the data for expressions is not looked at. -/
theorem fillWith_of_isPlain :
    ∀ t : Template, t.isPlain = true → t.fillWith fill data = t.fillWith fill data'
  | literal _, _ => rfl
  | slot _, _ => rfl
  | text _, _ => rfl
  | url _, _ => rfl
  | expression _ _, h => by simp [isPlain] at h
  | mapping ms, h => by rw [fillWith, fillWith, fillMembers_of_plain ms h]
  | sequence ts, h => by rw [fillWith, fillWith, fillItems_of_plain ts h]

theorem fillMembers_of_plain :
    ∀ ms : List (Value × Template), membersPlain ms = true →
      fillMembers fill data ms = fillMembers fill data' ms
  | [], _ => rfl
  | (k, t) :: ms, h => by
    rw [membersPlain, Bool.and_eq_true] at h
    rw [fillMembers, fillMembers, fillWith_of_isPlain t h.1, fillMembers_of_plain ms h.2]

theorem fillItems_of_plain :
    ∀ ts : List Template, itemsPlain ts = true → fillItems fill data ts = fillItems fill data' ts
  | [], _ => rfl
  | t :: ts, h => by
    rw [itemsPlain, Bool.and_eq_true] at h
    rw [fillItems, fillItems, fillWith_of_isPlain t h.1, fillItems_of_plain ts h.2]

end

end Data

variable {scope scope' : Scope}

/-- The slots are filled the same for both calls. -/
def SameFor [Json.Depth] (scope scope' : Scope) (slots : List Slot) : Prop :=
  ∀ s ∈ slots, scope.lookup s = scope'.lookup s

/-- A template without expressions comes to the same where its slots are filled the same. -/
lemma evaluate_congr [Json.Depth] {t : Template} (ht : t.isPlain = true)
    (h : SameFor scope scope' t.slots) :
    t.evaluate scope = t.evaluate scope' := by
  rw [evaluate, evaluate, fillWith_congr scope.data t h, fillWith_of_isPlain t ht]

/-! ### Entries -/

/-- No entry has an expression in it. -/
def entriesPlain (es : List (String × Template)) : Bool := es.all (·.2.isPlain)

/-- The slots of all entries. -/
def slotsOfEntries (es : List (String × Template)) : List Slot := es.flatMap (·.2.slots)

/-- The entry of the name. There is one at most, as names of entries go; if there are more, then
all of them. -/
def entriesOf {α : Type} (name : String) (es : List (String × α)) : List (String × α) :=
  es.filter (·.1 == name)

section EntriesOf

variable {α : Type} {name : String}

lemma entriesOf_cons_self (a : α) (es : List (String × α)) :
    entriesOf name ((name, a) :: es) = (name, a) :: entriesOf name es := by
  simp [entriesOf]

lemma entriesOf_cons_of_ne {k : String} (h : k ≠ name) (a : α) (es : List (String × α)) :
    entriesOf name ((k, a) :: es) = entriesOf name es := by
  simp [entriesOf, h]

lemma lookup_entriesOf (es : List (String × α)) :
    (entriesOf name es).lookup name = es.lookup name := by
  induction es with
  | nil => rfl
  | cons e es ih =>
    obtain ⟨k, a⟩ := e
    by_cases h : k = name
    · rw [h, entriesOf_cons_self, List.lookup_cons_self, List.lookup_cons_self]
    · rw [entriesOf_cons_of_ne h, ih, List.lookup_cons, beq_false_of_ne (Ne.symm h)]

end EntriesOf

lemma evaluateEntries_congr [Json.Depth] {es : List (String × Template)}
    (hes : entriesPlain es = true)
    (h : SameFor scope scope' (slotsOfEntries es)) :
    evaluateEntries scope es = evaluateEntries scope' es := by
  induction es with
  | nil => rfl
  | cons e es ih =>
    rw [entriesPlain, List.all_cons, Bool.and_eq_true] at hes
    rw [SameFor, slotsOfEntries, List.flatMap_cons, List.forall_mem_append] at h
    rw [evaluateEntries, evaluateEntries, evaluate_congr hes.1 h.1, ih hes.2 h.2]

/-- The entries of a name are evaluated as they are without the other ones. -/
lemma evaluateEntries_entriesOf [Json.Depth] (name : String) {es : List (String × Template)}
    {vs : List (String × Value)} (h : evaluateEntries scope es = .ok vs) :
    evaluateEntries scope (entriesOf name es) = .ok (entriesOf name vs) := by
  induction es generalizing vs with
  | nil =>
    cases h
    rfl
  | cons e es ih =>
    obtain ⟨k, t⟩ := e
    obtain ⟨v, hv, h⟩ := bind_eq_ok.mp h
    obtain ⟨vs, hvs, h⟩ := bind_eq_ok.mp h
    cases h
    by_cases hk : k = name
    · rw [hk, entriesOf_cons_self, evaluateEntries, hv, ok_bind, ih hvs, ok_bind]
      split
      · rfl
      · rw [entriesOf_cons_self]
    · rw [entriesOf_cons_of_ne hk, ih hvs]
      split
      · rfl
      · rw [entriesOf_cons_of_ne hk]

/-- An entry is the same for two calls that fill its slots the same, whatever else they fill. -/
lemma lookup_evaluateEntries [Json.Depth] {name : String} {es : List (String × Template)}
    {vs vs' : List (String × Value)} (hes : entriesPlain es = true)
    (h : evaluateEntries scope es = .ok vs) (h' : evaluateEntries scope' es = .ok vs')
    (hsame : SameFor scope scope' (slotsOfEntries (entriesOf name es))) :
    vs.lookup name = vs'.lookup name := by
  have hplain : entriesPlain (entriesOf name es) = true :=
    List.all_filter.trans (List.all_eq_true.mpr fun e he => by
      simp [List.all_eq_true.mp hes e he])
  have hvs := evaluateEntries_entriesOf name h
  rw [evaluateEntries_congr hplain hsame, evaluateEntries_entriesOf name h', Except.ok.injEq] at hvs
  rw [← lookup_entriesOf, ← hvs, lookup_entriesOf]

end RestOperations.Template
