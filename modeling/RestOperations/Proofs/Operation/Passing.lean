import RestOperations.Proofs.Operation.Locality

/-!
Ways to pass the same arguments. The values for the parameters of a function may come by position or
by keyword, the keywords in any order, and options in the way that is meant for them. Without
expressions and without slots that are named by a position, all ways come to the same: they give the
same request, or are turned down for the same fault.
-/

namespace RestOperations

/-! ### Lists of members -/

section Members

variable {α : Type} {name : String} {es : List (String × α)}

lemma lookup_eq_some_iff (h : (es.map (·.1)).Nodup) {a : α} :
    es.lookup name = some a ↔ (name, a) ∈ es := by
  induction es with
  | nil => simp
  | cons e es ih =>
    obtain ⟨k, b⟩ := e
    rw [List.map_cons, List.nodup_cons] at h
    rw [List.mem_cons, Prod.mk.injEq]
    by_cases hk : name = k
    · subst hk
      have hnot : (name, a) ∉ es := fun hmem => h.1 (List.mem_map.mpr ⟨_, hmem, rfl⟩)
      rw [List.lookup_cons_self, Option.some.injEq]
      simp [hnot, eq_comm]
    · rw [List.lookup_cons, beq_false_of_ne hk, ih h.2]
      simp [hk]

/-- Where each name occurs once, its entry is the one that is found. -/
lemma entriesOf_eq_toList (h : (es.map (·.1)).Nodup) :
    Template.entriesOf name es = ((es.lookup name).map fun a => (name, a)).toList := by
  induction es with
  | nil => rfl
  | cons e es ih =>
    obtain ⟨k, b⟩ := e
    rw [List.map_cons, List.nodup_cons] at h
    by_cases hk : k = name
    · subst hk
      have hnil : Template.entriesOf k es = [] := by
        rw [Template.entriesOf, List.filter_eq_nil_iff]
        intro e he heq
        exact h.1 (List.mem_map.mpr ⟨e, he, beq_iff_eq.mp heq⟩)
      rw [Template.entriesOf_cons_self, List.lookup_cons_self, hnil]
      rfl
    · rw [Template.entriesOf_cons_of_ne hk, List.lookup_cons, beq_false_of_ne (Ne.symm hk), ih h.2]

end Members

/-- A member that is not null, and that both lists have, is found in both. -/
lemma getD_lookup_of_ne {name : String} {es es' : List (String × Value)}
    (hes : (es.map (·.1)).Nodup) (hes' : (es'.map (·.1)).Nodup)
    (h : ∀ v, v ≠ .null → (name, v) ∈ es → (name, v) ∈ es')
    (hne : (es.lookup name).getD .null ≠ .null) :
    (es.lookup name).getD .null = (es'.lookup name).getD .null := by
  cases he : es.lookup name with
  | none =>
    rw [he] at hne
    exact absurd rfl hne
  | some v =>
    rw [he] at hne
    rw [(lookup_eq_some_iff hes').mpr (h v hne ((lookup_eq_some_iff hes).mp he))]

/-- Two lists of members have the same under a name if they differ in null members only. -/
lemma getD_lookup_congr {name : String} {es es' : List (String × Value)}
    (hes : (es.map (·.1)).Nodup) (hes' : (es'.map (·.1)).Nodup)
    (h : ∀ v, v ≠ .null → ((name, v) ∈ es ↔ (name, v) ∈ es')) :
    (es.lookup name).getD .null = (es'.lookup name).getD .null := by
  by_cases hne : (es.lookup name).getD .null = .null
  · by_cases hne' : (es'.lookup name).getD .null = .null
    · rw [hne, hne']
    · exact (getD_lookup_of_ne hes' hes (fun v hv => (h v hv).mpr) hne').symm
  · exact getD_lookup_of_ne hes hes' (fun v hv => (h v hv).mp) hne

lemma Value.get?_texts (name : String) (es : List (String × Value)) :
    Value.get? (es.map fun e => (.str e.1, e.2)) (.str name) = es.lookup name := by
  induction es with
  | nil => rfl
  | cons e es ih =>
    obtain ⟨k, v⟩ := e
    rw [get?_eq_head?_under] at ih ⊢
    by_cases hk : name = k
    · rw [List.map_cons, hk, under_cons_self, List.lookup_cons_self, List.head?_cons]
    · rw [List.map_cons, under_cons_of_ne (by simpa using Ne.symm hk), ih, List.lookup_cons,
        beq_false_of_ne hk]

namespace Call

open Operation (optionsName)

/-- The call gives the names their values: the first `n` of them by position, the others by keyword
in any order, and options as such where they are among the others. -/
structure Passes (assigned : List (String × Value)) (n : Nat) (c : Call) : Prop where
  positional : c.positional = (assigned.take n).map (·.2)
  keywords : c.keywords.Perm ((assigned.drop n).filter (·.1 != optionsName))
  options : c.options = ((assigned.drop n).lookup optionsName).getD .null

/-- A value that is passed under its own name gets through, unless it is null for options. -/
def getsThrough (e : String × Value) : Bool := e.1 != optionsName || !e.2.isNull

variable {names : List String} {values : List Value} {n : Nat} {c : Call}

/-- What is passed by position comes under the names of the parameters. -/
lemma zip_take_values (names : List String) (values : List Value) (n : Nat) :
    names.zip (((names.zip values).take n).map (·.2)) = (names.zip values).take n := by
  induction names generalizing values n with
  | nil => simp
  | cons name names ih =>
    cases values with
    | nil => simp
    | cons v values =>
      cases n with
      | zero => rfl
      | succ n => simp only [List.zip_cons_cons, List.take_succ_cons, List.map_cons, ih]

lemma nodup_zip (hnames : names.Nodup) (values : List Value) :
    ((names.zip values).map (·.1)).Nodup := by
  rw [map_fst_zip_eq_take]
  exact hnames.sublist (List.take_sublist _ _)

lemma filter_getsThrough_names (es : List (String × Value)) :
    (es.filter getsThrough).filter (·.1 != optionsName) = es.filter (·.1 != optionsName) := by
  rw [List.filter_filter]
  refine List.filter_congr fun e _ => ?_
  cases he : e.1 != optionsName <;> simp [getsThrough, he]

lemma filter_getsThrough_options (es : List (String × Value)) :
    (es.filter getsThrough).filter (fun e => !(e.1 != optionsName)) =
      (Template.entriesOf optionsName es).filter fun e => !e.2.isNull := by
  rw [Template.entriesOf, List.filter_filter, List.filter_filter]
  refine List.filter_congr fun e _ => ?_
  cases he : e.1 == optionsName <;> simp [getsThrough, bne, he]

/-- What comes along with its name is what is not passed by position. -/
lemma Passes.named_perm {assigned : List (String × Value)} (h : c.Passes assigned n)
    (hnodup : (assigned.map (·.1)).Nodup) :
    c.named.Perm ((assigned.drop n).filter getsThrough) := by
  have hrest : ((assigned.drop n).map (·.1)).Nodup :=
    hnodup.sublist ((List.drop_sublist n assigned).map _)
  have hkeywords := h.keywords
  have hoptions := h.options
  generalize assigned.drop n = rest at hrest hkeywords hoptions ⊢
  have hlast : (if c.options.isNull then [] else [(optionsName, c.options)]) =
      (Template.entriesOf optionsName rest).filter fun e => !e.2.isNull := by
    rw [entriesOf_eq_toList hrest, hoptions]
    cases rest.lookup optionsName with
    | none => rfl
    | some v => cases hv : v.isNull <;> simp [hv]
  have hsplit := List.filter_append_perm (·.1 != optionsName) (rest.filter getsThrough)
  rw [filter_getsThrough_names, filter_getsThrough_options, ← hlast] at hsplit
  exact (hkeywords.append_right _).trans hsplit

lemma Passes.addressed_eq (h : c.Passes (names.zip values) n) :
    c.addressed (names.map .str) =
      ((names.zip values).take n ++ c.named).map fun e => (.str e.1, e.2) := by
  rw [addressed_names, h.positional, zip_take_values]

lemma Passes.given_perm {assigned : List (String × Value)} (h : c.Passes assigned n)
    (hnodup : (assigned.map (·.1)).Nodup) :
    (assigned.take n ++ c.named).Perm
      (assigned.take n ++ (assigned.drop n).filter getsThrough) :=
  (h.named_perm hnodup).append_left _

/-- No name is given a value twice. -/
lemma Passes.nodup {assigned : List (String × Value)} (h : c.Passes assigned n)
    (hnodup : (assigned.map (·.1)).Nodup) : ((assigned.take n ++ c.named).map (·.1)).Nodup := by
  rw [((h.given_perm hnodup).map _).nodup_iff]
  refine hnodup.sublist (List.Sublist.map _ ?_)
  conv_rhs => rw [← List.take_append_drop n assigned]
  exact List.Sublist.append_left List.filter_sublist _

/-- Each name has the value that it is assigned. -/
lemma Passes.argument_eq (h : c.Passes (names.zip values) n) (hnames : names.Nodup)
    (name : String) :
    c.argument (names.map .str) name = ((names.zip values).lookup name).getD .null := by
  have hassigned := nodup_zip hnames values
  have hgiven := h.nodup hassigned
  rw [argument, valuesFor, h.addressed_eq, ← Value.head?_under_texts hgiven,
    ← Value.get?_eq_head?_under, Value.get?_texts]
  refine getD_lookup_congr hgiven hassigned fun v hv => ?_
  have hnull : v.isNull = false := Bool.eq_false_iff.mpr (mt Value.isNull_iff.mp hv)
  rw [(h.given_perm hassigned).mem_iff, List.mem_append, List.mem_filter, getsThrough, hnull,
    and_iff_left (by simp), ← List.mem_append, List.take_append_drop]

end Call

namespace Operation

open Call

variable {op : Operation} {names : List String} {values : List Value} {n n' : Nat} {c c' : Call}

/-- Arguments that are passed in any of these ways are taken, if the operation can be called. -/
lemma exists_scopeOf (h : c.Passes (names.zip values) n) (hnames : names.Nodup)
    (hread : ∀ s ∈ op.slots, s.Readable) : ∃ scope, op.scopeOf (names.map .str) c = .ok scope := by
  have hnot : ¬ op.Overfull (names.map .str) c := by
    rintro ⟨hlt, -⟩
    rw [h.positional, List.length_map, List.length_map, List.length_take, List.length_zip] at hlt
    omega
  have hle (name : String) : (c.valuesFor (names.map .str) name).length ≤ 1 := by
    rw [valuesFor, h.addressed_eq, Value.length_under_texts]
    exact List.nodup_iff_count_le_one.mp (h.nodup (nodup_zip hnames values)) name
  obtain ⟨arguments, harguments⟩ := (op.exists_argumentsOf_iff (isKey_names names _)).mpr
    ⟨hread, hnot, fun name _ => hle name⟩
  exact ⟨_, by rw [scopeOf, harguments]; rfl⟩

/-- Names of slots that cannot be read are in the way of all calls alike. -/
lemma bind_unreadable [Json.Depth] (h : ¬ ∀ s ∈ op.slots, s.Readable) (params : List Value)
    (c c' : Call) :
    op.bind params c = op.bind params c' := by
  rw [← op.isOk_mostPositional params] at h
  cases hmost : op.mostPositional params with
  | ok most =>
    rw [hmost] at h
    exact absurd rfl h
  | error f =>
    have hall (c : Call) : op.bind params c = .error f := by
      rw [bind, scopeOf, argumentsOf_eq, hmost]
      rfl
    rw [hall c, hall c']

/-- **All ways to pass arguments agree.** Let an operation have no expressions and no slots that are
named by a position, and let values be assigned to names that are all different. However many of
them come by position, and in whatever order the others come by keyword, binding has the same
outcome: the same request or the same fault. -/
theorem bind_passes [Json.Depth] (hplain : op.isPlain = true)
    (hslots : ∀ s ∈ op.slots, ∀ i, s.index ≠ .ok (some i)) (hnames : names.Nodup)
    (h : c.Passes (names.zip values) n) (h' : c'.Passes (names.zip values) n') :
    op.bind (names.map .str) c = op.bind (names.map .str) c' := by
  by_cases hread : ∀ s ∈ op.slots, s.Readable
  · obtain ⟨scope, hscope⟩ := exists_scopeOf h hnames hread
    obtain ⟨scope', hscope'⟩ := exists_scopeOf h' hnames hread
    have hargument (name : String) :
        c.argument (names.map .str) name = c'.argument (names.map .str) name := by
      rw [h.argument_eq hnames, h'.argument_eq hnames]
    have halike : Alike (names.map .str) (names.map .str) c c' op.slots := by
      intro s hs
      unfold provided
      cases hi : s.index with
      | error f => rfl
      | ok i? =>
        cases i? with
        | some i => exact absurd hi (hslots s hs i)
        | none => exact congrArg Except.ok (hargument s.name)
    have hoptions : scope.options = scope'.options := by
      obtain ⟨_, -, rfl⟩ := scopeOf_eq_ok hscope
      obtain ⟨_, -, rfl⟩ := scopeOf_eq_ok hscope'
      exact hargument optionsName
    rw [bind, bind, hscope, hscope', ok_bind, ok_bind]
    exact request_congr hplain (sameFor_of_alike hscope hscope' halike) hoptions
  · exact bind_unreadable hread _ c c'

lemma index_of_not_numeric {s : Slot} (h : Text.looksNumeric s.name = false) :
    s.index = .ok none := by
  simp [Slot.index, Slot.position, h]

/-- A slot without a conversion and without a default takes what the call has under its name. -/
lemma lookup_bare [Json.Depth] {params : List Value} {scope : Scope} {s : Slot}
    (h : op.scopeOf params c = .ok scope) (hname : Text.looksNumeric s.name = false)
    (hconv : s.conversion = none) (hdefault : s.default = none) :
    scope.lookup s = .ok (c.argument params s.name) := by
  have hgiven : scope.given s = .ok (c.argument params s.name) := by
    rw [given_scopeOf h, Call.provided, index_of_not_numeric hname]
    rfl
  rw [Scope.lookup, hgiven, ok_bind, Slot.defaultValue, hdefault]
  dsimp only
  by_cases hnull : (c.argument params s.name).isNull = true
  · rw [if_pos hnull, Value.isNull_iff.mp hnull]
    rfl
  · rw [if_neg hnull, if_neg hnull, Slot.convert, hconv]

attribute [local instance] Json.Depth.thousand

/-- Names for the arguments of `noteTemplate`, and of options. -/
def noteNames : List String := ["id", "tag", "options", "note"]

def noteValues : List Value :=
  [.str "7", .str "new", .map [(.str "user", .str "me")], .str "ok"]

/-- All values by position. -/
def positionalCall : Call := ⟨noteValues, [], .null⟩

/-- One value by position, the options as such and the others by keyword, the last one first. -/
def keywordCall : Call :=
  ⟨[.str "7"], [("note", .str "ok"), ("tag", .str "new")], .map [(.str "user", .str "me")]⟩

theorem note_passed :
    ∃ op, compile noteTemplate .null none = .ok op ∧ op.isPlain = true ∧
      (∀ s ∈ op.slots, ∀ i, s.index ≠ .ok (some i)) ∧ noteNames.Nodup ∧
      positionalCall.Passes (noteNames.zip noteValues) 4 ∧
      keywordCall.Passes (noteNames.zip noteValues) 1 ∧
      (op.bind (noteNames.map .str) positionalCall).isOk = true ∧
      op.bind (noteNames.map .str) positionalCall = op.bind (noteNames.map .str) keywordCall := by
  obtain ⟨op, hop, hplain, hnumeric, hok⟩ : ∃ op, compile noteTemplate .null none = .ok op ∧
      op.isPlain = true ∧ (∀ s ∈ op.slots, Text.looksNumeric s.name = false) ∧
        (op.bind (noteNames.map .str) positionalCall).isOk = true := by
    decide +kernel
  have hslots : ∀ s ∈ op.slots, ∀ i, s.index ≠ .ok (some i) := by
    intro s hs i
    rw [index_of_not_numeric (hnumeric s hs)]
    simp
  have hnames : noteNames.Nodup := by decide
  have hall : positionalCall.Passes (noteNames.zip noteValues) 4 := ⟨rfl, .refl _, rfl⟩
  have hone : keywordCall.Passes (noteNames.zip noteValues) 1 := ⟨rfl, .swap _ _ _, rfl⟩
  exact ⟨op, hop, hplain, hslots, hnames, hall, hone, hok,
    bind_passes hplain hslots hnames hall hone⟩

end Operation

end RestOperations
