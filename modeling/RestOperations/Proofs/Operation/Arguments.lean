import RestOperations.Proofs.Operation.Containment
import RestOperations.Proofs.Value.Members

/-!
The arguments of a call. A call addresses values to names: by position, by keyword, and as options.
Here it is shown which calls have their arguments refused, and that under each name of the others
stands the value that was addressed to it last. That is the only one, unless a function has
parameters of one name; their values are not told apart, and only the last one is kept.
-/

namespace RestOperations

namespace Call

/-- The values that are given along with their names: by keyword, and the options if there are
any. -/
def named (c : Call) : List (String × Value) :=
  c.keywords ++ if c.options.isNull then [] else [(Operation.optionsName, c.options)]

/-- What the call addresses to names, for a function with the given parameters. -/
def addressed (params : List Value) (c : Call) : List (Value × Value) :=
  params.zip c.positional ++ c.named.map fun e => (.str e.1, e.2)

/-- The values that are addressed to the name. -/
def valuesFor (params : List Value) (c : Call) (name : String) : List Value :=
  Value.under name (c.addressed params)

/-- The value for the name, null if there is none. -/
def argument (params : List Value) (c : Call) (name : String) : Value :=
  (c.valuesFor params name).getLast?.getD .null

lemma length_valuesFor (params : List Value) (c : Call) (name : String) :
    (c.valuesFor params name).length =
      (Value.under name (params.zip c.positional)).length + (c.named.map (·.1)).count name := by
  rw [valuesFor, addressed, Value.under_append, List.length_append, Value.length_under_texts]

/-- Two values are addressed to one name. -/
def Repeats (params : List Value) (c : Call) : Prop :=
  ∃ name, 1 < (c.valuesFor params name).length

/-- Two values are addressed to one name, and do not both come by position. -/
def RepeatsNamed (params : List Value) (c : Call) : Prop :=
  ∃ name ∈ c.named.map (·.1), 1 < (c.valuesFor params name).length

lemma map_fst_zip_eq_take (names : List String) (values : List Value) :
    (names.zip values).map (·.1) = names.take values.length := by
  induction names generalizing values with
  | nil => simp
  | cons name names ih =>
    cases values with
    | nil => rfl
    | cons v values => simpa using ih values

lemma addressed_names (names : List String) (c : Call) :
    c.addressed (names.map .str) =
      (names.zip c.positional ++ c.named).map fun e => (.str e.1, e.2) := by
  rw [addressed, List.map_append, List.zip_map_left]
  rfl

/-- Two values for one name both come by position only if the parameters repeat it. -/
lemma repeats_iff {names : List String} {c : Call} :
    c.Repeats (names.map .str) ↔
      c.RepeatsNamed (names.map .str) ∨ ¬ (names.take c.positional.length).Nodup := by
  have hlength (name : String) : (c.valuesFor (names.map .str) name).length =
      (names.take c.positional.length).count name + (c.named.map (·.1)).count name := by
    rw [valuesFor, addressed_names, Value.length_under_texts, List.map_append, List.count_append,
      map_fst_zip_eq_take]
  simp only [Repeats, RepeatsNamed, List.nodup_iff_count_le_one, not_forall, Nat.not_le]
  constructor
  · rintro ⟨name, hlt⟩
    by_cases hname : name ∈ c.named.map (·.1)
    · exact .inl ⟨name, hname, hlt⟩
    · rw [hlength, List.count_eq_zero.mpr hname] at hlt
      exact .inr ⟨name, hlt⟩
  · rintro (⟨name, -, hlt⟩ | ⟨name, hlt⟩)
    · exact ⟨name, hlt⟩
    · exact ⟨name, by rw [hlength]; omega⟩

end Call

namespace Operation

variable (op : Operation)

/-! ### How many arguments there may be -/

/-- The call has more positional arguments than there are parameters, and more than the slots that
are named by a position ask for. -/
def Overfull (params : List Value) (c : Call) : Prop :=
  params.length < c.positional.length ∧
    ∀ s ∈ op.slots, ∀ i, s.index = .ok (some i) → i + 1 < c.positional.length

lemma isOk_positionsOf (slots : List Slot) :
    (positionsOf slots).isOk = true ↔ ∀ s ∈ slots, s.Readable := by
  induction slots with
  | nil => exact iff_of_true rfl (by simp)
  | cons s slots ih =>
    rw [List.forall_mem_cons, ← ih, ← s.isOk_index, positionsOf]
    cases s.index <;> cases positionsOf slots <;> simp [Except.isOk, Except.toBool]

lemma positionsOf_lt_iff {slots : List Slot} {most n : Nat} (h : positionsOf slots = .ok most)
    (hn : 0 < n) : most < n ↔ ∀ s ∈ slots, ∀ i, s.index = .ok (some i) → i + 1 < n := by
  induction slots generalizing most with
  | nil =>
    cases h
    simpa using hn
  | cons s slots ih =>
    obtain ⟨i?, hi, h⟩ := bind_eq_ok.mp h
    obtain ⟨rest, hrest, h⟩ := bind_eq_ok.mp h
    cases h
    rw [List.forall_mem_cons, ← ih hrest, Nat.max_lt, hi]
    refine and_congr_left fun _ => ?_
    cases i? with
    | none => simpa using hn
    | some i => simp

lemma mostPositional_lt_iff {params : List Value} {c : Call} {most : Nat}
    (h : op.mostPositional params = .ok most) :
    most < c.positional.length ↔ op.Overfull params c := by
  obtain ⟨rest, hrest, h⟩ := bind_eq_ok.mp h
  cases h
  rw [Nat.max_lt, Overfull]
  exact and_congr_right fun hlt => positionsOf_lt_iff hrest (by omega)

lemma isOk_mostPositional (params : List Value) :
    (op.mostPositional params).isOk = true ↔ ∀ s ∈ op.slots, s.Readable := by
  rw [← isOk_positionsOf, mostPositional]
  cases positionsOf op.slots <;> rfl

lemma takes_iff (params : List Value) (c : Call) :
    op.Takes params c ↔ (∀ s ∈ op.slots, s.Readable) ∧ ¬ op.Overfull params c := by
  rw [← op.isOk_mostPositional params, isOk_iff, Takes]
  constructor
  · rintro ⟨most, hmost, hle⟩
    exact ⟨⟨most, hmost⟩, (op.mostPositional_lt_iff hmost).not.mp (by omega)⟩
  · rintro ⟨⟨most, hmost⟩, hnot⟩
    exact ⟨most, hmost, Nat.le_of_not_lt ((op.mostPositional_lt_iff hmost).not.mpr hnot)⟩

/-! ### Arguments by position -/

lemma isOk_nameArguments (arguments pairs : List (Value × Value))
    (h : ∀ p ∈ pairs, p.1.isKey = true) : (nameArguments arguments pairs).isOk = true := by
  induction pairs generalizing arguments with
  | nil => rfl
  | cons p pairs ih =>
    rw [List.forall_mem_cons] at h
    rw [nameArguments, if_pos h.1]
    exact ih _ h.2

/-- Of the values under one name, the last one is kept. -/
lemma get?_nameArguments {arguments pairs arguments' : List (Value × Value)} {name : String}
    (h : nameArguments arguments pairs = .ok arguments') :
    Value.get? arguments' (.str name) =
      (Value.under name pairs).getLast?.or (Value.get? arguments (.str name)) := by
  induction pairs generalizing arguments with
  | nil =>
    cases h
    rfl
  | cons p pairs ih =>
    obtain ⟨k, v⟩ := p
    rw [nameArguments] at h
    split at h
    · rw [ih h]
      by_cases hk : k = .str name
      · rw [hk, Value.get?_put_str, Value.under_cons_self, List.getLast?_cons]
        cases (Value.under name pairs).getLast? <;> rfl
      · rw [Value.get?_put_of_ne hk, Value.under_cons_of_ne hk]
    · cases h

/-! ### Arguments by name -/

lemma addArgument_eq_ok {arguments arguments' : List (Value × Value)} {name : String} {v : Value} :
    op.addArgument arguments name v = .ok arguments' ↔
      Value.get? arguments (.str name) = none ∧ arguments ++ [(.str name, v)] = arguments' := by
  unfold addArgument
  split
  · next h => simp [h]
  · next h => simp [h]

/-- Arguments by name are taken if all their names are new. -/
lemma addKeywords_eq_ok {arguments arguments' : List (Value × Value)}
    {es : List (String × Value)} :
    op.addKeywords arguments es = .ok arguments' ↔
      (es.map (·.1)).Nodup ∧ (∀ name ∈ es.map (·.1), Value.get? arguments (.str name) = none) ∧
        (arguments ++ es.map fun e => (.str e.1, e.2)) = arguments' := by
  induction es generalizing arguments with
  | nil => simp [addKeywords]
  | cons e es ih =>
    rw [addKeywords, bind_eq_ok]
    simp only [addArgument_eq_ok, ih, List.map_cons, List.nodup_cons, List.forall_mem_cons]
    constructor
    · rintro ⟨_, ⟨hfirst, rfl⟩, hnodup, hnew, rfl⟩
      simp only [Value.get?_concat_eq_none] at hnew
      exact ⟨⟨fun hmem => (hnew e.1 hmem).2 rfl, hnodup⟩,
        ⟨hfirst, fun name hname => (hnew name hname).1⟩, by simp⟩
    · rintro ⟨⟨hnot, hnodup⟩, ⟨hfirst, hnew⟩, rfl⟩
      refine ⟨_, ⟨hfirst, rfl⟩, hnodup, fun name hname => ?_, by simp⟩
      rw [Value.get?_concat_eq_none]
      exact ⟨hnew name hname, fun heq => hnot (heq ▸ hname)⟩

lemma addKeywords_append (arguments : List (Value × Value)) (es es' : List (String × Value)) :
    op.addKeywords arguments (es ++ es') =
      op.addKeywords arguments es >>= fun arguments => op.addKeywords arguments es' := by
  induction es generalizing arguments with
  | nil => rfl
  | cons e es ih =>
    rw [List.cons_append, addKeywords, addKeywords]
    cases op.addArgument arguments e.1 e.2 with
    | error f => rfl
    | ok arguments => exact ih arguments

/-- Options are one more argument that comes with its name. -/
lemma addOptions_eq (arguments : List (Value × Value)) (options : Value) :
    op.addOptions arguments options =
      op.addKeywords arguments (if options.isNull then [] else [(optionsName, options)]) := by
  unfold addOptions
  split
  · rfl
  · rw [addKeywords]
    cases op.addArgument arguments optionsName options <;> rfl

/-! ### All arguments -/

variable {params : List Value} {c : Call}

lemma argumentsOf_eq_ok {arguments : List (Value × Value)} :
    op.argumentsOf params c = .ok arguments ↔
      op.Takes params c ∧
        ∃ byPosition, nameArguments [] (params.zip c.positional) = .ok byPosition ∧
          op.addKeywords byPosition c.named = .ok arguments := by
  have hnamed (arguments : List (Value × Value)) :
      (op.addKeywords arguments c.keywords >>= fun arguments =>
        op.addOptions arguments c.options) = op.addKeywords arguments c.named := by
    simp only [Call.named, addKeywords_append, addOptions_eq]
  rw [argumentsOf_eq, bind_eq_ok, Takes]
  simp only [hnamed]
  constructor
  · rintro ⟨most, hmost, h⟩
    split at h
    · cases h
    · exact ⟨⟨most, hmost, by omega⟩, bind_eq_ok.mp h⟩
  · rintro ⟨⟨most, hmost, hle⟩, h⟩
    refine ⟨most, hmost, ?_⟩
    rw [if_neg (by omega)]
    exact bind_eq_ok.mpr h

lemma get?_byPosition {byPosition : List (Value × Value)}
    (h : nameArguments [] (params.zip c.positional) = .ok byPosition) (name : String) :
    Value.get? byPosition (.str name) =
      (Value.under name (params.zip c.positional)).getLast? := by
  rw [get?_nameArguments h, Value.get?_nil, Option.or_none]

/-- Arguments that come with their names are taken if no other value is addressed to the names. -/
lemma exists_addKeywords_iff {byPosition : List (Value × Value)}
    (h : nameArguments [] (params.zip c.positional) = .ok byPosition) :
    (∃ arguments, op.addKeywords byPosition c.named = .ok arguments) ↔
      ∀ name ∈ c.named.map (·.1), (c.valuesFor params name).length ≤ 1 := by
  simp only [addKeywords_eq_ok, exists_and_left, exists_eq', and_true, get?_byPosition h,
    List.getLast?_eq_none_iff, Call.length_valuesFor, List.nodup_iff_count_le_one]
  constructor
  · rintro ⟨hnodup, hnew⟩ name hname
    have hcount := hnodup name
    rw [hnew name hname, List.length_nil]
    omega
  · intro hle
    refine ⟨fun name => ?_, fun name hname => ?_⟩
    · by_cases hname : name ∈ c.named.map (·.1)
      · have := hle name hname
        omega
      · rw [List.count_eq_zero.mpr hname]
        omega
    · have := hle name hname
      have hpos := List.count_pos_iff.mpr hname
      exact List.length_eq_zero_iff.mp (by omega)

/-- Under each name stands the last of the values that are addressed to it. -/
lemma get?_argumentsOf {arguments : List (Value × Value)}
    (h : op.argumentsOf params c = .ok arguments) (name : String) :
    Value.get? arguments (.str name) = (c.valuesFor params name).getLast? := by
  obtain ⟨-, byPosition, hpos, h⟩ := op.argumentsOf_eq_ok.mp h
  obtain ⟨hnodup, hnew, rfl⟩ := op.addKeywords_eq_ok.mp h
  rw [Value.get?_append, get?_byPosition hpos, Value.get?_eq_head?_under (c.named.map _),
    Value.head?_under_texts hnodup, Call.valuesFor, Call.addressed, Value.under_append,
    List.getLast?_append]
  by_cases hname : name ∈ c.named.map (·.1)
  · -- The name comes with its value, so that there is none for it by position.
    have hnone := hnew name hname
    rw [get?_byPosition hpos] at hnone
    rw [hnone, Option.or_none, Option.none_or]
  · have hnil : Value.under name (c.named.map fun e => (.str e.1, e.2)) = [] := by
      rw [← List.length_eq_zero_iff, Value.length_under_texts, List.count_eq_zero.mpr hname]
    rw [hnil, List.getLast?_nil, Option.or_none, Option.none_or]

/-- Where the parameters have proper names, arguments are taken if they are not too many, and no
argument that comes with its name is given twice. -/
lemma exists_argumentsOf_iff (hkeys : ∀ p ∈ params.zip c.positional, p.1.isKey = true) :
    (∃ arguments, op.argumentsOf params c = .ok arguments) ↔
      (∀ s ∈ op.slots, s.Readable) ∧ ¬ op.Overfull params c ∧
        ∀ name ∈ c.named.map (·.1), (c.valuesFor params name).length ≤ 1 := by
  obtain ⟨byPosition, hpos⟩ := isOk_iff.mp (isOk_nameArguments [] _ hkeys)
  simp only [argumentsOf_eq_ok, hpos, Except.ok.injEq, exists_eq_left', exists_and_left,
    op.exists_addKeywords_iff hpos, takes_iff, and_assoc]

/-- Arguments are refused, as a fault of the call, if they are too many, or if two values are
addressed to one name and do not both come by position; but not where the name of a slot looks like
a position and is none. -/
lemma argumentsOf_refused_iff (hkeys : ∀ p ∈ params.zip c.positional, p.1.isKey = true) :
    (∃ f, op.argumentsOf params c = .error f ∧ f.isBinding = true) ↔
      (∀ s ∈ op.slots, s.Readable) ∧ (op.Overfull params c ∨ c.RepeatsNamed params) := by
  rw [exists_binding_iff, contained_argumentsOf, and_iff_left fun _ => hkeys,
    op.exists_argumentsOf_iff hkeys]
  refine and_congr_right fun hread => ?_
  rw [and_iff_right hread, not_and_or, not_not, Call.RepeatsNamed]
  refine or_congr_right ?_
  simp only [not_forall, Nat.not_le, exists_prop]

/-! ### Values that get lost -/

lemma isKey_names (names : List String) (positional : List Value) :
    ∀ p ∈ (names.map Value.str).zip positional, p.1.isKey = true := by
  rintro ⟨k, v⟩ hp
  obtain ⟨name, -, rfl⟩ := List.mem_map.mp (List.of_mem_zip hp).1
  rfl

/-- No value that the call supplies is lost: it is refused if its arguments are too many or if two
of them are addressed to one name, and else each name that is addressed has its value. -/
structure Accounts (params : List Value) (c : Call) : Prop where
  refused : (∃ f, op.argumentsOf params c = .error f ∧ f.isBinding = true) ↔
    op.Overfull params c ∨ c.Repeats params
  kept : ¬ (op.Overfull params c ∨ c.Repeats params) →
    ∃ arguments, op.argumentsOf params c = .ok arguments ∧
      ∀ p ∈ c.addressed params, Value.get? arguments p.1 = some p.2

/-- Where no name is addressed twice, each has its value. -/
lemma get?_of_not_repeats {names : List String} {arguments : List (Value × Value)}
    (h : op.argumentsOf (names.map .str) c = .ok arguments) (hnot : ¬ c.Repeats (names.map .str)) :
    ∀ p ∈ c.addressed (names.map .str), Value.get? arguments p.1 = some p.2 := by
  intro p hp
  obtain ⟨name, hname⟩ : ∃ name, p.1 = .str name := by
    rw [Call.addressed_names] at hp
    obtain ⟨e, -, rfl⟩ := List.mem_map.mp hp
    exact ⟨e.1, rfl⟩
  have hmem : p.2 ∈ c.valuesFor (names.map .str) name :=
    List.mem_map_of_mem (List.mem_filter.mpr ⟨hp, Value.sameKey_str_right.mpr hname⟩)
  have hle : (c.valuesFor (names.map .str) name).length ≤ 1 := Nat.le_of_not_lt fun hlt =>
    hnot ⟨name, hlt⟩
  rw [hname, op.get?_argumentsOf h]
  generalize c.valuesFor (names.map .str) name = values at hmem hle
  match values, hmem, hle with
  | [v], hmem, _ => rw [List.mem_singleton.mp hmem, List.getLast?_singleton]

variable {op}

lemma Accounts.readable {names : List String} (h : op.Accounts (names.map .str) c) :
    ∀ s ∈ op.slots, s.Readable := by
  have hkeys := isKey_names names c.positional
  by_cases hbad : op.Overfull (names.map .str) c ∨ c.Repeats (names.map .str)
  · exact ((op.argumentsOf_refused_iff hkeys).mp (h.refused.mpr hbad)).1
  · obtain ⟨arguments, harguments, -⟩ := h.kept hbad
    exact ((op.exists_argumentsOf_iff hkeys).mp ⟨arguments, harguments⟩).1

/-- Calls are refused as they should be exactly if no two values come by position under one name, or
else there is another fault that they are refused for. -/
lemma refused_iff {names : List String} (hread : ∀ s ∈ op.slots, s.Readable) :
    ((∃ f, op.argumentsOf (names.map .str) c = .error f ∧ f.isBinding = true) ↔
      op.Overfull (names.map .str) c ∨ c.Repeats (names.map .str)) ↔
    op.Overfull (names.map .str) c ∨ c.RepeatsNamed (names.map .str) ∨
      (names.take c.positional.length).Nodup := by
  rw [op.argumentsOf_refused_iff (isKey_names names _), and_iff_right hread, Call.repeats_iff]
  constructor
  · intro h
    by_cases hnodup : (names.take c.positional.length).Nodup
    · exact .inr (.inr hnodup)
    · exact (h.mpr (.inr (.inr hnodup))).imp_right .inl
  · intro h
    refine ⟨Or.imp_right .inl, fun hbad => ?_⟩
    obtain hfull | hrepeats | hdup := hbad
    · exact .inl hfull
    · exact .inr hrepeats
    · exact h.imp_right fun hor => hor.resolve_right hdup

variable (op)

/-- **When no value is lost.** The arguments of a call are accounted for exactly if the names of
slots that look like positions are positions, and, unless the call is refused anyway, no two values
come by position under one name. -/
theorem accounts_iff (names : List String) (c : Call) :
    op.Accounts (names.map .str) c ↔
      (∀ s ∈ op.slots, s.Readable) ∧ (op.Overfull (names.map .str) c ∨
        c.RepeatsNamed (names.map .str) ∨ (names.take c.positional.length).Nodup) := by
  constructor
  · intro h
    exact ⟨h.readable, (refused_iff h.readable).mp h.refused⟩
  · rintro ⟨hread, h⟩
    refine ⟨(refused_iff hread).mpr h, fun hnot => ?_⟩
    obtain ⟨hfull, hrepeats⟩ := not_or.mp hnot
    obtain ⟨arguments, harguments⟩ := (op.exists_argumentsOf_iff (isKey_names names _)).mpr
      ⟨hread, hfull, fun name _ => Nat.le_of_not_lt fun hlt => hrepeats ⟨name, hlt⟩⟩
    exact ⟨arguments, harguments, op.get?_of_not_repeats harguments hrepeats⟩

/-- Parameters of one name. -/
def twins : List Value := ["a", "a"].map .str

/-- A call with a value for each of them. -/
def twinCall : Call := ⟨[.int 1, .int 2], [], .null⟩

/-- Both values are addressed to one name, which is not refused, and the first one is lost. -/
theorem twins_not_accounted :
    ∃ op, compile (.map [(.str "method", .str "GET"), (.str "url", .str "/\x7ba\x7d")]) .null none =
        .ok op ∧ ¬ op.Accounts twins twinCall ∧
      twinCall.valuesFor twins "a" = [.int 1, .int 2] ∧
      ∃ arguments, op.argumentsOf twins twinCall = .ok arguments ∧
        Value.get? arguments (.str "a") = some (.int 2) := by
  obtain ⟨op, hop, hok⟩ : ∃ op, compile
      (.map [(.str "method", .str "GET"), (.str "url", .str "/\x7ba\x7d")]) .null none = .ok op ∧
      (op.argumentsOf twins twinCall).isOk = true := by
    decide +kernel
  obtain ⟨arguments, h⟩ := isOk_iff.mp hok
  have hvalues : twinCall.valuesFor twins "a" = [.int 1, .int 2] := by
    simp [Call.valuesFor, Call.addressed, Call.named, twins, twinCall, Value.under, Value.isNull]
  refine ⟨op, hop, fun haccounts => ?_, hvalues, arguments, h, ?_⟩
  · obtain ⟨f, hf, -⟩ := haccounts.refused.mpr (.inr ⟨"a", by rw [hvalues]; decide⟩)
    rw [h] at hf
    cases hf
  · rw [op.get?_argumentsOf h, hvalues]
    rfl

end Operation

end RestOperations
