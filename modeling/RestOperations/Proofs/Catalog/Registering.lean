import Mathlib.Data.List.Nodup
import RestOperations.Proofs.Operation.Slots
import RestOperations.Session

/-!
Operations that are registered one after another. An operation is taken in with all its functions or
not at all, so that the table of functions is always that of the operations that were taken in, and
a name never comes to stand for anything else.
-/

namespace RestOperations

namespace Operation

/-- The names of the functions. -/
def functionNames (op : Operation) : List String := op.functions.map (·.1)

lemma names_functionsOfMembers {ms : List (Value × Value)} {table : List (String × List Value)}
    (h : functionsOfMembers ms = .ok table) : table.map (·.1) = ms.map (·.1.text) := by
  induction ms generalizing table with
  | nil =>
    cases h
    rfl
  | cons m ms ih =>
    obtain ⟨params, -, h⟩ := bind_eq_ok.mp h
    obtain ⟨more, hmore, h⟩ := bind_eq_ok.mp h
    cases h
    rw [List.map_cons, List.map_cons, ih hmore]

/-- An operation that is compiled with a map of functions has their names in order, each of them once
if the keys of the map are different texts. -/
lemma functionNames_compile {template : Value} {ms : List (Value × Value)} {name : Option String}
    {op : Operation} (h : compile template (.map ms) name = .ok op) :
    op.functionNames = ms.map (·.1.text) := by
  obtain ⟨t, op', table, -, -, htable, rfl⟩ := exists_ofTemplate h
  rw [functionNames]
  cases ms with
  | nil =>
    cases htable
    rfl
  | cons m ms => exact names_functionsOfMembers htable

end Operation

namespace Catalog

variable {c c' : Catalog} {op : Operation} {ops : List Operation} {name : String}

/-! ### One call -/

/-- The catalog after an operation was handed to it, to be taken in or refused. -/
def offer (c : Catalog) (op : Operation) : Catalog :=
  match c.register op with
  | .ok c' => c'
  | .error _ => c

/-- No function of the operation has a name that is taken. -/
def Admits (c : Catalog) (op : Operation) : Prop := ∀ name ∈ op.functionNames, name ∉ c.names

lemma taken?_eq_none_iff : c.taken? op = none ↔ c.Admits op := by
  simp [taken?, Admits, contains, Operation.functionNames]

lemma register_eq_ok_iff : c.register op = .ok c' ↔ c.Admits op ∧ c.add op = c' := by
  rw [← taken?_eq_none_iff, register]
  cases c.taken? op <;> simp

/-- An operation that is refused is refused for a name that is taken. -/
lemma register_eq_error {f : Fault} (h : c.register op = .error f) :
    ∃ name ∈ op.functionNames, name ∈ c.names ∧ f = .functionRepeated name := by
  rw [register] at h
  cases ht : c.taken? op with
  | none =>
    rw [ht] at h
    cases h
  | some name =>
    rw [ht] at h
    cases h
    have hmem : name ∈ op.functionNames := List.mem_of_find?_eq_some ht
    have htaken : c.contains name = true := by simpa using List.find?_some ht
    exact ⟨name, hmem, by simpa [contains] using htaken, rfl⟩

lemma isOk_register : (c.register op).isOk = true ↔ c.Admits op := by
  rw [isOk_iff]
  simp only [register_eq_ok_iff, exists_and_left, exists_eq', and_true]

lemma offer_of_admits (h : c.Admits op) : c.offer op = c.add op := by
  have hok : c.register op = .ok (c.add op) := register_eq_ok_iff.mpr ⟨h, rfl⟩
  rw [offer, hok]

lemma offer_of_not_admits (h : ¬ c.Admits op) : c.offer op = c := by
  rw [offer]
  cases hr : c.register op with
  | error f => rfl
  | ok c' => exact absurd (register_eq_ok_iff.mp hr).1 h

/-- A refusal is a fault of configuration, and happens exactly where a name is taken. -/
lemma register_refused_iff :
    (∃ f, c.register op = .error f ∧ f.isConfiguration = true) ↔
      ∃ name ∈ op.functionNames, name ∈ c.names := by
  constructor
  · rintro ⟨f, hf, -⟩
    obtain ⟨name, hname, htaken, -⟩ := register_eq_error hf
    exact ⟨name, hname, htaken⟩
  · rintro ⟨name, hname, htaken⟩
    cases hr : c.register op with
    | ok c' => exact absurd htaken ((register_eq_ok_iff.mp hr).1 name hname)
    | error f =>
      obtain ⟨name, -, -, rfl⟩ := register_eq_error hr
      exact ⟨_, rfl, rfl⟩

/-- The step of a session that registers an operation hands it to the catalog. -/
lemma catalog_step_register [Json.Depth] {s : Session} {key : String}
    (h : Session.kept s.operations key = .ok op) :
    (s.step (.register key)).1.catalog = s.catalog.offer op := by
  simp only [Session.step, Session.registerStep, h, ok_bind, offer]
  cases s.catalog.register op <;> rfl

/-! ### Names and functions -/

lemma names_functionsOf (op : Operation) : (functionsOf op).map (·.1) = op.functionNames := by
  simp [functionsOf, Operation.functionNames]

lemma names_add (c : Catalog) (op : Operation) : (c.add op).names = c.names ++ op.functionNames := by
  rw [names, add, List.map_append, names_functionsOf, names]

/-- What a name stands for stays when an operation is added. -/
lemma function_add (h : name ∈ c.names) : (c.add op).function name = c.function name := by
  obtain ⟨e, he, hname⟩ := List.mem_map.mp h
  have hfound : (c.functions.find? (·.1 == name)).isSome = true :=
    List.find?_isSome.mpr ⟨e, he, by simp [hname]⟩
  obtain ⟨e', he'⟩ := Option.isSome_iff_exists.mp hfound
  rw [function, function, add, List.find?_append, he', Option.some_or]

lemma function_offer (h : name ∈ c.names) : (c.offer op).function name = c.function name := by
  by_cases hadmits : c.Admits op
  · rw [offer_of_admits hadmits, function_add h]
  · rw [offer_of_not_admits hadmits]

lemma find?_eq_some_of_mem {α : Type} {es : List (String × α)} {a : α}
    (h : (es.map (·.1)).Nodup) (hmem : (name, a) ∈ es) :
    es.find? (·.1 == name) = some (name, a) := by
  induction es with
  | nil => cases hmem
  | cons e es ih =>
    rw [List.map_cons, List.nodup_cons] at h
    rcases List.mem_cons.mp hmem with rfl | hrest
    · simp
    · have hne : e.1 ≠ name := fun heq => h.1 (heq ▸ List.mem_map.mpr ⟨_, hrest, rfl⟩)
      rw [List.find?_cons_of_neg (by simpa using hne), ih h.2 hrest]

/-! ### The invariant -/

/-- The table of functions is that of the operations, and each name stands in it once. -/
structure Sound (c : Catalog) : Prop where
  functions : c.functions = c.operations.flatMap functionsOf
  distinct : c.names.Nodup

lemma sound_empty : Sound {} := ⟨rfl, List.nodup_nil⟩

lemma Sound.add (hc : c.Sound) (hop : op.functionNames.Nodup) (hadmits : c.Admits op) :
    (c.add op).Sound := by
  refine ⟨?_, ?_⟩
  · rw [Catalog.add, List.flatMap_append, hc.functions, List.flatMap_singleton]
  · rw [names_add]
    refine hc.distinct.append hop fun name hc hop => ?_
    exact hadmits name hop hc

/-- One call keeps the catalog sound, whether the operation is taken in or not. -/
lemma Sound.offer (hc : c.Sound) (hop : op.functionNames.Nodup) : (c.offer op).Sound := by
  by_cases hadmits : c.Admits op
  · rw [offer_of_admits hadmits]
    exact hc.add hop hadmits
  · rwa [offer_of_not_admits hadmits]

lemma Sound.names_eq (hc : c.Sound) : c.names = c.operations.flatMap Operation.functionNames := by
  rw [names, hc.functions, List.map_flatMap]
  exact congrArg (List.flatMap · c.operations) (funext names_functionsOf)

/-- Each name stands for the function that one of the operations has under it. -/
lemma Sound.resolves (hc : c.Sound) (h : name ∈ c.names) :
    ∃ f, c.function name = .ok f ∧ f.operation ∈ c.operations ∧ f.operation.named name = .ok f := by
  obtain ⟨⟨key, f⟩, hf, hkey⟩ := List.mem_map.mp h
  obtain rfl : key = name := hkey
  have hfound : c.function key = .ok f := by
    rw [function, find?_eq_some_of_mem hc.distinct hf]
  rw [hc.functions] at hf
  obtain ⟨op, hop, hf⟩ := List.mem_flatMap.mp hf
  obtain ⟨⟨key, params⟩, hparams, heq⟩ := List.mem_map.mp hf
  cases heq
  have hnames : op.functionNames.Nodup := by
    have hall := hc.distinct
    rw [hc.names_eq, List.nodup_flatMap] at hall
    exact hall.1 op hop
  have hnamed : op.named key = .ok ⟨op, params, some key⟩ := by
    rw [Operation.named, find?_eq_some_of_mem hnames hparams]
  exact ⟨_, hfound, hop, hnamed⟩

/-! ### Many calls -/

/-- The catalog after operations were handed to it one after another. -/
def offerAll (c : Catalog) (ops : List Operation) : Catalog := ops.foldl offer c

/-- The operations that are taken in, of those that are handed over one after another. -/
def accepted (c : Catalog) : List Operation → List Operation
  | [] => []
  | op :: ops =>
    if (c.register op).isOk then op :: accepted (c.offer op) ops else accepted (c.offer op) ops

/-- Registers one operation after another, none of which may be refused. -/
def registerAll (c : Catalog) : List Operation → Except Fault Catalog
  | [] => .ok c
  | op :: ops => do
    let c ← c.register op
    registerAll c ops

lemma offerAll_cons (c : Catalog) (op : Operation) (ops : List Operation) :
    c.offerAll (op :: ops) = (c.offer op).offerAll ops := rfl

lemma accepted_sublist (c : Catalog) (ops : List Operation) : (c.accepted ops).Sublist ops := by
  induction ops generalizing c with
  | nil => exact List.Sublist.slnil
  | cons op ops ih =>
    rw [accepted]
    split
    · exact (ih _).cons_cons op
    · exact (ih _).cons op

/-- Refused operations leave no trace: without them, all others are taken in, to the same end. -/
lemma registerAll_accepted (c : Catalog) (ops : List Operation) :
    c.registerAll (c.accepted ops) = .ok (c.offerAll ops) := by
  induction ops generalizing c with
  | nil => rfl
  | cons op ops ih =>
    rw [offerAll_cons, accepted]
    by_cases hadmits : c.Admits op
    · have hok : c.register op = .ok (c.offer op) :=
        register_eq_ok_iff.mpr ⟨hadmits, (offer_of_admits hadmits).symm⟩
      rw [if_pos (isOk_register.mpr hadmits), registerAll, hok, ok_bind, ih]
    · rw [if_neg (mt isOk_register.mp hadmits), offer_of_not_admits hadmits, ih]

lemma operations_offerAll (c : Catalog) (ops : List Operation) :
    (c.offerAll ops).operations = c.operations ++ c.accepted ops := by
  induction ops generalizing c with
  | nil => exact (List.append_nil _).symm
  | cons op ops ih =>
    rw [offerAll_cons, ih, accepted]
    by_cases hadmits : c.Admits op
    · rw [if_pos (isOk_register.mpr hadmits), offer_of_admits hadmits, add, List.append_assoc,
        List.singleton_append]
    · rw [if_neg (mt isOk_register.mp hadmits), offer_of_not_admits hadmits]

lemma Sound.offerAll (hc : c.Sound) (h : ∀ op ∈ ops, op.functionNames.Nodup) :
    (c.offerAll ops).Sound := by
  induction ops generalizing c with
  | nil => exact hc
  | cons op ops ih =>
    rw [List.forall_mem_cons] at h
    rw [offerAll_cons]
    exact ih (hc.offer h.1) h.2

/-- **The catalog after any calls.** Let operations be handed to an empty catalog one after another,
and some of them be refused. What comes of it is what comes of the accepted ones alone. Its names are
all different, and are those of its operations in order; each stands for the function that one of
these operations has under it. A further operation is refused exactly if a name of it is taken, and
whether it is or not, all names stand for what they did. -/
theorem offered_invariant (ops : List Operation) (h : ∀ op ∈ ops, op.functionNames.Nodup) :
    let c := offerAll {} ops
    registerAll {} (accepted {} ops) = .ok c ∧ c.operations = accepted {} ops ∧
    (accepted {} ops).Sublist ops ∧
    c.names.Nodup ∧ c.names = c.operations.flatMap Operation.functionNames ∧
    (∀ name ∈ c.names, ∃ f, c.function name = .ok f ∧ f.operation ∈ c.operations ∧
      f.operation.named name = .ok f) ∧
    (∀ op, ((∃ f, c.register op = .error f ∧ f.isConfiguration = true) ↔
        ∃ name ∈ op.functionNames, name ∈ c.names) ∧
      ((c.register op).isOk = true ↔ ∀ name ∈ op.functionNames, name ∉ c.names)) ∧
    ∀ op, ∀ name ∈ c.names, (c.offer op).function name = c.function name := by
  intro c
  have hsound : c.Sound := sound_empty.offerAll h
  have hoperations : c.operations = accepted {} ops := operations_offerAll {} ops
  refine ⟨registerAll_accepted {} ops, hoperations, accepted_sublist {} ops, hsound.distinct,
    hsound.names_eq, fun name hname => hsound.resolves hname, fun op => ?_, fun op name hname => ?_⟩
  · exact ⟨register_refused_iff, isOk_register⟩
  · exact function_offer hname

/-- An operation without slots. -/
def statusTemplate : Value := .map [(.str "method", .str "GET"), (.str "url", .str "/status")]

/-- Functions without parameters. -/
def plainTable (names : List String) : Value := .map (names.map fun name => (.str name, .list []))

/-- Of three operations the second one is refused, for one of its two names. -/
theorem offered_three :
    ∃ a b d, Operation.compile statusTemplate (plainTable ["read", "peek"]) none = .ok a ∧
      Operation.compile statusTemplate (plainTable ["poll", "peek"]) none = .ok b ∧
      Operation.compile statusTemplate (plainTable ["poll"]) none = .ok d ∧
      (∀ op ∈ [a, b, d], op.functionNames.Nodup) ∧
      (offerAll {} [a, b, d]).names = ["read", "peek", "poll"] ∧
      (accepted {} [a, b, d]).length = 2 ∧
      registerAll {} (accepted {} [a, b, d]) = .ok (offerAll {} [a, b, d]) ∧
      (offerAll {} [a, b, d]).names.Nodup := by
  obtain ⟨a, ha, b, hb, d, hd, hnames, hlength⟩ :
      ∃ a, Operation.compile statusTemplate (plainTable ["read", "peek"]) none = .ok a ∧
      ∃ b, Operation.compile statusTemplate (plainTable ["poll", "peek"]) none = .ok b ∧
      ∃ d, Operation.compile statusTemplate (plainTable ["poll"]) none = .ok d ∧
        (offerAll {} [a, b, d]).names = ["read", "peek", "poll"] ∧
        (accepted {} [a, b, d]).length = 2 := by
    decide +kernel
  have hnodup : ∀ op ∈ [a, b, d], op.functionNames.Nodup := by
    simp only [List.forall_mem_cons, Operation.functionNames_compile ha,
      Operation.functionNames_compile hb, Operation.functionNames_compile hd]
    decide
  have hall := offered_invariant [a, b, d] hnodup
  exact ⟨a, b, d, ha, hb, hd, hnodup, hnames, hlength, hall.1, hall.2.2.2.1⟩

end Catalog

end RestOperations
