import RestOperations.Proofs.Catalog.Registering

/-!
Catalogs of documents. The entries of a document are taken in one after another, and the first one
that cannot be is what is reported. Which documents make a catalog, and what its names stand for, does
not depend on the order of the entries.
-/

namespace RestOperations

namespace Document

namespace Entry

/-- The names of the functions. -/
def names (e : Entry) : List String := e.functions.map (·.1)

/-- The functions as an operation has them. -/
def table (e : Entry) : List (String × List Value) :=
  e.functions.map fun (name, params) => (name, params.map .str)

/-- The entry has a template, and this is the operation that it is compiled to. -/
def Compiles (e : Entry) (op : Operation) : Prop :=
  ∃ t, e.template = some t ∧ Operation.ofTemplate t e.table none = .ok op

lemma Compiles.unique {e : Entry} {op op' : Operation} (h : e.Compiles op)
    (h' : e.Compiles op') : op = op' := by
  obtain ⟨t, ht, hop⟩ := h
  obtain ⟨t', ht', hop'⟩ := h'
  rw [ht, Option.some_inj] at ht'
  rw [← ht', hop] at hop'
  exact Except.ok.inj hop'

/-- The operation has the template and the functions of the entry. -/
lemma Compiles.parts {e : Entry} {op : Operation} (h : e.Compiles op) :
    e.template = some op.source ∧ op.functions = e.table := by
  obtain ⟨t, ht, hop⟩ := h
  obtain ⟨_, _, _, _, _, -, -, -, -, -, rfl⟩ := Operation.ofTemplate_eq_ok.mp hop
  exact ⟨ht, rfl⟩

lemma Compiles.functionNames {e : Entry} {op : Operation} (h : e.Compiles op) :
    op.functionNames = e.names := by
  rw [Operation.functionNames, h.parts.2, table, names, List.map_map]
  rfl

lemma Compiles.lookup {e : Entry} {op : Operation} {name : String} {params : List String}
    (h : e.Compiles op) (hparams : e.functions.lookup name = some params) :
    op.functions.lookup name = some (params.map .str) := by
  obtain ⟨before, after, hfunctions, hbefore⟩ := List.lookup_eq_some_iff.mp hparams
  rw [h.parts.2, table, List.lookup_eq_some_iff, hfunctions]
  refine ⟨_, _, List.map_append, fun p hp => ?_⟩
  obtain ⟨q, hq, rfl⟩ := List.mem_map.mp hp
  exact hbefore q hq

/-- A name of the entry has parameters. -/
lemma mem_names_iff {e : Entry} {name : String} :
    name ∈ e.names ↔ ∃ params, e.functions.lookup name = some params := by
  rw [← Option.isSome_iff_exists, List.lookup_isSome_iff, names, List.mem_map]
  exact exists_congr fun p => and_congr_right fun _ => by rw [beq_iff_eq, eq_comm]

end Entry

/-- Every entry has a template that compiles, and no two of them have a function of the same name. -/
structure Loadable (es : List Entry) : Prop where
  compiles : ∀ e ∈ es, ∃ op, e.Compiles op
  apart : es.Pairwise fun e e' => e.names.Disjoint e'.names

/-- The first name of the entry that one of these entries has already. -/
def Repeats (before : List Entry) (e : Entry) (name : String) : Prop :=
  name ∈ before.flatMap Entry.names ∧ ∃ fresh rest, e.names = fresh ++ name :: rest ∧
    ∀ other ∈ fresh, other ∉ before.flatMap Entry.names

/-- What is wrong with an entry that comes after others: it has no template, or one that does not
compile, or it repeats a name. -/
inductive Fails (before : List Entry) (e : Entry) : Fault → Prop
  | missing : e.template = none → Fails before e (Catalog.missing before.length e)
  | malformed {t : OperationTemplate} {f : Fault} :
      e.template = some t → Operation.ofTemplate t e.table none = .error f → Fails before e f
  | repeated {op : Operation} {name : String} :
      e.Compiles op → Repeats before e name → Fails before e (.functionRepeated name)

/-- What is wrong with the first of the entries that cannot be taken in after the others. -/
def FirstFails (before es : List Entry) (f : Fault) : Prop :=
  ∃ fine e rest, es = fine ++ e :: rest ∧ Loadable (before ++ fine) ∧ Fails (before ++ fine) e f

variable {before es : List Entry} {e : Entry} {f : Fault} {op : Operation} {name : String}

lemma loadable_nil : Loadable [] := ⟨by simp, .nil⟩

lemma Loadable.of_append (h : Loadable (before ++ es)) : Loadable before :=
  ⟨fun e he => h.compiles e (List.mem_append_left _ he), (List.pairwise_append.mp h.apart).1⟩

lemma loadable_concat :
    Loadable (before ++ [e]) ↔ Loadable before ∧ (∃ op, e.Compiles op) ∧
      ∀ name ∈ e.names, name ∉ before.flatMap Entry.names := by
  constructor
  · intro h
    refine ⟨h.of_append, h.compiles e (by simp), fun name hname hbefore => ?_⟩
    obtain ⟨e', he', hname'⟩ := List.mem_flatMap.mp hbefore
    have hapart := (List.pairwise_append.mp h.apart).2.2 e' he' e (List.mem_singleton_self e)
    exact hapart hname' hname
  · rintro ⟨hbefore, hcompiles, hfresh⟩
    refine ⟨?_, List.pairwise_append.mpr ⟨hbefore.apart, List.pairwise_singleton _ e, ?_⟩⟩
    · rw [List.forall_mem_append, List.forall_mem_singleton]
      exact ⟨hbefore.compiles, hcompiles⟩
    · intro e' he' e'' he'' name hname' hname
      rw [List.mem_singleton.mp he''] at hname
      exact hfresh name hname (List.mem_flatMap.mpr ⟨e', he', hname'⟩)

/-- It is the first entry, or the first one of those that follow. -/
lemma firstFails_cons :
    FirstFails before (e :: es) f ↔
      Loadable before ∧ Fails before e f ∨ FirstFails (before ++ [e]) es f := by
  constructor
  · rintro ⟨fine, e', rest, heq, hfine, hfails⟩
    cases fine with
    | nil =>
      obtain ⟨rfl, rfl⟩ := List.cons_eq_cons.mp heq
      rw [List.append_nil] at hfine hfails
      exact .inl ⟨hfine, hfails⟩
    | cons e'' fine =>
      obtain ⟨rfl, rfl⟩ := List.cons_eq_cons.mp heq
      rw [List.append_cons] at hfine hfails
      exact .inr ⟨fine, e', rest, rfl, hfine, hfails⟩
  · rintro (⟨hbefore, hfails⟩ | ⟨fine, e', rest, rfl, hfine, hfails⟩)
    · exact ⟨[], e, es, rfl, by rwa [List.append_nil], by rwa [List.append_nil]⟩
    · rw [← List.append_cons] at hfine hfails
      exact ⟨e :: fine, e', rest, rfl, hfine, hfails⟩

lemma FirstFails.loadable (h : FirstFails before es f) : Loadable before := by
  obtain ⟨fine, _, _, _, hfine, -⟩ := h
  exact hfine.of_append

/-- An entry can be taken in after others, or something is wrong with it. -/
lemma loadable_or_fails (hbefore : Loadable before) (e : Entry) :
    Loadable (before ++ [e]) ∨ ∃ f, Fails before e f := by
  cases ht : e.template with
  | none => exact .inr ⟨_, .missing ht⟩
  | some t =>
    cases hop : Operation.ofTemplate t e.table none with
    | error f => exact .inr ⟨f, .malformed ht hop⟩
    | ok op =>
      have hcompiles : e.Compiles op := ⟨t, ht, hop⟩
      cases hfind : e.names.find? (· ∈ before.flatMap Entry.names) with
      | none =>
        rw [List.find?_eq_none] at hfind
        simp only [decide_eq_true_eq] at hfind
        exact .inl (loadable_concat.mpr ⟨hbefore, ⟨op, hcompiles⟩, hfind⟩)
      | some name =>
        rw [List.find?_eq_some_iff_append] at hfind
        simp only [Bool.not_eq_true', decide_eq_true_eq, decide_eq_false_iff_not] at hfind
        exact .inr ⟨_, .repeated hcompiles hfind⟩

/-- Entries can all be taken in after others, or something is wrong with the first that cannot. -/
lemma loadable_or_firstFails (hbefore : Loadable before) (es : List Entry) :
    Loadable (before ++ es) ∨ ∃ f, FirstFails before es f := by
  induction es generalizing before with
  | nil => exact .inl (by rwa [List.append_nil])
  | cons e es ih =>
    obtain hloadable | ⟨f, hf⟩ := loadable_or_fails hbefore e
    · obtain hes | ⟨f, hf⟩ := ih hloadable
      · exact .inl (by rwa [List.append_cons])
      · exact .inr ⟨f, firstFails_cons.mpr (.inr hf)⟩
    · exact .inr ⟨f, firstFails_cons.mpr (.inl ⟨hbefore, hf⟩)⟩

/-- Without its order, a document is as good. -/
lemma Loadable.perm {es' : List Entry} (h : es.Perm es') (hes : Loadable es) : Loadable es' := by
  have hapart : es'.Pairwise fun e e' => e.names.Disjoint e'.names :=
    hes.apart.perm h fun hdisjoint _ hname hname' => hdisjoint hname' hname
  exact ⟨fun e he => hes.compiles e (h.mem_iff.mpr he), hapart⟩

end Document

namespace Catalog

open Document

variable {c c' : Catalog} {before es : List Entry} {e : Entry} {op : Operation} {name : String}

lemma compileEntry_eq_ok {index : Nat} :
    compileEntry index e = .ok op ↔ ∃ op', e.Compiles op' ∧ { op' with bound := true } = op := by
  unfold compileEntry Entry.Compiles
  cases e.template with
  | none => simp
  | some t =>
    rw [bind_eq_ok]
    simp [Entry.table]

/-- The table of functions is that of the entries, each name for the entry that has it. -/
structure Holds (c : Catalog) (es : List Entry) : Prop where
  names : c.names = es.flatMap Entry.names
  resolves : ∀ e ∈ es, ∀ name params, e.functions.lookup name = some params →
    ∃ op, e.Compiles op ∧
      c.function name = .ok ⟨{ op with bound := true }, params.map .str, some name⟩

lemma holds_empty : Holds {} [] := ⟨rfl, by simp⟩

lemma find?_of_not_mem (h : name ∉ c.names) : c.functions.find? (·.1 == name) = none := by
  rw [List.find?_eq_none]
  intro f hf hname
  exact h (List.mem_map.mpr ⟨f, hf, by simpa using hname⟩)

/-- A name that is not there stands for nothing. -/
lemma function_of_not_mem (h : name ∉ c.names) :
    c.function name = .error (.unknownFunction name) := by
  rw [function, find?_of_not_mem h]

lemma find?_functionsOf {params : List Value} (h : op.functions.lookup name = some params) :
    (functionsOf op).find? (·.1 == name) = some (name, op.function params (some name)) := by
  obtain ⟨before, after, hfunctions, hbefore⟩ := List.lookup_eq_some_iff.mp h
  rw [functionsOf, hfunctions, List.map_append, List.find?_append, List.find?_eq_none.mpr,
    List.map_cons, Option.none_or, List.find?_cons_of_pos (by simp)]
  intro f hf hname
  obtain ⟨p, hp, rfl⟩ := List.mem_map.mp hf
  have hne : name ≠ p.1 := by simpa using hbefore p hp
  exact hne (beq_iff_eq.mp hname).symm

/-- A new name stands for the function that the operation has under it. -/
lemma function_add_new {params : List Value} (h : name ∉ c.names)
    (hparams : op.functions.lookup name = some params) :
    (c.add op).function name = .ok (op.function params (some name)) := by
  rw [function, add, List.find?_append, find?_of_not_mem h, Option.none_or,
    find?_functionsOf hparams]

/-! ### One entry -/

lemma Holds.add (hc : c.Holds before) (hop : e.Compiles op)
    (hfresh : ∀ name ∈ e.names, name ∉ c.names) :
    (c.add { op with bound := true }).Holds (before ++ [e]) := by
  refine ⟨?_, fun e' he' name params hparams => ?_⟩
  · rw [names_add, hc.names, List.flatMap_append, List.flatMap_singleton]
    exact congrArg _ hop.functionNames
  · obtain he' | rfl := (List.mem_append.mp he').imp_right List.mem_singleton.mp
    · obtain ⟨op', hop', hfunction⟩ := hc.resolves e' he' name params hparams
      have hname : name ∈ c.names := by
        rw [hc.names]
        exact List.mem_flatMap.mpr ⟨e', he', Entry.mem_names_iff.mpr ⟨params, hparams⟩⟩
      exact ⟨op', hop', by rw [function_add hname, hfunction]⟩
    · have hnew := hfresh name (Entry.mem_names_iff.mpr ⟨params, hparams⟩)
      exact ⟨op, hop, function_add_new hnew (hop.lookup hparams)⟩

lemma taken?_eq_some_iff (hc : c.Holds before) (hop : e.Compiles op) :
    c.taken? { op with bound := true } = some name ↔ Repeats before e name := by
  have hnames : op.functions.map (·.1) = e.names := hop.functionNames
  rw [taken?, hnames, List.find?_eq_some_iff_append, Repeats]
  simp [contains, hc.names]

/-- An entry that nothing is wrong with is taken in. -/
lemma addEntry_of_loadable {index : Nat} (hc : c.Holds before) (h : Loadable (before ++ [e])) :
    ∃ op c', c.addEntry index e = .ok (op, c') ∧ c'.Holds (before ++ [e]) := by
  obtain ⟨-, ⟨op, hop⟩, hfresh⟩ := loadable_concat.mp h
  rw [← hc.names] at hfresh
  have hcompile : compileEntry index e = .ok { op with bound := true } :=
    compileEntry_eq_ok.mpr ⟨op, hop, rfl⟩
  have hadmits : c.Admits { op with bound := true } := by
    intro name hname
    exact hfresh name (hop.functionNames ▸ hname)
  refine ⟨{ op with bound := true }, _, ?_, hc.add hop hfresh⟩
  rw [addEntry, hcompile, ok_bind, register_eq_ok_iff.mpr ⟨hadmits, rfl⟩, ok_bind]

/-- An entry that something is wrong with is refused for that. -/
lemma addEntry_of_fails {f : Fault} (hc : c.Holds before) (h : Fails before e f) :
    c.addEntry before.length e = .error f := by
  cases h with
  | missing ht =>
    rw [addEntry, compileEntry, ht]
    rfl
  | malformed ht hf =>
    have hcompile : compileEntry before.length e = .error f := by
      rw [compileEntry, ht]
      exact bind_eq_error.mpr (.inl hf)
    rw [addEntry, hcompile, error_bind]
  | @repeated op name hop hname =>
    have hcompile : compileEntry before.length e = .ok { op with bound := true } :=
      compileEntry_eq_ok.mpr ⟨op, hop, rfl⟩
    rw [addEntry, hcompile, ok_bind, register, (taken?_eq_some_iff hc hop).mpr hname]
    rfl

/-! ### All entries -/

lemma addEntries_of_loadable (debug : Bool) (index : Nat) (hc : c.Holds before)
    (h : Loadable (before ++ es)) :
    ∃ c', (addEntries debug c (es.zipIdx index)).result = .ok c' ∧ c'.Holds (before ++ es) := by
  induction es generalizing c before index with
  | nil => exact ⟨c, rfl, by rwa [List.append_nil]⟩
  | cons e es ih =>
    rw [List.append_cons] at h ⊢
    obtain ⟨op, c', hadd, hc'⟩ := addEntry_of_loadable hc h.of_append
    obtain ⟨c'', hr, hc''⟩ := ih (index + 1) hc' h
    refine ⟨c'', ?_, hc''⟩
    rw [List.zipIdx_cons, addEntries, hadd]
    exact hr

/-- The entries are taken in one after another, up to the first that cannot be. -/
lemma addEntries_of_firstFails {f : Fault} (debug : Bool) (hc : c.Holds before)
    (h : FirstFails before es f) :
    (addEntries debug c (es.zipIdx before.length)).result = .error f := by
  induction es generalizing c before with
  | nil =>
    obtain ⟨fine, e, rest, heq, -⟩ := h
    simp at heq
  | cons e es ih =>
    rw [List.zipIdx_cons, addEntries]
    obtain ⟨-, hf⟩ | h := firstFails_cons.mp h
    · rw [addEntry_of_fails hc hf]
    · obtain ⟨op, c', hadd, hc'⟩ := addEntry_of_loadable hc h.loadable
      have hrest := ih hc' h
      rw [List.length_append, List.length_singleton] at hrest
      rw [hadd]
      exact hrest

variable {debug : Bool} {d : Document}

lemma ofDocument_of_loadable (debug : Bool) (h : Loadable d.entries) :
    ∃ c, (ofDocument debug d).result = .ok c ∧ c.Holds d.entries :=
  addEntries_of_loadable (debug || d.debug) 0 holds_empty h

lemma ofDocument_of_firstFails (debug : Bool) {f : Fault} (h : FirstFails [] d.entries f) :
    (ofDocument debug d).result = .error f :=
  addEntries_of_firstFails (debug || d.debug) holds_empty h

lemma loadable_of_ofDocument {c : Catalog} (h : (ofDocument debug d).result = .ok c) :
    Loadable d.entries := by
  obtain hloadable | ⟨f, hf⟩ := loadable_or_firstFails loadable_nil d.entries
  · exact hloadable
  · rw [ofDocument_of_firstFails debug hf] at h
    cases h

lemma holds_ofDocument {c : Catalog} (h : (ofDocument debug d).result = .ok c) :
    c.Holds d.entries := by
  obtain ⟨c', hc', hholds⟩ := ofDocument_of_loadable debug (loadable_of_ofDocument h)
  rw [h] at hc'
  cases hc'
  exact hholds

lemma isOk_ofDocument : (ofDocument debug d).result.isOk = true ↔ Loadable d.entries := by
  rw [isOk_iff]
  constructor
  · rintro ⟨c, hc⟩
    exact loadable_of_ofDocument hc
  · intro h
    obtain ⟨c, hc, -⟩ := ofDocument_of_loadable debug h
    exact ⟨c, hc⟩

lemma ofDocument_eq_error {f : Fault} :
    (ofDocument debug d).result = .error f ↔ FirstFails [] d.entries f := by
  refine ⟨fun h => ?_, ofDocument_of_firstFails debug⟩
  obtain hloadable | ⟨f', hf'⟩ := loadable_or_firstFails loadable_nil d.entries
  · obtain ⟨c, hc, -⟩ := ofDocument_of_loadable debug hloadable
    rw [h] at hc
    cases hc
  · rw [ofDocument_of_firstFails debug hf'] at h
    cases h
    exact hf'

/-- What a name stands for does not depend on the order of the entries. -/
lemma Holds.function_eq {es' : List Entry} (hc : c.Holds es) (hc' : c'.Holds es') (h : es.Perm es')
    (name : String) : c'.function name = c.function name := by
  have hnames : name ∈ c'.names ↔ name ∈ c.names := by
    rw [hc.names, hc'.names]
    exact (h.flatMap_right Entry.names).symm.mem_iff
  by_cases hname : name ∈ c.names
  · rw [hc.names, List.mem_flatMap] at hname
    obtain ⟨e, he, hname⟩ := hname
    obtain ⟨params, hparams⟩ := Entry.mem_names_iff.mp hname
    obtain ⟨op, hop, hfunction⟩ := hc.resolves e he name params hparams
    obtain ⟨op', hop', hfunction'⟩ := hc'.resolves e (h.mem_iff.mp he) name params hparams
    rw [hfunction, hfunction', hop.unique hop']
  · rw [function_of_not_mem hname, function_of_not_mem (mt hnames.mp hname)]

/-- **The catalog of a document.** A document makes a catalog if and only if every entry has a template
that compiles and no name is that of functions of two entries. The names are then those of the entries
in order, and each stands for the function with the template and the parameters of its entry.
Otherwise the document is refused for the first entry that has no template, or one that does not
compile, or that repeats a name. Nothing of this depends on logging, and with its entries in another
order a document makes a catalog just as well, in which every name stands for the same. -/
theorem ofDocument_builds (debug : Bool) (d : Document) :
    ((ofDocument debug d).result.isOk = true ↔ Loadable d.entries) ∧
    (∀ c, (ofDocument debug d).result = .ok c →
      c.names = d.entries.flatMap Entry.names ∧
      ∀ e ∈ d.entries, ∀ name params, e.functions.lookup name = some params →
        ∃ op, e.Compiles op ∧ e.template = some op.source ∧
          c.function name = .ok ⟨{ op with bound := true }, params.map .str, some name⟩) ∧
    (∀ f, (ofDocument debug d).result = .error f ↔ FirstFails [] d.entries f) ∧
    ∀ debug' d', d.entries.Perm d'.entries →
      (ofDocument debug' d').result.isOk = (ofDocument debug d).result.isOk ∧
      ∀ c c', (ofDocument debug d).result = .ok c → (ofDocument debug' d').result = .ok c' →
        ∀ name, c'.function name = c.function name := by
  refine ⟨isOk_ofDocument, fun c hc => ⟨(holds_ofDocument hc).names, ?_⟩,
    fun f => ofDocument_eq_error, fun debug' d' h => ⟨?_, fun c c' hc hc' name => ?_⟩⟩
  · intro e he name params hparams
    obtain ⟨op, hop, hfunction⟩ := (holds_ofDocument hc).resolves e he name params hparams
    exact ⟨op, hop, hop.parts.1, hfunction⟩
  · rw [Bool.eq_iff_iff, isOk_ofDocument, isOk_ofDocument]
    exact ⟨.perm h.symm, .perm h⟩
  · exact (holds_ofDocument hc).function_eq (holds_ofDocument hc') h name

end Catalog

end RestOperations
