import RestOperations.Proofs.Operation.Entries
import RestOperations.Proofs.Operation.Options
import RestOperations.Proofs.Operation.Passing
import RestOperations.Proofs.Schema

/-!
What is absent from a request. Only null is: an entry of the query or of the headers is left out if its
template comes to null, and text with slots does if one of them is not provided. Everything else is
kept, however empty it is. The same goes for the call, where a keyword with null is as good as none.
-/

namespace RestOperations

namespace Template

open SlotSyntax

variable {scope : Scope} {d : Destination} {es : List (String × Value)}

/-! ### Texts with slots -/

/-- The parts of a text come to a text if all slots among them are provided. -/
lemma isSome_textOfParts [Json.Depth] {parts : List Part} {text? : Option String}
    (h : textOfParts scope.lookup parts = .ok text?) :
    text?.isSome = true ↔ ∀ s ∈ slotsOfParts parts, scope.Provides s := by
  induction parts generalizing text? with
  | nil =>
    cases h
    exact iff_of_true rfl (List.forall_mem_nil _)
  | cons p rest ih =>
    cases p with
    | text s =>
      obtain ⟨more, hmore, h⟩ := bind_eq_ok.mp h
      cases h
      rw [Option.isSome_map]
      exact ih hmore
    | slot s =>
      obtain ⟨v, hv, h⟩ := bind_eq_ok.mp h
      have hslots : slotsOfParts (.slot s :: rest) = s :: slotsOfParts rest := rfl
      rw [hslots, List.forall_mem_cons]
      split at h
      · next hnull =>
        obtain rfl := Value.isNull_iff.mp hnull
        cases h
        exact iff_of_false Bool.false_ne_true fun hall => hall.1.not_lacks hv
      · next hnull =>
        obtain ⟨here, -, h⟩ := bind_eq_ok.mp h
        obtain ⟨more, hmore, h⟩ := bind_eq_ok.mp h
        cases h
        rw [Option.isSome_map, ih hmore]
        exact (and_iff_right ⟨v, hv, Bool.eq_false_iff.mpr hnull⟩).symm

/-- A text that is not an expression is a lone slot, text with slots, or itself. -/
lemma compileText_cases {s : String} {t : Template} (h : compileText s d = .ok t) :
    (∃ r, t = slot r) ∨ (∃ parts, t = text parts) ∨ t = literal (.str s) := by
  unfold compileText at h
  split at h
  · rw [mapError_eq_ok, map_eq_ok] at h
    obtain ⟨r, -, rfl⟩ := h
    exact .inl ⟨r, rfl⟩
  · obtain ⟨parts, -, h⟩ := bind_eq_ok.mp h
    cases h
    split
    · exact .inr (.inl ⟨parts, rfl⟩)
    · exact .inr (.inr rfl)

/-- Text with slots comes to something if they are all provided. -/
lemma compileText_ne_null_iff [Json.Depth] {s : String} {ss : List SlotSyntax} {t : Template}
    {v : Value}
    (hss : Occur s.toList ss) (hne : ss ≠ []) (ht : compileText s d = .ok t)
    (hv : t.evaluate scope = .ok v) : v ≠ .null ↔ ∀ r ∈ ss, scope.Provides (r.slotIn d) := by
  obtain ⟨ss', hss', hslots⟩ := slots_compileText ht
  obtain rfl := hss.unique hss'
  have hall : (∀ r ∈ ss, scope.Provides (r.slotIn d)) ↔ ∀ s ∈ t.slots, scope.Provides s := by
    rw [hslots, List.forall_mem_map]
  rw [hall]
  obtain ⟨r, rfl⟩ | ⟨parts, rfl⟩ | rfl := compileText_cases ht
  · have hlookup : scope.lookup r = .ok v := hv
    rw [slots, List.forall_mem_singleton]
    constructor
    · exact Scope.provides_of_ok hlookup
    · rintro hprovides rfl
      exact hprovides.not_lacks hlookup
  · obtain ⟨text?, htext, h⟩ := bind_eq_ok.mp hv
    cases h
    rw [slots, ← isSome_textOfParts htext]
    cases text? <;> simp
  · exact absurd (List.map_eq_nil_iff.mp hslots.symm) hne

/-! ### Entries -/

/-- The value, as a template for this part of the request, comes to something but null. -/
def Present [Json.Depth] (scope : Scope) (d : Destination) (v : Value) : Prop :=
  ∃ t w, compile d v = .ok t ∧ t.evaluate scope = .ok w ∧ w ≠ .null

lemma present_iff [Json.Depth] {v w : Value} {t : Template} (ht : compile d v = .ok t)
    (hw : t.evaluate scope = .ok w) : Present scope d v ↔ w ≠ .null := by
  constructor
  · rintro ⟨t', w', ht', hw', hne⟩
    obtain rfl := Except.ok.inj (ht.symm.trans ht')
    rwa [Except.ok.inj (hw.symm.trans hw')] at *
  · exact fun hne => ⟨t, w, ht, hw, hne⟩

/-- What is neither text nor null is always there, were it an empty list or map. -/
lemma present_of_ne [Json.Depth] {v w : Value} {t : Template} (ht : compile d v = .ok t)
    (hw : t.evaluate scope = .ok w) (hnull : v ≠ .null) (hstr : ∀ s, v ≠ .str s) :
    Present scope d v := by
  refine ⟨t, w, ht, hw, ?_⟩
  cases v with
  | null => exact absurd rfl hnull
  | str s => exact absurd rfl (hstr s)
  | map ms =>
    obtain ⟨ts, -, h⟩ := bind_eq_ok.mp ht
    cases h
    obtain ⟨vs, -, h⟩ := bind_eq_ok.mp hw
    cases h
    simp
  | list xs =>
    obtain ⟨ts, -, h⟩ := bind_eq_ok.mp ht
    cases h
    obtain ⟨vs, -, h⟩ := bind_eq_ok.mp hw
    cases h
    simp
  | _ =>
    cases ht
    cases hw
    simp

/-- Text with slots, and no dollar sign before it, is there if all its slots are provided. -/
lemma present_text_iff [Json.Depth] {s : String} {ss : List SlotSyntax} {t : Template} {w : Value}
    (hs : s.toList.head? ≠ some '$') (hss : Occur s.toList ss) (hne : ss ≠ [])
    (ht : compile d (.str s) = .ok t) (hw : t.evaluate scope = .ok w) :
    Present scope d (.str s) ↔ ∀ r ∈ ss, scope.Provides (r.slotIn d) := by
  have htext : compileText s d = .ok t := by
    rw [← ht, compile, compileString]
    split
    · next hdollar => exact absurd (by rw [hdollar]; rfl) hs
    · rfl
  rw [present_iff ht hw, compileText_ne_null_iff hss hne htext hw]

variable {ts : List (String × Template)} {vs : List (String × Value)}

/-- Each entry comes to a value, which is kept unless it is null. -/
lemma evaluateEntries_cons [Json.Depth] {k : String} {v : Value}
    (hts : compileEntries d ((k, v) :: es) = .ok ts)
    (hvs : evaluateEntries scope ts = .ok vs) :
    ∃ t w ts' vs', compile d v = .ok t ∧ t.evaluate scope = .ok w ∧
      compileEntries d es = .ok ts' ∧ evaluateEntries scope ts' = .ok vs' ∧
        vs = if w.isNull then vs' else (k, w) :: vs' := by
  obtain ⟨t, ht, hts⟩ := bind_eq_ok.mp hts
  obtain ⟨ts', hts', hts⟩ := bind_eq_ok.mp hts
  cases hts
  obtain ⟨w, hw, hvs⟩ := bind_eq_ok.mp hvs
  obtain ⟨vs', hvs', hvs⟩ := bind_eq_ok.mp hvs
  cases hvs
  exact ⟨t, w, ts', vs', ht, hw, hts', hvs', rfl⟩

lemma names_of_entries [Json.Depth] (hts : compileEntries d es = .ok ts)
    (hvs : evaluateEntries scope ts = .ok vs) : (vs.map (·.1)).Sublist (es.map (·.1)) := by
  rw [← Operation.names_compileEntries hts]
  exact Operation.names_evaluateEntries hvs

/-- Where names differ, an entry is kept if it is present. -/
lemma mem_names_iff [Json.Depth] (hes : (es.map (·.1)).Nodup) (hts : compileEntries d es = .ok ts)
    (hvs : evaluateEntries scope ts = .ok vs) {k : String} {v : Value} (he : (k, v) ∈ es) :
    k ∈ vs.map (·.1) ↔ Present scope d v := by
  induction es generalizing ts vs with
  | nil => cases he
  | cons e es ih =>
    obtain ⟨k', v'⟩ := e
    obtain ⟨t, w, ts', vs', ht, hw, hts', hvs', rfl⟩ := evaluateEntries_cons hts hvs
    rw [List.map_cons, List.nodup_cons] at hes
    obtain heq | hrest := List.mem_cons.mp he
    · cases heq
      have hnot : k ∉ vs'.map (·.1) := fun h => hes.1 ((names_of_entries hts' hvs').subset h)
      rw [present_iff ht hw]
      cases hnull : w.isNull with
      | true => exact iff_of_false hnot fun hne => hne (Value.isNull_iff.mp hnull)
      | false =>
        have hne : w ≠ .null := mt Value.isNull_iff.mpr (by simp [hnull])
        exact iff_of_true (by simp) hne
    · have hne : k ≠ k' := by
        rintro rfl
        exact hes.1 (List.mem_map.mpr ⟨_, hrest, rfl⟩)
      rw [← ih hes.2 hts' hvs' hrest]
      split
      · rfl
      · rw [List.map_cons, List.mem_cons, or_iff_right hne]

/-- Nothing is left of the entries if none of them is present. -/
lemma evaluateEntries_eq_nil_iff [Json.Depth] (hts : compileEntries d es = .ok ts)
    (hvs : evaluateEntries scope ts = .ok vs) : vs = [] ↔ ∀ e ∈ es, ¬ Present scope d e.2 := by
  induction es generalizing ts vs with
  | nil =>
    cases hts
    cases hvs
    exact iff_of_true rfl (List.forall_mem_nil _)
  | cons e es ih =>
    obtain ⟨t, w, ts', vs', ht, hw, hts', hvs', rfl⟩ := evaluateEntries_cons hts hvs
    rw [List.forall_mem_cons, ← ih hts' hvs', present_iff ht hw]
    cases hnull : w.isNull with
    | true => simp [Value.isNull_iff.mp hnull]
    | false =>
      have hne : w ≠ .null := mt Value.isNull_iff.mpr (by simp [hnull])
      simp [hne]

/-- The names are those of the entries that are present. Text with slots is present if they are all
provided, and so is anything else but null and expressions. -/
structure Keeps [Json.Depth] (scope : Scope) (d : Destination) (es : List (String × Value))
    (names : List String) : Prop where
  present : ∀ k v, (k, v) ∈ es → (k ∈ names ↔ Present scope d v)
  text : ∀ k s ss, (k, .str s) ∈ es → s.toList.head? ≠ some '$' → Occur s.toList ss → ss ≠ [] →
    (k ∈ names ↔ ∀ r ∈ ss, scope.Provides (r.slotIn d))
  other : ∀ k v, (k, v) ∈ es → v ≠ .null → (∀ s, v ≠ .str s) → k ∈ names

lemma keeps_of_present [Json.Depth] {names : List String} (hts : compileEntries d es = .ok ts)
    (hvs : evaluateEntries scope ts = .ok vs)
    (h : ∀ k v, (k, v) ∈ es → (k ∈ names ↔ Present scope d v)) : Keeps scope d es names := by
  have hentry {k : String} {v : Value} (he : (k, v) ∈ es) :
      ∃ t w, compile d v = .ok t ∧ t.evaluate scope = .ok w := by
    obtain ⟨t, ht, hmem⟩ := mem_compileEntries hts he
    obtain ⟨w, hw, -⟩ := mem_evaluateEntries hvs hmem
    exact ⟨t, w, ht, hw⟩
  refine ⟨h, fun k s ss he hs hss hne => ?_, fun k v he hnull hstr => ?_⟩
  · obtain ⟨t, w, ht, hw⟩ := hentry he
    rw [h k (.str s) he, present_text_iff hs hss hne ht hw]
  · obtain ⟨t, w, ht, hw⟩ := hentry he
    exact (h k v he).mpr (present_of_ne ht hw hnull hstr)

end Template

namespace Call

open Operation (optionsName)

variable {op : Operation} {params : List Value} {c c' : Call} {name : String}

/-! ### Keywords with null -/

/-- The calls differ in keywords with null at most, and in the order of keywords. -/
structure SameButNull (c c' : Call) : Prop where
  positional : c.positional = c'.positional
  options : c.options = c'.options
  keywords : (c.keywords.filter fun e => !e.2.isNull).Perm (c'.keywords.filter fun e => !e.2.isNull)

lemma SameButNull.mem_named_iff (h : c.SameButNull c') {v : Value} (hv : v ≠ .null) :
    (name, v) ∈ c.named ↔ (name, v) ∈ c'.named := by
  have hnull : (!v.isNull) = true := by
    rw [Bool.not_eq_true', Bool.eq_false_iff]
    exact mt Value.isNull_iff.mp hv
  have hmem := h.keywords.mem_iff (a := (name, v))
  rw [List.mem_filter, List.mem_filter, and_iff_left hnull, and_iff_left hnull] at hmem
  rw [named, named, List.mem_append, List.mem_append, hmem, h.options]

/-- The argument of a name comes with its name, or else by position. -/
lemma argument_eq {arguments : List (Value × Value)} (h : op.argumentsOf params c = .ok arguments)
    (name : String) :
    c.argument params name = ((c.named.lookup name).or
        (Value.under name (params.zip c.positional)).getLast?).getD .null ∧
      (c.named.lookup name ≠ none → (Value.under name (params.zip c.positional)).getLast? = none) := by
  obtain ⟨-, byPosition, hpos, h⟩ := op.argumentsOf_eq_ok.mp h
  obtain ⟨hnodup, hnew, -⟩ := op.addKeywords_eq_ok.mp h
  refine ⟨?_, fun hne => ?_⟩
  · rw [argument, valuesFor, addressed, Value.under_append, List.getLast?_append,
      ← Value.head?_under_texts hnodup, ← Value.get?_eq_head?_under, Value.get?_texts]
  · rw [← Operation.get?_byPosition hpos]
    obtain ⟨v, hv⟩ := Option.ne_none_iff_exists'.mp hne
    exact hnew name (List.mem_map.mpr ⟨_, (lookup_eq_some_iff hnodup).mp hv, rfl⟩)

/-- What is null under a name is as good as nothing. -/
lemma SameButNull.argument_eq {arguments arguments' : List (Value × Value)} (hsame : c.SameButNull c')
    (h : op.argumentsOf params c = .ok arguments) (h' : op.argumentsOf params c' = .ok arguments')
    (name : String) : c.argument params name = c'.argument params name := by
  have hnamed : (c.named.lookup name).getD .null = (c'.named.lookup name).getD .null := by
    obtain ⟨-, _, -, hadd⟩ := op.argumentsOf_eq_ok.mp h
    obtain ⟨-, _, -, hadd'⟩ := op.argumentsOf_eq_ok.mp h'
    exact getD_lookup_congr (op.addKeywords_eq_ok.mp hadd).1 (op.addKeywords_eq_ok.mp hadd').1
      fun v hv => hsame.mem_named_iff hv
  obtain ⟨heq, hpos⟩ := Call.argument_eq h name
  obtain ⟨heq', hpos'⟩ := Call.argument_eq h' name
  rw [heq, heq']
  rw [← hsame.positional] at hpos' ⊢
  -- A value by position leaves no room for one that comes with the name, not even for null.
  cases hv : c.named.lookup name <;> cases hv' : c'.named.lookup name <;> simp_all

end Call

namespace Operation

open Template

variable {op : Operation} {t : OperationTemplate} {params : List Value} {c c' : Call} {scope : Scope}
  {d d' : Descriptor}

/-! ### Requests -/

lemma nonEmpty_eq_none_iff {α : Type} {xs : List α} : nonEmpty xs = none ↔ xs = [] := by
  cases xs <;> simp [nonEmpty]

/-- The parts of the operation for the query and for the headers are those of the template. -/
structure Has (op : Operation) (t : OperationTemplate) : Prop where
  source : op.source = t
  query : compileEntries .query t.query = .ok op.query
  headers : compileEntries .header t.headers = .ok op.headers

lemma has_ofTemplate {functions : List (String × List Value)} {name : Option String}
    (h : ofTemplate t functions name = .ok op) : op.Has t := by
  obtain ⟨_, _, _, _, _, -, hquery, hheaders, -, -, rfl⟩ := ofTemplate_eq_ok.mp h
  exact ⟨rfl, hquery, hheaders⟩

lemma has_compile {template functions : Value} {name : Option String}
    (ht : OperationTemplate.ofValue template = .ok t)
    (h : compile template functions name = .ok op) : op.Has t := by
  obtain ⟨t', op', table, ht', hop', -, rfl⟩ := exists_ofTemplate h
  obtain rfl := Except.ok.inj (ht.symm.trans ht')
  obtain ⟨hsource, hquery, hheaders⟩ := has_ofTemplate hop'
  exact ⟨hsource, hquery, hheaders⟩

/-- The header for options is added unless there are none, or the template has the header itself. -/
lemma optionsHeader_eq_nil_iff {options : Value} {added : List (String × String)}
    (h : op.optionsHeader options = .ok added) :
    added = [] ↔ options = .null ∨ op.declaresOptions = true := by
  by_cases hnone : options = .null ∨ op.declaresOptions = true
  · rw [optionsHeader_eq_nil hnone] at h
    exact iff_of_true (Except.ok.inj h).symm hnone
  · obtain ⟨hnull, hdeclares⟩ := not_or.mp hnone
    obtain ⟨s, -, rfl⟩ := (optionsHeader_eq_ok hnull (Bool.eq_false_iff.mpr hdeclares)).mp h
    exact iff_of_false (List.cons_ne_nil _ _) hnone

/-- The headers of the template among those of a request, and whether there are any at all. -/
lemma headersOf_entries [Json.Depth] (hop : op.Has t) {headers : List (String × String)}
    (h : op.headersOf scope = .ok headers) :
    ∃ vs, evaluateEntries scope op.headers = .ok vs ∧
      (∀ k ∈ t.headers.map (·.1), k ∈ headers.map (·.1) ↔ k ∈ vs.map (·.1)) ∧
      (headers = [] ↔ vs = [] ∧ (scope.options = .null ∨ op.declaresOptions = true)) := by
  obtain ⟨declared, added, hdeclared, hadded, rfl⟩ := headersOf_eq_ok.mp h
  obtain ⟨vs, hvs, htexts⟩ := bind_eq_ok.mp hdeclared
  have hnames := names_headerTexts htexts
  refine ⟨vs, hvs, fun k hk => ?_, ?_⟩
  · have hnot : k ∉ added.map (·.1) := by
      rw [← hop.source] at hk
      have hnone := List.lookup_eq_none_iff.mp (lookup_optionsHeader hk hadded)
      rintro hmem
      obtain ⟨e, he, rfl⟩ := List.mem_map.mp hmem
      simpa using hnone e he
    rw [List.map_append, List.mem_append, or_iff_left hnot, hnames]
  · rw [List.append_eq_nil_iff, optionsHeader_eq_nil_iff hadded, ← List.map_eq_nil_iff, hnames,
      List.map_eq_nil_iff]

lemma request_eq_of_sameButNull [Json.Depth] (hplain : op.isPlain = true) (hsame : c.SameButNull c')
    (h : op.bind params c = .ok d) (h' : op.bind params c' = .ok d') : d' = d := by
  obtain ⟨scope, hscope, hrequest⟩ := bind_eq_ok.mp h
  obtain ⟨scope', hscope', hrequest'⟩ := bind_eq_ok.mp h'
  obtain ⟨arguments, harguments, heq⟩ := scopeOf_eq_ok hscope
  obtain ⟨arguments', harguments', heq'⟩ := scopeOf_eq_ok hscope'
  have hargument := hsame.argument_eq harguments harguments'
  have halike : Call.Alike params params c c' op.slots := by
    intro s _
    rw [Call.provided, Call.provided, hsame.positional]
    congr 1
    funext i?
    cases i? with
    | some i => rfl
    | none => exact hargument s.name
  have hoptions : scope.options = scope'.options := by
    rw [heq, heq']
    exact hargument optionsName
  rw [request_congr hplain (sameFor_of_alike hscope hscope' halike) hoptions] at hrequest
  exact Except.ok.inj (hrequest'.symm.trans hrequest)

/-- **Null, and only null, is absent.** In a request that is bound, the entries of the query and the
headers of the template are those whose templates come to something: text with slots if every slot of
it is provided with a value other than null, were it zero, false or empty, and maps and lists in any
case. There is no query if none of its entries is present, and there are no headers if this goes for
them and none is added for options. Without expressions, a keyword with null changes nothing about the
request. -/
theorem absent_iff_null [Json.Depth] {template functions : Value} {name : Option String}
    (ht : OperationTemplate.ofValue template = .ok t)
    (hop : compile template functions name = .ok op) (hd : op.bind params c = .ok d) :
    ∃ scope, op.scopeOf params c = .ok scope ∧
      Keeps scope .query t.query ((d.query.getD []).map (·.1)) ∧
      Keeps scope .header t.headers ((d.headers.getD []).map (·.1)) ∧
      (d.query = none ↔ ∀ e ∈ t.query, ¬ Present scope .query e.2) ∧
      (d.headers = none ↔ (∀ e ∈ t.headers, ¬ Present scope .header e.2) ∧
        (c.optionsFor params = .null ∨ op.declaresOptions = true)) ∧
      (op.isPlain = true → ∀ c' d', c.SameButNull c' → op.bind params c' = .ok d' → d' = d) := by
  have hhas := has_compile ht hop
  obtain ⟨hqueryNames, hheaderNames⟩ := OperationTemplate.nodup_ofValue ht
  obtain ⟨scope, hscope, hrequest⟩ := bind_eq_ok.mp hd
  obtain ⟨-, uri, query, headers, body, -, hquery, hheaders, -, rfl⟩ := request_eq_ok.mp hrequest
  obtain ⟨vs, hvs, hkept, hnone⟩ := headersOf_entries hhas hheaders
  have hoptions : scope.options = c.optionsFor params := by
    obtain ⟨_, -, rfl⟩ := scopeOf_eq_ok hscope
    exact Call.argument_options params c
  rw [getD_nonEmpty, getD_nonEmpty, nonEmpty_eq_none_iff, nonEmpty_eq_none_iff]
  refine ⟨scope, hscope, ?_, ?_, ?_, ?_, fun hplain c' d' hsame hd' => ?_⟩
  · exact keeps_of_present hhas.query hquery fun k v he =>
      mem_names_iff hqueryNames hhas.query hquery he
  · refine keeps_of_present hhas.headers hvs fun k v he => ?_
    rw [hkept k (List.mem_map.mpr ⟨_, he, rfl⟩), mem_names_iff hheaderNames hhas.headers hvs he]
  · exact evaluateEntries_eq_nil_iff hhas.query hquery
  · rw [hnone, evaluateEntries_eq_nil_iff hhas.headers hvs, hoptions]
  · exact request_eq_of_sameButNull hplain hsame hd hd'

attribute [local instance] Json.Depth.thousand

/-- A template with entries of all sorts. -/
def filterTemplate : Value :=
  .map [(.str "method", .str "GET"), (.str "url", .str "/items"),
    (.str "query", .map [(.str "page", .str "\x7bpage:integer\x7d"),
      (.str "label", .str "\x7bfirst\x7d \x7blast\x7d"), (.str "tags", .list [.str "\x7btag\x7d"])]),
    (.str "headers", .map [(.str "X-Dry", .str "\x7bdry:boolean=no\x7d"),
      (.str "X-Note", .str "\x7bnote:object=null\x7d")])]

/-- A call with arguments that are zero, empty and null. -/
def filterCall : Call := ⟨[], [("page", .int 0), ("first", .str ""), ("last", .null)], .null⟩

/-- The same call without the argument that is null, and with another one that is. -/
def barerCall : Call := ⟨[], [("tag", .null), ("first", .str ""), ("page", .int 0)], .null⟩

theorem filter_absent :
    ∃ t op d, OperationTemplate.ofValue filterTemplate = .ok t ∧
      compile filterTemplate .null none = .ok op ∧ op.bind [] filterCall = .ok d ∧
      op.bind [] barerCall = .ok d ∧
      (d.query.getD []).map (·.1) = ["page", "tags"] ∧ (d.headers.getD []).map (·.1) = ["X-Dry"] ∧
      ∃ scope, op.scopeOf [] filterCall = .ok scope ∧
        Keeps scope .query t.query ((d.query.getD []).map (·.1)) ∧
        Keeps scope .header t.headers ((d.headers.getD []).map (·.1)) := by
  obtain ⟨t, ht, op, hop, d, hd, hplain, hquery, hheaders, d', hd'⟩ :
      ∃ t, OperationTemplate.ofValue filterTemplate = .ok t ∧
        ∃ op, compile filterTemplate .null none = .ok op ∧
          ∃ d, op.bind [] filterCall = .ok d ∧ op.isPlain = true ∧
            (d.query.getD []).map (·.1) = ["page", "tags"] ∧
            (d.headers.getD []).map (·.1) = ["X-Dry"] ∧
            ∃ d', op.bind [] barerCall = .ok d' ∧ d'.method = d.method := by
    decide +kernel
  obtain ⟨scope, hscope, hkeepsQuery, hkeepsHeaders, -, -, hbarer⟩ := absent_iff_null ht hop hd
  have hsame : filterCall.SameButNull barerCall := ⟨rfl, rfl, .swap _ _ _⟩
  rw [hbarer hplain barerCall d' hsame hd'.1] at hd'
  exact ⟨t, op, d, ht, hop, hd, hd'.1, hquery, hheaders, scope, hscope, hkeepsQuery, hkeepsHeaders⟩

end Operation

end RestOperations
