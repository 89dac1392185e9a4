import RestOperations.Proofs.Json.RoundTrip
import RestOperations.Proofs.Operation.Locality

/-!
The options of the caller. They come as such, or under their name like any other argument, and end
up in a header of their own, as JSON that is read back as what it was. A template that declares the
header says itself what goes into it. Where no slot asks for the options, nothing else of a request
depends on them.
-/

namespace RestOperations

namespace Call

open Operation (optionsName)

/-- What comes by position and by keyword. -/
def passed (params : List Value) (c : Call) : List (Value × Value) :=
  params.zip c.positional ++ c.keywords.map fun e => (.str e.1, e.2)

/-- The options of a call: those that are given as such, or else what is passed under their name. -/
def optionsFor (params : List Value) (c : Call) : Value :=
  if c.options.isNull then (Value.under optionsName (c.passed params)).getLast?.getD .null
  else c.options

section Addressed

variable {name : String}

lemma addressed_eq (params : List Value) (c : Call) :
    c.addressed params =
      c.passed params ++ if c.options.isNull then [] else [(.str optionsName, c.options)] := by
  rw [addressed, named, passed, List.map_append, List.append_assoc]
  congr 2
  split <;> rfl

lemma argument_options (params : List Value) (c : Call) :
    c.argument params optionsName = c.optionsFor params := by
  rw [argument, valuesFor, addressed_eq, optionsFor]
  split
  · rw [List.append_nil]
  · rw [Value.under_append, Value.under_cons_self, Value.under_nil, List.getLast?_concat]
    rfl

/-- Options that are given as such are under no other name. -/
lemma valuesFor_of_ne (h : name ≠ optionsName) (params : List Value) (c : Call) :
    c.valuesFor params name = Value.under name (c.passed params) := by
  rw [valuesFor, addressed_eq, Value.under_append]
  split
  · rw [Value.under_nil, List.append_nil]
  · rw [Value.under_cons_of_ne (by simpa using Ne.symm h), Value.under_nil, List.append_nil]

end Addressed

/-! ### The same call without options -/

/-- The value under a key, null if the key is the name of the options. -/
def cleared (k v : Value) : Value := if Value.sameKey k (.str optionsName) then .null else v

/-- Positional arguments, with null at the parameters of that name. -/
def clearPositional : List Value → List Value → List Value
  | k :: params, v :: positional => cleared k v :: clearPositional params positional
  | _, positional => positional

/-- The same call with null in place of the options, however they come. -/
def withoutOptions (params : List Value) (c : Call) : Call where
  positional := clearPositional params c.positional
  keywords := c.keywords.map fun e => (e.1, cleared (.str e.1) e.2)
  options := .null

section WithoutOptions

variable {name : String}

lemma length_clearPositional (params positional : List Value) :
    (clearPositional params positional).length = positional.length := by
  fun_induction clearPositional params positional with
  | case1 k params v positional ih => rw [List.length_cons, List.length_cons, ih]
  | case2 => rfl

lemma zip_clearPositional (params positional : List Value) :
    params.zip (clearPositional params positional) =
      (params.zip positional).map fun p => (p.1, cleared p.1 p.2) := by
  fun_induction clearPositional params positional with
  | case1 k params v positional ih => rw [List.zip_cons_cons, List.zip_cons_cons, ih, List.map_cons]
  | case2 params positional h =>
    cases params with
    | nil => rfl
    | cons k params =>
      cases positional with
      | nil => rfl
      | cons v positional => exact absurd rfl (h k params v positional rfl)

lemma addressed_withoutOptions (params : List Value) (c : Call) :
    (c.withoutOptions params).addressed params =
      (c.passed params).map fun p => (p.1, cleared p.1 p.2) := by
  rw [addressed_eq, passed, passed, withoutOptions, zip_clearPositional, List.map_append,
    List.map_map, List.map_map]
  exact List.append_nil _

lemma under_cleared (pairs : List (Value × Value)) :
    Value.under name (pairs.map fun p => (p.1, cleared p.1 p.2)) =
      (Value.under name pairs).map (cleared (.str name)) := by
  induction pairs with
  | nil => rfl
  | cons p pairs ih =>
    obtain ⟨k, v⟩ := p
    by_cases hk : k = .str name
    · subst hk
      rw [List.map_cons, Value.under_cons_self, Value.under_cons_self, List.map_cons, ih]
    · rw [List.map_cons, Value.under_cons_of_ne hk, Value.under_cons_of_ne hk, ih]

/-- Under each name there are as many values as before, and under other names the same ones. -/
lemma valuesFor_withoutOptions (params : List Value) (c : Call) :
    (c.withoutOptions params).valuesFor params name =
      (Value.under name (c.passed params)).map (cleared (.str name)) := by
  rw [valuesFor, addressed_withoutOptions, under_cleared]

lemma argument_withoutOptions (h : name ≠ optionsName) (params : List Value) (c : Call) :
    (c.withoutOptions params).argument params name = c.argument params name := by
  have hcleared : cleared (.str name) = id := by
    funext v
    simp [cleared, h]
  rw [argument, argument, valuesFor_withoutOptions, valuesFor_of_ne h, hcleared, List.map_id]

lemma options_withoutOptions (params : List Value) (c : Call) :
    (c.withoutOptions params).argument params optionsName = .null := by
  have hcleared : cleared (.str optionsName) = fun _ => .null := by
    funext v
    simp [cleared]
  rw [argument, valuesFor_withoutOptions, hcleared, List.getLast?_map]
  cases (Value.under optionsName (c.passed params)).getLast? <;> rfl

end WithoutOptions

end Call

namespace Operation

variable {op : Operation} {params : List Value} {c : Call} {scope : Scope}

/-- The call is taken without its options, too. -/
lemma exists_scopeOf_withoutOptions (h : op.scopeOf params c = .ok scope) :
    ∃ scope', op.scopeOf params (c.withoutOptions params) = .ok scope' := by
  obtain ⟨arguments, harguments, -⟩ := scopeOf_eq_ok h
  have hkeys : ∀ p ∈ params.zip c.positional, p.1.isKey = true := by
    obtain ⟨-, byPosition, hpos, -⟩ := op.argumentsOf_eq_ok.mp harguments
    rw [← contained_nameArguments [], hpos]
    exact contained_ok byPosition
  have hkeys' : ∀ p ∈ params.zip (c.withoutOptions params).positional, p.1.isKey = true := by
    intro p hp
    rw [Call.withoutOptions, Call.zip_clearPositional] at hp
    obtain ⟨q, hq, rfl⟩ := List.mem_map.mp hp
    exact hkeys q hq
  obtain ⟨hread, hnot, hle⟩ := (op.exists_argumentsOf_iff hkeys).mp ⟨arguments, harguments⟩
  have hnot' : ¬ op.Overfull params (c.withoutOptions params) := by
    rw [Overfull, Call.withoutOptions, Call.length_clearPositional]
    exact hnot
  have hle' : ∀ name ∈ (c.withoutOptions params).named.map (·.1),
      ((c.withoutOptions params).valuesFor params name).length ≤ 1 := by
    intro name hname
    have hmem : name ∈ c.named.map (·.1) := by
      simp only [Call.named, Call.withoutOptions, List.map_append, List.map_map, List.mem_append]
        at hname ⊢
      exact .inl (hname.resolve_right (List.not_mem_nil))
    have hlength := hle name hmem
    rw [Call.valuesFor, Call.addressed_eq, Value.under_append, List.length_append] at hlength
    rw [Call.valuesFor_withoutOptions, List.length_map]
    omega
  obtain ⟨arguments', harguments'⟩ := (op.exists_argumentsOf_iff hkeys').mpr ⟨hread, hnot', hle'⟩
  exact ⟨_, by rw [scopeOf, harguments']; rfl⟩

/-! ### Headers -/

/-- The headers that the template itself gives. -/
def declaredHeaders [Json.Depth] (op : Operation) (scope : Scope) :
    Except Fault (List (String × String)) :=
  Template.evaluateEntries scope op.headers >>= headerTexts

lemma headersOf_eq_ok [Json.Depth] {headers : List (String × String)} :
    op.headersOf scope = .ok headers ↔
      ∃ declared added, op.declaredHeaders scope = .ok declared ∧
        op.optionsHeader scope.options = .ok added ∧ declared ++ added = headers := by
  simp only [headersOf, declaredHeaders, bind_eq_ok]
  constructor
  · rintro ⟨values, hvalues, declared, hdeclared, added, hadded, h⟩
    exact ⟨declared, added, ⟨values, hvalues, hdeclared⟩, hadded, Except.ok.inj h⟩
  · rintro ⟨declared, added, ⟨values, hvalues, hdeclared⟩, hadded, rfl⟩
    exact ⟨values, hvalues, declared, hdeclared, added, hadded, rfl⟩

lemma names_compileEntries {destination : Destination} {es : List (String × Value)}
    {ts : List (String × Template)} (h : Template.compileEntries destination es = .ok ts) :
    ts.map (·.1) = es.map (·.1) := by
  induction es generalizing ts with
  | nil =>
    cases h
    rfl
  | cons e es ih =>
    obtain ⟨t, -, h⟩ := bind_eq_ok.mp h
    obtain ⟨ts, hts, h⟩ := bind_eq_ok.mp h
    cases h
    rw [List.map_cons, List.map_cons, ih hts]

lemma names_evaluateEntries [Json.Depth] {es : List (String × Template)}
    {vs : List (String × Value)}
    (h : Template.evaluateEntries scope es = .ok vs) : (vs.map (·.1)).Sublist (es.map (·.1)) := by
  induction es generalizing vs with
  | nil =>
    cases h
    exact List.Sublist.refl _
  | cons e es ih =>
    obtain ⟨v, -, h⟩ := bind_eq_ok.mp h
    obtain ⟨vs, hvs, h⟩ := bind_eq_ok.mp h
    cases h
    split
    · exact (ih hvs).cons _
    · exact (ih hvs).cons_cons _

lemma names_headerTexts {vs : List (String × Value)} {texts : List (String × String)}
    (h : headerTexts vs = .ok texts) : texts.map (·.1) = vs.map (·.1) := by
  induction vs generalizing texts with
  | nil =>
    cases h
    rfl
  | cons e vs ih =>
    obtain ⟨s, -, h⟩ := bind_eq_ok.mp h
    obtain ⟨texts, htexts, h⟩ := bind_eq_ok.mp h
    cases h
    rw [List.map_cons, List.map_cons, ih htexts]

lemma names_ofTemplate {t : OperationTemplate} {functions : List (String × List Value)}
    {name : Option String} (h : ofTemplate t functions name = .ok op) :
    op.headers.map (·.1) = op.source.headers.map (·.1) := by
  obtain ⟨url, query, headers, body, response, -, -, hheaders, -, -, rfl⟩ := ofTemplate_eq_ok.mp h
  exact names_compileEntries hheaders

/-- A compiled operation has the headers that its template declares. -/
lemma names_headers {template functions : Value} {name : Option String}
    (h : compile template functions name = .ok op) :
    op.headers.map (·.1) = op.source.headers.map (·.1) := by
  obtain ⟨t, op', table, -, hop', -, rfl⟩ := exists_ofTemplate h
  have hnames := names_ofTemplate hop'
  exact hnames

/-- Headers that are declared have names that the template declares. -/
lemma names_declaredHeaders [Json.Depth] {declared : List (String × String)}
    (h : op.declaredHeaders scope = .ok declared) :
    (declared.map (·.1)).Sublist (op.headers.map (·.1)) := by
  obtain ⟨vs, hvs, htexts⟩ := bind_eq_ok.mp h
  rw [names_headerTexts htexts]
  exact names_evaluateEntries hvs

/-- Without options, and where the template declares the header, none is added. -/
lemma optionsHeader_eq_nil {options : Value} (h : options = .null ∨ op.declaresOptions = true) :
    op.optionsHeader options = .ok [] := by
  rw [optionsHeader, if_pos (by simpa using h)]

lemma optionsHeader_eq_ok {options : Value} {added : List (String × String)}
    (hnull : options ≠ .null) (hdeclares : op.declaresOptions = false) :
    op.optionsHeader options = .ok added ↔
      ∃ s, Json.text options = .ok s ∧ added = [(optionsName, s)] := by
  rw [optionsHeader, if_neg (by simp [hnull, hdeclares]), bind_eq_ok]
  simp only [mapError_eq_ok, Except.ok.injEq, eq_comm (a := added)]

lemma names_optionsHeader {options : Value} {added : List (String × String)}
    (h : op.optionsHeader options = .ok added) : ∀ e ∈ added, e.1 = optionsName := by
  unfold optionsHeader at h
  split at h
  · cases h
    simp
  · obtain ⟨s, -, h⟩ := bind_eq_ok.mp h
    cases h
    simp

/-- A template that does not declare the header has no header of that name. -/
lemma options_not_declared [Json.Depth] {declared : List (String × String)}
    (hnames : op.headers.map (·.1) = op.source.headers.map (·.1))
    (hdeclares : op.declaresOptions = false) (h : op.declaredHeaders scope = .ok declared) :
    optionsName ∉ declared.map (·.1) := by
  intro hmem
  have hsource : optionsName ∈ op.source.headers.map (·.1) := by
    rw [← hnames]
    exact (names_declaredHeaders h).subset hmem
  rw [declaresOptions_of_mem hsource] at hdeclares
  cases hdeclares

/-! ### Requests -/

lemma request_eq_ok [Json.Depth] {d : Descriptor} :
    op.request scope = .ok d ↔
      op.requireSlots scope op.slots = .ok () ∧ ∃ uri query headers body,
        op.uriOf scope = .ok uri ∧ Template.evaluateEntries scope op.query = .ok query ∧
          op.headersOf scope = .ok headers ∧ op.bodyOf scope = .ok body ∧
            (⟨op.method, uri, true, nonEmpty query, body, nonEmpty headers⟩ : Descriptor) = d := by
  simp only [request, bind_eq_ok]
  constructor
  · rintro ⟨_, hslots, uri, huri, query, hquery, headers, hheaders, body, hbody, h⟩
    exact ⟨hslots, uri, query, headers, body, huri, hquery, hheaders, hbody, Except.ok.inj h⟩
  · rintro ⟨hslots, uri, query, headers, body, huri, hquery, hheaders, hbody, rfl⟩
    exact ⟨(), hslots, uri, huri, query, hquery, headers, hheaders, body, hbody, rfl⟩

/-- No slot asks for the options, by their name or by a position. -/
def leavesOptions (op : Operation) : Prop :=
  ∀ s ∈ op.slots, s.name ≠ optionsName ∧ ∀ i, s.index ≠ .ok (some i)

/-- Without options, such an operation provides the same for its slots. -/
lemma alike_withoutOptions (h : op.leavesOptions) :
    Call.Alike params params c (c.withoutOptions params) op.slots := by
  intro s hs
  obtain ⟨hname, hindex⟩ := h s hs
  rw [Call.provided, Call.provided]
  cases hi : s.index with
  | error f => rfl
  | ok i? =>
    cases i? with
    | some i => exact absurd hi (hindex i)
    | none => exact congrArg Except.ok (Call.argument_withoutOptions hname params c).symm

/-- What is left of the headers without the one for options. -/
def withoutOptionsHeader (d : Descriptor) : Descriptor :=
  { d with headers := nonEmpty ((d.headers.getD []).filter (·.1 != optionsName)) }

/-- Where no slot asks for the options, nothing but their header goes without them. -/
lemma bind_withoutOptions [Json.Depth] {d : Descriptor}
    (hnames : op.headers.map (·.1) = op.source.headers.map (·.1)) (hplain : op.isPlain = true)
    (hleaves : op.leavesOptions) (hdeclares : op.declaresOptions = false)
    (h : op.bind params c = .ok d) :
    op.bind params (c.withoutOptions params) = .ok (withoutOptionsHeader d) := by
  obtain ⟨scope, hscope, h⟩ := bind_eq_ok.mp h
  obtain ⟨scope', hscope'⟩ := exists_scopeOf_withoutOptions hscope
  have hsame : Template.SameFor scope scope' op.slots :=
    sameFor_of_alike hscope hscope' (alike_withoutOptions hleaves)
  have hoptions : scope'.options = .null := by
    obtain ⟨_, -, rfl⟩ := scopeOf_eq_ok hscope'
    exact Call.options_withoutOptions params c
  obtain ⟨hu, hq, hh, hb⟩ := sameFor_parts hsame
  obtain ⟨-, hquery, hheaders, -⟩ := isPlain_iff.mp hplain
  obtain ⟨hslots, uri, query, headers, body, huri, hqs, hhs, hbs, rfl⟩ := request_eq_ok.mp h
  obtain ⟨declared, added, hdeclared, hadded, rfl⟩ := headersOf_eq_ok.mp hhs
  have hdeclared' : op.declaredHeaders scope' = .ok declared := by
    rw [← hdeclared, declaredHeaders, declaredHeaders, Template.evaluateEntries_congr hheaders hh]
  have hhs' : op.headersOf scope' = .ok (declared ++ []) :=
    headersOf_eq_ok.mpr ⟨declared, [], hdeclared', optionsHeader_eq_nil (.inl hoptions), rfl⟩
  have hleft : (declared ++ added).filter (·.1 != optionsName) = declared ++ [] := by
    have hnot := options_not_declared hnames hdeclares hdeclared
    have hkept : declared.filter (·.1 != optionsName) = declared := by
      refine List.filter_eq_self.mpr fun e he => bne_iff_ne.mpr fun heq => hnot ?_
      exact heq ▸ List.mem_map_of_mem he
    have hgone : added.filter (·.1 != optionsName) = [] := by
      refine List.filter_eq_nil_iff.mpr fun e he => ?_
      simp [names_optionsHeader hadded e he]
    rw [List.filter_append, hkept, hgone]
  rw [bind, hscope', ok_bind]
  refine request_eq_ok.mpr ⟨?_, uri, query, declared ++ [], body, ?_, ?_, hhs', ?_, ?_⟩
  · rw [← requireSlots_congr op hsame, hslots]
  · rw [← uriOf_congr hplain hu, huri]
  · rw [← Template.evaluateEntries_congr hquery hq, hqs]
  · rw [← bodyOf_congr hplain hb, hbs]
  · rw [withoutOptionsHeader, getD_nonEmpty, hleft]

/-- What becomes of the options of a call, where the template has no header for them: they are in
the header of their name, if there are any, as JSON that is read back as what they are, and nothing
else depends on them where no slot asks for them. -/
structure DeliversOptions [Json.Depth] (op : Operation) (params : List Value) (c : Call)
    (d : Descriptor) :
    Prop where
  present : ((d.headers.getD []).lookup optionsName).isSome = true ↔ c.optionsFor params ≠ .null
  written : ∀ s, (d.headers.getD []).lookup optionsName = some s →
    Json.text (c.optionsFor params) = .ok s
  readBack : ∀ s, (d.headers.getD []).lookup optionsName = some s →
    Json.isData (c.optionsFor params) = true → ∀ limits, Json.Suits limits (c.optionsFor params) →
      Json.readWith limits s = .ok (c.optionsFor params)
  apart : op.isPlain = true → op.leavesOptions →
    op.bind params (c.withoutOptions params) = .ok (withoutOptionsHeader d)

/-- The header for options is the one that is added. -/
lemma lookup_options {declared added : List (String × String)} {options : Value}
    (hnot : optionsName ∉ declared.map (·.1)) (hdeclares : op.declaresOptions = false)
    (h : op.optionsHeader options = .ok added) :
    (((declared ++ added).lookup optionsName).isSome = true ↔ options ≠ .null) ∧
      ∀ s, (declared ++ added).lookup optionsName = some s → Json.text options = .ok s := by
  have hnone : declared.lookup optionsName = none := by
    refine List.lookup_eq_none_iff.mpr fun e he => bne_iff_ne.mpr fun heq => hnot ?_
    exact heq ▸ List.mem_map_of_mem he
  rw [List.lookup_append, hnone, Option.none_or]
  by_cases hnull : options = .null
  · rw [optionsHeader_eq_nil (.inl hnull)] at h
    cases h
    simp [hnull]
  · obtain ⟨s, hs, rfl⟩ := (optionsHeader_eq_ok hnull hdeclares).mp h
    simp [hnull, hs]

/-- **Options are delivered.** Where the template of an operation declares no header for options, in
whatever case, a call that is bound has its options in that header, as JSON. Where the template
declares one, the headers are those of the template and no others. -/
theorem options_delivered [Json.Depth] {template functions : Value} {name : Option String}
    (hop : compile template functions name = .ok op) {d : Descriptor}
    (h : op.bind params c = .ok d) :
    (op.declaresOptions = false → op.DeliversOptions params c d) ∧
      (op.declaresOptions = true → ∃ scope, op.scopeOf params c = .ok scope ∧
        op.declaredHeaders scope = .ok (d.headers.getD []) ∧
        ((d.headers.getD []).map (·.1)).Sublist (op.source.headers.map (·.1))) := by
  have hnames := names_headers hop
  obtain ⟨scope, hscope, -, -, hheaders, -⟩ := bind_parts h
  obtain ⟨declared, added, hdeclared, hadded, hall⟩ := headersOf_eq_ok.mp hheaders
  have hoptions : scope.options = c.optionsFor params := by
    obtain ⟨_, -, rfl⟩ := scopeOf_eq_ok hscope
    exact Call.argument_options params c
  refine ⟨fun hdeclares => ?_, fun hdeclares => ⟨scope, hscope, ?_⟩⟩
  · have hnot := options_not_declared hnames hdeclares hdeclared
    obtain ⟨hpresent, hwritten⟩ := lookup_options hnot hdeclares hadded
    rw [hall, hoptions] at hpresent hwritten
    exact {
      present := hpresent
      written := hwritten
      readBack := fun s hs hdata limits hlimits => Json.readWith_text hdata hlimits (hwritten s hs)
      apart := fun hplain hleaves => bind_withoutOptions hnames hplain hleaves hdeclares h }
  · rw [optionsHeader_eq_nil (.inr hdeclares)] at hadded
    obtain rfl := Except.ok.inj hadded
    rw [List.append_nil] at hall
    subst hall
    rw [← hnames]
    exact ⟨hdeclared, names_declaredHeaders hdeclared⟩

attribute [local instance] Json.Depth.thousand

/-- A template with a header of its own, and no slot for the options. -/
def labelTemplate : Value :=
  .map [(.str "method", .str "POST"), (.str "url", .str "/items/\x7bid\x7d"),
    (.str "headers", .map [(.str "X-Label", .str "\x7blabel\x7d")]),
    (.str "body", .str "\x7bbody\x7d")]

/-- Options with text of all sorts, at several levels. -/
def labelOptions : Value :=
  .map [(.str "user \"é😀\n", .list [.null, .bool false, .int (-40), .map []]), (.str "", .str "\\")]

/-- The options by position, as an argument of their name. -/
def labelCall : Call := ⟨[.str "7", labelOptions], [("label", .str "new")], .null⟩

def labelParams : List Value := [.str "id", .str "options"]

theorem label_options_delivered :
    ∃ op, compile labelTemplate .null none = .ok op ∧ ∃ d, op.bind labelParams labelCall = .ok d ∧
      op.declaresOptions = false ∧ op.isPlain = true ∧ op.leavesOptions ∧
      op.DeliversOptions labelParams labelCall d ∧
      (∃ s, (d.headers.getD []).lookup optionsName = some s ∧ Json.read s = .ok labelOptions) ∧
      op.bind labelParams (labelCall.withoutOptions labelParams) =
        .ok (withoutOptionsHeader d) := by
  obtain ⟨op, hop, d, hd, hdeclares, hplain, hnumeric⟩ :
      ∃ op, compile labelTemplate .null none = .ok op ∧
        ∃ d, op.bind labelParams labelCall = .ok d ∧ op.declaresOptions = false ∧
          op.isPlain = true ∧
            ∀ s ∈ op.slots, s.name ≠ optionsName ∧ Text.looksNumeric s.name = false := by
    decide +kernel
  have hleaves : op.leavesOptions := by
    intro s hs
    refine ⟨(hnumeric s hs).1, fun i => ?_⟩
    rw [Slot.index, Slot.position, (hnumeric s hs).2]
    simp
  have hdelivers := (options_delivered hop hd).1 hdeclares
  have hoptions : labelCall.optionsFor labelParams = labelOptions := rfl
  have hdata : Json.isData labelOptions = true := by decide +kernel
  have hsuits : Json.Suits (some .inForce) labelOptions := Json.suits_inForce (by decide +kernel)
  have hread : ∃ s, (d.headers.getD []).lookup optionsName = some s ∧
      Json.read s = .ok labelOptions := by
    have hsome := hdelivers.present.mpr (by rw [hoptions]; simp [labelOptions])
    obtain ⟨s, hs⟩ := Option.isSome_iff_exists.mp hsome
    exact ⟨s, hs, hdelivers.readBack s hs hdata (some .inForce) hsuits⟩
  exact ⟨op, hop, d, hd, hdeclares, hplain, hleaves, hdelivers, hread,
    hdelivers.apart hplain hleaves⟩

end Operation

end RestOperations
