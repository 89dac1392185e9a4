import RestOperations.Collection
import RestOperations.Proofs.Operation.Passing
import RestOperations.Proofs.Slot.Splitting
import RestOperations.Proofs.Template.Url

/-!
Collections as operations. What is done with the records of a collection can be written as a
template, too: the URL of the collection, with the identifier as a slot where there is one, and slots
for the body and for the filter. However the arguments are passed to it, the operation makes the same
request as the collection, or fails alike.
-/

namespace RestOperations

namespace Collection

/-! ### The templates -/

/-- The template for an action on the records behind a URL. -/
def Action.template (url : String) : Action → OperationTemplate
  | .create _ => ⟨"POST", url, [], [], .str "\x7bbody\x7d", none⟩
  | .update _ _ => ⟨"PUT", url ++ "/\x7bid\x7d", [], [], .str "\x7bbody\x7d", none⟩
  | .delete _ => ⟨"DELETE", url ++ "/\x7bid\x7d", [], [], .null, none⟩
  | .deleteAll => ⟨"DELETE", url, [], [], .null, none⟩
  | .find _ _ => ⟨"GET", url ++ "/\x7b!id\x7d", [("filter", .str "\x7bfilter\x7d")], [], .null, none⟩
  | .query _ => ⟨"GET", url, [("filter", .str "\x7bfilter\x7d")], [], .null, none⟩

/-- What the slots of the template are to be filled with. An identifier to find that counts as false
is none, and so is a filter to query by. -/
def Action.values : Action → List (String × Value)
  | .create body => [("body", body)]
  | .update id body => [("id", id), ("body", body)]
  | .delete id => [("id", id)]
  | .deleteAll => []
  | .find id filter => [("id", if id.truthy then id else .null), ("filter", filter)]
  | .query filter => [("filter", if filter.truthy then filter else .map [])]

/-- An identifier is a text or an integer; to find, it may be left out. -/
def isIdentifier : Value → Bool
  | .str _ => true
  | .int _ => true
  | _ => false

def Action.Identified : Action → Prop
  | .update id _ => isIdentifier id = true
  | .delete id => isIdentifier id = true
  | .find id _ => isIdentifier id = true ∨ id = .null
  | _ => True

def bodySlot : Slot := ⟨"body", .body, false, none, none⟩

def filterSlot : Slot := ⟨"filter", .query, false, none, none⟩

def idSlot (required : Bool) : Slot := ⟨"id", .path, required, none, none⟩

/-! ### Compilation -/

/-- A text that stands for itself, as a template of a URL. -/
structure IsPlain (s : String) : Prop where
  braceless : '{' ∉ s.toList
  noExpression : s.toList.head? ≠ some '$'

/-- The parts of the URL. -/
def Action.parts (url : String) : Action → List Part
  | .update _ _ => [.text (url ++ "/"), .slot (idSlot true)]
  | .delete _ => [.text (url ++ "/"), .slot (idSlot true)]
  | .find _ _ => [.text (url ++ "/"), .slot (idSlot false)]
  | _ => [.text url]

def Action.queryTemplates : Action → List (String × Template)
  | .find _ _ => [("filter", .slot filterSlot)]
  | .query _ => [("filter", .slot filterSlot)]
  | _ => []

def Action.bodyTemplate : Action → Option Template
  | .create _ => some (.slot bodySlot)
  | .update _ _ => some (.slot bodySlot)
  | _ => none

/-- The operation that comes of the template for an action. -/
def Action.operation (a : Action) (url : String) (functions : List (String × List Value))
    (name : Option String) : Operation where
  source := a.template url
  name
  method := (a.template url).method
  url := .url (a.parts url)
  query := a.queryTemplates
  headers := []
  body := a.bodyTemplate
  response := none
  functions

section Compilation

variable {url baseUrl model : String}

lemma under_url (baseUrl model : String) :
    ∃ separator, (separator = "" ∧ baseUrl ≠ "" ∨ separator = "/") ∧
      (under baseUrl model).url = baseUrl ++ separator ++ model := by
  unfold under
  split
  · next hlast =>
    refine ⟨"", .inl ⟨rfl, ?_⟩, by simp⟩
    rintro rfl
    simp at hlast
  · exact ⟨"/", .inr rfl, rfl⟩

lemma url_ne_empty (baseUrl model : String) : (under baseUrl model).url ≠ "" := by
  obtain ⟨separator, hseparator, hurl⟩ := under_url baseUrl model
  rw [hurl]
  obtain ⟨-, hbase⟩ | rfl := hseparator
  · simp [hbase]
  · simp

/-- More text after a text does not make it an expression. -/
lemma noExpression_append {s t : String} (hs : s.toList.head? ≠ some '$')
    (ht : s = "" → t.toList.head? ≠ some '$') : (s ++ t).toList.head? ≠ some '$' := by
  rw [String.toList_append, List.head?_append]
  cases hhead : s.toList.head? with
  | none =>
    have hempty : s = "" := by simpa using hhead
    exact ht hempty
  | some c =>
    rw [hhead] at hs
    exact hs

/-- A collection has a plain URL if its base is plain, and its model has no braces. -/
lemma isPlain_url (hbase : IsPlain baseUrl) (hmodel : '{' ∉ model.toList) :
    IsPlain (under baseUrl model).url := by
  obtain ⟨separator, hseparator, hurl⟩ := under_url baseUrl model
  have hbrace : '{' ∉ separator.toList := by
    rcases hseparator with ⟨rfl, -⟩ | rfl <;> decide
  rw [hurl, String.append_assoc]
  constructor
  · simp [hbase.braceless, hbrace, hmodel]
  · refine noExpression_append hbase.noExpression fun hempty => ?_
    obtain ⟨-, hne⟩ | rfl := hseparator
    · exact absurd hempty hne
    · simp

lemma compileUrl_plain (hne : url ≠ "") (h : IsPlain url) :
    Template.compileUrl url = .ok (.url [.text url]) :=
  Template.compileUrl_of_parts h.noExpression (Part.split_plain (by simpa using hne) h.braceless)

/-- How the identifier is written as a slot. -/
def idSyntax (required : Option Bool) : SlotSyntax := ⟨required, "id".toList, none, none⟩

lemma wellFormed_idSyntax (required : Option Bool) : (idSyntax required).WellFormed where
  named := by simp [idSyntax]
  name := by
    have hall : "id".toList.all SlotSyntax.isNameChar = true := by decide
    exact List.all_eq_true.mp hall
  conversion := by simp [idSyntax]
  default := by simp [idSyntax]

/-- A plain URL with the identifier as one more segment. -/
lemma compileUrl_item (h : IsPlain url) (required : Option Bool) :
    Template.compileUrl (url ++ "/" ++ String.ofList (idSyntax required).source) =
      .ok (.url [.text (url ++ "/"), .slot (idSlot (required.getD true))]) := by
  have hbrace : '{' ∉ (url ++ "/").toList := by simp [h.braceless]
  have hdollar : (url ++ "/" ++ String.ofList (idSyntax required).source).toList.head? ≠
      some '$' := by
    rw [String.append_assoc]
    exact noExpression_append h.noExpression fun _ => by simp
  refine Template.compileUrl_of_parts hdollar (Part.split_slot (by simp) hbrace
    (wellFormed_idSyntax required) ?_)
  cases required <;> rfl

lemma compileUrl_template (hne : url ≠ "") (h : IsPlain url) (a : Action) :
    Template.compileUrl (a.template url).url = .ok (.url (a.parts url)) := by
  have hitem (required : Option Bool) {segment : String}
      (hsegment : "/" ++ String.ofList (idSyntax required).source = segment) :
      Template.compileUrl (url ++ segment) =
        .ok (.url [.text (url ++ "/"), .slot (idSlot (required.getD true))]) := by
    rw [← hsegment, ← String.append_assoc]
    exact compileUrl_item h required
  cases a with
  | create body => exact compileUrl_plain hne h
  | update id body => exact hitem none (by decide)
  | delete id => exact hitem none (by decide)
  | deleteAll => exact compileUrl_plain hne h
  | find id filter => exact hitem (some false) (by decide)
  | query filter => exact compileUrl_plain hne h

lemma upper_method : ∀ method ∈ ["POST", "PUT", "DELETE", "GET"], Text.upper method = method := by
  decide +kernel

/-- The templates can be compiled. -/
lemma ofTemplate_template (hne : url ≠ "") (h : IsPlain url) (a : Action)
    (functions : List (String × List Value)) (name : Option String) :
    Operation.ofTemplate (a.template url) functions name = .ok (a.operation url functions name) := by
  have hquery : Template.compileEntries .query (a.template url).query = .ok a.queryTemplates := by
    cases a <;> rfl
  have hheaders : (a.template url).headers = [] := by cases a <;> rfl
  have hbody : Operation.compileBody (a.template url).body = .ok a.bodyTemplate := by
    cases a <;> rfl
  have hresponse : (a.template url).response = none := by cases a <;> rfl
  have hmethod : Text.upper (a.template url).method = (a.template url).method :=
    upper_method _ (by cases a <;> simp [Action.template])
  rw [Operation.ofTemplate, compileUrl_template hne h, ok_bind, hquery, ok_bind, hheaders, hbody,
    Operation.compileResponse, hresponse, hmethod]
  rfl

end Compilation

/-! ### Requests -/

section Requests

variable {a : Action} {functions : List (String × List Value)} {name : Option String}
  {params : List Value} {c : Call} {scope : Scope} {url : String} {options : Value}

/-- The templates have no headers of their own, so that there is at most the one for options. -/
lemma headersOf_operation [Json.Depth] (a : Action) (scope : Scope) :
    ((a.operation url functions name).headersOf scope).map Operation.nonEmpty =
      optionsHeaders scope.options := by
  have hdeclares : (a.operation url functions name).declaresOptions = false := by
    cases a <;> rfl
  have hadded : (a.operation url functions name).headersOf scope =
      (a.operation url functions name).optionsHeader scope.options := by
    unfold Operation.headersOf
    cases (a.operation url functions name).optionsHeader scope.options <;> rfl
  rw [hadded, Operation.optionsHeader, hdeclares, Bool.or_false, optionsHeaders]
  split
  · rfl
  · cases Json.text scope.options <;> rfl

/-- An operation of a template makes its request like a collection: of the URL, the entries of the
query that are there, the body and the options. -/
lemma request_operation [Json.Depth] {body : Value} {query : List (String × Value)}
    (hslots : Operation.AllProvided scope (a.operation url functions name).slots)
    (hquery : Template.evaluateEntries scope a.queryTemplates = .ok query)
    (hbody : (a.operation url functions name).bodyOf scope = .ok body) :
    (a.operation url functions name).request scope =
      (a.operation url functions name).uriOf scope >>= fun uri =>
        describe (a.template url).method uri scope.options body (Operation.nonEmpty query) := by
  rw [Operation.request, (Operation.requireSlots_eq_ok _ scope).mpr hslots, ok_bind]
  congr 1
  funext uri
  change (Template.evaluateEntries scope a.queryTemplates >>= _) = _
  rw [hquery, ok_bind, hbody, describe, ← headersOf_operation a scope]
  cases (a.operation url functions name).headersOf scope <;> rfl

/-! ### URLs -/

lemma uriOf_of_parts [Json.Depth] {op : Operation} {parts : List Part} {cs : List Char}
    (hparts : op.url = .url parts) (hcs : Template.urlOfParts scope.lookup parts = .ok cs)
    (hne : cs ≠ []) : op.uriOf scope = .ok (String.ofList cs) := by
  have hurl : op.url.evaluate scope = .ok (.str (String.ofList cs)) := by
    rw [hparts, Template.evaluate, Template.fillWith, hcs, ok_bind]
  rw [Operation.uriOf, hurl, ok_bind]
  exact if_neg (by simpa using hne)

/-- A URL that is nothing but text. -/
lemma uriOf_plain [Json.Depth] {op : Operation} (hparts : op.url = .url [.text url])
    (hne : url ≠ "") :
    op.uriOf scope = .ok url := by
  have hcs : Template.urlOfParts scope.lookup [.text url] = .ok (url.toList ++ []) := rfl
  rw [uriOf_of_parts hparts hcs (by simpa using hne), List.append_nil, String.ofList_toList]

/-- The text of an identifier within a URL. -/
lemma escaped_identifier {id : Value} (hid : isIdentifier id = true) :
    Template.escaped id = if id.isWritable then .ok (Text.Percent.encodeChars id.text.toList)
      else .error (.notWritable .tooManyDigits) := by
  cases id with
  | str s => rfl
  | int n =>
    rw [Template.escaped, Template.written, Value.inText]
    · split <;> rfl
    all_goals simp
  | _ => simp [isIdentifier] at hid

lemma identifier_not_null {id : Value} (hid : isIdentifier id = true) : id.isNull = false := by
  cases id <;> simp_all [isIdentifier, Value.isNull]

lemma isNull_of_truthy {v : Value} (h : v.truthy = true) : v.isNull = false := by
  cases v <;> first | rfl | cases h

/-- A URL with the identifier as one more segment. -/
lemma uriOf_item [Json.Depth] {op : Operation} {required : Bool} {id : Value}
    (hparts : op.url = .url [.text (url ++ "/"), .slot (idSlot required)])
    (hlookup : scope.lookup (idSlot required) = .ok id) (hid : isIdentifier id = true) :
    op.uriOf scope = (Collection.mk url).itemUrl id := by
  have hitem : Template.urlOfParts scope.lookup [.text (url ++ "/"), .slot (idSlot required)] =
      Template.escaped id >>= fun here => .ok ((url ++ "/").toList ++ here ++ []) := by
    rw [Template.urlOfParts, hlookup, ok_bind, if_neg (by simp [identifier_not_null hid])]
    rfl
  rw [escaped_identifier hid] at hitem
  rw [itemUrl]
  split
  · next hwritable =>
    rw [if_pos hwritable, ok_bind] at hitem
    rw [uriOf_of_parts hparts hitem (by simp), Text.Percent.encode]
    simp [String.append_assoc]
  · next hwritable =>
    rw [if_neg hwritable, error_bind] at hitem
    rw [Operation.uriOf, hparts, Template.evaluate, Template.fillWith, hitem]
    rfl

/-- Without an identifier the slash before it goes, too. -/
lemma uriOf_absent [Json.Depth] {op : Operation} {required : Bool}
    (hparts : op.url = .url [.text (url ++ "/"), .slot (idSlot required)])
    (hlookup : scope.lookup (idSlot required) = .ok .null) (hne : url ≠ "") :
    op.uriOf scope = .ok url := by
  have hcs : Template.urlOfParts scope.lookup [.text (url ++ "/"), .slot (idSlot required)] =
      .ok (Template.withoutSlash (url ++ "/").toList ++ []) := by
    rw [Template.urlOfParts, hlookup, ok_bind]
    rfl
  have hslash : Template.withoutSlash (url ++ "/").toList = url.toList := by
    simp [Template.withoutSlash]
  rw [hslash, List.append_nil] at hcs
  rw [uriOf_of_parts hparts hcs (by simpa using hne), String.ofList_toList]

/-! ### Agreement -/

lemma evaluate_filter [Json.Depth] {filter : Value} (h : scope.lookup filterSlot = .ok filter) :
    Template.evaluateEntries scope [("filter", .slot filterSlot)] =
      .ok (if filter.isNull then [] else [("filter", filter)]) := by
  rw [Template.evaluateEntries, Template.evaluate, Template.fillWith, h]
  rfl

/-- The only slot that must be filled is that for the identifier of an item. -/
lemma mem_slots (ha : a.Identified) {s : Slot}
    (hs : s ∈ (a.operation url functions name).slots) :
    s ∈ [bodySlot, filterSlot, idSlot false] ∨
      s = idSlot true ∧ ∃ id, isIdentifier id = true ∧ ("id", id) ∈ a.values := by
  cases a with
  | create body =>
    change s ∈ [bodySlot] at hs
    exact .inl (List.mem_append_left [filterSlot, idSlot false] hs)
  | update id body =>
    change s ∈ [idSlot true, bodySlot] at hs
    rcases List.mem_cons.mp hs with rfl | hbody
    · exact .inr ⟨rfl, id, ha, by simp [Action.values]⟩
    · exact .inl (List.mem_append_left [filterSlot, idSlot false] hbody)
  | delete id =>
    change s ∈ [idSlot true] at hs
    obtain rfl := List.mem_singleton.mp hs
    exact .inr ⟨rfl, id, ha, by simp [Action.values]⟩
  | deleteAll => cases hs
  | find id filter =>
    change s ∈ [idSlot false, filterSlot] at hs
    have hsub : [idSlot false, filterSlot] ⊆ [bodySlot, filterSlot, idSlot false] := by decide
    exact .inl (hsub hs)
  | query filter =>
    change s ∈ [filterSlot] at hs
    exact .inl (List.mem_cons_of_mem _ (List.mem_append_left [idSlot false] hs))

/-- No slot has a conversion or a default of its own, or is named by a position. -/
lemma bare_slots : ∀ s ∈ [bodySlot, filterSlot, idSlot false, idSlot true],
    Text.looksNumeric s.name = false ∧ s.conversion = none ∧ s.default = none := by
  decide

lemma not_numeric (ha : a.Identified) {s : Slot}
    (hs : s ∈ (a.operation url functions name).slots) : Text.looksNumeric s.name = false := by
  obtain hoptional | ⟨rfl, -⟩ := mem_slots ha hs
  · exact (bare_slots s (List.mem_append_left [idSlot true] hoptional)).1
  · exact (bare_slots _ (by simp)).1

/-- A slot is filled with what the action has for it. -/
lemma lookup_value [Json.Depth] {op : Operation} (hscope : op.scopeOf params c = .ok scope)
    (hvalues : ∀ e ∈ a.values, c.argument params e.1 = e.2) {s : Slot}
    (hs : s ∈ [bodySlot, filterSlot, idSlot false, idSlot true]) {v : Value}
    (hv : (s.name, v) ∈ a.values) : scope.lookup s = .ok v := by
  obtain ⟨hname, hconv, hdefault⟩ := bare_slots s hs
  rw [Operation.lookup_bare hscope hname hconv hdefault, hvalues _ hv]

/-- The slots that must be filled are. -/
lemma allProvided_action [Json.Depth] {op : Operation} (ha : a.Identified)
    (hscope : op.scopeOf params c = .ok scope)
    (hvalues : ∀ e ∈ a.values, c.argument params e.1 = e.2) :
    Operation.AllProvided scope (a.operation url functions name).slots := by
  intro s hs hrequired
  obtain hoptional | ⟨rfl, id, hidentifier, hv⟩ := mem_slots ha hs
  · have hnot : ∀ s ∈ [bodySlot, filterSlot, idSlot false], s.required = false := by decide
    rw [hnot s hoptional] at hrequired
    cases hrequired
  · exact ⟨id, lookup_value hscope hvalues (by simp) hv, identifier_not_null hidentifier⟩

/-- A call that has the values of an action makes its request. -/
lemma request_action [Json.Depth] (hne : url ≠ "") (ha : a.Identified)
    (hscope : (a.operation url functions name).scopeOf params c = .ok scope)
    (hvalues : ∀ e ∈ a.values, c.argument params e.1 = e.2) :
    (a.operation url functions name).request scope =
      (Collection.mk url).descriptor a scope.options := by
  have hslots : Operation.AllProvided scope (a.operation url functions name).slots :=
    allProvided_action ha hscope hvalues
  have hbody {v : Value} (hv : ("body", v) ∈ a.values) : scope.lookup bodySlot = .ok v :=
    lookup_value hscope hvalues (by simp) hv
  have hfilter {v : Value} (hv : ("filter", v) ∈ a.values) : scope.lookup filterSlot = .ok v :=
    lookup_value hscope hvalues (by simp) hv
  have hid {v : Value} (required : Bool) (hv : ("id", v) ∈ a.values) :
      scope.lookup (idSlot required) = .ok v :=
    lookup_value hscope hvalues (by cases required <;> simp) hv
  cases a with
  | create body =>
    have hgiven := hbody (v := body) (by simp [Action.values])
    rw [request_operation hslots rfl hgiven, uriOf_plain rfl hne, ok_bind]
    rfl
  | update id body =>
    have hgiven := hbody (v := body) (by simp [Action.values])
    rw [request_operation hslots rfl hgiven, uriOf_item rfl (hid true (by simp [Action.values])) ha]
    rfl
  | delete id =>
    rw [request_operation hslots rfl rfl, uriOf_item rfl (hid true (by simp [Action.values])) ha]
    rfl
  | deleteAll =>
    rw [request_operation hslots rfl rfl, uriOf_plain rfl hne, ok_bind]
    rfl
  | find id filter =>
    have hgiven := hid false (v := if id.truthy then id else .null) (by simp [Action.values])
    have hquery := evaluate_filter (hfilter (v := filter) (by simp [Action.values]))
    have hrest : Operation.nonEmpty (if filter.isNull then [] else [("filter", filter)]) =
        if filter.isNull then none else filterQuery filter := by
      cases filter.isNull <;> rfl
    rw [request_operation hslots hquery rfl, hrest, descriptor]
    by_cases htruthy : id.truthy = true
    · have hidentifier : isIdentifier id = true := by
        refine ha.resolve_right fun hnull => ?_
        rw [hnull] at htruthy
        cases htruthy
      rw [if_pos htruthy] at hgiven ⊢
      rw [uriOf_item rfl hgiven hidentifier]
      rfl
    · rw [if_neg htruthy] at hgiven ⊢
      rw [uriOf_absent rfl hgiven hne]
      rfl
  | query filter =>
    have hpresent : (if filter.truthy then filter else .map []).isNull = false := by
      split
      · next htruthy => exact isNull_of_truthy htruthy
      · rfl
    have hquery := evaluate_filter (hfilter (List.mem_singleton_self _))
    rw [hpresent] at hquery
    rw [request_operation hslots hquery rfl, uriOf_plain rfl hne, ok_bind]
    rfl

end Requests

/-! ### Calls -/

section Calls

open Operation (optionsName)

variable {op : Operation} {params params' : List Value} {c : Call}
  {assigned : List (String × Value)} {n : Nat}

/-- The names of parameters count only as far as there are positional arguments. -/
lemma bind_congr_params [Json.Depth] (hzip : params.zip c.positional = params'.zip c.positional)
    (hlength : c.positional.length ≤ params.length)
    (hlength' : c.positional.length ≤ params'.length) : op.bind params c = op.bind params' c := by
  have harguments : op.argumentsOf params c = op.argumentsOf params' c := by
    rw [Operation.argumentsOf_eq, Operation.argumentsOf_eq, Operation.mostPositional,
      Operation.mostPositional, hzip]
    cases Operation.positionsOf op.slots with
    | error f => rfl
    | ok most =>
      have hnot : ¬ max params.length most < c.positional.length := by omega
      have hnot' : ¬ max params'.length most < c.positional.length := by omega
      rw [ok_bind, ok_bind]
      change (if _ then _ else _) = (if _ then _ else _)
      rw [if_neg hnot, if_neg hnot']
  rw [Operation.bind, Operation.bind, Operation.scopeOf, Operation.scopeOf, harguments]

/-- What comes by position needs parameters of the right names, and no others. -/
lemma bind_of_names [Json.Depth] (h : c.Passes assigned n)
    (hparams : (assigned.take n).map (fun e => .str e.1) <+: params) :
    op.bind params c = op.bind ((assigned.map (·.1)).map .str) c := by
  obtain ⟨more, rfl⟩ := hparams
  have hlength : c.positional.length = ((assigned.take n).map fun e => Value.str e.1).length := by
    rw [h.positional, List.length_map, List.length_map]
  have hzip (more : List Value) :
      ((assigned.take n).map (fun e => Value.str e.1) ++ more).zip c.positional =
        ((assigned.take n).map fun e => Value.str e.1).zip c.positional := by
    have happend : ((assigned.take n).map (fun e => Value.str e.1) ++ more).zip
        (c.positional ++ []) = _ := List.zip_append hlength.symm
    rwa [List.append_nil, List.zip_nil_right, List.append_nil] at happend
  have hnames : (assigned.map (·.1)).map Value.str =
      (assigned.take n).map (fun e => .str e.1) ++ (assigned.drop n).map (fun e => .str e.1) := by
    rw [← List.map_append, List.take_append_drop, List.map_map]
    rfl
  have hle (more : List Value) : c.positional.length ≤
      ((assigned.take n).map (fun e => Value.str e.1) ++ more).length := by
    rw [List.length_append]
    omega
  rw [hnames]
  exact bind_congr_params ((hzip more).trans (hzip _).symm) (hle more) (hle _)

/-- The values that the templates ask for are among those that are assigned, where null may be left
out, and so are the options. -/
structure Action.Assigns (a : Action) (options : Value) (assigned : List (String × Value)) :
    Prop where
  nodup : (assigned.map (·.1)).Nodup
  values : ∀ e ∈ a.values, (assigned.lookup e.1).getD .null = e.2
  options : (assigned.lookup optionsName).getD .null = options

/-- However the values are passed, the request is that of the action. -/
lemma bind_operation [Json.Depth] {a : Action} {url : String}
    {functions : List (String × List Value)}
    {name : Option String} {options : Value} (hne : url ≠ "") (ha : a.Identified)
    (hassigned : a.Assigns options assigned) (h : c.Passes assigned n)
    (hparams : (assigned.take n).map (fun e => .str e.1) <+: params) :
    (a.operation url functions name).bind params c =
      (Collection.mk url).descriptor a options := by
  have hread : ∀ s ∈ (a.operation url functions name).slots, s.Readable := by
    intro s hs
    rw [← s.isOk_index, Operation.index_of_not_numeric (not_numeric ha hs)]
    rfl
  have hzip : (assigned.map (·.1)).zip (assigned.map (·.2)) = assigned := by
    rw [← List.zip_of_prod rfl rfl]
  rw [bind_of_names h hparams]
  rw [← hzip] at h
  have hargument (name : String) : c.argument ((assigned.map (·.1)).map .str) name =
      (assigned.lookup name).getD .null := by
    rw [h.argument_eq hassigned.nodup, hzip]
  obtain ⟨scope, hscope⟩ := Operation.exists_scopeOf h hassigned.nodup hread
  have hoptions : scope.options = options := by
    obtain ⟨_, -, rfl⟩ := Operation.scopeOf_eq_ok hscope
    rw [← hassigned.options]
    exact hargument optionsName
  have hvalues : ∀ e ∈ a.values, c.argument ((assigned.map (·.1)).map .str) e.1 = e.2 := by
    intro e he
    rw [hargument, hassigned.values e he]
  rw [Operation.bind, hscope, ok_bind, request_action hne ha hscope hvalues, hoptions]

/-- **Collections are operations.** For a plain base URL and a model without braces, the template for
any action on the collection can be compiled. However the identifier, the body, the filter and the
options are passed to it, by position, by keyword or, for the options, as such, binding it comes to
the request of the collection, or to the same fault. -/
theorem action_eq_template [Json.Depth] {baseUrl model : String} (hbase : IsPlain baseUrl)
    (hmodel : '{' ∉ model.toList) {a : Action} (ha : a.Identified) (options : Value)
    (functions : List (String × List Value)) (name : Option String) :
    ∃ op, Operation.ofTemplate (a.template (under baseUrl model).url) functions name = .ok op ∧
      ∀ assigned n params c, a.Assigns options assigned → c.Passes assigned n →
        (assigned.take n).map (fun e => .str e.1) <+: params →
        op.bind params c = (under baseUrl model).descriptor a options := by
  have hne : (under baseUrl model).url ≠ "" := url_ne_empty baseUrl model
  have hplain : IsPlain (under baseUrl model).url := isPlain_url hbase hmodel
  refine ⟨_, ofTemplate_template hne hplain a functions name, ?_⟩
  intro assigned n params c hassigned hpasses hparams
  exact bind_operation hne ha hassigned hpasses hparams

attribute [local instance] Json.Depth.thousand

/-- An item with a slash within its identifier. -/
def itemAction : Action := .find (.str "a/b") (.map [(.str "tag", .str "new")])

/-- The values for it, with options that count as false. -/
def itemValues : List (String × Value) :=
  [("options", .map []), ("filter", .map [(.str "tag", .str "new")]), ("id", .str "a/b")]

/-- The options by position, and the others by keyword. -/
def itemCall : Call :=
  ⟨[.map []], [("id", .str "a/b"), ("filter", .map [(.str "tag", .str "new")])], .null⟩

theorem item_eq_template :
    IsPlain "http://host/api/" ∧ '{' ∉ "items".toList ∧ itemAction.Identified ∧
      itemAction.Assigns (.map []) itemValues ∧ itemCall.Passes itemValues 1 ∧
      ((under "http://host/api/" "items").descriptor itemAction (.map [])).isOk = true ∧
      ∃ op, Operation.ofTemplate
          (itemAction.template (under "http://host/api/" "items").url) [] none = .ok op ∧
        op.bind [.str "options", .str "more"] itemCall =
          (under "http://host/api/" "items").descriptor itemAction (.map []) := by
  have hbase : IsPlain "http://host/api/" := ⟨by decide, by decide⟩
  have hmodel : '{' ∉ "items".toList := by decide
  have ha : itemAction.Identified := .inl rfl
  have hvalues : ∀ e ∈ itemAction.values, (itemValues.lookup e.1).getD .null = e.2 :=
    List.forall_mem_cons.mpr ⟨rfl, List.forall_mem_singleton.mpr rfl⟩
  have hassigned : itemAction.Assigns (.map []) itemValues := ⟨by decide, hvalues, rfl⟩
  have hpasses : itemCall.Passes itemValues 1 := ⟨rfl, .swap _ _ _, rfl⟩
  have hok : ((under "http://host/api/" "items").descriptor itemAction (.map [])).isOk = true := by
    decide +kernel
  obtain ⟨op, hop, hbind⟩ := action_eq_template hbase hmodel ha (.map []) [] none
  exact ⟨hbase, hmodel, ha, hassigned, hpasses, hok, op, hop,
    hbind itemValues 1 _ itemCall hassigned hpasses ⟨[.str "more"], rfl⟩⟩

end Calls

end Collection

end RestOperations
