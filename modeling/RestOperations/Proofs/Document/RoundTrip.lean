import RestOperations.Document.Load
import RestOperations.Proofs.Json.Refused
import RestOperations.Proofs.Schema

/-!
Documents as records. A document that has been checked passes the check as a record, with all its
defaults written out, and comes back as it is: so does each template and each entry in it. Hence a
document can be kept as JSON, as long as what is in it is made of what JSON has; and however deep it
is, it comes back wherever JSON is read to that depth.
-/

namespace RestOperations

namespace OperationTemplate

/-- Method and URL are not empty, and names of entries differ. -/
structure Proper (t : OperationTemplate) : Prop where
  method : t.method ≠ ""
  url : t.url ≠ ""
  query : (t.query.map (·.1)).Nodup
  headers : (t.headers.map (·.1)).Nodup

theorem proper_ofValue {v : Value} {t : OperationTemplate} (h : ofValue v = .ok t) : t.Proper := by
  obtain ⟨hquery, hheaders⟩ := nodup_ofValue h
  obtain ⟨ms, -, h⟩ := bind_eq_ok.mp h
  obtain ⟨⟨⟨⟨method, url⟩, ⟨query, headers⟩, body, response⟩, _⟩, hall, h⟩ := bind_eq_ok.mp h
  cases h
  simp only [Checked.both_ok_iff] at hall
  obtain ⟨⟨⟨hmethod, hurl⟩, -⟩, -⟩ := hall
  obtain ⟨_, hmethod⟩ := Schema.required_eq_ok hmethod
  obtain ⟨_, hurl⟩ := Schema.required_eq_ok hurl
  exact ⟨Schema.nonEmptyText_ne hmethod, Schema.nonEmptyText_ne hurl, hquery, hheaders⟩

/-- The members of the record. -/
def members (t : OperationTemplate) : List (Value × Value) :=
  [(.str "method", .str t.method), (.str "url", .str t.url), (.str "query", entries t.query),
    (.str "headers", entries t.headers), (.str "body", t.body),
    (.str "response", responseValue t.response)]

/-- A template that has been checked passes the check as a record. -/
theorem ofValue_toValue {t : OperationTemplate} (h : t.Proper) : ofValue t.toValue = .ok t := by
  have hmethod : Schema.required t.members "method" Schema.nonEmptyText = .ok t.method :=
    Schema.required_of_member rfl (Schema.nonEmptyText_str h.method)
  have hurl : Schema.required t.members "url" Schema.nonEmptyText = .ok t.url :=
    Schema.required_of_member rfl (Schema.nonEmptyText_str h.url)
  have hquery : Schema.optional t.members "query" [] Schema.anyTexts = .ok t.query :=
    Schema.optional_of_member rfl (Schema.texts_of_nodup id h.query fun _ _ => rfl)
  have hheaders : Schema.optional t.members "headers" [] Schema.anyTexts = .ok t.headers :=
    Schema.optional_of_member rfl (Schema.texts_of_nodup id h.headers fun _ _ => rfl)
  have hbody : Schema.optional t.members "body" .null .ok = .ok t.body := rfl
  have hresponse : Schema.optional t.members "response" none (Schema.nullable Schema.text) =
      .ok t.response :=
    Schema.optional_of_member rfl (by cases t.response <;> rfl)
  have honly : Schema.only fieldNames t.members = .ok () := rfl
  have hrecord : Schema.record t.toValue = .ok t.members := rfl
  rw [ofValue, hrecord, ok_bind, hmethod, hurl, hquery, hheaders, hbody, hresponse, honly]
  rfl

end OperationTemplate

namespace Document

namespace Entry

/-- The template is proper, if there is one, and names of functions differ. -/
structure Proper (e : Entry) : Prop where
  template : ∀ t ∈ e.template, t.Proper
  functions : (e.functions.map (·.1)).Nodup

lemma proper_ofValue {v : Value} {e : Entry} (h : ofValue v = .ok e) : e.Proper := by
  obtain ⟨ms, -, h⟩ := bind_eq_ok.mp h
  obtain ⟨⟨template, functions⟩, hall, h⟩ := bind_eq_ok.mp h
  cases h
  obtain ⟨htemplate, hfunctions⟩ := Checked.both_ok_iff.mp hall
  refine ⟨fun t ht => ?_, Schema.nodup_optional_texts hfunctions⟩
  obtain rfl | ⟨_, htemplate⟩ := Schema.optional_eq_ok htemplate
  · cases ht
  · obtain rfl | ⟨t', rfl, ht'⟩ := Schema.nullable_eq_ok htemplate
    · cases ht
    · cases ht
      exact OperationTemplate.proper_ofValue ht'

lemma templateOf_templateValue {t? : Option OperationTemplate} (h : ∀ t ∈ t?, t.Proper) :
    templateOf (templateValue t?) = .ok t? := by
  cases t? with
  | none => rfl
  | some t => exact congrArg (·.map some) (OperationTemplate.ofValue_toValue (h t rfl))

lemma functions_functionsValue {fs : List (String × List String)} (h : (fs.map (·.1)).Nodup) :
    Schema.texts (Schema.list Schema.text) (functionsValue fs) = .ok fs :=
  Schema.texts_of_nodup .ofTexts h fun _ _ => Schema.list_of_checked .str fun _ _ => rfl

/-- The members of the record. -/
def members (e : Entry) : List (Value × Value) :=
  [(.str "template", templateValue e.template), (.str "functions", functionsValue e.functions)]

/-- An entry that has been checked passes the check as a record. -/
theorem ofValue_toValue {e : Entry} (h : e.Proper) : ofValue e.toValue = .ok e := by
  have hrecord : Schema.record e.toValue = .ok e.members := rfl
  have htemplate : Schema.optional e.members "template" none templateOf = .ok e.template :=
    Schema.optional_of_member rfl (templateOf_templateValue h.template)
  have hfunctions : Schema.optional e.members "functions" []
      (Schema.texts (Schema.list Schema.text)) = .ok e.functions :=
    Schema.optional_of_member rfl (functions_functionsValue h.functions)
  rw [ofValue, hrecord, ok_bind, htemplate, hfunctions]
  rfl

end Entry

lemma proper_check {v : Value} {d : Document} (h : check v = .ok d) : ∀ e ∈ d.entries, e.Proper := by
  obtain ⟨ms, -, h⟩ := bind_eq_ok.mp h
  obtain ⟨⟨debug, entries⟩, hall, h⟩ := bind_eq_ok.mp h
  cases h
  obtain ⟨-, hentries⟩ := Checked.both_ok_iff.mp hall
  intro e he
  obtain rfl | ⟨_, hentries⟩ := Schema.optional_eq_ok hentries
  · cases he
  · obtain ⟨_, hx⟩ := Schema.mem_of_list hentries e he
    exact Entry.proper_ofValue hx

/-- The members of the record. -/
def members (d : Document) : List (Value × Value) :=
  [(.str "debug", .bool d.debug), (.str "operations", .list (d.entries.map Entry.toValue))]

/-- A document that has been checked passes the check as a record. -/
theorem check_toValue {v : Value} {d : Document} (h : check v = .ok d) : check d.toValue = .ok d := by
  have hrecord : Schema.record d.toValue = .ok d.members := rfl
  have hdebug : Schema.optional d.members "debug" false Schema.bool = .ok d.debug := rfl
  have hentries : Schema.optional d.members "operations" [] (Schema.list Entry.ofValue) =
      .ok d.entries :=
    Schema.optional_of_member rfl
      (Schema.list_of_checked Entry.toValue fun e he => Entry.ofValue_toValue (proper_check h e he))
  rw [check, hrecord, ok_bind, hdebug, hentries]
  rfl

end Document

/-! ### What JSON has -/

namespace OperationTemplate

/-- What may be any value: the entries of the query and of the headers, and the body. -/
def freeForm (t : OperationTemplate) : List Value :=
  t.query.map (·.2) ++ (t.headers.map (·.2) ++ [t.body])

lemma isData_toValue {t : OperationTemplate} (h : t.Proper)
    (hdata : ∀ v ∈ t.freeForm, Json.isData v = true) : Json.isData t.toValue = true := by
  rw [freeForm, List.forall_mem_append, List.forall_mem_append, List.forall_mem_map,
    List.forall_mem_map, List.forall_mem_singleton] at hdata
  obtain ⟨hquery, hheaders, hbody⟩ := hdata
  have hquery : Json.isData (entries t.query) = true := Json.isData_texts id h.query hquery
  have hheaders : Json.isData (entries t.headers) = true := Json.isData_texts id h.headers hheaders
  have hresponse : Json.isData (responseValue t.response) = true := by cases t.response <;> rfl
  simp [toValue, Json.isData, Json.membersAreData, Value.get?, hquery, hheaders, hbody, hresponse]

end OperationTemplate

namespace Document

/-- All values in the document that may be any. -/
def freeForm (d : Document) : List Value :=
  d.entries.flatMap fun e => e.template.toList.flatMap OperationTemplate.freeForm

namespace Entry

lemma isData_toValue {e : Entry} (h : e.Proper)
    (hdata : ∀ t ∈ e.template, ∀ v ∈ t.freeForm, Json.isData v = true) :
    Json.isData e.toValue = true := by
  have htemplate : Json.isData (templateValue e.template) = true := by
    cases ht : e.template with
    | none => rfl
    | some t => exact OperationTemplate.isData_toValue (h.template t ht) (hdata t ht)
  have hfunctions : Json.isData (functionsValue e.functions) = true :=
    Json.isData_texts .ofTexts h.functions fun _ _ => Json.isData_ofTexts _
  simp [toValue, Json.isData, Json.membersAreData, Value.get?, htemplate, hfunctions]

end Entry

lemma isData_toValue {v : Value} {d : Document} (h : check v = .ok d)
    (hdata : ∀ v ∈ d.freeForm, Json.isData v = true) : Json.isData d.toValue = true := by
  have hentries : Json.itemsAreData (d.entries.map Entry.toValue) = true := by
    refine Json.itemsAreData_map Entry.toValue fun e he => ?_
    refine Entry.isData_toValue (proper_check h e he) fun t ht v hv => hdata v ?_
    exact List.mem_flatMap.mpr ⟨e, he, List.mem_flatMap.mpr ⟨t, Option.mem_toList.mpr ht, hv⟩⟩
  simp [toValue, Json.isData, Json.membersAreData, Value.get?, hentries]

/-- The text of a record is read back if it is not too deep. -/
lemma ofJson_text_iff [Json.Depth] {v : Value} {d : Document} {s : String} (h : check v = .ok d)
    (hdata : ∀ v ∈ d.freeForm, Json.isData v = true) (hs : Json.text d.toValue = .ok s) :
    ofJson (.text s) = .ok d ↔ Json.nesting d.toValue ≤ Json.Depth.limit := by
  have hrecord := isData_toValue h hdata
  constructor
  · intro hjson
    by_contra hdeep
    obtain ⟨e, he, -⟩ := Json.tooDeep_text hrecord hs (Nat.lt_of_not_le hdeep)
    rw [ofJson, readJson, he] at hjson
    cases hjson
  · intro hdepth
    have hread : Json.read s = .ok d.toValue :=
      Json.readWith_text hrecord (Json.suits_inForce hdepth) hs
    rw [ofJson, readJson, hread]
    exact mapError_eq_ok.mpr (check_toValue h)

/-- **Documents are read back.** What comes of a content that passes the check passes it as a record
once more, and as itself. If all values in it that may be any are made of what JSON has, the record
has a text as JSON, and from this text the same document is read by every reader that goes as deep as
the record does, and by no other. -/
theorem read_back [Json.Depth] {content : Value} {d : Document} (h : ofValue content = .ok d)
    (hdata : ∀ v ∈ d.freeForm, Json.isData v = true) :
    ofValue d.toValue = .ok d ∧ ∃ s, Json.text d.toValue = .ok s ∧
      (ofJson (.text s) = .ok d ↔ Json.nesting d.toValue ≤ Json.Depth.limit) := by
  have hcheck := mapError_eq_ok.mp h
  obtain ⟨s, hs⟩ := Json.exists_text (Json.isJson_of_isData _ (isData_toValue hcheck hdata))
  exact ⟨mapError_eq_ok.mpr (check_toValue hcheck), s, hs, ofJson_text_iff hcheck hdata hs⟩

attribute [local instance] Json.Depth.thousand

/-- A document with a word for a truth value, an entry that lacks its template, and fields that are
left out. -/
def loose : Value :=
  .map [(.str "debug", .str "Yes"), (.str "operations", .list [.map [],
    .map [(.str "template", .map [(.str "method", .str "GET"), (.str "url", .str "/"),
      (.str "body", .list [.null, .int (-4)])]),
      (.str "functions", .map [(.str "f", .tuple [.str "id"])])]])]

theorem loose_read_back :
    ∃ d, ofValue loose = .ok d ∧ (∀ v ∈ d.freeForm, Json.isData v = true) ∧
      ofValue d.toValue = .ok d ∧ ∃ s, Json.text d.toValue = .ok s ∧ ofJson (.text s) = .ok d := by
  obtain ⟨d, hd, hdata, hdepth⟩ : ∃ d, ofValue loose = .ok d ∧
      (∀ v ∈ d.freeForm, Json.isData v = true) ∧
        Json.nesting d.toValue ≤ Json.Depth.limit := by
    decide +kernel
  obtain ⟨hvalue, s, hs, hread⟩ := read_back hd hdata
  exact ⟨d, hd, hdata, hvalue, s, hs, hread.mpr hdepth⟩

end Document

end RestOperations
