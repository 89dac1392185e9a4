import RestOperations.Collection
import RestOperations.Http.Message
import RestOperations.Proofs.Operation.Options
import RestOperations.Proofs.Schema
import RestOperations.Proofs.Value.Members

/-!
Requests as records. The query and the headers of a request are maps: no two entries have one name,
whether the request is read from a record or made by an operation or for a collection. The record of
a request leaves out what is empty, and so does what is sent for it. Hence a record stands for its
request: it can be read, what is read has the same record, and the same is sent for it. A body is left
out only where it is null, not where it is empty or false.
-/

namespace RestOperations

namespace Descriptor

/-! ### Requests with distinct names -/

/-- The names of a request that has been checked are distinct. -/
theorem exists_keyed_of_ofMembers {ms : List (Value × Value)} {d : Descriptor}
    (h : ofMembers ms = .ok d) : ∃ k : Keyed, k.toDescriptor = d := by
  obtain ⟨⟨⟨method, uri⟩, ⟨json, query⟩, body, headers⟩, hall, h⟩ := bind_eq_ok.mp h
  cases h
  simp only [Checked.both_ok_iff] at hall
  obtain ⟨-, ⟨-, hquery⟩, -, hheaders⟩ := hall
  exact ⟨⟨_, Schema.nodup_nullable_texts hquery, Schema.nodup_nullable_texts hheaders⟩, rfl⟩

/-! ### What is empty -/

/-- Entries, where there are any. -/
def filled {α : Type} : Option (List α) → Option (List α)
  | some [] => none
  | es? => es?

/-- The request where a query or headers that are empty count as none. -/
def withoutEmpty (d : Descriptor) : Descriptor :=
  { d with query := filled d.query, headers := filled d.headers }

section Filled

variable {α : Type} {name name' : String} (view : List α → Value) (es? : Option (List α))

lemma member_filled : member name view (filled es?) = member name view es? := by
  rcases es? with _ | _ | ⟨e, es⟩ <;> rfl

lemma get?_member : Value.get? (member name view es?) (.str name) = (filled es?).map view := by
  rcases es? with _ | _ | ⟨e, es⟩
  · rfl
  · rfl
  · simp [member, Value.get?, filled]

lemma mem_of_mem_filled {es : List α} {es? : Option (List α)} (h : es ∈ filled es?) : es ∈ es? := by
  rcases es? with _ | _ | ⟨e, es⟩
  · cases h
  · cases h
  · exact h

lemma get?_member_of_ne (h : name ≠ name') :
    Value.get? (member name view es?) (.str name') = none := by
  rcases es? with _ | _ | ⟨e, es⟩
  · rfl
  · rfl
  · simp [member, Value.get?, h]

end Filled

lemma toMembers_withoutEmpty (d : Descriptor) : d.withoutEmpty.toMembers = d.toMembers := by
  rw [toMembers, withoutEmpty, member_filled, member_filled]
  rfl

/-- What is left is a map still. -/
def Keyed.filled (d : Keyed) : Keyed where
  toDescriptor := d.withoutEmpty
  nodup_query := fun es h => d.nodup_query es (mem_of_mem_filled h)
  nodup_headers := fun es h => d.nodup_headers es (mem_of_mem_filled h)

/-! ### The members of a record -/

variable (d : Descriptor)

def bodyMember : List (Value × Value) := if d.body.isNull then [] else [(.str "body", d.body)]

lemma get?_bodyMember :
    Value.get? d.bodyMember (.str "body") = if d.body.isNull then none else some d.body := by
  unfold bodyMember
  split <;> simp [Value.get?]

lemma get?_bodyMember_of_ne {name : String} (h : "body" ≠ name) :
    Value.get? d.bodyMember (.str name) = none := by
  unfold bodyMember
  split <;> simp [Value.get?, h]

/-- What is under the name of a member that may be left out. -/
lemma get?_toMembers {name : String} (h : name ∉ ["method", "uri", "json"]) :
    Value.get? d.toMembers (.str name) =
      (Value.get? (member "qs" entries d.query) (.str name)).or
        ((Value.get? d.bodyMember (.str name)).or
          (Value.get? (member "headers" texts d.headers) (.str name))) := by
  simp only [List.mem_cons, List.not_mem_nil, or_false, not_or] at h
  have hfront : Value.get? [(.str "method", .str d.method), (.str "uri", .str d.uri),
      (.str "json", .bool d.json)] (.str name) = none := by
    simp [Value.get?, Ne.symm h.1, Ne.symm h.2.1, Ne.symm h.2.2]
  rw [toMembers, Value.get?_append, hfront, Option.none_or, Value.get?_append, Value.get?_append]
  rfl

lemma get?_query : Value.get? d.toMembers (.str "qs") = (filled d.query).map entries := by
  rw [get?_toMembers d (by decide), get?_member, get?_bodyMember_of_ne d (by decide),
    get?_member_of_ne _ _ (by decide), Option.none_or, Option.or_none]

lemma get?_body :
    Value.get? d.toMembers (.str "body") = if d.body.isNull then none else some d.body := by
  rw [get?_toMembers d (by decide), get?_bodyMember, get?_member_of_ne _ _ (by decide),
    get?_member_of_ne _ _ (by decide), Option.none_or, Option.or_none]

lemma get?_headers : Value.get? d.toMembers (.str "headers") = (filled d.headers).map texts := by
  rw [get?_toMembers d (by decide), get?_member, get?_bodyMember_of_ne d (by decide),
    get?_member_of_ne _ _ (by decide), Option.none_or, Option.none_or]

/-! ### Records that are read -/

lemma optional_query (d : Keyed) :
    Schema.optional d.toMembers "qs" none (Schema.nullable Schema.anyTexts) =
      .ok (filled d.query) := by
  rw [Schema.optional, get?_query]
  cases hes : filled d.query with
  | none => rfl
  | some es =>
    have hnodup : (es.map (·.1)).Nodup := d.nodup_query es (mem_of_mem_filled hes)
    have hread : Schema.anyTexts (entries es) = .ok es :=
      Schema.texts_of_nodup id hnodup fun _ _ => rfl
    change Checked.within ((Schema.anyTexts (entries es)).map some) _ = _
    rw [hread]
    rfl

lemma optional_headers (d : Keyed) :
    Schema.optional d.toMembers "headers" none (Schema.nullable (Schema.texts Schema.text)) =
      .ok (filled d.headers) := by
  rw [Schema.optional, get?_headers]
  cases hes : filled d.headers with
  | none => rfl
  | some es =>
    have hnodup : (es.map (·.1)).Nodup := d.nodup_headers es (mem_of_mem_filled hes)
    have hread : Schema.texts Schema.text (texts es) = .ok es :=
      Schema.texts_of_nodup .str hnodup fun _ _ => rfl
    change Checked.within ((Schema.texts Schema.text (texts es)).map some) _ = _
    rw [hread]
    rfl

lemma optional_body (d : Descriptor) :
    Schema.optional d.toMembers "body" .null .ok = .ok d.body := by
  rw [Schema.optional, get?_body]
  cases hnull : d.body.isNull with
  | true => rw [Value.isNull_iff.mp hnull]; rfl
  | false => rfl

/-- The record of a request is read as the request without what is empty. -/
lemma ofMembers_toMembers (d : Keyed) : ofMembers d.toMembers = .ok d.filled.toDescriptor := by
  have hjson : jsonName d.toMembers = "json" := rfl
  rw [ofMembers, hjson, optional_query d, optional_body, optional_headers d]
  rfl

end Descriptor

/-! ### Requests that are made -/

open Descriptor

lemma nodup_nonEmpty {α : Type} {es : List (String × α)} (h : (es.map (·.1)).Nodup) :
    ∀ es' ∈ Operation.nonEmpty es, (es'.map (·.1)).Nodup := by
  intro es' hes'
  unfold Operation.nonEmpty at hes'
  split at hes'
  · cases hes'
  · rwa [← Option.some.inj hes']

/-- A header is added only where the template declares none of its name. -/
lemma Operation.nodup_headersOf [Json.Depth] {op : Operation} {scope : Scope}
    {headers : List (String × String)}
    (hnames : op.headers.map (·.1) = op.source.headers.map (·.1))
    (hnodup : (op.source.headers.map (·.1)).Nodup) (h : op.headersOf scope = .ok headers) :
    (headers.map (·.1)).Nodup := by
  obtain ⟨declared, added, hdeclared, hadded, rfl⟩ := headersOf_eq_ok.mp h
  have hown : (declared.map (·.1)).Nodup :=
    (hnames ▸ hnodup).sublist (names_declaredHeaders hdeclared)
  by_cases hnone : scope.options = .null ∨ op.declaresOptions = true
  · rw [optionsHeader_eq_nil hnone] at hadded
    cases hadded
    rwa [List.append_nil]
  · rw [not_or, Bool.not_eq_true] at hnone
    obtain ⟨s, -, rfl⟩ := (optionsHeader_eq_ok hnone.1 hnone.2).mp hadded
    have hnew := options_not_declared hnames hnone.2 hdeclared
    rw [List.map_append, List.nodup_append_comm]
    exact List.nodup_cons.mpr ⟨hnew, hown⟩

/-- The names of a request that an operation makes are distinct, as those of its template are. -/
theorem Operation.exists_keyed_of_bind [Json.Depth] {template functions : Value}
    {name : Option String} {op : Operation} {params : List Value} {c : Call} {d : Descriptor}
    (hop : compile template functions name = .ok op) (h : op.bind params c = .ok d) :
    ∃ k : Keyed, k.toDescriptor = d := by
  have hnames := names_headers hop
  obtain ⟨t, op', table, ht, hop', -, rfl⟩ := exists_ofTemplate hop
  obtain ⟨url, query, headers, body, response, -, hquery, -, -, -, rfl⟩ := ofTemplate_eq_ok.mp hop'
  obtain ⟨hnodupQuery, hnodupHeaders⟩ := OperationTemplate.nodup_ofValue ht
  obtain ⟨scope, -, h⟩ := bind_eq_ok.mp h
  obtain ⟨-, uri, qs, hs, b, -, hqs, hhs, -, rfl⟩ := request_eq_ok.mp h
  have hkeys : (qs.map (·.1)).Nodup :=
    ((names_compileEntries hquery).symm ▸ hnodupQuery).sublist (names_evaluateEntries hqs)
  exact ⟨⟨_, nodup_nonEmpty hkeys, nodup_nonEmpty (nodup_headersOf hnames hnodupHeaders hhs)⟩, rfl⟩

namespace Collection

variable {c : Collection} {options body filter : Value} {method uri : String} {d : Descriptor}

lemma nodup_filterQuery (filter : Value) : ∀ es ∈ filterQuery filter, (es.map (·.1)).Nodup := by
  rintro _ ⟨⟩
  exact List.nodup_singleton "filter"

lemma exists_keyed_of_describe {query : Option (List (String × Value))}
    (hquery : ∀ es ∈ query, (es.map (·.1)).Nodup)
    (h : describe method uri options body query = .ok d) : ∃ k : Keyed, k.toDescriptor = d := by
  obtain ⟨headers, hheaders, h⟩ := bind_eq_ok.mp h
  cases h
  refine ⟨⟨_, hquery, fun es hes => ?_⟩, rfl⟩
  unfold optionsHeaders at hheaders
  split at hheaders
  · cases hheaders
    cases hes
  · obtain ⟨s, -, rfl⟩ := map_eq_ok.mp hheaders
    cases hes
    exact List.nodup_singleton "options"

lemma exists_keyed_of_item {id : Value} {query : Option (List (String × Value))}
    (hquery : ∀ es ∈ query, (es.map (·.1)).Nodup)
    (h : (c.itemUrl id >>= fun uri => describe method uri options body query) = .ok d) :
    ∃ k : Keyed, k.toDescriptor = d := by
  obtain ⟨uri, -, h⟩ := bind_eq_ok.mp h
  exact exists_keyed_of_describe hquery h

/-- Names are distinct in a request for the records of a collection too. -/
theorem exists_keyed_of_descriptor {a : Action} (h : c.descriptor a options = .ok d) :
    ∃ k : Keyed, k.toDescriptor = d := by
  have hnone : ∀ es ∈ (none : Option (List (String × Value))), (es.map (·.1)).Nodup := nofun
  cases a with
  | create body => exact exists_keyed_of_describe hnone h
  | update id body => exact exists_keyed_of_item hnone h
  | delete id => exact exists_keyed_of_item hnone h
  | deleteAll => exact exists_keyed_of_describe hnone h
  | find id filter =>
    have hquery : ∀ es ∈ if filter.isNull then none else filterQuery filter,
        (es.map (·.1)).Nodup := by
      split
      · exact hnone
      · exact nodup_filterQuery filter
    rw [descriptor] at h
    split at h
    · exact exists_keyed_of_item hquery h
    · exact exists_keyed_of_describe hquery h
  | query filter => exact exists_keyed_of_describe (nodup_filterQuery _) h

end Collection

namespace Http

variable {d : Descriptor}

/-- Nothing is sent for what is empty. -/
lemma requestOf_withoutEmpty (d : Descriptor) : Request.of d.withoutEmpty = Request.of d := by
  have hparams : paramsOf (filled d.query) = paramsOf d.query := by
    rcases d.query with _ | _ | ⟨e, es⟩ <;> rfl
  have hheaders : headersOf (filled d.headers) = headersOf d.headers := by
    rcases d.headers with _ | _ | ⟨e, es⟩ <;> rfl
  rw [Request.of, withoutEmpty, hparams, hheaders]
  rfl

lemma send_withoutEmpty [Json.Depth] (answer : Answer) (d : Descriptor) :
    send answer d.withoutEmpty = send answer d := by
  rw [send, requestOf_withoutEmpty]
  rfl

/-- A body is sent unless it is null, as JSON or as it is. -/
lemma content_requestOf {r : Request} (h : Request.of d = .ok r) (content : Content) :
    r.content = some content ↔
      d.body ≠ .null ∧ content = if d.json then .json d.body else .plain d.body := by
  obtain ⟨params, -, h⟩ := bind_eq_ok.mp h
  cases h
  rw [contentOf]
  cases hnull : d.body.isNull with
  | true => simp [Value.isNull_iff.mp hnull]
  | false =>
    have hne : d.body ≠ .null := mt Value.isNull_iff.mpr (by simp [hnull])
    rw [if_neg Bool.false_ne_true, Option.some.injEq, and_iff_right hne]
    exact eq_comm

/-- **Records stand for their requests.** The record of a request can be read, and what is read has
the same record. The same is sent for it: the same method, URI, parameters, headers and content, or
none for the same fault; and to any answer it gets the same reply. A body is sent unless it is null,
were it empty, zero or false. -/
theorem record_sent_alike [Json.Depth] (d : Keyed) :
    ∃ d' : Keyed, ofMembers d.toMembers = .ok d'.toDescriptor ∧ d'.toMembers = d.toMembers ∧
      Request.of d'.toDescriptor = Request.of d.toDescriptor ∧
      (∀ answer, send answer d'.toDescriptor = send answer d.toDescriptor) ∧
      ∀ r, Request.of d.toDescriptor = .ok r → ∀ content, r.content = some content ↔
        d.body ≠ .null ∧ content = if d.json then .json d.body else .plain d.body :=
  ⟨d.filled, ofMembers_toMembers d, toMembers_withoutEmpty d.toDescriptor,
    requestOf_withoutEmpty d.toDescriptor, fun answer => send_withoutEmpty answer d.toDescriptor,
    fun _ hr => content_requestOf hr⟩

attribute [local instance] Json.Depth.thousand

/-- A request with headers that are empty, a parameter that is null and a body that is false. -/
def sparseRequest : Keyed where
  method := "POST"
  uri := "/items"
  query := some [("page", .int 0), ("note", .null)]
  body := .bool false
  headers := some []
  nodup_query := by
    rintro _ ⟨⟩
    decide
  nodup_headers := by
    rintro _ ⟨⟩
    decide

theorem sparse_request_sent :
    ∃ (d' : Keyed) (r : Request), ofMembers sparseRequest.toMembers = .ok d'.toDescriptor ∧
      d'.headers = none ∧ Request.of sparseRequest.toDescriptor = .ok r ∧
      Request.of d'.toDescriptor = .ok r ∧ r.params = some [("page", "0")] ∧ r.headers = none ∧
      r.content = some (.json (.bool false)) := by
  obtain ⟨d', hread, -, hsame, -, hcontent⟩ := record_sent_alike sparseRequest
  obtain ⟨r, hr, hparams, hnone⟩ : ∃ r, Request.of sparseRequest.toDescriptor = .ok r ∧
      r.params = some [("page", "0")] ∧ r.headers = none := by
    decide +kernel
  have hempty : d'.headers = none := by
    rw [ofMembers_toMembers sparseRequest] at hread
    rw [← Except.ok.inj hread]
    rfl
  exact ⟨d', r, hread, hempty, hr, hsame.trans hr, hparams, hnone,
    (hcontent r hr _).mpr ⟨by simp [sparseRequest], rfl⟩⟩

end Http

end RestOperations
