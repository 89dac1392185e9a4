import RestOperations.Proofs.Operation.Required
import RestOperations.Proofs.Template.Slots

/-!
The slots of an operation, and the check that the required ones are filled. The slots are listed as
they are written, so that the check sees all that an evaluation may ask for: it turns a call down
for the first required slot that lacks an argument, and nothing else does.
-/

namespace RestOperations

namespace OperationTemplate

open SlotSyntax

/-- The slots as they are written: of the URL, of the query, of the headers and of the body. -/
def Lists (t : OperationTemplate) (slots : List Slot) : Prop :=
  ∃ url query headers body, Listed [t.url] url ∧ Listed (t.query.flatMap (·.2.texts)) query ∧
    Listed (t.headers.flatMap (·.2.texts)) headers ∧ Listed t.body.texts body ∧
    slots = url.map (·.slotIn .path) ++ (query.map (·.slotIn .query) ++
      (headers.map (·.slotIn .header) ++ body.map (·.slotIn .body)))

lemma Lists.unique {t : OperationTemplate} {slots slots' : List Slot} (h : t.Lists slots)
    (h' : t.Lists slots') : slots = slots' := by
  obtain ⟨url, query, headers, body, hu, hq, hh, hb, rfl⟩ := h
  obtain ⟨url', query', headers', body', hu', hq', hh', hb', rfl⟩ := h'
  rw [hu.unique hu', hq.unique hq', hh.unique hh', hb.unique hb']

end OperationTemplate

namespace Operation

open SlotSyntax

lemma slots_compileBody {v : Value} {body : Option Template} (h : compileBody v = .ok body) :
    ∃ ss, Listed v.texts ss ∧ body.elim [] Template.slots = ss.map (·.slotIn .body) := by
  unfold compileBody at h
  split at h
  · next hv =>
    cases h
    obtain rfl := Value.isNull_iff.mp hv
    exact ⟨[], .nil, rfl⟩
  · obtain ⟨t, ht, rfl⟩ := map_eq_ok.mp h
    exact Template.slots_compile .body v t ht

lemma ofTemplate_eq_ok {t : OperationTemplate} {functions : List (String × List Value)}
    {name : Option String} {op : Operation} :
    ofTemplate t functions name = .ok op ↔ ∃ url query headers body response,
      Template.compileUrl t.url = .ok url ∧ Template.compileEntries .query t.query = .ok query ∧
        Template.compileEntries .header t.headers = .ok headers ∧ compileBody t.body = .ok body ∧
          compileResponse t name = .ok response ∧
            (⟨t, name, Text.upper t.method, url, query, headers, body, response, functions, false⟩ :
              Operation) = op := by
  simp only [ofTemplate, bind_eq_ok]
  constructor
  · rintro ⟨url, hurl, query, hquery, headers, hheaders, body, hbody, response, hresponse, h⟩
    exact ⟨url, query, headers, body, response, hurl, hquery, hheaders, hbody, hresponse,
      Except.ok.inj h⟩
  · rintro ⟨url, query, headers, body, response, hurl, hquery, hheaders, hbody, hresponse, rfl⟩
    exact ⟨url, hurl, query, hquery, headers, hheaders, body, hbody, response, hresponse, rfl⟩

lemma lists_ofTemplate {t : OperationTemplate} {functions : List (String × List Value)}
    {name : Option String} {op : Operation} (h : ofTemplate t functions name = .ok op) :
    t.Lists op.slots := by
  obtain ⟨url, query, headers, body, response, hurl, hquery, hheaders, hbody, -, rfl⟩ :=
    ofTemplate_eq_ok.mp h
  obtain ⟨u, hu, hslotsU⟩ := Template.slots_compileUrl hurl
  obtain ⟨q, hq, hslotsQ⟩ := Template.slots_compileEntries hquery
  obtain ⟨hs, hhs, hslotsH⟩ := Template.slots_compileEntries hheaders
  obtain ⟨b, hb, hslotsB⟩ := slots_compileBody hbody
  refine ⟨u, q, hs, b, hu, hq, hhs, hb, ?_⟩
  rw [slots, hslotsU, hslotsQ, hslotsH, ← hslotsB]
  cases body <;> rfl

lemma compile_eq (template functions : Value) (name : Option String) :
    compile template functions name =
      if template.isNull then
        what functions name >>= fun w => .error (.templateMissing w)
      else match OperationTemplate.ofValue template with
        | .error issues => what functions name >>= fun w => .error (.templateInvalid w issues)
        | .ok t => ofTemplate t [] name >>= fun op =>
            functionsOf functions >>= fun functions => .ok { op with functions } := by
  unfold compile
  cases OperationTemplate.ofValue template <;> cases template.isNull <;>
    cases what functions name <;> rfl

/-- An operation is compiled from a template that is valid, and has its functions from a table. -/
lemma exists_ofTemplate {template functions : Value} {name : Option String} {op : Operation}
    (h : compile template functions name = .ok op) :
    ∃ t op' table, OperationTemplate.ofValue template = .ok t ∧ ofTemplate t [] name = .ok op' ∧
      functionsOf functions = .ok table ∧ { op' with functions := table } = op := by
  rw [compile_eq] at h
  split at h
  · obtain ⟨_, _, h⟩ := bind_eq_ok.mp h
    cases h
  · split at h
    · obtain ⟨_, _, h⟩ := bind_eq_ok.mp h
      cases h
    · next t ht =>
      obtain ⟨op', hop', h⟩ := bind_eq_ok.mp h
      obtain ⟨table, htable, h⟩ := bind_eq_ok.mp h
      exact ⟨t, op', table, ht, hop', htable, Except.ok.inj h⟩

/-- A compiled operation lists the slots of its template, all of them and no others. -/
lemma lists_compile {template functions : Value} {name : Option String} {op : Operation}
    (h : compile template functions name = .ok op) :
    ∃ t, OperationTemplate.ofValue template = .ok t ∧ t.Lists op.slots := by
  obtain ⟨t, op', table, ht, hop', -, rfl⟩ := exists_ofTemplate h
  have hlists : t.Lists op'.slots := lists_ofTemplate hop'
  exact ⟨t, ht, hlists⟩

/-! ### Required slots -/

lemma faultsIn_uriOf [Json.Depth] (op : Operation) (scope : Scope) :
    FaultsIn Fault.OfEvaluation (op.uriOf scope) := by
  have hinvalid (v : Value) : (op.invalidUrl v).OfEvaluation := by
    unfold invalidUrl
    split
    · exact .invalidUrl _ _
    · exact .notWritable _
  refine (Template.faultsIn_evaluate scope op.url).bind fun v => ?_
  split
  · split
    · exact (faultsIn_error _).mpr (hinvalid _)
    · exact faultsIn_ok _
  · exact (faultsIn_error _).mpr (hinvalid _)

lemma faultsIn_headerTexts (es : List (String × Value)) :
    FaultsIn Fault.OfEvaluation (headerTexts es) := by
  induction es with
  | nil => exact faultsIn_ok _
  | cons e es ih =>
    refine FaultsIn.bind ?_ fun _ => ih.bind fun _ => faultsIn_ok _
    unfold headerText
    split
    · exact faultsIn_ok _
    · exact faultsIn_mapError (fun _ => .notWritable _) _

lemma faultsIn_headersOf [Json.Depth] (op : Operation) (scope : Scope) :
    FaultsIn Fault.OfEvaluation (op.headersOf scope) := by
  refine (Template.faultsIn_evaluateEntries scope op.headers).bind fun es => ?_
  refine (faultsIn_headerTexts es).bind fun _ => FaultsIn.bind ?_ fun _ => faultsIn_ok _
  unfold optionsHeader
  split
  · exact faultsIn_ok _
  · exact (faultsIn_mapError (fun _ => .notWritable _) _).bind fun _ => faultsIn_ok _

lemma faultsIn_bodyOf [Json.Depth] (op : Operation) (scope : Scope) :
    FaultsIn Fault.OfEvaluation (op.bodyOf scope) := by
  unfold bodyOf
  split
  · exact Template.faultsIn_evaluate scope _
  · exact faultsIn_ok _

/-- A call is turned down for a missing argument exactly at the first required slot that is not
provided. -/
lemma request_missing_iff [Json.Depth] (op : Operation) (scope : Scope) (s : Slot) :
    op.request scope = .error (.argumentMissing op.title s) ↔
      Reaches scope op.slots s ∧ scope.Lacks s := by
  have hnot (f : Fault) (hf : f.OfEvaluation) : f ≠ .argumentMissing op.title s := by
    rintro rfl
    cases hf
  have hrest := (op.faultsIn_uriOf scope).bind fun uri =>
    (Template.faultsIn_evaluateEntries scope op.query).bind fun query =>
      (op.faultsIn_headersOf scope).bind fun headers => (op.faultsIn_bodyOf scope).bind fun body =>
        faultsIn_ok (⟨op.method, uri, true, nonEmpty query, body, nonEmpty headers⟩ : Descriptor)
  rw [request, bind_eq_error, requireSlots_eq_error]
  constructor
  · rintro (⟨r, hr, hf | ⟨hl, hf⟩⟩ | ⟨_, _, hf⟩)
    · exact absurd rfl (hnot _ (scope.faultsIn_lookup r _ hf))
    · cases hf
      exact ⟨hr, hl⟩
    · exact absurd rfl (hnot _ (hrest _ hf))
  · rintro ⟨hr, hl⟩
    exact .inl ⟨s, hr, .inr ⟨hl, rfl⟩⟩

/-- What is not lacking is provided, if nothing is wrong with it. -/
lemma provides_iff [Json.Depth] {scope : Scope} {s : Slot} (h : (scope.lookup s).isOk = true) :
    scope.Provides s ↔ ¬ scope.Lacks s := by
  refine ⟨fun hp => hp.not_lacks, fun hl => ?_⟩
  by_contra hp
  obtain ⟨f, hf⟩ | hl' := Scope.lacks_of_not_provides hp
  · simp [hf, Except.isOk, Except.toBool] at h
  · exact hl hl'

/-- The first required slot that lacks an argument. -/
def firstLacking? [Json.Depth] (op : Operation) (scope : Scope) : Option Slot :=
  op.slots.find? fun s => s.required && decide (scope.Lacks s)

lemma firstLacking?_isSome [Json.Depth] (op : Operation) (scope : Scope) :
    (op.firstLacking? scope).isSome = true ↔
      ∃ s ∈ op.slots, s.required = true ∧ scope.Lacks s := by
  simp [firstLacking?, List.find?_isSome]

/-- Where nothing is wrong with the required slots, the check gets to the first one that lacks an
argument. -/
lemma firstLacking?_eq_some [Json.Depth] {op : Operation} {scope : Scope} {s : Slot}
    (h : ∀ s ∈ op.slots, s.required = true → (scope.lookup s).isOk = true) :
    op.firstLacking? scope = some s ↔ Reaches scope op.slots s ∧ scope.Lacks s := by
  rw [firstLacking?, List.find?_eq_some_iff_append, Reaches]
  simp only [Bool.and_eq_true, decide_eq_true_eq, Bool.not_eq_true', Bool.and_eq_false_imp,
    decide_eq_false_iff_not]
  constructor
  · rintro ⟨⟨hs, hl⟩, before, after, heq, hbefore⟩
    refine ⟨⟨before, after, heq, hs, fun r hr hreq => ?_⟩, hl⟩
    have hmem : r ∈ op.slots := by
      rw [heq]
      exact List.mem_append_left _ hr
    exact (provides_iff (h r hmem hreq)).mpr (hbefore r hr hreq)
  · rintro ⟨⟨before, after, heq, hs, hbefore⟩, hl⟩
    exact ⟨⟨hs, hl⟩, before, after, heq, fun r hr hreq => (hbefore r hr hreq).not_lacks⟩

/-- The templates of an operation. -/
def templates (op : Operation) : List Template :=
  op.url :: (op.query.map (·.2) ++ (op.headers.map (·.2) ++ op.body.toList))

lemma slots_templates (op : Operation) : op.slots = op.templates.flatMap Template.slots := by
  rw [slots, templates]
  cases op.body <;> simp [List.flatMap_map]

/-- **Required slots.** An operation lists the slots of its template as they are written. For a call
whose required slots are all converted, binding complains about a missing argument exactly if one of
them is null, and it is about the first one. Where a call is bound, evaluation has asked for listed
slots only, and for none that is required and null. -/
theorem required_slots_checked [Json.Depth] {template functions : Value} {name : Option String}
    {op : Operation}
    (hop : compile template functions name = .ok op) :
    (∃ t, OperationTemplate.ofValue template = .ok t ∧
      ∀ slots, t.Lists slots ↔ slots = op.slots) ∧
    ∀ params c scope, op.scopeOf params c = .ok scope →
      ((∀ s ∈ op.slots, s.required = true → (scope.lookup s).isOk = true) →
        ((∃ s, op.bind params c = .error (.argumentMissing op.title s)) ↔
          ∃ s ∈ op.slots, s.required = true ∧ scope.lookup s = .ok .null) ∧
        ∀ s, op.firstLacking? scope = some s →
          ∃ f, op.bind params c = .error f ∧ f = .argumentMissing op.title s ∧
            f.isBinding = true ∧ f.name? = some s.name ∧ f.destination? = some s.destination) ∧
      ∀ d, op.bind params c = .ok d →
        (∀ s ∈ op.slots, s.required = true → scope.lookup s ≠ .ok .null) ∧
        ∀ fill, (∀ s ∈ op.slots, (s.required = true → scope.lookup s ≠ .ok .null) →
            fill s = scope.lookup s) →
          ∀ t ∈ op.templates, t.fillWith fill scope.data = t.evaluate scope := by
  have hbind {params c scope} (hscope : op.scopeOf params c = .ok scope) :
      op.bind params c = op.request scope := by
    rw [bind, hscope, ok_bind]
  refine ⟨?_, fun params c scope hscope => ⟨fun hok => ⟨?_, fun s hs => ?_⟩, fun d hd => ?_⟩⟩
  · obtain ⟨t, ht, hlists⟩ := lists_compile hop
    exact ⟨t, ht, fun slots => ⟨fun h => h.unique hlists, fun h => h ▸ hlists⟩⟩
  · rw [hbind hscope]
    simp only [request_missing_iff, ← firstLacking?_eq_some hok]
    rw [← Option.isSome_iff_exists, firstLacking?_isSome]
    rfl
  · rw [firstLacking?_eq_some hok, ← request_missing_iff, ← hbind hscope] at hs
    exact ⟨_, hs, rfl, rfl, rfl, rfl⟩
  · rw [hbind hscope] at hd
    obtain ⟨_, hreq, -⟩ := bind_eq_ok.mp hd
    have hall := (op.requireSlots_eq_ok scope).mp hreq
    have hnull (s : Slot) (hs : s ∈ op.slots) (hr : s.required = true) :
        scope.lookup s ≠ .ok .null := (hall s hs hr).not_lacks
    refine ⟨hnull, fun fill hfill t ht => Template.fillWith_congr scope.data t fun s hs => ?_⟩
    have hmem : s ∈ op.slots := by
      rw [slots_templates, List.mem_flatMap]
      exact ⟨t, ht, hs⟩
    exact hfill s hmem (hnull s hmem)

attribute [local instance] Json.Depth.thousand

/-- A template with a required slot deep within its body. -/
def noteTemplate : Value :=
  .map [(.str "method", .str "PUT"), (.str "url", .str "/items/\x7bid:integer\x7d"),
    (.str "query", .map [(.str "tags", .list [.str "\x7b^tag\x7d"])]),
    (.str "body", .map [(.str "notes",
      .list [.map [(.str "text", .str "\x7b!by\x7d: \x7b^note\x7d")]])])]

/-- A call with arguments for the path and the query, but no note. -/
def noteCall : Call := ⟨[.str "7"], [("tag", .str "new")], .null⟩

theorem note_required :
    ∃ op, compile noteTemplate .null none = .ok op ∧
      ∃ scope, op.scopeOf [.str "id"] noteCall = .ok scope ∧
        (∀ s ∈ op.slots, s.required = true → (scope.lookup s).isOk = true) ∧
        ∃ s, op.bind [.str "id"] noteCall = .error (.argumentMissing op.title s) := by
  obtain ⟨op, hop, scope, hscope, hok, hnull⟩ : ∃ op, compile noteTemplate .null none = .ok op ∧
      ∃ scope, op.scopeOf [.str "id"] noteCall = .ok scope ∧
        (∀ s ∈ op.slots, s.required = true → (scope.lookup s).isOk = true) ∧
        ∃ s ∈ op.slots, s.required = true ∧ scope.Lacks s := by
    decide +kernel
  have hmissing := ((required_slots_checked hop).2 _ _ scope hscope).1 hok
  exact ⟨op, hop, scope, hscope, hok, hmissing.1.mpr hnull⟩

end Operation

end RestOperations
