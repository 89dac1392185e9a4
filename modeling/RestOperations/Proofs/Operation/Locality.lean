import RestOperations.Proofs.Operation.Arguments
import RestOperations.Proofs.Operation.Slots
import RestOperations.Proofs.Template.Locality

/-!
Where the arguments of a call end up. Each part of a request is made of the arguments that the slots
of its own template name, and no other argument finds its way into it: where two calls provide the
same for these slots, they get the same for that part, however they differ otherwise.
-/

namespace RestOperations

namespace Call

/-- What the call provides for a slot: the argument at the position that its name stands for, or
else the one of its name. Null is none. -/
def provided (params : List Value) (c : Call) (s : Slot) : Except Fault Value :=
  s.index.map fun i? =>
    match i? with
    | some i => (c.positional[i]?).getD .null
    | none => c.argument params s.name

/-- The calls provide the same for all of the slots. -/
def Alike (params params' : List Value) (c c' : Call) (slots : List Slot) : Prop :=
  ∀ s ∈ slots, c.provided params s = c'.provided params' s

end Call

namespace Operation

variable {op : Operation} {params params' : List Value} {c c' : Call} {scope scope' : Scope}

/-! ### Scopes -/

lemma scopeOf_eq_ok (h : op.scopeOf params c = .ok scope) :
    ∃ arguments, op.argumentsOf params c = .ok arguments ∧
      scope = ⟨arguments, c.positional, c.argument params optionsName⟩ := by
  obtain ⟨arguments, harguments, h⟩ := bind_eq_ok.mp h
  cases h
  exact ⟨arguments, harguments, by rw [op.get?_argumentsOf harguments, Call.argument]⟩

lemma given_scopeOf (h : op.scopeOf params c = .ok scope) (s : Slot) :
    scope.given s = c.provided params s := by
  obtain ⟨arguments, harguments, rfl⟩ := scopeOf_eq_ok h
  rw [Scope.given, Call.provided]
  congr 1
  funext i?
  cases i? with
  | some i => rfl
  | none =>
    dsimp only
    rw [op.get?_argumentsOf harguments, Call.argument]

/-- Calls that provide the same for slots fill them the same. -/
lemma sameFor_of_alike [Json.Depth] (h : op.scopeOf params c = .ok scope)
    (h' : op.scopeOf params' c' = .ok scope') {slots : List Slot}
    (halike : Call.Alike params params' c c' slots) : Template.SameFor scope scope' slots := by
  intro s hs
  rw [Scope.lookup, Scope.lookup, given_scopeOf h, given_scopeOf h', halike s hs]

/-! ### Parts of the request -/

/-- No expression stands anywhere in the operation, but for the one that takes the result. -/
def isPlain (op : Operation) : Bool := op.templates.all Template.isPlain

/-- The parts of an operation without expressions are without expressions. -/
lemma isPlain_iff : op.isPlain = true ↔
    op.url.isPlain = true ∧ Template.entriesPlain op.query = true ∧
      Template.entriesPlain op.headers = true ∧ ∀ t, op.body = some t → t.isPlain = true := by
  rw [isPlain, templates, List.all_cons, List.all_append, List.all_append]
  cases op.body <;> simp [Template.entriesPlain]

def bodySlots (op : Operation) : List Slot := op.body.elim [] Template.slots

lemma uriOf_congr [Json.Depth] (hplain : op.isPlain = true)
    (h : Template.SameFor scope scope' op.url.slots) :
    op.uriOf scope = op.uriOf scope' := by
  rw [uriOf, uriOf, Template.evaluate_congr (isPlain_iff.mp hplain).1 h]

lemma bodyOf_congr [Json.Depth] (hplain : op.isPlain = true)
    (h : Template.SameFor scope scope' op.bodySlots) :
    op.bodyOf scope = op.bodyOf scope' := by
  have hbody := (isPlain_iff.mp hplain).2.2.2
  unfold bodySlots at h
  unfold bodyOf
  split
  · next t ht =>
    rw [ht] at h
    exact Template.evaluate_congr (hbody t ht) h
  · rfl

lemma requireSlots_congr [Json.Depth] (op : Operation) {slots : List Slot}
    (h : Template.SameFor scope scope' slots) :
    op.requireSlots scope slots = op.requireSlots scope' slots := by
  induction slots with
  | nil => rfl
  | cons s slots ih =>
    rw [Template.SameFor, List.forall_mem_cons] at h
    rw [requireSlots_cons, requireSlots_cons, h.1, ih h.2]

/-- The slots of an operation are those of its parts. -/
lemma slots_parts (op : Operation) : op.slots = op.url.slots ++
    (Template.slotsOfEntries op.query ++ (Template.slotsOfEntries op.headers ++ op.bodySlots)) := by
  rw [slots, bodySlots]
  cases op.body <;> rfl

lemma sameFor_parts [Json.Depth] (h : Template.SameFor scope scope' op.slots) :
    Template.SameFor scope scope' op.url.slots ∧
      Template.SameFor scope scope' (Template.slotsOfEntries op.query) ∧
      Template.SameFor scope scope' (Template.slotsOfEntries op.headers) ∧
      Template.SameFor scope scope' op.bodySlots := by
  rw [slots_parts] at h
  simpa only [Template.SameFor, List.forall_mem_append] using h

/-- The request of an operation without expressions is settled by what fills the slots, and by the
options. -/
lemma request_congr [Json.Depth] (hplain : op.isPlain = true)
    (h : Template.SameFor scope scope' op.slots)
    (hoptions : scope.options = scope'.options) : op.request scope = op.request scope' := by
  obtain ⟨-, hquery, hheaders, -⟩ := isPlain_iff.mp hplain
  obtain ⟨hu, hq, hh, hb⟩ := sameFor_parts h
  rw [request, request, requireSlots_congr op h, uriOf_congr hplain hu,
    Template.evaluateEntries_congr hquery hq, headersOf, headersOf,
    Template.evaluateEntries_congr hheaders hh, hoptions, bodyOf_congr hplain hb]

/-- The texts of headers are those of their values, one by one. -/
lemma lookup_headerTexts (name : String) {es : List (String × Value)}
    {texts : List (String × String)} (h : headerTexts es = .ok texts) :
    (es.lookup name).map headerText = (texts.lookup name).map .ok := by
  induction es generalizing texts with
  | nil =>
    cases h
    rfl
  | cons e es ih =>
    obtain ⟨k, v⟩ := e
    obtain ⟨s, hs, h⟩ := bind_eq_ok.mp h
    obtain ⟨more, hmore, h⟩ := bind_eq_ok.mp h
    cases h
    rw [List.lookup_cons, List.lookup_cons]
    cases name == k with
    | true => simp [hs]
    | false => exact ih hmore

lemma declaresOptions_of_mem (h : optionsName ∈ op.source.headers.map (·.1)) :
    op.declaresOptions = true := by
  obtain ⟨e, he, hname⟩ := List.mem_map.mp h
  have hsame : Text.sameLetters e.1 optionsName = true := by
    rw [hname, Text.sameLetters_self]
  exact List.any_eq_true.mpr ⟨e, he, hsame⟩

/-- The header for options is none of those that the template declares. -/
lemma lookup_optionsHeader {name : String} {options : Value} {added : List (String × String)}
    (hname : name ∈ op.source.headers.map (·.1)) (h : op.optionsHeader options = .ok added) :
    added.lookup name = none := by
  unfold optionsHeader at h
  split at h
  · cases h
    rfl
  · next hnot =>
    obtain ⟨s, -, h⟩ := bind_eq_ok.mp h
    cases h
    have hne : name ≠ optionsName := by
      rintro rfl
      exact hnot (by rw [declaresOptions_of_mem hname, Bool.or_true])
    rw [List.lookup_cons, beq_false_of_ne hne]
    rfl

/-- A header of the template is the same for two calls that fill its slots the same. -/
lemma lookup_headersOf [Json.Depth] {name : String} {hs hs' : List (String × String)}
    (hplain : op.isPlain = true) (hname : name ∈ op.source.headers.map (·.1))
    (h : op.headersOf scope = .ok hs) (h' : op.headersOf scope' = .ok hs')
    (hsame : Template.SameFor scope scope'
      (Template.slotsOfEntries (Template.entriesOf name op.headers))) :
    hs.lookup name = hs'.lookup name := by
  obtain ⟨values, hvalues, h⟩ := bind_eq_ok.mp h
  obtain ⟨texts, htexts, h⟩ := bind_eq_ok.mp h
  obtain ⟨added, hadded, h⟩ := bind_eq_ok.mp h
  cases h
  obtain ⟨values', hvalues', h'⟩ := bind_eq_ok.mp h'
  obtain ⟨texts', htexts', h'⟩ := bind_eq_ok.mp h'
  obtain ⟨added', hadded', h'⟩ := bind_eq_ok.mp h'
  cases h'
  have hvalue : values.lookup name = values'.lookup name :=
    Template.lookup_evaluateEntries (isPlain_iff.mp hplain).2.2.1 hvalues hvalues' hsame
  have htext : texts.lookup name = texts'.lookup name := by
    have hok := lookup_headerTexts name htexts
    rw [hvalue, lookup_headerTexts name htexts'] at hok
    exact (Option.map_injective (fun _ _ => Except.ok.inj) hok).symm
  rw [List.lookup_append, List.lookup_append, htext, lookup_optionsHeader hname hadded,
    lookup_optionsHeader hname hadded']

lemma getD_nonEmpty {α : Type} (xs : List α) : (nonEmpty xs).getD [] = xs := by
  cases xs <;> rfl

/-- The parts of a request that is bound. -/
lemma bind_parts [Json.Depth] {d : Descriptor} (h : op.bind params c = .ok d) :
    ∃ scope, op.scopeOf params c = .ok scope ∧ op.uriOf scope = .ok d.uri ∧
      Template.evaluateEntries scope op.query = .ok (d.query.getD []) ∧
      op.headersOf scope = .ok (d.headers.getD []) ∧ op.bodyOf scope = .ok d.body := by
  obtain ⟨scope, hscope, h⟩ := bind_eq_ok.mp h
  obtain ⟨_, -, h⟩ := bind_eq_ok.mp h
  obtain ⟨uri, huri, h⟩ := bind_eq_ok.mp h
  obtain ⟨query, hquery, h⟩ := bind_eq_ok.mp h
  obtain ⟨headers, hheaders, h⟩ := bind_eq_ok.mp h
  obtain ⟨body, hbody, h⟩ := bind_eq_ok.mp h
  cases h
  exact ⟨scope, hscope, huri, by rw [getD_nonEmpty, hquery], by rw [getD_nonEmpty, hheaders], hbody⟩

/-- **Locality.** Let two calls of an operation without expressions both be bound. An entry of the
query, a header of the template, the URL and the body are each the same in both requests if the
calls provide the same for the slots of that part. -/
theorem bind_local [Json.Depth] (hplain : op.isPlain = true) {d d' : Descriptor}
    (h : op.bind params c = .ok d) (h' : op.bind params' c' = .ok d') :
    (∀ name, Call.Alike params params' c c'
        (Template.slotsOfEntries (Template.entriesOf name op.query)) →
      (d.query.getD []).lookup name = (d'.query.getD []).lookup name) ∧
    (∀ name ∈ op.source.headers.map (·.1), Call.Alike params params' c c'
        (Template.slotsOfEntries (Template.entriesOf name op.headers)) →
      (d.headers.getD []).lookup name = (d'.headers.getD []).lookup name) ∧
    (Call.Alike params params' c c' op.url.slots → d.uri = d'.uri) ∧
    (Call.Alike params params' c c' op.bodySlots → d.body = d'.body) := by
  obtain ⟨scope, hscope, huri, hquery, hheaders, hbody⟩ := bind_parts h
  obtain ⟨scope', hscope', huri', hquery', hheaders', hbody'⟩ := bind_parts h'
  have hsame {slots : List Slot} (h : Call.Alike params params' c c' slots) :=
    sameFor_of_alike hscope hscope' h
  refine ⟨fun name halike => ?_, fun name hname halike => ?_, fun halike => ?_, fun halike => ?_⟩
  · exact Template.lookup_evaluateEntries (isPlain_iff.mp hplain).2.1 hquery hquery' (hsame halike)
  · exact lookup_headersOf hplain hname hheaders hheaders' (hsame halike)
  · rw [uriOf_congr hplain (hsame halike), huri'] at huri
    exact (Except.ok.inj huri).symm
  · rw [bodyOf_congr hplain (hsame halike), hbody'] at hbody
    exact (Except.ok.inj hbody).symm

attribute [local instance] Json.Depth.thousand

/-- A call of the same operation as `noteCall`, with a note. -/
def signedCall : Call :=
  ⟨[.str "7"], [("tag", .str "new"), ("by", .str "me"), ("note", .str "ok")], .null⟩

/-- A call with the same tag, and nothing else in common. -/
def unsignedCall : Call := ⟨[.int 8, .str "later"], [("tag", .str "new")], .bool true⟩

/-- The tags are the same in both requests, though the URLs are not. -/
theorem same_tags :
    ∃ op d d', compile noteTemplate .null none = .ok op ∧ op.isPlain = true ∧
      op.bind [.str "id"] signedCall = .ok d ∧
      op.bind [.str "id", .str "note"] unsignedCall = .ok d' ∧ d.uri ≠ d'.uri ∧
      Call.Alike [.str "id"] [.str "id", .str "note"] signedCall unsignedCall
        (Template.slotsOfEntries (Template.entriesOf "tags" op.query)) ∧
      (d.query.getD []).lookup "tags" = (d'.query.getD []).lookup "tags" := by
  obtain ⟨op, hop, hplain, hslots, d, hd, d', hd', huri⟩ :
      ∃ op, compile noteTemplate .null none = .ok op ∧ op.isPlain = true ∧
        Template.slotsOfEntries (Template.entriesOf "tags" op.query) =
          [⟨"tag", .query, true, none, none⟩] ∧
        ∃ d, op.bind [.str "id"] signedCall = .ok d ∧
          ∃ d', op.bind [.str "id", .str "note"] unsignedCall = .ok d' ∧ d.uri ≠ d'.uri := by
    decide +kernel
  have halike : Call.Alike [.str "id"] [.str "id", .str "note"] signedCall unsignedCall
      (Template.slotsOfEntries (Template.entriesOf "tags" op.query)) := by
    rw [hslots, Call.Alike, List.forall_mem_singleton]
    rfl
  exact ⟨op, d, d', hop, hplain, hd, hd', huri, halike,
    (bind_local hplain hd hd').1 "tags" halike⟩

end Operation

end RestOperations
