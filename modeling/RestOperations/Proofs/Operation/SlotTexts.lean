import RestOperations.Http.Message
import RestOperations.Proofs.Json.Fits
import RestOperations.Proofs.Operation.Entries
import RestOperations.Proofs.Operation.Passing
import RestOperations.Proofs.Slot.Splitting
import RestOperations.Proofs.Template.Addresses
import RestOperations.Proofs.Template.Slashes

/-!
The text of an argument. Headers, the query and the URL are each written by a function of their own,
and a lone slot is not treated as one with text around it. For values that JSON has, all of these come
to the same text.
-/

namespace RestOperations

namespace Value

/-- The value is there, and has this text for a header as well as within other text. -/
structure WrittenAs (v : Value) (t : String) : Prop where
  present : v ≠ .null
  inText : v.inText = .ok t
  inHeader : Operation.headerText v = .ok t

lemma writtenAs_str (s : String) : WrittenAs (.str s) s := ⟨by simp, rfl, rfl⟩

/-- What has its JSON text within other text has it for a header, too. -/
lemma writtenAs_json {v : Value} {t : String} (hnull : v ≠ .null) (hstr : ∀ s, v ≠ .str s)
    (htext : v.inText = .ok t) (hjson : Json.text v = .ok t) : WrittenAs v t where
  present := hnull
  inText := htext
  inHeader := by
    rw [Operation.headerText_eq hstr, hjson]
    rfl

/-- A value of JSON has one text only. -/
lemma exists_writtenAs {v : Value} (h : Json.isJson v = true) (hv : v ≠ .null) :
    ∃ t, WrittenAs v t := by
  cases v with
  | null => exact absurd rfl hv
  | bool b => exact ⟨_, writtenAs_json (by simp) (by simp) rfl (by cases b <;> rfl)⟩
  | int n =>
    rw [Json.isJson] at h
    have hjson : Json.text (.int n) = .ok (toString n) := by
      rw [Json.text, Json.write, Json.writeChars, Json.writeInt?, h]
      exact congrArg Except.ok String.ofList_toList
    have htext : (Value.int n).inText = .ok (toString n) := by
      simp only [inText, isWritable, h, if_true]
      rfl
    exact ⟨toString n, writtenAs_json (by simp) (by simp) htext hjson⟩
  | float x =>
    have hfinite : Json.writeFloat x = (floatText x).toList := by
      rw [Json.isJson, Decimal.isFinite] at h
      unfold Json.writeFloat
      split at h <;> simp_all
    have hjson : Json.text (.float x) = .ok (floatText x) := by
      rw [Json.text, Json.write, Json.writeChars, hfinite]
      exact congrArg Except.ok String.ofList_toList
    have htext : (Value.float x).inText = .ok (floatText x) := by
      simp only [inText, isWritable, if_true]
      rfl
    exact ⟨floatText x, writtenAs_json (by simp) (by simp) htext hjson⟩
  | str s => exact ⟨s, writtenAs_str s⟩
  | list xs =>
    obtain ⟨t, ht⟩ := Json.exists_text h
    exact ⟨t, writtenAs_json (by simp) (by simp) ht ht⟩
  | map ms =>
    obtain ⟨t, ht⟩ := Json.exists_text h
    exact ⟨t, writtenAs_json (by simp) (by simp) ht ht⟩
  | _ => cases h

end Value

namespace SlotSyntax

/-- The slot with text on both sides. -/
def around (s : SlotSyntax) (before after : String) : String :=
  before ++ String.ofList s.source ++ after

/-- The text on both sides of a slot, if any, has no other slot in it, and does not make an expression
of the whole. -/
structure Surrounds (before after : String) : Prop where
  plainBefore : '{' ∉ before.toList
  plainAfter : '{' ∉ after.toList
  noExpression : before.toList.head? ≠ some '$'

variable {s : SlotSyntax} {before after : String}

lemma toSlot_untyped (h : s.conversion = none) (d : Destination) :
    s.toSlot d = .ok (s.slotIn d) := by
  rw [toSlot, slotIn, h]
  rfl

lemma toList_around (s : SlotSyntax) (before after : String) :
    (s.around before after).toList = before.toList ++ (s.source ++ after.toList) := by
  rw [around, String.toList_append, String.toList_append, String.toList_ofList, List.append_assoc]

lemma around_no_expression (h : Surrounds before after) :
    (s.around before after).toList.head? ≠ some '$' := by
  rw [toList_around]
  have hne := h.noExpression
  cases hbefore : before.toList with
  | nil =>
    rw [List.nil_append, source_append]
    simp
  | cons c cs =>
    rw [hbefore] at hne
    exact hne

/-- Only the slot by itself is read as a lone slot. -/
lemma read?_around (hs : s.WellFormed) (h : Surrounds before after) :
    read? (s.around before after).toList =
      if before = "" then some (s, after.toList) else none := by
  rw [toList_around]
  split
  · next hempty =>
    rw [hempty]
    exact read?_source hs _
  · next hne =>
    obtain ⟨c, cs, hbefore⟩ := List.exists_cons_of_ne_nil (mt String.toList_eq_nil_iff.mp hne)
    have hc : c ≠ '{' := fun heq => h.plainBefore (by simp [hbefore, heq])
    rw [hbefore]
    exact Part.read?_of_ne hc _

end SlotSyntax

namespace Template

open SlotSyntax RestOperations.Part Text.Percent

variable {scope : Scope} {s : SlotSyntax} {before after : String} {fill : Slot → Except Fault Value}
  {slot : Slot} {v : Value} {t : String}

/-- An argument fills a slot without a conversion as it is. -/
lemma lookup_of_given [Json.Depth] (hconv : slot.conversion = none)
    (hgiven : scope.given slot = .ok v)
    (hv : v ≠ .null) : scope.lookup slot = .ok v := by
  have hnull : ¬ v.isNull = true := mt Value.isNull_iff.mp hv
  rw [Scope.lookup, hgiven, ok_bind]
  dsimp only
  rw [if_neg hnull, if_neg hnull, Slot.convert, hconv]

lemma textOfParts_optional (rest : List Part) (s : String) :
    textOfParts fill (optional s ++ rest) =
      (textOfParts fill rest).map fun more => more.map (s ++ ·) := by
  by_cases hs : s = ""
  · rw [hs, optional_empty, List.nil_append]
    cases textOfParts fill rest with
    | error f => rfl
    | ok more => cases more <;> simp [Except.map]
  · rw [optional_of_ne hs, List.singleton_append, textOfParts]
    cases textOfParts fill rest <;> rfl

lemma textOfParts_around (hv : fill slot = .ok v) (h : v.WrittenAs t) :
    textOfParts fill (optional before ++ .slot slot :: optional after) =
      .ok (some (before ++ t ++ after)) := by
  have hnull : v.isNull = false := Bool.eq_false_iff.mpr (mt Value.isNull_iff.mp h.present)
  have hafter : textOfParts fill (optional after) = .ok (some after) := by
    rw [← List.append_nil (optional after), textOfParts_optional]
    exact congrArg (Except.ok ∘ some) String.append_empty
  rw [textOfParts_optional, textOfParts, hv, ok_bind, if_neg (by simp [hnull]), written, h.inText,
    mapError_ok, ok_bind, hafter, String.append_assoc]
  rfl

lemma compileString_around (h : Surrounds before after) (d : Destination) :
    compileString (s.around before after) d = compileText (s.around before after) d := by
  unfold compileString
  split
  · next hdollar => exact absurd (by rw [hdollar]; rfl) (around_no_expression h)
  · rfl

lemma compileText_lone (hs : s.WellFormed) (huntyped : s.conversion = none) (d : Destination) :
    compileText (s.around "" "") d = .ok (.slot (s.slotIn d)) := by
  have hnothing : Surrounds "" "" := ⟨by simp, by simp, by simp⟩
  rw [compileText, read?_around hs hnothing, if_pos rfl]
  change ((s.toSlot d).map slot).mapError unknownConversion = _
  rw [toSlot_untyped huntyped]
  rfl

/-- With text on either side, a slot is a part of the text. -/
lemma compileText_around (hs : s.WellFormed) (huntyped : s.conversion = none)
    (h : Surrounds before after) (hside : ¬ (before = "" ∧ after = "")) (d : Destination) :
    compileText (s.around before after) d =
      .ok (.text (optional before ++ .slot (s.slotIn d) :: optional after)) := by
  have hparts : partsOf (s.around before after) d =
      .ok (optional before ++ .slot (s.slotIn d) :: optional after) := by
    rw [partsOf, around, split_around h.plainBefore h.plainAfter hs (toSlot_untyped huntyped d)]
    rfl
  rw [compileText]
  split
  · next written hwritten =>
    rw [read?_around hs h] at hwritten
    split at hwritten
    · next hbefore =>
      obtain ⟨-, hafter⟩ := Prod.mk.inj (Option.some.inj hwritten)
      exact absurd ⟨hbefore, String.toList_eq_nil_iff.mp hafter⟩ hside
    · cases hwritten
  · rw [hparts, ok_bind, if_pos (by simp [Part.isSlot, Part.slot?])]

/-- A text with such a slot is compiled, and comes to the text of the argument between the others. The
lone slot comes to the argument itself, which has that text. -/
lemma exists_compileString_around [Json.Depth] (hs : s.WellFormed) (huntyped : s.conversion = none)
    (h : Surrounds before after) (d : Destination) :
    ∃ template, compileString (s.around before after) d = .ok template ∧
      ∀ {scope : Scope} {v : Value} {t : String}, scope.lookup (s.slotIn d) = .ok v →
        v.WrittenAs t →
          ∃ w, template.evaluate scope = .ok w ∧ w.WrittenAs (before ++ t ++ after) := by
  rw [compileString_around h]
  by_cases hlone : before = "" ∧ after = ""
  · obtain ⟨rfl, rfl⟩ := hlone
    refine ⟨_, compileText_lone hs huntyped d, fun {scope v t} hv hw => ⟨v, hv, ?_⟩⟩
    rwa [String.empty_append, String.append_empty]
  · refine ⟨_, compileText_around hs huntyped h hlone d, fun {scope v t} hv hw =>
      ⟨.str (before ++ t ++ after), ?_, Value.writtenAs_str _⟩⟩
    rw [evaluate, fillWith, textOfParts_around hv hw]
    rfl

lemma urlOfParts_optional (s : String) : urlOfParts fill (optional s) = .ok s.toList := by
  by_cases hs : s = ""
  · rw [hs, optional_empty]
    rfl
  · rw [optional_of_ne hs, urlOfParts_text (by simp)]
    simp [urlOfParts, Except.map]

/-- In a URL, the text of the argument is escaped. -/
lemma urlOfParts_around (hv : fill slot = .ok v) (h : v.WrittenAs t) :
    urlOfParts fill (optional before ++ .slot slot :: optional after) =
      .ok (before.toList ++ (encode t).toList ++ after.toList) := by
  have hnull : v.isNull = false := Bool.eq_false_iff.mpr (mt Value.isNull_iff.mp h.present)
  have hescaped : escaped v = .ok (encode t).toList := by
    rw [escaped, written, h.inText, encode, String.toList_ofList]
    rfl
  have hslot : urlOfParts fill (.slot slot :: optional after) =
      .ok ((encode t).toList ++ after.toList) := by
    rw [urlOfParts, hv, ok_bind, urlOfParts_optional]
    simp [hnull, hescaped]
  by_cases hbefore : before = ""
  · simp [hbefore, hslot]
  · rw [optional_of_ne hbefore, List.singleton_append, urlOfParts_text_slot, hv, ok_bind, hslot, hnull]
    simp [Except.map]

lemma compileUrl_around (hs : s.WellFormed) (huntyped : s.conversion = none)
    (h : Surrounds before after) :
    compileUrl (s.around before after) =
      .ok (.url (optional before ++ .slot (s.slotIn .path) :: optional after)) :=
  compileUrl_of_parts (around_no_expression h)
    (split_around h.plainBefore h.plainAfter hs (toSlot_untyped huntyped .path))

lemma Adds.eq_encode [Json.Depth] {after : List Part} {cs : List Char}
    (h : Adds scope after (.slot slot) cs)
    (hv : scope.lookup slot = .ok v) (hw : v.WrittenAs t) : cs = encodeChars t.toList := by
  cases h with
  | absent hlacks =>
    rw [Scope.Lacks, hv] at hlacks
    exact absurd (Except.ok.inj hlacks) hw.present
  | present hv' _ ht =>
    obtain rfl := Except.ok.inj (hv.symm.trans hv')
    rw [Except.ok.inj (ht.symm.trans hw.inText)]

end Template

namespace Http

lemma mem_encodeQuery {vs : List (String × Value)} {texts : List (String × String)}
    (h : encodeQuery vs = .ok texts) {k t : String} {v : Value} (hv : v.WrittenAs t)
    (he : (k, v) ∈ vs) : (k, t) ∈ texts := by
  induction vs generalizing texts with
  | nil => cases he
  | cons e vs ih =>
    obtain ⟨k', v'⟩ := e
    rw [encodeQuery] at h
    obtain heq | he := List.mem_cons.mp he
    · cases heq
      rw [if_neg (mt Value.isNull_iff.mp hv.present), hv.inText, mapError_ok, ok_bind] at h
      obtain ⟨more, -, h⟩ := bind_eq_ok.mp h
      cases h
      exact List.mem_cons_self
    · split at h
      · exact ih h he
      · obtain ⟨s, -, h⟩ := bind_eq_ok.mp h
        obtain ⟨more, hmore, h⟩ := bind_eq_ok.mp h
        cases h
        exact List.mem_cons_of_mem _ (ih hmore he)

/-- The parameters of a request are the texts of its query. -/
lemma params_requestOf {d : Descriptor} {r : Request} (h : Request.of d = .ok r) :
    encodeQuery (d.query.getD []) = .ok (r.params.getD []) := by
  obtain ⟨params, hparams, h⟩ := bind_eq_ok.mp h
  cases h
  unfold paramsOf at hparams
  split at hparams
  · next hquery =>
    cases hparams
    rw [hquery]
    rfl
  · next hquery =>
    cases hparams
    rw [hquery]
    rfl
  · next hquery =>
    obtain ⟨texts, htexts, rfl⟩ := map_eq_ok.mp hparams
    rw [hquery]
    exact htexts

end Http

/-- Whatever its destination and whatever stands around it, the slot is written as the text: as a
header, as a parameter of the query, and escaped in a URL. -/
structure Scope.Writes [Json.Depth] (scope : Scope) (s : SlotSyntax) (t : String) : Prop where
  header : ∀ k before after, SlotSyntax.Surrounds before after →
    (Template.compileEntries .header [(k, .str (s.around before after))] >>=
      Operation.textsOf scope) = .ok [(k, before ++ t ++ after)]
  query : ∀ k before after, SlotSyntax.Surrounds before after →
    (Template.compileEntries .query [(k, .str (s.around before after))] >>=
      Template.evaluateEntries scope >>= Http.encodeQuery) = .ok [(k, before ++ t ++ after)]
  path : ∀ before after, SlotSyntax.Surrounds before after →
    (Template.compileUrl (s.around before after) >>= Template.evaluate scope) =
      .ok (.str (before ++ Text.Percent.encode t ++ after))

/-- The request has the text wherever the template has the slot, in its headers, in its parameters,
and escaped in its URL. -/
structure OperationTemplate.Writes [Json.Depth] (template : OperationTemplate) (scope : Scope)
    (d : Descriptor)
    (s : SlotSyntax) (t : String) : Prop where
  header : ∀ k before after, SlotSyntax.Surrounds before after →
    (k, .str (s.around before after)) ∈ template.headers →
      (k, before ++ t ++ after) ∈ d.headers.getD []
  query : ∀ k before after, SlotSyntax.Surrounds before after →
    (k, .str (s.around before after)) ∈ template.query →
      ∀ r, Http.Request.of d = .ok r → (k, before ++ t ++ after) ∈ r.params.getD []
  path : template.url.toList.head? ≠ some '$' →
    ∃ parts css, Part.split template.url .path = .ok parts ∧
      Template.Assembled scope parts css ∧ d.uri.toList = css.flatten ∧
      ∀ cs, (.slot (s.slotIn .path), cs) ∈ parts.zip css → cs = Text.Percent.encodeChars t.toList

section Writes

open Template

variable {scope : Scope} {s : SlotSyntax} {v : Value} {t : String}

/-- A slot is filled with the same argument in all destinations, since it is the name that counts. -/
lemma lookup_slotIn [Json.Depth] (huntyped : s.conversion = none)
    (hgiven : scope.given (s.slotIn .path) = .ok v)
    (hv : v ≠ .null) (d : Destination) : scope.lookup (s.slotIn d) = .ok v := by
  refine lookup_of_given ?_ hgiven hv
  rw [SlotSyntax.slotIn, huntyped]
  rfl

/-- A list of one entry comes to the entry. -/
lemma compileEntries_one {d : Destination} {k text : String} {template : Template}
    (h : compileString text d = .ok template) :
    compileEntries d [(k, .str text)] = .ok [(k, template)] := by
  rw [compileEntries, compile, h]
  rfl

lemma evaluateEntries_one [Json.Depth] {k : String} {template : Template}
    (h : template.evaluate scope = .ok v)
    (hv : v ≠ .null) : evaluateEntries scope [(k, template)] = .ok [(k, v)] := by
  rw [evaluateEntries, h, ok_bind, evaluateEntries, ok_bind, if_neg (mt Value.isNull_iff.mp hv)]

lemma writes_of_writtenAs [Json.Depth] (hs : s.WellFormed) (huntyped : s.conversion = none)
    (hgiven : scope.given (s.slotIn .path) = .ok v) (hw : v.WrittenAs t) : scope.Writes s t := by
  have hlookup := lookup_slotIn huntyped hgiven hw.present
  refine ⟨fun k before after h => ?_, fun k before after h => ?_, fun before after h => ?_⟩
  · obtain ⟨template, hcompile, hevaluate⟩ := exists_compileString_around hs huntyped h .header
    obtain ⟨w, hvalue, hwritten⟩ := hevaluate (hlookup .header) hw
    rw [compileEntries_one hcompile, ok_bind, Operation.textsOf,
      evaluateEntries_one hvalue hwritten.present, ok_bind, Operation.headerTexts, hwritten.inHeader]
    rfl
  · obtain ⟨template, hcompile, hevaluate⟩ := exists_compileString_around hs huntyped h .query
    obtain ⟨w, hvalue, hwritten⟩ := hevaluate (hlookup .query) hw
    rw [compileEntries_one hcompile, ok_bind, evaluateEntries_one hvalue hwritten.present, ok_bind,
      Http.encodeQuery, if_neg (mt Value.isNull_iff.mp hwritten.present), hwritten.inText]
    rfl
  · rw [compileUrl_around hs huntyped h, ok_bind, evaluate_url_eq_ok]
    refine ⟨_, urlOfParts_around (hlookup .path) hw, ?_⟩
    rw [String.ofList_append, String.ofList_append, String.ofList_toList, String.ofList_toList,
      String.ofList_toList]

/-- An entry with such a slot has a value with the text of the argument in it. -/
lemma exists_mem_values [Json.Depth] {d : Destination} {es : List (String × Value)}
    {ts : List (String × Template)} {vs : List (String × Value)} {k before after : String}
    (hs : s.WellFormed) (huntyped : s.conversion = none) (hplain : SlotSyntax.Surrounds before after)
    (hlookup : scope.lookup (s.slotIn d) = .ok v) (hw : v.WrittenAs t)
    (hts : compileEntries d es = .ok ts) (hvs : evaluateEntries scope ts = .ok vs)
    (hmem : (k, .str (s.around before after)) ∈ es) :
    ∃ w, w.WrittenAs (before ++ t ++ after) ∧ (k, w) ∈ vs := by
  obtain ⟨template, hcompile, hin⟩ := mem_compileEntries hts hmem
  obtain ⟨_, hcompile', hevaluate⟩ := exists_compileString_around hs huntyped hplain d
  rw [compile] at hcompile
  obtain rfl := Except.ok.inj (hcompile'.symm.trans hcompile)
  obtain ⟨w, hvalue, hwritten⟩ := hevaluate hlookup hw
  obtain ⟨w', hvalue', hmemValues⟩ := mem_evaluateEntries hvs hin
  obtain rfl := Except.ok.inj (hvalue.symm.trans hvalue')
  exact ⟨w, hwritten, hmemValues hwritten.present⟩

lemma evaluate_of_uriOf [Json.Depth] {op : Operation} {uri : String}
    (h : op.uriOf scope = .ok uri) :
    op.url.evaluate scope = .ok (.str uri) := by
  obtain ⟨w, hw, h⟩ := bind_eq_ok.mp h
  rw [hw]
  split at h
  · split at h
    · cases h
    · cases h
      rfl
  · cases h

lemma mem_headersOf [Json.Depth] {op : Operation} {es : List (String × Value)}
    {texts : List (String × String)}
    {k before after : String} (hs : s.WellFormed) (huntyped : s.conversion = none)
    (hplain : SlotSyntax.Surrounds before after) (hlookup : scope.lookup (s.slotIn .header) = .ok v)
    (hw : v.WrittenAs t) (hes : compileEntries .header es = .ok op.headers)
    (h : op.headersOf scope = .ok texts) (hmem : (k, .str (s.around before after)) ∈ es) :
    (k, before ++ t ++ after) ∈ texts := by
  obtain ⟨values, hvalues, h⟩ := bind_eq_ok.mp h
  obtain ⟨declared, hdeclared, h⟩ := bind_eq_ok.mp h
  obtain ⟨added, -, h⟩ := bind_eq_ok.mp h
  obtain ⟨w, hwritten, hin⟩ := exists_mem_values hs huntyped hplain hlookup hw hes hvalues hmem
  obtain ⟨u, hu, hmemTexts⟩ := Operation.mem_headerTexts hdeclared hin
  obtain rfl := Except.ok.inj (hwritten.inHeader.symm.trans hu)
  rw [← Except.ok.inj h]
  exact List.mem_append_left _ hmemTexts

/-- The URL of an operation is what the parts of its text add. -/
lemma assembled_of_uriOf [Json.Depth] {op : Operation} {text uri : String}
    (hdollar : text.toList.head? ≠ some '$')
    (hurl : compileUrl text = .ok op.url) (h : op.uriOf scope = .ok uri) :
    ∃ parts css, Part.split text .path = .ok parts ∧ Assembled scope parts css ∧
      uri.toList = css.flatten := by
  obtain ⟨parts, hparts, heq⟩ := compileUrl_parts hdollar hurl
  have hvalue := evaluate_of_uriOf h
  rw [heq] at hvalue
  obtain ⟨cs, hcs, hstr⟩ := evaluate_url_eq_ok.mp hvalue
  obtain ⟨css, hcss, rfl⟩ := assembled_urlOfParts (noneEmpty_of_split hparts) hcs
  exact ⟨parts, css, hparts, hcss, by rw [← Value.str.inj hstr, String.toList_ofList]⟩

lemma template_writes [Json.Depth] {template : OperationTemplate}
    {functions : List (String × List Value)}
    {name : Option String} {op : Operation} {params : List Value} {c : Call} {d : Descriptor}
    (hs : s.WellFormed) (huntyped : s.conversion = none) (hw : v.WrittenAs t)
    (hop : Operation.ofTemplate template functions name = .ok op) (h : op.bind params c = .ok d)
    (hscope : op.scopeOf params c = .ok scope) (hgiven : scope.given (s.slotIn .path) = .ok v) :
    template.Writes scope d s t := by
  have hlookup := lookup_slotIn huntyped hgiven hw.present
  obtain ⟨url, query, headers, body, response, hurl, hquery, hheaders, -, -, rfl⟩ :=
    Operation.ofTemplate_eq_ok.mp hop
  obtain ⟨scope', hscope', huri, hvalues, htexts, -⟩ := Operation.bind_parts h
  obtain rfl := Except.ok.inj (hscope.symm.trans hscope')
  refine ⟨fun k before after hplain hmem => ?_, fun k before after hplain hmem r hr => ?_,
    fun hdollar => ?_⟩
  · exact mem_headersOf hs huntyped hplain (hlookup .header) hw hheaders htexts hmem
  · obtain ⟨w, hwritten, hin⟩ :=
      exists_mem_values hs huntyped hplain (hlookup .query) hw hquery hvalues hmem
    exact Http.mem_encodeQuery (Http.params_requestOf hr) hwritten hin
  · obtain ⟨parts, css, hparts, hcss, hflatten⟩ := assembled_of_uriOf hdollar hurl huri
    refine ⟨parts, css, hparts, hcss, hflatten, fun cs hmem => ?_⟩
    obtain ⟨_, hadds⟩ := hcss.exists_adds hmem
    exact hadds.eq_encode (hlookup .path) hw

end Writes

namespace Operation

/-- **All destinations write an argument as the same text.** Let a value that JSON has, and that is not
null, be the argument for a slot without a conversion. There is one text that it has as a header, as a
parameter of the query and, escaped, in a URL, be the slot by itself or between other texts. It is this
text that every request has wherever its template has the slot. -/
theorem written_alike [Json.Depth] {s : SlotSyntax} {v : Value} (hs : s.WellFormed)
    (huntyped : s.conversion = none) (hv : Json.isJson v = true) (hnull : v ≠ .null) :
    ∃ t, v.inText = .ok t ∧
      (∀ scope : Scope, scope.given (s.slotIn .path) = .ok v → scope.Writes s t) ∧
      ∀ template functions name op, ofTemplate template functions name = .ok op →
        ∀ params c d, op.bind params c = .ok d → c.provided params (s.slotIn .path) = .ok v →
          ∃ scope, op.scopeOf params c = .ok scope ∧ template.Writes scope d s t := by
  obtain ⟨t, hw⟩ := Value.exists_writtenAs hv hnull
  refine ⟨t, hw.inText, fun scope hgiven => writes_of_writtenAs hs huntyped hgiven hw, ?_⟩
  intro template functions name op hop params c d h hprovided
  obtain ⟨scope, hscope, -⟩ := bind_parts h
  have hgiven : scope.given (s.slotIn .path) = .ok v := by
    rw [given_scopeOf hscope, hprovided]
  exact ⟨scope, hscope, template_writes hs huntyped hw hop h hscope hgiven⟩

attribute [local instance] Json.Depth.thousand

/-- A slot without a conversion, as it is mostly written. -/
def labelSyntax : SlotSyntax := ⟨none, "label".toList, none, none⟩

/-- A template with the slot in its URL, its query and its headers, by itself and between texts. -/
def taggedTemplate : OperationTemplate :=
  ⟨"GET", "/items/\x7blabel\x7d", [("label", .str "\x7blabel\x7d")],
    [("X-Label", .str "\x7blabel\x7d"), ("X-Tag", .str "<\x7blabel\x7d>")], .null, none⟩

/-- A collection with truth values, null and texts in it. -/
def labelValue : Value :=
  .map [(.str "é", .list [.bool true, .null, .int (-3), .str "a/b"]), (.str "", .map [])]

def labelText : String := "\x7b\"\\u00e9\": [true, null, -3, \"a/b\"], \"\": \x7b\x7d\x7d"

lemma wellFormed_labelSyntax : labelSyntax.WellFormed where
  named := by simp [labelSyntax]
  name := by
    have hall : "label".toList.all SlotSyntax.isNameChar = true := by decide
    exact List.all_eq_true.mp hall
  conversion := by simp [labelSyntax]
  default := by simp [labelSyntax]

theorem label_written_alike :
    ∃ op, ofTemplate taggedTemplate [] none = .ok op ∧
      ∃ d, op.bind [] ⟨[], [("label", labelValue)], .null⟩ = .ok d ∧
        ("X-Label", labelText) ∈ d.headers.getD [] ∧
        ("X-Tag", "<" ++ labelText ++ ">") ∈ d.headers.getD [] ∧
        ∃ r, Http.Request.of d = .ok r ∧ ("label", labelText) ∈ r.params.getD [] := by
  have hjson : Json.isJson labelValue = true := by decide +kernel
  have htext : labelValue.inText = .ok labelText := by decide +kernel
  obtain ⟨t, ht, -, hwrites⟩ :=
    written_alike wellFormed_labelSyntax rfl hjson (by simp [labelValue])
  obtain rfl := Except.ok.inj (htext.symm.trans ht)
  obtain ⟨op, hop, d, hd, hok⟩ : ∃ op, ofTemplate taggedTemplate [] none = .ok op ∧
      ∃ d, op.bind [] ⟨[], [("label", labelValue)], .null⟩ = .ok d ∧
        (Http.Request.of d).isOk = true := by
    decide +kernel
  obtain ⟨r, hr⟩ := isOk_iff.mp hok
  obtain ⟨scope, -, hscope⟩ := hwrites taggedTemplate [] none op hop [] _ d hd rfl
  have hnone : SlotSyntax.Surrounds "" "" := ⟨by simp, by simp, by simp⟩
  have hangles : SlotSyntax.Surrounds "<" ">" := ⟨by decide, by decide, by decide⟩
  have hlone : labelSyntax.around "" "" = "\x7blabel\x7d" := by decide
  have htag : labelSyntax.around "<" ">" = "<\x7blabel\x7d>" := by decide
  refine ⟨op, hop, d, hd, ?_, ?_, r, hr, ?_⟩
  · exact hscope.header "X-Label" "" "" hnone (by simp [hlone, taggedTemplate])
  · exact hscope.header "X-Tag" "<" ">" hangles (by simp [htag, taggedTemplate])
  · exact hscope.query "label" "" "" hnone (by simp [hlone, taggedTemplate]) r hr

end Operation

end RestOperations
