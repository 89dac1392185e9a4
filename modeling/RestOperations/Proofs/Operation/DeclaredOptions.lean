import RestOperations.Proofs.Operation.Entries
import RestOperations.Proofs.Operation.Options
import RestOperations.Proofs.Operation.Passing

/-!
A header for options that the template declares, against the one that is added without it. A template
may have the options under their name as a header of its own, anywhere among the other ones. The
operation takes the same calls then, and makes the same requests of them, but for options that are a
text: the declared header has them as they are, and the added one as JSON.
-/

namespace RestOperations

namespace OperationTemplate

/-- The template with these headers. -/
def withHeaders (t : OperationTemplate) (headers : List (String × Value)) : OperationTemplate :=
  { t with headers }

end OperationTemplate

namespace Operation

/-- The header for options as a template declares it: the options, and nothing else. -/
def optionsEntry : String × Value := (optionsName, .str "\x7boptions\x7d")

/-- The slot that the declared header is. -/
def optionsSlot : Slot := ⟨optionsName, .header, false, none, none⟩

variable {op op' : Operation} {params : List Value} {c : Call} {scope : Scope}

/-! ### One more slot -/

section Slots

variable {slots slots' : List Slot}

/-- The slot for options stands for no position. -/
lemma index_optionsSlot : optionsSlot.index = .ok none := by
  rfl

lemma positionsOf_insert (before after : List Slot) :
    positionsOf (before ++ optionsSlot :: after) = positionsOf (before ++ after) := by
  induction before with
  | nil =>
    rw [List.nil_append, List.nil_append, positionsOf, index_optionsSlot, ok_bind]
    cases positionsOf after <;> simp
  | cons s before ih =>
    rw [List.cons_append, List.cons_append, positionsOf, positionsOf, ih]

lemma requireSlots_insert [Json.Depth] (before after : List Slot) :
    op.requireSlots scope (before ++ optionsSlot :: after) =
      op.requireSlots scope (before ++ after) := by
  induction before with
  | nil => exact op.requireSlots_provided scope (fun h => absurd h Bool.false_ne_true) after
  | cons s before ih =>
    rw [List.cons_append, List.cons_append, requireSlots_cons, requireSlots_cons, ih]

end Slots

/-! ### The operation with the header -/

/-- The operation of a template that has the options as one more header. -/
def declaring (op : Operation) (headers : List (String × Value))
    (front back : List (String × Template)) : Operation :=
  { op with
    source := op.source.withHeaders headers
    headers := front ++ (optionsName, .slot optionsSlot) :: back }

section Declaring

variable {headers : List (String × Value)} {front back : List (String × Template)}

lemma compileEntries_options :
    Template.compileEntries .header [optionsEntry] = .ok [(optionsName, .slot optionsSlot)] := by
  rfl

/-- With the header for options in it, the template can be compiled as well. -/
lemma ofTemplate_declaring {t : OperationTemplate} {functions : List (String × List Value)}
    {name : Option String} {before after : List (String × Value)} (ht : t.headers = before ++ after)
    (hop : ofTemplate t functions name = .ok op) :
    ∃ front back, op.headers = front ++ back ∧
      ofTemplate (t.withHeaders (before ++ optionsEntry :: after)) functions name =
        .ok (op.declaring (before ++ optionsEntry :: after) front back) := by
  obtain ⟨url, query, headers, body, response, hurl, hquery, hheaders, hbody, hresponse, rfl⟩ :=
    ofTemplate_eq_ok.mp hop
  rw [ht, Template.compileEntries_append] at hheaders
  obtain ⟨front, hfront, hheaders⟩ := bind_eq_ok.mp hheaders
  obtain ⟨back, hback, rfl⟩ := map_eq_ok.mp hheaders
  refine ⟨front, back, rfl, ofTemplate_eq_ok.mpr ⟨url, query,
    front ++ (optionsName, .slot optionsSlot) :: back, body, response, hurl, hquery, ?_, hbody,
    hresponse, rfl⟩⟩
  change Template.compileEntries .header (before ++ ([optionsEntry] ++ after)) = _
  rw [Template.compileEntries_append, Template.compileEntries_append, hfront,
    compileEntries_options, hback]
  rfl

lemma slots_declaring (headers : List (String × Value)) (h : op.headers = front ++ back) :
    ∃ before after, op.slots = before ++ after ∧
      (op.declaring headers front back).slots = before ++ optionsSlot :: after := by
  refine ⟨op.url.slots ++ (Template.slotsOfEntries op.query ++ Template.slotsOfEntries front),
    Template.slotsOfEntries back ++ op.bodySlots, ?_, ?_⟩
  · rw [slots_parts, h]
    simp only [Template.slotsOfEntries, List.flatMap_append, List.append_assoc]
  · rw [slots_parts, declaring, bodySlots, bodySlots]
    simp only [Template.slotsOfEntries, List.flatMap_append, List.flatMap_cons, List.append_assoc,
      Template.slots, List.cons_append, List.nil_append]

lemma addKeywords_declaring (arguments : List (Value × Value)) (keywords : List (String × Value)) :
    (op.declaring headers front back).addKeywords arguments keywords =
      op.addKeywords arguments keywords := by
  induction keywords generalizing arguments with
  | nil => rfl
  | cons e keywords ih =>
    rw [addKeywords, addKeywords]
    change op.addArgument arguments e.1 e.2 >>= _ = _
    simp only [ih]

/-- One more header changes nothing about which arguments a call has. -/
lemma scopeOf_declaring (h : op.headers = front ++ back) (params : List Value) (c : Call) :
    (op.declaring headers front back).scopeOf params c = op.scopeOf params c := by
  obtain ⟨before, after, hslots, hslots'⟩ := slots_declaring headers h
  have hmost : (op.declaring headers front back).mostPositional params =
      op.mostPositional params := by
    rw [mostPositional, mostPositional, hslots, hslots', positionsOf_insert]
  have harguments : (op.declaring headers front back).argumentsOf params c =
      op.argumentsOf params c := by
    rw [argumentsOf_eq, argumentsOf_eq, hmost]
    simp only [addKeywords_declaring]
    rfl
  rw [scopeOf, scopeOf, harguments]

/-! ### Its headers -/

/-- The texts of the declared header for options, if there are any. -/
def optionsTexts (options : Value) : Except Fault (List (String × String)) :=
  if options.isNull then .ok [] else (headerText options).map fun s => [(optionsName, s)]

/-- The declared header takes the options of the call. -/
lemma textsOf_options [Json.Depth] (h : op.scopeOf params c = .ok scope) :
    textsOf scope [(optionsName, .slot optionsSlot)] = optionsTexts (c.optionsFor params) := by
  have hlookup : scope.lookup optionsSlot = .ok (c.optionsFor params) := by
    rw [lookup_bare h (by decide) rfl rfl]
    exact congrArg Except.ok (Call.argument_options params c)
  rw [textsOf, Template.evaluateEntries, Template.evaluate, Template.fillWith, hlookup, optionsTexts]
  cases hnull : (c.optionsFor params).isNull with
  | true => simp [Template.evaluateEntries, headerTexts, hnull]
  | false =>
    cases htext : headerText (c.optionsFor params) <;>
      simp [Template.evaluateEntries, headerTexts, hnull, htext, Except.map]

/-- Options that are no text make the same header, whether it is declared or added. -/
lemma optionsHeader_eq_optionsTexts {options : Value} (hdeclares : op.declaresOptions = false)
    (h : ∀ s, options ≠ .str s) : op.optionsHeader options = optionsTexts options := by
  rw [optionsHeader, optionsTexts, hdeclares, Bool.or_false]
  split
  · rfl
  · rw [headerText_eq h]
    cases (Json.text options).mapError Fault.notWritable <;> rfl

/-- A text as JSON is longer than itself. -/
lemma json_ne_self (s : String) : String.ofList (Json.writeString s) ≠ s := by
  intro heq
  have hlength := congrArg (fun s => s.toList.length) heq
  have hle := Json.length_le_escaped s.toList
  simp only [Json.writeString, String.toList_ofList, List.length_append, List.length_cons,
    List.length_nil] at hlength
  omega

lemma optionsHeader_text (hdeclares : op.declaresOptions = false) (s : String) :
    op.optionsHeader (.str s) = .ok [(optionsName, String.ofList (Json.writeString s))] := by
  rw [optionsHeader, hdeclares]
  rfl

lemma headersOf_declaring [Json.Depth] {texts : List (String × String)}
    (h : op.scopeOf params c = .ok scope)
    (hdeclared : optionsName ∈ headers.map (·.1)) :
    (op.declaring headers front back).headersOf scope = .ok texts ↔
      ∃ before options after, textsOf scope front = .ok before ∧
        optionsTexts (c.optionsFor params) = .ok options ∧ textsOf scope back = .ok after ∧
          before ++ (options ++ after) = texts := by
  have hdeclares : (op.declaring headers front back).declaresOptions = true :=
    declaresOptions_of_mem hdeclared
  have hall : (op.declaring headers front back).declaredHeaders scope =
      textsOf scope (front ++ ([(optionsName, .slot optionsSlot)] ++ back)) := rfl
  rw [headersOf_eq_ok, optionsHeader_eq_nil (.inr hdeclares), ← textsOf_options h, hall]
  simp only [textsOf_append_eq_ok]
  constructor
  · rintro ⟨_, _, ⟨before, _, hbefore, ⟨options, after, hoptions, hafter, rfl⟩, rfl⟩, hnil, rfl⟩
    obtain rfl := Except.ok.inj hnil
    exact ⟨before, options, after, hbefore, hoptions, hafter, (List.append_nil _).symm⟩
  · rintro ⟨before, options, after, hbefore, hoptions, hafter, rfl⟩
    exact ⟨_, [], ⟨before, _, hbefore, ⟨options, after, hoptions, hafter, rfl⟩, rfl⟩, rfl,
      List.append_nil _⟩

lemma headersOf_undeclared [Json.Depth] {texts : List (String × String)}
    (h : op.scopeOf params c = .ok scope)
    (hheaders : op.headers = front ++ back) :
    op.headersOf scope = .ok texts ↔
      ∃ before after added, textsOf scope front = .ok before ∧ textsOf scope back = .ok after ∧
        op.optionsHeader (c.optionsFor params) = .ok added ∧ before ++ after ++ added = texts := by
  have hoptions : scope.options = c.optionsFor params := by
    obtain ⟨_, -, rfl⟩ := scopeOf_eq_ok h
    exact Call.argument_options params c
  have hall : op.declaredHeaders scope = textsOf scope (front ++ back) := by
    rw [← hheaders]
    rfl
  rw [headersOf_eq_ok, hoptions, hall]
  simp only [textsOf_append_eq_ok]
  constructor
  · rintro ⟨_, added, ⟨before, after, hbefore, hafter, rfl⟩, hadded, rfl⟩
    exact ⟨before, after, added, hbefore, hafter, hadded, rfl⟩
  · rintro ⟨before, after, added, hbefore, hafter, hadded, rfl⟩
    exact ⟨_, added, ⟨before, after, hbefore, hafter, rfl⟩, hadded, rfl⟩

/-- The header for options has a text if it is declared just as it has one if it is added. -/
lemma exists_options_iff {options : Value} (hdeclares : op.declaresOptions = false) :
    (∃ added, op.optionsHeader options = .ok added) ↔ ∃ texts, optionsTexts options = .ok texts := by
  by_cases htext : ∃ s, options = .str s
  · obtain ⟨s, rfl⟩ := htext
    exact iff_of_true ⟨_, optionsHeader_text hdeclares s⟩ ⟨[(optionsName, s)], rfl⟩
  · rw [optionsHeader_eq_optionsTexts hdeclares (not_exists.mp htext)]

/-- Options that are a text are added as JSON, and declared as they are. -/
lemma mem_headers_of_text [Json.Depth] {texts texts' : List (String × String)} {s : String}
    (h : op.scopeOf params c = .ok scope) (hheaders : op.headers = front ++ back)
    (hdeclares : op.declaresOptions = false) (hdeclared : optionsName ∈ headers.map (·.1))
    (htexts : op.headersOf scope = .ok texts)
    (htexts' : (op.declaring headers front back).headersOf scope = .ok texts')
    (hs : c.optionsFor params = .str s) :
    (optionsName, String.ofList (Json.writeString s)) ∈ texts ∧ (optionsName, s) ∈ texts' := by
  obtain ⟨before, after, added, -, -, hadded, rfl⟩ := (headersOf_undeclared h hheaders).mp htexts
  obtain ⟨before', options, after', -, hoptions, -, rfl⟩ :=
    (headersOf_declaring h hdeclared).mp htexts'
  rw [hs, optionsHeader_text hdeclares] at hadded
  rw [hs] at hoptions
  obtain rfl := Except.ok.inj hadded
  obtain rfl : [(optionsName, s)] = options := Except.ok.inj hoptions
  simp

/-- Where the header is declared, a text for options is all that stands under their name. -/
lemma options_of_text [Json.Depth] {texts : List (String × String)} {s u : String}
    (h : op.scopeOf params c = .ok scope) (hheaders : op.headers = front ++ back)
    (hnames : op.headers.map (·.1) = op.source.headers.map (·.1))
    (hdeclares : op.declaresOptions = false) (hdeclared : optionsName ∈ headers.map (·.1))
    (htexts : (op.declaring headers front back).headersOf scope = .ok texts)
    (hs : c.optionsFor params = .str s) (hmem : (optionsName, u) ∈ texts) : u = s := by
  obtain ⟨before, options, after, hbefore, hoptions, hafter, rfl⟩ :=
    (headersOf_declaring h hdeclared).mp htexts
  rw [hs] at hoptions
  obtain rfl : [(optionsName, s)] = options := Except.ok.inj hoptions
  have hall : op.declaredHeaders scope = .ok (before ++ after) := by
    have hparts : textsOf scope (front ++ back) = .ok (before ++ after) :=
      textsOf_append_eq_ok.mpr ⟨before, after, hbefore, hafter, rfl⟩
    rw [← hparts, ← hheaders]
    rfl
  have hnot := options_not_declared hnames hdeclares hall
  rw [List.mem_append, List.singleton_append, List.mem_cons, Prod.mk.injEq] at hmem
  obtain hmem | ⟨-, heq⟩ | hmem := hmem
  · exact absurd (List.mem_map.mpr ⟨_, List.mem_append_left _ hmem, rfl⟩) hnot
  · exact heq
  · exact absurd (List.mem_map.mpr ⟨_, List.mem_append_right _ hmem, rfl⟩) hnot

/-- Options that are no text stand in the same header, whether it is declared or added. -/
lemma mem_headers_iff [Json.Depth] {texts texts' : List (String × String)}
    (h : op.scopeOf params c = .ok scope)
    (hheaders : op.headers = front ++ back) (hdeclares : op.declaresOptions = false)
    (hdeclared : optionsName ∈ headers.map (·.1)) (htexts : op.headersOf scope = .ok texts)
    (htexts' : (op.declaring headers front back).headersOf scope = .ok texts')
    (htext : ∀ s, c.optionsFor params ≠ .str s) (e : String × String) :
    e ∈ texts ↔ e ∈ texts' := by
  obtain ⟨before, after, added, hbefore, hafter, hadded, rfl⟩ :=
    (headersOf_undeclared h hheaders).mp htexts
  obtain ⟨_, options, _, hbefore', hoptions, hafter', rfl⟩ :=
    (headersOf_declaring h hdeclared).mp htexts'
  obtain rfl := Except.ok.inj (hbefore.symm.trans hbefore')
  obtain rfl := Except.ok.inj (hafter.symm.trans hafter')
  rw [optionsHeader_eq_optionsTexts hdeclares htext] at hadded
  obtain rfl := Except.ok.inj (hadded.symm.trans hoptions)
  simp only [List.mem_append]
  tauto

/-- The headers are the same ones, in whatever order, exactly if the options are no text. -/
lemma sameHeaders_iff [Json.Depth] {texts texts' : List (String × String)}
    (h : op.scopeOf params c = .ok scope)
    (hheaders : op.headers = front ++ back)
    (hnames : op.headers.map (·.1) = op.source.headers.map (·.1))
    (hdeclares : op.declaresOptions = false) (hdeclared : optionsName ∈ headers.map (·.1))
    (htexts : op.headersOf scope = .ok texts)
    (htexts' : (op.declaring headers front back).headersOf scope = .ok texts') :
    (∀ e, e ∈ texts ↔ e ∈ texts') ↔ ∀ s, c.optionsFor params ≠ .str s := by
  constructor
  · intro hsame s hs
    obtain ⟨hadded, -⟩ := mem_headers_of_text h hheaders hdeclares hdeclared htexts htexts' hs
    -- Under the name of the options, the declared header has the text itself and nothing else.
    have heq := options_of_text h hheaders hnames hdeclares hdeclared htexts' hs
      ((hsame _).mp hadded)
    exact json_ne_self s heq
  · intro htext
    exact mem_headers_iff h hheaders hdeclares hdeclared htexts htexts' htext

/-- Both operations have headers for the same calls. -/
lemma exists_headersOf_iff [Json.Depth] (h : op.scopeOf params c = .ok scope)
    (hheaders : op.headers = front ++ back) (hdeclares : op.declaresOptions = false)
    (hdeclared : optionsName ∈ headers.map (·.1)) :
    (∃ texts, op.headersOf scope = .ok texts) ↔
      ∃ texts, (op.declaring headers front back).headersOf scope = .ok texts := by
  simp only [headersOf_undeclared h hheaders, headersOf_declaring h hdeclared]
  constructor
  · rintro ⟨_, before, after, added, hbefore, hafter, hadded, -⟩
    obtain ⟨options, hoptions⟩ := (exists_options_iff hdeclares).mp ⟨added, hadded⟩
    exact ⟨_, before, options, after, hbefore, hoptions, hafter, rfl⟩
  · rintro ⟨_, before, options, after, hbefore, hoptions, hafter, -⟩
    obtain ⟨added, hadded⟩ := (exists_options_iff hdeclares).mpr ⟨options, hoptions⟩
    exact ⟨_, before, after, added, hbefore, hafter, hadded, rfl⟩

/-! ### Its requests -/

lemma requireSlots_declaring [Json.Depth] (slots : List Slot) :
    (op.declaring headers front back).requireSlots scope slots = op.requireSlots scope slots := by
  induction slots with
  | nil => rfl
  | cons s slots ih =>
    rw [requireSlots_cons, requireSlots_cons, ih]
    rfl

lemma request_declaring [Json.Depth] {d : Descriptor} (h : op.headers = front ++ back) :
    (op.declaring headers front back).request scope = .ok d ↔
      op.requireSlots scope op.slots = .ok () ∧ ∃ uri query texts body,
        op.uriOf scope = .ok uri ∧ Template.evaluateEntries scope op.query = .ok query ∧
          (op.declaring headers front back).headersOf scope = .ok texts ∧
            op.bodyOf scope = .ok body ∧
              (⟨op.method, uri, true, nonEmpty query, body, nonEmpty texts⟩ : Descriptor) = d := by
  obtain ⟨before, after, hslots, hslots'⟩ := slots_declaring headers h
  have hrequired : (op.declaring headers front back).requireSlots scope (before ++ after) =
      op.requireSlots scope (before ++ after) := requireSlots_declaring _
  rw [request_eq_ok, hslots', requireSlots_insert, hrequired, ← hslots]
  rfl

/-- One more header changes which headers there are, and nothing else. -/
lemma bind_declaring [Json.Depth] {d d' : Descriptor} (hheaders : op.headers = front ++ back)
    (hnames : op.headers.map (·.1) = op.source.headers.map (·.1))
    (hdeclares : op.declaresOptions = false) (hdeclared : optionsName ∈ headers.map (·.1))
    (h : op.bind params c = .ok d) (h' : (op.declaring headers front back).bind params c = .ok d') :
    { d' with headers := d.headers } = d ∧
      ((∀ e, e ∈ d.headers.getD [] ↔ e ∈ d'.headers.getD []) ↔
        ∀ s, c.optionsFor params ≠ .str s) ∧
      ∀ s, c.optionsFor params = .str s → ∃ q, Json.text (.str s) = .ok q ∧
        (optionsName, q) ∈ d.headers.getD [] ∧ (optionsName, s) ∈ d'.headers.getD [] := by
  obtain ⟨scope, hscope, h⟩ := bind_eq_ok.mp h
  rw [bind, scopeOf_declaring hheaders, hscope, ok_bind] at h'
  obtain ⟨-, uri, query, texts, body, huri, hquery, htexts, hbody, rfl⟩ := request_eq_ok.mp h
  obtain ⟨-, uri', query', texts', body', huri', hquery', htexts', hbody', rfl⟩ :=
    (request_declaring hheaders).mp h'
  obtain rfl := Except.ok.inj (huri.symm.trans huri')
  obtain rfl := Except.ok.inj (hquery.symm.trans hquery')
  obtain rfl := Except.ok.inj (hbody.symm.trans hbody')
  rw [getD_nonEmpty, getD_nonEmpty]
  refine ⟨rfl, sameHeaders_iff hscope hheaders hnames hdeclares hdeclared htexts htexts', ?_⟩
  exact fun s hs => ⟨String.ofList (Json.writeString s), rfl,
    mem_headers_of_text hscope hheaders hdeclares hdeclared htexts htexts' hs⟩

/-- The operation is bound to the same calls with the header as without it. -/
lemma exists_bind_iff [Json.Depth] (hheaders : op.headers = front ++ back)
    (hdeclares : op.declaresOptions = false) (hdeclared : optionsName ∈ headers.map (·.1)) :
    (∃ d, op.bind params c = .ok d) ↔
      ∃ d, (op.declaring headers front back).bind params c = .ok d := by
  rw [bind, bind, scopeOf_declaring hheaders]
  cases hscope : op.scopeOf params c with
  | error f => rfl
  | ok scope =>
    rw [ok_bind, ok_bind]
    have htexts := exists_headersOf_iff hscope hheaders hdeclares hdeclared
    constructor
    · rintro ⟨d, h⟩
      obtain ⟨hslots, uri, query, texts, body, huri, hquery, hpresent, hbody, -⟩ :=
        request_eq_ok.mp h
      obtain ⟨texts', htexts'⟩ := htexts.mp ⟨texts, hpresent⟩
      exact ⟨_, (request_declaring hheaders).mpr
        ⟨hslots, uri, query, texts', body, huri, hquery, htexts', hbody, rfl⟩⟩
    · rintro ⟨d, h⟩
      obtain ⟨hslots, uri, query, texts', body, huri, hquery, hpresent, hbody, -⟩ :=
        (request_declaring hheaders).mp h
      obtain ⟨texts, htexts'⟩ := htexts.mpr ⟨texts', hpresent⟩
      exact ⟨_, request_eq_ok.mpr
        ⟨hslots, uri, query, texts, body, huri, hquery, htexts', hbody, rfl⟩⟩

end Declaring

/-- **Declared options.** A template without a header for options, in whatever case, can have one put
anywhere among its headers. The operation is then bound to the same calls as before, and its requests
differ in the headers at most. These are the same ones exactly if the options are no text, however
they are passed: the declared header has a text as it is, and the added one has it as JSON. -/
theorem declared_options_same_iff [Json.Depth] {t : OperationTemplate}
    {functions : List (String × List Value)}
    {name : Option String} {before after : List (String × Value)} (ht : t.headers = before ++ after)
    (hnone : ∀ e ∈ t.headers, Text.sameLetters e.1 optionsName = false)
    (hop : ofTemplate t functions name = .ok op) :
    ∃ op', ofTemplate (t.withHeaders (before ++ optionsEntry :: after)) functions name = .ok op' ∧
      ∀ params c, ((∃ d, op.bind params c = .ok d) ↔ ∃ d', op'.bind params c = .ok d') ∧
        ∀ d d', op.bind params c = .ok d → op'.bind params c = .ok d' →
          { d' with headers := d.headers } = d ∧
            ((∀ e, e ∈ d.headers.getD [] ↔ e ∈ d'.headers.getD []) ↔
              ∀ s, c.optionsFor params ≠ .str s) ∧
            ∀ s, c.optionsFor params = .str s → ∃ q, Json.text (.str s) = .ok q ∧
              (optionsName, q) ∈ d.headers.getD [] ∧ (optionsName, s) ∈ d'.headers.getD [] := by
  obtain ⟨front, back, hheaders, hop'⟩ := ofTemplate_declaring ht hop
  have hdeclares : op.declaresOptions = false := by
    obtain ⟨_, _, _, _, _, -, -, -, -, -, rfl⟩ := ofTemplate_eq_ok.mp hop
    exact List.any_eq_false.mpr fun e he => Bool.eq_false_iff.mp (hnone e he)
  have hdeclared : optionsName ∈ (before ++ optionsEntry :: after).map (·.1) :=
    List.mem_map.mpr ⟨optionsEntry, by simp, rfl⟩
  have hnames := names_ofTemplate hop
  exact ⟨_, hop', fun params c => ⟨exists_bind_iff hheaders hdeclares hdeclared,
    fun d d' h h' => bind_declaring hheaders hnames hdeclares hdeclared h h'⟩⟩

attribute [local instance] Json.Depth.thousand

/-- A template with headers around the place for the one for options. -/
def tracedTemplate : OperationTemplate :=
  ⟨"GET", "/items/\x7bid\x7d", [], [("X-Trace", .str "\x7btrace\x7d"), ("X-Label", .str "new")],
    .null, none⟩

/-- A call with options that are a list of texts. -/
def tracedCall : Call := ⟨[.str "7"], [("trace", .int 3)], .list [.str "a", .str "b"]⟩

theorem traced_declared_same :
    ∃ op op', ofTemplate tracedTemplate [] none = .ok op ∧
      ofTemplate (tracedTemplate.withHeaders
        [("X-Trace", .str "\x7btrace\x7d"), optionsEntry, ("X-Label", .str "new")]) [] none = .ok op' ∧
      (∀ e ∈ tracedTemplate.headers, Text.sameLetters e.1 optionsName = false) ∧
      ∃ d d', op.bind [.str "id"] tracedCall = .ok d ∧ op'.bind [.str "id"] tracedCall = .ok d' ∧
        (optionsName, "[\"a\", \"b\"]") ∈ d.headers.getD [] ∧
        ∀ e, e ∈ d.headers.getD [] ↔ e ∈ d'.headers.getD [] := by
  obtain ⟨op, hop, d, hd, hmem⟩ : ∃ op, ofTemplate tracedTemplate [] none = .ok op ∧
      ∃ d, op.bind [.str "id"] tracedCall = .ok d ∧
        (optionsName, "[\"a\", \"b\"]") ∈ d.headers.getD [] := by
    decide +kernel
  have hnone : ∀ e ∈ tracedTemplate.headers, Text.sameLetters e.1 optionsName = false := by
    decide +kernel
  have hsplit : tracedTemplate.headers =
      [("X-Trace", .str "\x7btrace\x7d")] ++ [("X-Label", .str "new")] := rfl
  obtain ⟨op', hop', hsame⟩ := declared_options_same_iff hsplit hnone hop
  obtain ⟨d', hd'⟩ := (hsame [.str "id"] tracedCall).1.mp ⟨d, hd⟩
  refine ⟨op, op', hop, hop', hnone, d, d', hd, hd', hmem, ?_⟩
  have hlist := ((hsame [.str "id"] tracedCall).2 d d' hd hd').2.1
  exact hlist.mpr (by simp [tracedCall, Call.optionsFor])

/-- A template without headers. -/
def bareTemplate : OperationTemplate := ⟨"GET", "/", [], [], .null, none⟩

/-- Options that are a text are not the same where the header is declared. -/
theorem text_options_not_same :
    ∃ op op', ofTemplate bareTemplate [] none = .ok op ∧
      ofTemplate (bareTemplate.withHeaders [optionsEntry]) [] none = .ok op' ∧
      ∃ d d', op.bind [] ⟨[], [], .str "abc"⟩ = .ok d ∧ op'.bind [] ⟨[], [], .str "abc"⟩ = .ok d' ∧
        d.headers = some [(optionsName, "\"abc\"")] ∧ d'.headers = some [(optionsName, "abc")] ∧
        ¬ ∀ e, e ∈ d.headers.getD [] ↔ e ∈ d'.headers.getD [] := by
  obtain ⟨op, hop, d, hd, hheaders⟩ : ∃ op, ofTemplate bareTemplate [] none = .ok op ∧
      ∃ d, op.bind [] ⟨[], [], .str "abc"⟩ = .ok d ∧
        d.headers = some [(optionsName, "\"abc\"")] := by
    decide +kernel
  obtain ⟨op', hop', d', hd', hheaders'⟩ :
      ∃ op', ofTemplate (bareTemplate.withHeaders [optionsEntry]) [] none = .ok op' ∧
        ∃ d', op'.bind [] ⟨[], [], .str "abc"⟩ = .ok d' ∧ d'.headers = some [(optionsName, "abc")] := by
    decide +kernel
  refine ⟨op, op', hop, hop', d, d', hd, hd', hheaders, hheaders', fun hsame => ?_⟩
  have hmem := (hsame (optionsName, "abc")).mpr (by simp [hheaders'])
  simp [hheaders] at hmem

end Operation

end RestOperations
