import RestOperations.Proofs.Operation.Required
import RestOperations.Proofs.Template.Containment

/-!
Which calls can be bound, or are turned down with a fault of the call. It is not all of them: a name
may look like a position and not be one, an infinite number is not reported by the slots for
integers, and neither integers of too many digits nor functions can be written where the request
needs a text. The conditions are collected in the order in which a request is made, and are exact.
-/

namespace RestOperations.Operation

variable (op : Operation)

/-! ### Arguments -/

lemma contained_positionsOf (slots : List Slot) :
    Contained (positionsOf slots) ↔ ∀ s ∈ slots, s.Readable := by
  induction slots with
  | nil => simp [positionsOf]
  | cons s slots ih =>
    rw [positionsOf, contained_bind, s.contained_index, List.forall_mem_cons, ← ih]
    refine and_congr_right fun hr => ?_
    obtain ⟨i?, hi⟩ := isOk_iff.mp (s.isOk_index.mpr hr)
    simp [hi, contained_bind]

lemma contained_nameArguments (arguments pairs : List (Value × Value)) :
    Contained (nameArguments arguments pairs) ↔ ∀ p ∈ pairs, p.1.isKey = true := by
  induction pairs generalizing arguments with
  | nil => simp [nameArguments]
  | cons p pairs ih =>
    rw [nameArguments, List.forall_mem_cons]
    split
    · next hk => rw [ih, and_iff_right hk]
    · next hk => simp [hk, Fault.isBinding, Fault.group]

lemma contained_addArgument (arguments : List (Value × Value)) (name : String) (v : Value) :
    Contained (op.addArgument arguments name v) := by
  unfold addArgument
  split
  · exact (contained_error _).mpr rfl
  · exact contained_ok _

lemma contained_addKeywords (arguments : List (Value × Value)) (keywords : List (String × Value)) :
    Contained (op.addKeywords arguments keywords) := by
  induction keywords generalizing arguments with
  | nil => exact contained_ok _
  | cons k keywords ih =>
    rw [addKeywords, contained_bind]
    exact ⟨op.contained_addArgument arguments k.1 k.2, fun arguments _ => ih arguments⟩

lemma contained_addOptions (arguments : List (Value × Value)) (options : Value) :
    Contained (op.addOptions arguments options) := by
  unfold addOptions
  split
  · exact contained_ok _
  · exact op.contained_addArgument _ _ _

lemma contained_mostPositional (params : List Value) :
    Contained (op.mostPositional params) ↔ ∀ s ∈ op.slots, s.Readable := by
  rw [mostPositional, ← contained_positionsOf]
  exact contained_bind_ok _ _

lemma argumentsOf_eq (params : List Value) (c : Call) :
    op.argumentsOf params c =
      op.mostPositional params >>= fun most =>
        if most < c.positional.length then
          .error (.tooManyArguments op.title most c.positional.length)
        else
          nameArguments [] (params.zip c.positional) >>= fun arguments =>
            op.addKeywords arguments c.keywords >>= fun arguments =>
              op.addOptions arguments c.options :=
  rfl

/-- The call does not have more arguments than the operation takes. -/
def Takes (params : List Value) (c : Call) : Prop :=
  ∃ most, op.mostPositional params = .ok most ∧ c.positional.length ≤ most

lemma contained_argumentsOf (params : List Value) (c : Call) :
    Contained (op.argumentsOf params c) ↔
      (∀ s ∈ op.slots, s.Readable) ∧
        (op.Takes params c → ∀ p ∈ params.zip c.positional, p.1.isKey = true) := by
  rw [argumentsOf_eq, contained_bind, contained_mostPositional]
  refine and_congr_right fun _ => ?_
  rw [Takes, forall_exists_index]
  refine forall_congr' fun most => ?_
  rw [and_imp]
  refine imp_congr_right fun _ => ?_
  split
  · next h => exact iff_of_true ((contained_error _).mpr rfl) fun hle => by omega
  · next h =>
    rw [contained_bind, contained_nameArguments, forall_prop_of_true (by omega)]
    refine and_iff_left fun arguments _ => ?_
    rw [contained_bind]
    exact ⟨op.contained_addKeywords _ _, fun _ _ => op.contained_addOptions _ _⟩

lemma contained_scopeOf (params : List Value) (c : Call) :
    Contained (op.scopeOf params c) ↔ Contained (op.argumentsOf params c) :=
  contained_bind_ok _ _

/-! ### The request -/

lemma contained_requireSlots [Json.Depth] (scope : Scope) (slots : List Slot) :
    Contained (op.requireSlots scope slots) ↔
      ∀ s, Reaches scope slots s → Contained (scope.lookup s) := by
  unfold Contained FaultsIn
  simp only [requireSlots_eq_error]
  constructor
  · intro h s hs f hf
    exact h f ⟨s, hs, .inl hf⟩
  · rintro h f ⟨s, hs, hf | ⟨-, rfl⟩⟩
    · exact h s hs f hf
    · rfl

lemma contained_uriOf [Json.Depth] (scope : Scope) :
    Contained (op.uriOf scope) ↔
      op.url.Served scope ∧ ∀ v, op.url.evaluate scope = .ok v → v.isWritable = true := by
  rw [uriOf, contained_bind, Template.contained_evaluate]
  refine and_congr_right fun _ => forall₂_congr fun v _ => ?_
  cases v with
  | str s => 
    dsimp only
    split <;> simp [invalidUrl, Value.isWritable, Fault.isBinding, Fault.group]
  | _ => 
    dsimp only
    rw [contained_error, invalidUrl]
    split <;> simp_all [Fault.isBinding, Fault.group]

lemma isOk_headerText (v : Value) : (headerText v).isOk = Json.fits .spaced v := by
  unfold headerText
  split
  · rfl
  · rw [isOk_mapError, Json.isOk_text]

lemma contained_headerText (v : Value) :
    Contained (headerText v) ↔ (headerText v).isOk = true := by
  unfold headerText
  split
  · exact iff_of_true (contained_ok _) rfl
  · rw [contained_mapError Template.isBinding_notWritable, isOk_mapError]

lemma isOk_headerTexts (es : List (String × Value)) :
    (headerTexts es).isOk = true ↔ ∀ e ∈ es, Json.fits .spaced e.2 = true := by
  induction es with
  | nil => exact iff_of_true rfl (by simp)
  | cons e es ih =>
    rw [List.forall_mem_cons, ← ih, ← isOk_headerText, headerTexts]
    cases headerText e.2 <;> cases headerTexts es <;> simp [Except.isOk, Except.toBool]

lemma contained_headerTexts (es : List (String × Value)) :
    Contained (headerTexts es) ↔ (headerTexts es).isOk = true := by
  induction es with
  | nil => exact iff_of_true (contained_ok _) rfl
  | cons e es ih =>
    have hrest (s : String) := (contained_bind_ok (headerTexts es)
      fun more => (e.1, s) :: more).trans ih
    rw [headerTexts, contained_bind_of_isOk (contained_headerText e.2) hrest]
    cases headerText e.2 <;> cases headerTexts es <;> simp [Except.isOk, Except.toBool]

lemma contained_optionsHeader (options : Value) :
    Contained (op.optionsHeader options) ↔
      (options.isNull = false → op.declaresOptions = false → Json.fits .spaced options = true) := by
  unfold optionsHeader
  split
  · next h =>
    refine iff_of_true (contained_ok _) fun hn hd => ?_
    simp [hn, hd] at h
  · next h =>
    rw [Bool.or_eq_true, not_or, Bool.not_eq_true, Bool.not_eq_true] at h
    rw [contained_bind, contained_mapError Template.isBinding_notWritable, Json.isOk_text]
    simp [h.1, h.2]

/-- Every header of the template has a text, and so have the options where they are sent along. -/
def HeadersServed [Json.Depth] (scope : Scope) : Prop :=
  Template.EntriesServed scope op.headers ∧
    ∀ es, Template.evaluateEntries scope op.headers = .ok es →
      (∀ e ∈ es, Json.fits .spaced e.2 = true) ∧
        (scope.options.isNull = false → op.declaresOptions = false →
          Json.fits .spaced scope.options = true)

lemma contained_headersOf [Json.Depth] (scope : Scope) :
    Contained (op.headersOf scope) ↔ op.HeadersServed scope := by
  have hadded (texts : List (String × String)) :
      Contained (op.optionsHeader scope.options >>= fun added => .ok (texts ++ added)) ↔
        (scope.options.isNull = false → op.declaresOptions = false →
          Json.fits .spaced scope.options = true) :=
    (contained_bind_ok _ _).trans (op.contained_optionsHeader _)
  rw [headersOf, contained_bind, Template.contained_evaluateEntries, HeadersServed]
  refine and_congr_right fun _ => forall₂_congr fun es _ => ?_
  rw [← isOk_headerTexts]
  exact contained_bind_of_isOk (contained_headerTexts es) hadded

lemma contained_bodyOf [Json.Depth] (scope : Scope) :
    Contained (op.bodyOf scope) ↔ ∀ t, op.body = some t → t.Served scope := by
  unfold bodyOf
  split
  · next t h => simp [h, Template.contained_evaluate]
  · next h => simp [h]

/-- The call serves the operation: every part of the request, as far as it is made. -/
structure Served [Json.Depth] (scope : Scope) : Prop where
  required : ∀ s, Reaches scope op.slots s → scope.Serves s
  url : AllProvided scope op.slots → op.url.Served scope ∧
    ∀ v, op.url.evaluate scope = .ok v → v.isWritable = true
  query : AllProvided scope op.slots → (op.uriOf scope).isOk = true →
    Template.EntriesServed scope op.query
  headers : AllProvided scope op.slots → (op.uriOf scope).isOk = true →
    (Template.evaluateEntries scope op.query).isOk = true → op.HeadersServed scope
  body : AllProvided scope op.slots → (op.uriOf scope).isOk = true →
    (Template.evaluateEntries scope op.query).isOk = true → (op.headersOf scope).isOk = true →
      ∀ t, op.body = some t → t.Served scope

lemma contained_request [Json.Depth] (scope : Scope) :
    Contained (op.request scope) ↔ op.Served scope := by
  have hbody (uri : String) (query : List (String × Value)) (headers : List (String × String)) :=
    (contained_bind_ok (op.bodyOf scope) fun body =>
      (⟨op.method, uri, true, nonEmpty query, body, nonEmpty headers⟩ : Descriptor)).trans
      (op.contained_bodyOf scope)
  have hheaders (uri : String) (query : List (String × Value)) :=
    contained_bind_of_forall (r := op.headersOf scope) (hbody uri query)
  have hquery (uri : String) :=
    contained_bind_of_forall (r := Template.evaluateEntries scope op.query) (hheaders uri)
  have huri := contained_bind_of_forall (r := op.uriOf scope) hquery
  rw [contained_headersOf, Template.contained_evaluateEntries, contained_uriOf] at huri
  rw [request, contained_bind, contained_requireSlots]
  simp only [scope.contained_lookup]
  constructor
  · rintro ⟨hreq, h⟩
    have hparts (hall : AllProvided scope op.slots) :=
      huri.mp (h () ((op.requireSlots_eq_ok scope).mpr hall))
    exact ⟨hreq, fun hall => (hparts hall).1, fun hall hu => ((hparts hall).2 hu).1,
      fun hall hu hq => (((hparts hall).2 hu).2 hq).1,
      fun hall hu hq hh => (((hparts hall).2 hu).2 hq).2 hh⟩
  · rintro ⟨hreq, hurl, hq, hh, hb⟩
    refine ⟨hreq, fun _ hok => ?_⟩
    have hall := (op.requireSlots_eq_ok scope).mp hok
    exact huri.mpr ⟨hurl hall, fun iu => ⟨hq hall iu, fun iq => ⟨hh hall iu iq, hb hall iu iq⟩⟩⟩

/-- **What is contained.** A call is bound, or turned down with a fault of the call, exactly if
every name that looks like a position is one, the names of its arguments can be names of members,
and the call serves the operation. -/
theorem bind_contained_iff [Json.Depth] (params : List Value) (c : Call) :
    Contained (op.bind params c) ↔
      (∀ s ∈ op.slots, s.Readable) ∧
      (op.Takes params c → ∀ p ∈ params.zip c.positional, p.1.isKey = true) ∧
      ∀ scope, op.scopeOf params c = .ok scope → op.Served scope := by
  rw [bind, contained_bind, contained_scopeOf, contained_argumentsOf, and_assoc]
  simp only [contained_request]

attribute [local instance] Json.Depth.thousand

/-- An infinite number for a slot for integers is not contained. -/
theorem bind_infinite_not_contained :
    ∃ op, compile (.map [(.str "method", .str "GET"), (.str "url", .str "/"),
        (.str "query", .map [(.str "n", .str "\x7bn:integer\x7d")])]) .null none = .ok op ∧
      ¬ Contained (op.bind [.str "n"] ⟨[.float (1 / 0)], [], .null⟩) := by
  decide +kernel

end RestOperations.Operation
