import RestOperations.Proofs.Delivery
import RestOperations.Proofs.Json.Fits
import RestOperations.Session

/-!
Logging, and what it does to a session. Two runs of the same steps are compared, one as it is and
one in which logging is never switched on. All that they may differ in is the log, as long as the
requests that go out can be written to it; a request that cannot be written is not sent where it is
logged.
-/

namespace RestOperations

namespace Exchange

lemma isOk_describe (d : Descriptor) : (describe d).isOk = Json.fits .lenient d.toValue := by
  rw [describe, ← Json.isOk_write]
  cases Json.write .lenient d.toValue <;> rfl

variable (transport : Transport) (extract : Option Extraction) (callback : Option Callback)
  {d : Descriptor}

/-- A request that can be described is logged, and then all goes on as it would without a log. -/
lemma run_described {r : LogRecord} (h : describe d = .ok r) :
    run true transport extract callback d =
      .after { log := [r] } (run false transport extract callback d) := by
  have hreport : report true d = ⟨{ log := [r] }, .ok ()⟩ := by simp [report, h]
  rw [run, Traced.andThen_ok (by rw [hreport]), hreport]
  rfl

/-- One that cannot be described is not sent. -/
lemma run_undescribed {f : Fault} (h : describe d = .error f) :
    run true transport extract callback d = .silent (.error f) := by
  have hreport : report true d = .silent (.error f) := by simp [report, h]
  rw [run, Traced.andThen_error (by rw [hreport]; rfl), hreport]
  rfl

lemma requests_run_false (d : Descriptor) :
    (run false transport extract callback d).trace.requests = [d] := by
  cases h : (settle extract (transport d)).result with
  | error f => rw [run_ended h]
  | ok e => rw [run_delivered h]

end Exchange

namespace Session

/-! ### Runs without logging -/

/-- The step, with logging left off. -/
def Step.quiet : Step → Step
  | .debug _ => .debug (.bool false)
  | .document d => .document (d.map fun d => { d with debug := false })
  | st => st

def withDebug (s : Session) (debug : Bool) : Session := { s with client := ⟨debug⟩ }

/-- The session, with logging off. -/
def quiet (s : Session) : Session := s.withDebug false

/-- What can be seen of a step, apart from the log. -/
structure View where
  result : Except Fault Result
  requests : List Descriptor
  extractions : List Value
  calls : List Envelope
  names : List String

def view (after : Session × Traced Result) : View :=
  ⟨after.2.result, after.2.trace.requests, after.2.trace.extractions, after.2.trace.calls,
    after.1.catalog.names⟩

/-- What can be seen of some steps, one after the other. -/
def views [Json.Depth] (s : Session) : List Step → List View
  | [] => []
  | st :: steps => view (s.step st) :: views (s.step st).1 steps

/-- The requests that logging may be in the way of: those that go out without it, at steps that are
taken while it is on. -/
def logged [Json.Depth] (s : Session) : List Step → List Descriptor
  | [] => []
  | st :: steps =>
    (if s.client.debug then (s.quiet.step st.quiet).2.trace.requests else []) ++
      logged (s.step st).1 steps

/-! ### Steps -/

/-- The step sends a request, and does nothing else. -/
structure Sends [Json.Depth] (s : Session) (st : Step) (extract : Option Extraction)
    (callback : Option Callback) (d : Descriptor) : Prop where
  quiet : st.quiet = st
  step : ∀ b, (s.withDebug b).step st =
    (s.withDebug b, enveloped (Exchange.run b s.transport extract callback d))

/-- The step sends nothing; how the session changes and what results does not depend on logging. -/
def Rests [Json.Depth] (s : Session) (st : Step) : Prop :=
  ∃ (next : Session) (result : Except Fault Result),
    (∀ b, ∃ b' log, (s.withDebug b).step st = (next.withDebug b', ⟨{ log }, result⟩)) ∧
    ∃ log, s.quiet.step st.quiet = (next.quiet, ⟨{ log }, result⟩)

/-- A step that does not touch on logging at all. -/
lemma rests_of_silent [Json.Depth] {s : Session} {st : Step} (next : Session)
    (result : Except Fault Result)
    (hq : st.quiet = st)
    (h : ∀ b, (s.withDebug b).step st = (next.withDebug b, .silent result)) : s.Rests st := by
  refine ⟨next, result, fun b => ⟨b, [], h b⟩, [], ?_⟩
  rw [hq]
  exact h false

lemma resolve_withDebug (s : Session) (b : Bool) (r : Reference) :
    (s.withDebug b).resolve r = s.resolve r := by
  cases r <;> rfl

lemma compileStep_withDebug (s : Session) (b : Bool) (template functions : Value)
    (name : Option String) (bound : Bool) :
    (s.withDebug b).compileStep template functions name bound =
      s.compileStep template functions name bound := by
  cases bound <;> rfl

/-- The entries of a document come to the same with and without logging. -/
lemma result_addEntries (b b' : Bool) (c : Catalog) (es : List (Document.Entry × Nat)) :
    (Catalog.addEntries b c es).result = (Catalog.addEntries b' c es).result := by
  induction es generalizing c with
  | nil => rfl
  | cons e es ih =>
    rw [Catalog.addEntries, Catalog.addEntries]
    cases c.addEntry e.2 e.1 with
    | error f => rfl
    | ok p => exact ih p.2

lemma debug_addEntries (b : Bool) (c : Catalog) (es : List (Document.Entry × Nat)) :
    (Catalog.addEntries b c es).debug = b := by
  induction es generalizing c with
  | nil => rfl
  | cons e es ih =>
    rw [Catalog.addEntries]
    cases c.addEntry e.2 e.1 with
    | error f => rfl
    | ok p => exact ih p.2

/-- A document is loaded with the same outcome; only what is logged depends on logging. -/
lemma loadStep_withDebug (s : Session) (b : Bool) (d : Document) :
    ∃ log, (s.withDebug b).loadStep (.ok d) =
      match (Catalog.addEntries false {} d.entries.zipIdx).result with
      | .error f => (s.withDebug (b || d.debug), ⟨{ log }, .error f⟩)
      | .ok c => ({ s with catalog := c }.withDebug (b || d.debug),
          ⟨{ log }, .ok (.operations c.operations)⟩) := by
  have hresult := result_addEntries (b || d.debug) false {} d.entries.zipIdx
  have hdebug := debug_addEntries (b || d.debug) {} d.entries.zipIdx
  refine ⟨(Catalog.addEntries (b || d.debug) {} d.entries.zipIdx).log, ?_⟩
  unfold loadStep Catalog.ofDocument
  cases hr : (Catalog.addEntries false {} d.entries.zipIdx).result <;>
    simp only [withDebug, hresult, hdebug, hr]

lemma rests_document [Json.Depth] (s : Session) (d : Except Fault Document) :
    s.Rests (.document d) := by
  cases d with
  | error f => exact rests_of_silent s (.error f) rfl fun _ => rfl
  | ok d =>
    have hquiet := s.loadStep_withDebug false { d with debug := false }
    have hloud (b : Bool) := s.loadStep_withDebug b d
    cases hr : (Catalog.addEntries false {} d.entries.zipIdx).result with
    | error f =>
      simp only [hr] at hquiet hloud
      exact ⟨s, .error f, fun b => ⟨_, hloud b⟩, hquiet⟩
    | ok c =>
      simp only [hr] at hquiet hloud
      exact ⟨{ s with catalog := c }, .ok (.operations c.operations), fun b => ⟨_, hloud b⟩, hquiet⟩

lemma rests_register [Json.Depth] (s : Session) (key : String) : s.Rests (.register key) := by
  cases hop : kept s.operations key with
  | error f =>
    refine rests_of_silent s (.error f) rfl fun b => ?_
    simp only [step, registerStep, withDebug, hop, error_bind]
  | ok op =>
    cases hc : s.catalog.register op with
    | error f =>
      refine rests_of_silent s (.error f) rfl fun b => ?_
      simp only [step, registerStep, withDebug, hop, hc, ok_bind, error_bind]
    | ok c =>
      have h (b : Bool) : (s.withDebug b).step (.register key) =
          ({ s with catalog := c }.withDebug b,
            ⟨{ log := Catalog.records b op }, .ok .nothing⟩) := by
        simp only [step, registerStep, withDebug, hop, hc, ok_bind]
      exact ⟨{ s with catalog := c }, .ok .nothing, fun b => ⟨b, _, h b⟩, _, h false⟩

lemma call_cases [Json.Depth] (s : Session) (r : Reference) (c : Call)
    (callback : Option Callback) :
    (∃ extract d, s.Sends (.call r c callback) extract callback d) ∨
      s.Rests (.call r c callback) := by
  cases hf : s.resolve r with
  | error e =>
    refine .inr (rests_of_silent s (.error e) rfl fun b => ?_)
    simp only [step, resolve_withDebug, hf]
  | ok f =>
    cases hb : f.operation.bound with
    | false =>
      refine .inr (rests_of_silent s (.error (.unbound f.operation.title)) rfl fun b => ?_)
      simp only [step, resolve_withDebug, hf, Client.call, hb]
      rfl
    | true =>
      cases hd : f.descriptor c with
      | error e =>
        refine .inr (rests_of_silent s (.error e) rfl fun b => ?_)
        simp only [step, resolve_withDebug, hf, Client.call, hb, hd]
        rfl
      | ok d =>
        refine .inl ⟨some (Client.extraction f.operation), d, rfl, fun b => ?_⟩
        simp only [step, resolve_withDebug, hf, Client.call, hb, hd]
        rfl

lemma act_cases [Json.Depth] (s : Session) (key : String) (a : Collection.Action) (options : Value)
    (callback : Option Callback) :
    (∃ d, s.Sends (.act key a options callback) none callback d) ∨
      s.Rests (.act key a options callback) := by
  cases hd : kept s.collections key >>= fun c => c.descriptor a options with
  | error f =>
    refine .inr (rests_of_silent s (.error f) rfl fun b => ?_)
    simp only [step, actStep, withDebug, hd]
  | ok d =>
    refine .inl ⟨d, rfl, fun b => ?_⟩
    simp only [step, actStep, withDebug, hd]
    rfl

/-- A step sends one request, or none. -/
theorem step_cases [Json.Depth] (s : Session) (st : Step) :
    (∃ extract callback d, s.Sends st extract callback d) ∨ s.Rests st := by
  cases st with
  | reply transport =>
    exact .inr (rests_of_silent { s with transport } (.ok .nothing) rfl fun _ => rfl)
  | debug v => exact .inr ⟨s, .ok .nothing, fun b => ⟨_, [], rfl⟩, [], rfl⟩
  | compile key template functions name bound =>
    right
    cases h : s.compileStep template functions name bound with
    | error f =>
      refine rests_of_silent s (.error f) rfl fun b => ?_
      rw [step, compileStep_withDebug, h]
      rfl
    | ok op =>
      refine rests_of_silent { s with operations := keep s.operations key op } (.ok (.operation op))
        rfl fun b => ?_
      rw [step, compileStep_withDebug, h]
      rfl
  | function r =>
    refine .inr (rests_of_silent s ((s.resolve r).map .function) rfl fun b => ?_)
    rw [step, resolve_withDebug]
    rfl
  | descriptor r c =>
    refine .inr (rests_of_silent s (s.resolve r >>= fun f =>
      f.descriptor c >>= fun d => .ok (.descriptor d)) rfl fun b => ?_)
    rw [step, resolve_withDebug]
    rfl
  | call r c callback =>
    obtain ⟨extract, d, h⟩ | h := s.call_cases r c callback
    · exact .inl ⟨extract, callback, d, h⟩
    · exact .inr h
  | request fields callback =>
    cases hd : fieldsOf fields with
    | error f =>
      refine .inr (rests_of_silent s (.error f) rfl fun b => ?_)
      rw [step, hd]
    | ok d =>
      refine .inl ⟨none, callback, d, rfl, fun b => ?_⟩
      rw [step, hd]
      rfl
  | document d => exact .inr (s.rests_document d)
  | clear => exact .inr (rests_of_silent { s with catalog := {} } (.ok .nothing) rfl fun _ => rfl)
  | register key => exact .inr (s.rests_register key)
  | contains names =>
    exact .inr (rests_of_silent s (.ok (.contains (names.map s.catalog.contains))) rfl fun _ => rfl)
  | find name =>
    exact .inr (rests_of_silent s
      ((s.catalog.function name).map fun f => .found f (s.catalog.indexOf? name)) rfl fun _ => rfl)
  | collection key model baseUrl =>
    exact .inr (rests_of_silent
      { s with collections := keep s.collections key (.under baseUrl model) }
      (.ok (.collection (.under baseUrl model))) rfl fun _ => rfl)
  | act key a options callback =>
    obtain ⟨d, h⟩ | h := s.act_cases key a options callback
    · exact .inl ⟨none, callback, d, h⟩
    · exact .inr h

/-! ### Two runs -/

lemma withDebug_self (s : Session) : s.withDebug s.client.debug = s := rfl

/-- What becomes of the session does not depend on logging, whatever happens to the request. -/
lemma quiet_step [Json.Depth] (s : Session) (st : Step) :
    (s.step st).1.quiet = (s.quiet.step st.quiet).1 := by
  obtain ⟨extract, callback, d, hq, hstep⟩ | ⟨next, result, hloud, log, hquiet⟩ := s.step_cases st
  · have hs := hstep s.client.debug
    rw [withDebug_self] at hs
    rw [hs, hq, quiet, hstep]
  · obtain ⟨b, log', hs⟩ := hloud s.client.debug
    rw [withDebug_self] at hs
    rw [hs, hquiet]
    rfl

/-- Where it is logged, a request is seen to go out as ever exactly if it can be described. -/
lemma view_run_true (s : Session) (extract : Option Extraction) (callback : Option Callback)
    (d : Descriptor) :
    view (s, enveloped (Exchange.run true s.transport extract callback d)) =
        view (s.quiet, enveloped (Exchange.run false s.transport extract callback d)) ↔
      Json.fits .lenient d.toValue = true := by
  rw [← Exchange.isOk_describe]
  cases h : Exchange.describe d with
  | ok r =>
    rw [Exchange.run_described _ _ _ h]
    exact iff_of_true rfl rfl
  | error f =>
    rw [Exchange.run_undescribed _ _ _ h]
    refine iff_of_false (fun heq => ?_) (by simp [Except.isOk, Except.toBool])
    have hrequests := congrArg View.requests heq
    simp only [view, enveloped, Exchange.requests_run_false] at hrequests
    cases hrequests

lemma view_step [Json.Depth] (s : Session) (st : Step) :
    view (s.step st) = view (s.quiet.step st.quiet) ↔
      (s.client.debug = true →
        ∀ d ∈ (s.quiet.step st.quiet).2.trace.requests, Json.fits .lenient d.toValue = true) := by
  obtain ⟨extract, callback, d, hq, hstep⟩ | ⟨next, result, hloud, log, hquiet⟩ := s.step_cases st
  · have hs := hstep s.client.debug
    rw [withDebug_self] at hs
    have hrequests : (s.quiet.step st.quiet).2.trace.requests = [d] := by
      rw [hq, quiet, hstep]
      exact Exchange.requests_run_false _ _ _ d
    rw [hrequests, hq, hs, quiet, hstep]
    cases hb : s.client.debug with
    | false => exact iff_of_true rfl (by simp)
    | true =>
      rw [forall_prop_of_true rfl, List.forall_mem_singleton]
      exact s.view_run_true extract callback d
  · obtain ⟨b, log', hs⟩ := hloud s.client.debug
    rw [withDebug_self] at hs
    rw [hs, hquiet]
    exact iff_of_true rfl (by simp)

/-- **Logging is only seen in the log.** A run of a session looks the same with logging left off,
exactly if every request that goes out while logging is on can be written to the log. -/
theorem views_eq_quiet_iff [Json.Depth] (s : Session) (steps : List Step) :
    s.views steps = s.quiet.views (steps.map Step.quiet) ↔
      ∀ d ∈ s.logged steps, Json.fits .lenient d.toValue = true := by
  induction steps generalizing s with
  | nil => simp [views, logged]
  | cons st steps ih =>
    rw [List.map_cons, views, views, List.cons_eq_cons, view_step, ← quiet_step, ih, logged,
      List.forall_mem_append]
    refine and_congr_left fun _ => ?_
    split
    · next hb => simp [hb]
    · next hb => simp [hb]

attribute [local instance] Json.Depth.thousand

/-- An operation with a date for a key in its body. -/
def datedTemplate : OperationTemplate :=
  ⟨"POST", "/", [], [], .map [(.date ⟨2020, 1, 1⟩, .str "a")], none⟩

/-- A call of the operation, while logging is on. -/
def datedSteps : List Step :=
  [.debug (.bool true), .document (.ok ⟨false, [⟨some datedTemplate, [("f", [])]⟩]⟩),
    .call (.registered "f") ⟨[], [], .null⟩ none]

/-- The key cannot be written to the log, so the request does not go out. -/
theorem dated_views_ne :
    ({ transport := fun _ => .answered none .null } : Session).views datedSteps ≠
      ({ transport := fun _ => .answered none .null } : Session).quiet.views
        (datedSteps.map Step.quiet) := by
  intro h
  have hsent := congrArg (List.map fun v => v.requests.length) h
  revert hsent
  decide +kernel

end Session

end RestOperations
