import Mathlib.Tactic.Lemma
import RestOperations.Exchange

/-!
What comes of an exchange while nothing is logged. The request goes out once, the body of a good
response is extracted at most once, and there is one envelope: it is the result of the exchange, and
the only thing that a callback gets to see. A cancellation leaves no envelope behind.

What the envelope has to say is read off the reply and the extraction alone.
-/

namespace RestOperations

namespace Traced

variable {α β : Type}

lemma andThen_ok {t : Traced α} {a : α} (h : t.result = .ok a) (next : α → Traced β) :
    t.andThen next = .after t.trace (next a) := by
  simp [andThen, h]

lemma andThen_error {t : Traced α} {f : Fault} (h : t.result = .error f) (next : α → Traced β) :
    t.andThen next = ⟨t.trace, .error f⟩ := by
  simp [andThen, h]

end Traced

/-- The response that came with a reply. -/
def Reply.response? : Reply → Option Response
  | .answered response _ => response
  | .failed _ => none

namespace Exchange

/-- The body that a reply gives the extraction to work on: that of a response with a status below
400, if there is an extraction at all. -/
def extractable (extract : Option Extraction) : Reply → List Value
  | .answered (some r) body => if extract.isSome ∧ r.status < 400 then [body] else []
  | _ => []

/-- What the transport raised, or else the extraction. -/
def raised? (extract : Option Extraction) : Reply → Option Fault
  | .failed f => some f
  | .answered (some r) body =>
    match extract with
    | some extract =>
      if r.status < 400 then match extract body with | .error f => some f | .ok _ => none
      else none
    | none => none
  | .answered none _ => none

/-- The envelope tells what happened to the request. -/
structure Tells (extract : Option Extraction) (reply : Reply) (e : Envelope) : Prop where
  response : e.response = reply.response?
  raised : ∀ f, raised? extract reply = some f → e.error = some f
  status : raised? extract reply = none → ∀ r, reply.response? = some r → 400 ≤ r.status →
    ∃ s, e.error = some (.status s) ∧ s.status = .int r.status
  fine : raised? extract reply = none → (∀ r, reply.response? = some r → r.status < 400) →
    e.error = none
  result : e.error.isSome → e.result = .null
  extracted : ∀ x body, extract = some x → extractable extract reply = [body] →
    e.error = none → x body = .ok e.result
  body : ∀ response body, reply = .answered response body → extractable extract reply = [] →
    e.error = none → e.result = body

/-- The exchange ends with the envelope, after a callback has been given it. -/
structure Delivers (callback : Option Callback) (t : Traced Envelope) (e : Envelope) : Prop where
  calls : t.trace.calls = if callback.isSome then [e] else []
  plain : callback = none → t.result = .ok e
  called : ∀ c, callback = some c → t.result = (c e).outcome.map fun _ => e

lemma isError_iff (r : Response) : r.isError = true ↔ 400 ≤ r.status := by
  rw [Response.isError, decide_eq_true_iff]; rfl

lemma isError_eq_false {r : Response} (h : r.status < 400) : r.isError = false := by
  rw [← Bool.not_eq_true, isError_iff]; omega

lemma eq_of_extractable {extract : Option Extraction} {response : Option Response}
    {body b : Value} (h : extractable extract (.answered response body) = [b]) : body = b := by
  rcases response with _ | r <;> simp only [extractable] at h
  · cases h
  · split at h
    · simpa using h
    · cases h

/-! ### The envelope -/

lemma trace_settle (extract : Option Extraction) (reply : Reply) :
    (settle extract reply).trace = { extractions := extractable extract reply } := by
  rcases reply with ⟨_ | r, body⟩ | f
  · cases extract <;> rfl
  · rcases extract with _ | x
    · rfl
    · by_cases h : r.status < 400
      · have he := isError_eq_false h
        cases hx : x body <;> simp [settle, extracted, extractable, he, h, hx]
      · have he : r.isError = true := (isError_iff r).mpr (by omega)
        simp [settle, extracted, extractable, he, h]
  · rfl

/-- What was raised ends in the envelope, unless it ends the exchange. -/
lemma settle_raised {extract : Option Extraction} {reply : Reply} {f : Fault}
    (hr : raised? extract reply = some f) :
    (settle extract reply).result =
      if isCancellation f then .error f else .ok (.failure f reply.response?) := by
  rcases reply with ⟨_ | r, body⟩ | g
  · simp [raised?] at hr
  · rcases extract with _ | x
    · simp [raised?] at hr
    · by_cases h : r.status < 400
      · have he := isError_eq_false h
        cases hx : x body with
        | ok v => simp [raised?, h, hx] at hr
        | error g =>
          obtain rfl : g = f := by simpa [raised?, h, hx] using hr
          simp only [settle, extracted, he, hx, stopped, Reply.response?]
          rfl
      · simp [raised?, h] at hr
  · obtain rfl : g = f := by simpa [raised?] using hr
    rfl

/-- Where nothing was raised, the response decides, and the result is the body as the extraction
left it. -/
lemma settle_quiet {extract : Option Extraction} {reply : Reply}
    (hr : raised? extract reply = none) :
    ∃ response body v, reply = .answered response body ∧
      (settle extract reply).result = .ok (.of none response v) ∧
      (∀ x, extract = some x → extractable extract reply = [body] → x body = .ok v) ∧
      (extractable extract reply = [] → v = body) := by
  rcases reply with ⟨_ | r, body⟩ | g
  · refine ⟨none, body, body, rfl, ?_, ?_, fun _ => rfl⟩
    · cases extract <;> rfl
    · simp [extractable]
  · rcases extract with _ | x
    · exact ⟨some r, body, body, rfl, rfl, by simp, fun _ => rfl⟩
    · by_cases h : r.status < 400
      · have he := isError_eq_false h
        cases hx : x body with
        | error g => simp [raised?, h, hx] at hr
        | ok v =>
          refine ⟨some r, body, v, rfl, ?_, ?_, ?_⟩
          · simp [settle, extracted, he, hx]
          · intro y hy _
            cases hy
            exact hx
          · simp [extractable, h]
      · have he : r.isError = true := (isError_iff r).mpr (by omega)
        refine ⟨some r, body, body, rfl, ?_, ?_, fun _ => rfl⟩
        · simp [settle, extracted, he]
        · simp [extractable, h]
  · simp [raised?] at hr

lemma tells_failure {extract : Option Extraction} {reply : Reply} {f : Fault}
    (hr : raised? extract reply = some f) :
    Tells extract reply (.failure f reply.response?) where
  response := rfl
  raised := fun g hg => by rw [hr] at hg; exact hg
  status := fun h => by simp [hr] at h
  fine := fun h => by simp [hr] at h
  result := fun _ => rfl
  extracted := fun _ _ _ _ h => by simp [Envelope.failure] at h
  body := fun _ _ _ _ h => by simp [Envelope.failure] at h

/-- Without a fault it is the status that tells an error from a result. -/
lemma of_none_cases (response : Option Response) (v : Value) :
    (∃ r, response = some r ∧ 400 ≤ r.status ∧
      Envelope.of none response v = .failure (.status (r.error v)) response) ∨
    ((∀ r, response = some r → r.status < 400) ∧
      Envelope.of none response v = .success response v) := by
  rcases response with _ | r
  · exact .inr ⟨by simp, rfl⟩
  · by_cases h : r.status < 400
    · refine .inr ⟨by simpa using h, ?_⟩
      simp [Envelope.of, isError_eq_false h]
    · have h4 : 400 ≤ r.status := by omega
      exact .inl ⟨r, rfl, h4, by simp [Envelope.of, (isError_iff r).mpr h4]⟩

lemma tells_quiet {extract : Option Extraction} {reply : Reply}
    (hr : raised? extract reply = none) :
    ∃ e, (settle extract reply).result = .ok e ∧ Tells extract reply e := by
  obtain ⟨response, body, v, rfl, hs, hx, hb⟩ := settle_quiet hr
  refine ⟨_, hs, ?_⟩
  rcases of_none_cases response v with ⟨r, rfl, h4, he⟩ | ⟨hlt, he⟩ <;> rw [he]
  · exact {
      response := rfl
      raised := fun f hf => by simp [hr] at hf
      status := fun _ r' h' _ => by
        obtain rfl : r = r' := by simpa [Reply.response?] using h'
        exact ⟨_, rfl, rfl⟩
      fine := fun _ h => by have := h r rfl; omega
      result := fun _ => rfl
      extracted := fun _ _ _ _ h => by simp [Envelope.failure] at h
      body := fun _ _ _ _ h => by simp [Envelope.failure] at h }
  · exact {
      response := rfl
      raised := fun f hf => by simp [hr] at hf
      status := fun _ r' h' h4 => by have := hlt r' h'; omega
      fine := fun _ _ => rfl
      result := fun h => by simp [Envelope.success] at h
      extracted := fun x b hex hb' _ => by
        obtain rfl := eq_of_extractable hb'
        exact hx x hex hb'
      body := fun response' body' h hnil _ => by
        simp only [Reply.answered.injEq] at h
        obtain ⟨rfl, rfl⟩ := h
        exact hb hnil }

/-! ### The exchange -/

lemma trace_deliver (callback : Option Callback) (e : Envelope) :
    (deliver callback e).trace = { calls := if callback.isSome then [e] else [] } := by
  cases callback <;> rfl

/-- Without a log, an exchange is the request, the reply and what is made of it. -/
lemma run_silent (transport : Transport) (extract : Option Extraction)
    (callback : Option Callback) (d : Descriptor) :
    run false transport extract callback d =
      .after { requests := [d] }
        ((settle extract (transport d)).andThen fun e => deliver callback e) := rfl

variable {transport : Transport} {extract : Option Extraction} {d : Descriptor}

lemma run_ended {f : Fault} (h : (settle extract (transport d)).result = .error f)
    (callback : Option Callback) :
    run false transport extract callback d =
      ⟨{ requests := [d], extractions := extractable extract (transport d) }, .error f⟩ := by
  rw [run_silent, Traced.andThen_error h, trace_settle]
  rfl

lemma run_delivered {e : Envelope} (h : (settle extract (transport d)).result = .ok e)
    (callback : Option Callback) :
    run false transport extract callback d =
      ⟨{ requests := [d], extractions := extractable extract (transport d),
         calls := if callback.isSome then [e] else [] }, (deliver callback e).result⟩ := by
  rw [run_silent, Traced.andThen_ok h, trace_settle, Traced.after, Traced.after, trace_deliver]
  simp only [Trace.append_eq, List.append_nil, List.nil_append]

lemma delivers_of_settle {e : Envelope} (h : (settle extract (transport d)).result = .ok e)
    (callback : Option Callback) :
    Delivers callback (run false transport extract callback d) e := by
  rw [run_delivered h]
  cases callback with
  | none => exact ⟨rfl, fun _ => rfl, by simp⟩
  | some c => exact ⟨rfl, by simp, by rintro _ ⟨⟩; rfl⟩

/-- **One request, one envelope.** The request is sent once, and the extraction gets no body but
that of a response with a status below 400. A cancellation is passed on and no callback is called;
otherwise one envelope tells what happened, and the exchange and the callback both get it. -/
theorem run_delivers_once (transport : Transport) (extract : Option Extraction)
    (callback : Option Callback) (d : Descriptor) :
    let t := run false transport extract callback d
    t.trace.requests = [d] ∧ t.trace.extractions = extractable extract (transport d) ∧
    (∀ f, raised? extract (transport d) = some f → isCancellation f = true →
      t.result = .error f ∧ t.trace.calls = []) ∧
    ((∀ f, raised? extract (transport d) = some f → isCancellation f = false) →
      ∃ e, Tells extract (transport d) e ∧ Delivers callback t e) := by
  intro t
  rcases hr : raised? extract (transport d) with _ | f
  · obtain ⟨e, hs, he⟩ := tells_quiet hr
    have ht : t = _ := run_delivered hs callback
    refine ⟨by rw [ht], by rw [ht], by simp, fun _ => ⟨e, he, delivers_of_settle hs callback⟩⟩
  · have hs := settle_raised hr
    rcases hc : isCancellation f with _ | _
    · rw [if_neg (by simp [hc])] at hs
      have ht : t = _ := run_delivered hs callback
      refine ⟨by rw [ht], by rw [ht], ?_, fun _ => ?_⟩
      · rintro _ ⟨⟩ h
        simp [hc] at h
      · exact ⟨_, tells_failure hr, delivers_of_settle hs callback⟩
    · rw [if_pos hc] at hs
      have ht : t = _ := run_ended hs callback
      refine ⟨by rw [ht], by rw [ht], ?_, fun h => ?_⟩
      · rintro _ ⟨⟩ -
        exact ⟨by rw [ht], by rw [ht]⟩
      · simp [hc] at h

end Exchange

end RestOperations
