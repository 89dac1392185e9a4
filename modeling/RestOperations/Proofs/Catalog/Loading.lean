import RestOperations.Proofs.Tracing
import RestOperations.Service

/-!
Documents that cannot be loaded. Their entries go into a catalog of its own, which takes the place
of the old one only when it is complete, so that a load that fails leaves the old one as it was. Not
so the client: where the document asks for logging, the client begins with it before the first entry
is looked at, and goes on with it whatever becomes of the document.
-/

namespace RestOperations

/-- Whether to log is settled before any entry. -/
lemma Catalog.debug_ofDocument (debug : Bool) (d : Document) :
    (ofDocument debug d).debug = (debug || d.debug) :=
  Session.debug_addEntries _ _ _

namespace Session

lemma withDebug_eq_self_iff {s : Session} {b : Bool} : s.withDebug b = s ↔ b = s.client.debug := by
  constructor
  · intro h
    exact congrArg (·.client.debug) h
  · rintro rfl
    rfl

/-- After a load that fails, the session is as before but for logging. -/
lemma loadStep_failed {s : Session} {d : Document}
    (h : (s.loadStep (.ok d)).2.result.isOk = false) :
    (s.loadStep (.ok d)).1 = s.withDebug (s.client.debug || d.debug) := by
  have hdebug := Catalog.debug_ofDocument s.client.debug d
  unfold loadStep at h ⊢
  cases hr : (Catalog.ofDocument s.client.debug d).result with
  | error f => simp only [hr, hdebug, withDebug]
  | ok c =>
    simp only [hr] at h
    cases h

end Session

namespace Service

/-- After a load that fails, the service is as before but for logging. -/
lemma initializeWith_failed {s : Service} {d : Document}
    (h : (s.initializeWith (.ok d)).2.result.isOk = false) :
    (s.initializeWith (.ok d)).1 = { s with client := ⟨s.client.debug || d.debug⟩ } := by
  have hdebug := Catalog.debug_ofDocument s.client.debug d
  unfold initializeWith at h ⊢
  cases hr : (Catalog.ofDocument s.client.debug d).result with
  | error f => simp only [hr, hdebug]
  | ok c =>
    simp only [hr] at h
    cases h

/-- A service that fails to start has its catalog as before, and logs as before unless the document
that it reads asks for logging. -/
lemma initialized_failed [Json.Depth] {s : Service} {files : Document.Files}
    (h : (s.initialized files).2.result.isOk = false) :
    (s.initialized files).1 = s ∧ (∃ f, Document.load files s.spec = .error f) ∨
      ∃ d, Document.load files s.spec = .ok d ∧
        (s.initialized files).1 = { s with client := ⟨s.client.debug || d.debug⟩ } := by
  unfold initialized at h ⊢
  split at h
  · cases h
  · next hspec =>
    rw [if_neg hspec]
    cases hd : Document.load files s.spec with
    | error f => exact .inl ⟨rfl, f, rfl⟩
    | ok d =>
      rw [hd] at h
      exact .inr ⟨d, rfl, initializeWith_failed h⟩

lemma withClient_eq_self_iff {s : Service} {b : Bool} :
    { s with client := ⟨b⟩ } = s ↔ b = s.client.debug := by
  constructor
  · intro h
    exact congrArg (·.client.debug) h
  · rintro rfl
    rfl

end Service

/-- **When a load that fails changes nothing.** If a document is refused, the session stays exactly
as it is, and so does a service that fails to start, if and only if the document does not ask for
logging or logging is on already. The catalog of the service stays in any case. -/
theorem Catalog.failed_load_keeps_iff [Json.Depth] (s : Session) (d : Document) (t : Service)
    (files : Document.Files) :
    (((s.step (.document (.ok d))).2.result.isOk = false → (s.step (.document (.ok d))).1 = s) ↔
      ((s.step (.document (.ok d))).2.result.isOk = false →
        d.debug = true → s.client.debug = true)) ∧
    (((t.initialized files).2.result.isOk = false → (t.initialized files).1 = t) ↔
      ((t.initialized files).2.result.isOk = false →
        ∀ d, Document.load files t.spec = .ok d → d.debug = true → t.client.debug = true)) ∧
    ((t.initialized files).2.result.isOk = false →
      (t.initialized files).1.catalog = t.catalog) := by
  refine ⟨imp_congr_right fun h => ?_, imp_congr_right fun h => ?_, fun h => ?_⟩
  · have hstep : (s.step (.document (.ok d))).1 = s.withDebug (s.client.debug || d.debug) :=
      Session.loadStep_failed h
    rw [hstep, Session.withDebug_eq_self_iff, Bool.or_eq_left_iff_imp]
  · obtain ⟨hkeep, f, hf⟩ | ⟨d, hd, hnext⟩ := Service.initialized_failed h
    · simp [hkeep, hf]
    · rw [hnext, Service.withClient_eq_self_iff, Bool.or_eq_left_iff_imp, hd]
      simp
  · obtain ⟨hkeep, -⟩ | ⟨d, -, hnext⟩ := Service.initialized_failed h
    · rw [hkeep]
    · rw [hnext]

attribute [local instance] Json.Depth.thousand

/-- A document that asks for logging, with an entry that has no template. -/
def loggedDocument : Document := ⟨true, [⟨none, []⟩]⟩

def quietSession : Session := { transport := fun _ => .answered none .null }

/-- A service that is to read the document from a file. -/
def quietService : Service := ⟨"api", "", "api.json", ⟨.null, .null⟩, ⟨false⟩, {}⟩

def loggedFiles : Document.Files :=
  [("api.json", "\x7b\"debug\": true, \"operations\": [\x7b\x7d]\x7d".toUTF8.toList)]

/-- The document is refused, and yet logging is on from then on. -/
theorem refused_document_logs :
    ((quietSession.step (.document (.ok loggedDocument))).2.result.isOk = false ∧
      (quietSession.step (.document (.ok loggedDocument))).1 ≠ quietSession) ∧
    (quietService.initialized loggedFiles).2.result.isOk = false ∧
      (quietService.initialized loggedFiles).1 ≠ quietService := by
  have hlogs : ((quietSession.step (.document (.ok loggedDocument))).2.result.isOk = false ∧
      (quietSession.step (.document (.ok loggedDocument))).1.client.debug = true) ∧
      (quietService.initialized loggedFiles).2.result.isOk = false ∧
        (quietService.initialized loggedFiles).1.client.debug = true := by
    decide +kernel
  obtain ⟨⟨hsession, hlog⟩, hservice, hlog'⟩ := hlogs
  refine ⟨⟨hsession, fun heq => ?_⟩, hservice, fun heq => ?_⟩
  · rw [heq] at hlog
    cases hlog
  · rw [heq] at hlog'
    cases hlog'

end RestOperations
