import RestOperations.Client
import RestOperations.Http.Message
import RestOperations.Proofs.Delivery
import RestOperations.Proofs.Json.Depth

/-!
Replies that are complete. A reply with a status, headers and a body is an answer, and what it says
of the request is told by its status alone: whatever the octets of the body are, they stand for a
value. The one exception is a body that is to be read as JSON and goes too deep, which makes the
transport fail after all.
-/

namespace RestOperations

namespace Text.Utf8

/-- Octets of ASCII are characters of their own. -/
lemma decodeLossy_ascii {bs : List UInt8} (h : ∀ b ∈ bs, b.toNat < 0x80) :
    decodeLossy bs = bs.map fun b => Char.ofNat b.toNat := by
  unfold decodeLossy
  induction bs with
  | nil => rfl
  | cons b bs ih =>
    rw [List.forall_mem_cons] at h
    have hstep : step b bs = .char (Char.ofNat b.toNat) 1 bs := by rw [step, if_pos h.1]
    rw [List.length_cons, decodeLossyFrom, hstep, List.map_cons]
    exact congrArg (Char.ofNat b.toNat :: ·) (ih h.2)

end Text.Utf8

namespace Http

/-- The text of a body; octets that are none are replaced. -/
def bodyText (octets : List UInt8) : String := String.ofList (Text.Utf8.decodeLossy octets)

/-- What a body stands for: nothing if it is empty, its value where it is to be JSON and is, and else
its text. -/
def bodyValue [Json.Depth] (text : String) (json : Bool) : Value :=
  if text.isEmpty then .null
  else if json then
    match Json.read text with
    | .ok v => v
    | .error _ => .str text
  else .str text

section Decoding

variable {text : String} {json : Bool}

lemma not_tooDeep_of_isEmpty [Json.Depth] (h : text.isEmpty = true) : ¬ Json.TooDeep text := by
  have htext : text = "" := by simpa using h
  refine Json.not_tooDeep_of_openings ?_
  rw [htext]
  exact Nat.zero_le _

lemma decodeBody_eq [Json.Depth] (h : ¬ (json = true ∧ Json.TooDeep text)) :
    decodeBody text json = .ok (bodyValue text json) := by
  unfold decodeBody bodyValue
  split
  · rfl
  · cases json with
    | false => rfl
    | true =>
      have hdeep : ¬ Json.TooDeep text := fun hdeep => h ⟨rfl, hdeep⟩
      cases hread : Json.read text with
      | ok v => rfl
      | error e =>
        have he : e.isTooDeep = false := by
          rw [Bool.eq_false_iff]
          exact fun he => hdeep ⟨e, hread, he⟩
        simp [he]

lemma decodeBody_tooDeep [Json.Depth] (hjson : json = true) (h : Json.TooDeep text) :
    ∃ e, decodeBody text json = .error e := by
  obtain ⟨e, hread, he⟩ := h
  have hempty : ¬ text.isEmpty = true := fun hempty =>
    not_tooDeep_of_isEmpty hempty ⟨e, hread, he⟩
  refine ⟨e, ?_⟩
  rw [decodeBody, if_neg hempty, hjson]
  simp [hread, he]

/-- A body is decoded to what it stands for, unless it is to be read as JSON and goes too deep. -/
lemma decodeBody_iff [Json.Depth] :
    decodeBody text json = .ok (bodyValue text json) ↔ ¬ (json = true ∧ Json.TooDeep text) := by
  constructor
  · rintro hok ⟨hjson, hdeep⟩
    obtain ⟨e, he⟩ := decodeBody_tooDeep hjson hdeep
    rw [he] at hok
    cases hok
  · exact decodeBody_eq

end Decoding

/-! ### Answers -/

lemma isOk_requestOf (d : Descriptor) :
    (Request.of d).isOk = (encodeQuery (d.query.getD [])).isOk := by
  have hparams : (paramsOf d.query).isOk = (encodeQuery (d.query.getD [])).isOk := by
    rcases d.query with _ | _ | ⟨q, qs⟩
    · rfl
    · rfl
    · exact isOk_map _ _
  rw [← hparams, Request.of]
  cases paramsOf d.query <;> rfl

variable {status : Int} {headers : Headers} {octets : List UInt8} {d : Descriptor}

lemma send_replied [Json.Depth] (h : (encodeQuery (d.query.getD [])).isOk = true) :
    send (.replied (.int status) headers octets) d =
      match decodeBody (bodyText octets) d.json with
      | .ok v => .answered (some ⟨status, some headers⟩) v
      | .error e => .failed (.bodyTooDeep e) := by
  rw [← isOk_requestOf] at h
  obtain ⟨r, hr⟩ := isOk_iff.mp h
  rw [send, hr]
  rfl

/-- The reply is an answer with what its body stands for; and unless the request could not be logged,
its error is told by the status. -/
structure Completes [Json.Depth] (status : Int) (headers : Headers) (octets : List UInt8)
    (callback : Option Callback) (d : Descriptor) : Prop where
  answered : send (.replied (.int status) headers octets) d =
    .answered (some ⟨status, some headers⟩) (bodyValue (bodyText octets) d.json)
  delivered : ∀ client : Client, (Exchange.report client.debug d).result.isOk = true →
    ∃ e, Exchange.Delivers callback
        (client.request (send (.replied (.int status) headers octets)) callback d) e ∧
      (status < 400 → e.error = none ∧ e.result = bodyValue (bodyText octets) d.json) ∧
      (400 ≤ status → ∃ s, e.error = some (.status s) ∧ s.status = .int status)

/-- An exchange whose request is logged, if that is asked for, is delivered as one without a log. -/
lemma delivers_request {transport : Transport} {callback : Option Callback} {client : Client}
    {e : Envelope} (hlog : (Exchange.report client.debug d).result.isOk = true)
    (h : (Exchange.settle none (transport d)).result = .ok e) :
    Exchange.Delivers callback (client.request transport callback d) e := by
  obtain ⟨u, hu⟩ := isOk_iff.mp hlog
  have hquiet := Exchange.delivers_of_settle h callback
  have hcalls : (Exchange.report client.debug d).trace.calls = [] := by
    unfold Exchange.report
    split
    · split <;> rfl
    · rfl
  have hrun : client.request transport callback d =
      .after (Exchange.report client.debug d).trace
        (Exchange.run false transport none callback d) := by
    rw [Client.request, Exchange.run, Traced.andThen_ok hu]
    rfl
  rw [hrun]
  refine ⟨?_, hquiet.plain, hquiet.called⟩
  simp only [Traced.after, Trace.append_eq, hcalls, List.nil_append, hquiet.calls]

lemma completes_of_not_tooDeep [Json.Depth] (callback : Option Callback)
    (hquery : (encodeQuery (d.query.getD [])).isOk = true)
    (h : ¬ (d.json = true ∧ Json.TooDeep (bodyText octets))) :
    Completes status headers octets callback d := by
  have hsend : send (.replied (.int status) headers octets) d =
      .answered (some ⟨status, some headers⟩) (bodyValue (bodyText octets) d.json) := by
    rw [send_replied hquery, decodeBody_eq h]
  refine ⟨hsend, fun client hlog => ?_⟩
  have hsettle : (Exchange.settle none (send (.replied (.int status) headers octets) d)).result =
      .ok (.of none (some ⟨status, some headers⟩) (bodyValue (bodyText octets) d.json)) := by
    rw [hsend]
    rfl
  refine ⟨_, delivers_request hlog hsettle, fun hlow => ?_, fun hhigh => ?_⟩
  · have herror : (⟨status, some headers⟩ : Response).isError = false :=
      Exchange.isError_eq_false hlow
    simp [Envelope.of, herror, Envelope.success]
  · have herror : (⟨status, some headers⟩ : Response).isError = true :=
      (Exchange.isError_iff _).mpr hhigh
    simp [Envelope.of, herror, Envelope.failure, Response.error]

lemma not_completes_of_tooDeep [Json.Depth] (callback : Option Callback)
    (hquery : (encodeQuery (d.query.getD [])).isOk = true) (hjson : d.json = true)
    (h : Json.TooDeep (bodyText octets)) : ¬ Completes status headers octets callback d := by
  intro hall
  obtain ⟨e, he⟩ := decodeBody_tooDeep hjson h
  have hsend := hall.answered
  rw [send_replied hquery, he] at hsend
  cases hsend

/-- **Replies that are complete are answers.** Any text is decoded to what it stands for, and let a
request go out whose query can be written: a reply to it, with any status, headers and octets for a
body, is an answer with what the body stands for, and the exchange has an error exactly if the status
is one. Both fail only where the text is to be read as JSON and goes too deep. -/
theorem completes_iff [Json.Depth] (callback : Option Callback)
    (hquery : (encodeQuery (d.query.getD [])).isOk = true) :
    (∀ text json, decodeBody text json = .ok (bodyValue text json) ↔
      ¬ (json = true ∧ Json.TooDeep text)) ∧
    (Completes status headers octets callback d ↔
      ¬ (d.json = true ∧ Json.TooDeep (bodyText octets))) := by
  refine ⟨fun text json => decodeBody_iff, ?_, ?_⟩
  · rintro hall ⟨hjson, hdeep⟩
    exact not_completes_of_tooDeep callback hquery hjson hdeep hall
  · exact completes_of_not_tooDeep callback hquery

/-- A body with few brackets is never in the way. -/
theorem completes_of_openings [Json.Depth] (callback : Option Callback)
    (hquery : (encodeQuery (d.query.getD [])).isOk = true)
    (h : Json.openings (bodyText octets).toList ≤ Json.Depth.limit) :
    Completes status headers octets callback d :=
  completes_of_not_tooDeep callback hquery fun hdeep => Json.not_tooDeep_of_openings h hdeep.2

/-- So many opening brackets. -/
def nestedOctets (n : Nat) : List UInt8 := List.replicate n 0x5B

lemma bodyText_nestedOctets (n : Nat) :
    bodyText (nestedOctets n) = String.ofList (List.replicate n '[') := by
  have hascii : ∀ b ∈ nestedOctets n, b.toNat < 0x80 := by
    intro b hb
    rw [List.eq_of_mem_replicate hb]
    decide
  rw [bodyText, Text.Utf8.decodeLossy_ascii hascii, nestedOctets, List.map_replicate]
  rfl

lemma tooDeep_nestedOctets [Json.Depth] {n : Nat} (h : Json.Depth.limit < n) :
    Json.TooDeep (bodyText (nestedOctets n)) := by
  have hdeep : Json.TooDeep (String.ofList (List.replicate n '[' ++ [])) := Json.tooDeep_nested h []
  rwa [List.append_nil, ← bodyText_nestedOctets] at hdeep

/-- Whatever the limit is, a body with more brackets than that makes the transport fail, though the
reply is complete. -/
theorem not_completes_of_brackets [Json.Depth] {n : Nat} (h : Json.Depth.limit < n)
    (callback : Option Callback) (hquery : (encodeQuery (d.query.getD [])).isOk = true)
    (hjson : d.json = true) : ¬ Completes status headers (nestedOctets n) callback d :=
  not_completes_of_tooDeep callback hquery hjson (tooDeep_nestedOctets h)

attribute [local instance] Json.Depth.thousand

/-- A request without a query. -/
def readStatus : Descriptor := { method := "GET", uri := "/status" }

/-- A list that is not closed. -/
def brokenOctets : List UInt8 := "[1, 2".toUTF8.toList

/-- A body that is not JSON is no obstacle: it is its text, and the status is reported. -/
theorem broken_body_completes :
    (encodeQuery (readStatus.query.getD [])).isOk = true ∧
      ¬ (readStatus.json = true ∧ Json.TooDeep (bodyText brokenOctets)) ∧
      bodyText brokenOctets = "[1, 2" ∧
      Completes 500 ⟨[("Retry-After", .str "9")]⟩ brokenOctets none readStatus := by
  have htext : bodyText brokenOctets = "[1, 2" := by decide +kernel
  have hdeep : ¬ (readStatus.json = true ∧ Json.TooDeep (bodyText brokenOctets)) := by
    rintro ⟨-, h⟩
    refine Json.not_tooDeep_of_openings ?_ h
    rw [htext]
    decide
  exact ⟨rfl, hdeep, htext, (completes_iff none rfl).2.mpr hdeep⟩

/-- A million brackets are too many for a thousand levels, and their body is not even its text. -/
theorem nested_body_not_completes :
    (encodeQuery (readStatus.query.getD [])).isOk = true ∧
      ¬ Completes 200 ⟨[]⟩ (nestedOctets 1000000) none readStatus ∧
      decodeBody (bodyText (nestedOctets 1000000)) true ≠
        .ok (.str (bodyText (nestedOctets 1000000))) := by
  have hdeep : Json.TooDeep (bodyText (nestedOctets 1000000)) := tooDeep_nestedOctets (by decide)
  refine ⟨rfl, not_completes_of_brackets (by decide) none rfl rfl, ?_⟩
  obtain ⟨e, he⟩ := decodeBody_tooDeep rfl hdeep
  simp [he]

end Http

end RestOperations
