import RestOperations.Descriptor
import RestOperations.Envelope
import RestOperations.Json.Writer

/-!
One exchange: a request is handed to the transport, and what comes back is delivered once, as the
result of the exchange and to a callback if there is one. Whatever the transport reports is part of
the delivery; only a cancellation ends the exchange. A trace keeps what can be seen from outside.
-/

namespace RestOperations

/-- What a transport does with a request. -/
inductive Reply
  | answered (response : Option Response) (body : Value)
  | failed (f : Fault)

abbrev Transport := Descriptor → Reply

/-- What a callback does with an envelope. -/
inductive Reaction
  | done
  | failed (f : Fault)
  /-- The rest of the callback is waited for. -/
  | waiting (outcome : Except Fault Unit)

def Reaction.outcome : Reaction → Except Fault Unit
  | .done => .ok ()
  | .failed f => .error f
  | .waiting outcome => outcome

abbrev Callback := Envelope → Reaction

/-- What is made of the body of a successful response. -/
abbrev Extraction := Value → Except Fault Value

inductive LogSource
  | client
  | catalog
  | service
deriving DecidableEq, Repr

structure LogRecord where
  source : LogSource
  message : String
  data : List (String × Value)

structure Trace where
  log : List LogRecord := []
  requests : List Descriptor := []
  /-- The bodies that were handed over for extraction. -/
  extractions : List Value := []
  /-- The envelopes that callbacks got. -/
  calls : List Envelope := []

namespace Trace

def append (a b : Trace) : Trace :=
  ⟨a.log ++ b.log, a.requests ++ b.requests, a.extractions ++ b.extractions, a.calls ++ b.calls⟩

instance : Append Trace := ⟨append⟩

theorem append_eq (a b : Trace) :
    a ++ b = ⟨a.log ++ b.log, a.requests ++ b.requests, a.extractions ++ b.extractions,
      a.calls ++ b.calls⟩ := rfl

end Trace

/-- A result with what was seen on the way to it. -/
structure Traced (α : Type) where
  trace : Trace
  result : Except Fault α

namespace Traced

def silent {α : Type} (result : Except Fault α) : Traced α := ⟨{}, result⟩

def after {α : Type} (earlier : Trace) (t : Traced α) : Traced α := ⟨earlier ++ t.trace, t.result⟩

/-- Goes on with a result; a fault ends it. -/
def andThen {α β : Type} (t : Traced α) (next : α → Traced β) : Traced β :=
  match t.result with
  | .ok a => .after t.trace (next a)
  | .error f => ⟨t.trace, .error f⟩

@[simp] theorem trace_silent {α : Type} (r : Except Fault α) : (silent r).trace = {} := rfl
@[simp] theorem result_silent {α : Type} (r : Except Fault α) : (silent r).result = r := rfl

end Traced

namespace Exchange

def isCancellation : Fault → Bool
  | .reported .cancelled _ => true
  | _ => false

/-- Hands the request to the transport. -/
def send (transport : Transport) (d : Descriptor) : Traced Reply :=
  ⟨{ requests := [d] }, .ok (transport d)⟩

/-- The body is extracted only where the response reports no error. -/
def extracted (extract : Option Extraction) (response : Option Response) (body : Value) :
    Traced Value :=
  match extract, response with
  | some extract, some r =>
    if r.isError then .silent (.ok body) else ⟨{ extractions := [body] }, extract body⟩
  | _, _ => .silent (.ok body)

/-- What stopped an exchange is its error, but for a cancellation, which ends it. -/
def stopped (f : Fault) (response : Option Response) (body : Value) : Except Fault Envelope :=
  if isCancellation f then .error f else .ok (.of (some f) response body)

/-- The envelope for a reply, unless the exchange was cancelled. -/
def settle (extract : Option Extraction) : Reply → Traced Envelope
  | .failed f => .silent (stopped f none .null)
  | .answered response body =>
    let t := extracted extract response body
    match t.result with
    | .ok v => ⟨t.trace, .ok (.of none response v)⟩
    | .error f => ⟨t.trace, stopped f response body⟩

/-- Hands an envelope to the callback, and back. -/
def deliver (callback : Option Callback) (e : Envelope) : Traced Envelope :=
  match callback with
  | none => .silent (.ok e)
  | some callback => ⟨{ calls := [e] }, (callback e).outcome.map fun _ => e⟩

/-- The record of a request in the log. -/
def describe (d : Descriptor) : Except Fault LogRecord := do
  let text ← (Json.write .lenient d.toValue).mapError .notWritable
  return ⟨.client, "Request: " ++ text, [("method", .str d.method), ("uri", .str d.uri)]⟩

/-- Writes the request to the log, where that is asked for. -/
def report (debug : Bool) (d : Descriptor) : Traced Unit :=
  if debug then
    match describe d with
    | .ok r => ⟨{ log := [r] }, .ok ()⟩
    | .error f => .silent (.error f)
  else .silent (.ok ())

def run (debug : Bool) (transport : Transport) (extract : Option Extraction)
    (callback : Option Callback) (d : Descriptor) : Traced Envelope :=
  (report debug d).andThen fun _ =>
    (send transport d).andThen fun reply =>
      (settle extract reply).andThen fun e => deliver callback e

end Exchange

end RestOperations
