import RestOperations.Fault
import RestOperations.Response

/-!
The outcome of a call as it is delivered: an error or a result, and the response if there was one. A
response whose status reports an error becomes one, with the body as far as it says anything.
-/

namespace RestOperations

structure Envelope where
  error : Option Fault
  result : Value
  response : Option Response

/-- The error that a response reports. -/
def Response.error (r : Response) (body : Value) : StatusError where
  status := .int r.status
  body := if body.truthy then body else .null
  headers := r.headers.map .inl

namespace Envelope

def failure (f : Fault) (response : Option Response) : Envelope := ⟨some f, .null, response⟩

def success (response : Option Response) (body : Value) : Envelope := ⟨none, body, response⟩

/-- An error comes before whatever the response says. -/
def of (error : Option Fault) (response : Option Response) (body : Value) : Envelope :=
  match error, response with
  | some f, _ => failure f response
  | none, some r => if r.isError then failure (.status (r.error body)) response
    else success response body
  | none, none => success none body

end Envelope

end RestOperations
