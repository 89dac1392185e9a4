import RestOperations.Exchange
import RestOperations.Operation.Call

/-!
A client compiles operations and calls them: the call is bound, its request sent, and the result taken
from the response as the operation says.
-/

namespace RestOperations

structure Client where
  debug : Bool

namespace Client

def setDebug (_ : Client) (v : Value) : Client := ⟨v.truthy⟩

/-- An operation that the client may call. -/
def bindOperation (_ : Client) (op : Operation) : Operation := { op with bound := true }

def compile (client : Client) (template functions : Value) (name : Option String) :
    Except Fault Operation :=
  (Operation.compile template functions name).map client.bindOperation

def request (client : Client) (transport : Transport) (callback : Option Callback)
    (d : Descriptor) : Traced Envelope :=
  Exchange.run client.debug transport none callback d

/-- The result of an operation, from the body of a response. -/
def extraction (op : Operation) : Extraction := fun body =>
  match op.response with
  | none => .ok body
  | some e => (Query.evaluate e body).mapError .extraction

def call [Json.Depth] (client : Client) (transport : Transport) (callback : Option Callback)
    (f : Operation.Function) (c : Call) : Traced Envelope :=
  if !f.operation.bound then .silent (.error (.unbound f.operation.title))
  else match f.descriptor c with
    | .error e => .silent (.error e)
    | .ok d => Exchange.run client.debug transport (some (extraction f.operation)) callback d

end Client

end RestOperations
