import RestOperations.Headers
import RestOperations.Schema

/-!
What a transport says about a response, apart from its body.
-/

namespace RestOperations

structure Response where
  status : Int
  headers : Option Headers

namespace Response

/-- From this status on, a response reports an error. -/
def errorBound : Int := 400

def isError (r : Response) : Bool := decide (errorBound ≤ r.status)

/-- A response whose status is still a value. -/
def ofValue (status : Value) (headers : Option Headers) : Checked Response :=
  ((Schema.int status).within "status_code").map fun status => ⟨status, headers⟩

end Response

end RestOperations
