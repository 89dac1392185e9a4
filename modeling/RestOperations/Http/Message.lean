import RestOperations.Descriptor
import RestOperations.Envelope
import RestOperations.Exchange
import RestOperations.Json.Reader
import RestOperations.Slot.Convert

/-!
Requests as HTTP sends them and replies as HTTP brings them. Query parameters are text: collections
as JSON, truth values in lower case; what is null is not sent. The body of a reply is read as JSON
where that is expected and possible, and else stays text.
-/

namespace RestOperations.Http

/-- What a session is opened with; a timeout of zero is none. -/
structure Settings where
  headers : Value
  timeout : Value

def Settings.total (s : Settings) : Value := if s.timeout.truthy then s.timeout else .null

inductive Content
  | json (v : Value)
  | plain (v : Value)

structure Request where
  method : String
  uri : String
  params : Option (List (String × String))
  headers : Option (List (String × String))
  content : Option Content

/-- Query parameters as text. -/
def encodeQuery : List (String × Value) → Except Fault (List (String × String))
  | [] => .ok []
  | (k, v) :: qs =>
    if v.isNull then encodeQuery qs
    else do
      let s ← v.inText.mapError .notWritable
      let more ← encodeQuery qs
      .ok ((k, s) :: more)

def paramsOf : Option (List (String × Value)) → Except Fault (Option (List (String × String)))
  | none => .ok none
  | some [] => .ok none
  | some qs => (encodeQuery qs).map some

def headersOf : Option (List (String × String)) → Option (List (String × String))
  | some [] => none
  | hs => hs

def contentOf (d : Descriptor) : Option Content :=
  if d.body.isNull then none else some (if d.json then .json d.body else .plain d.body)

def Request.of (d : Descriptor) : Except Fault Request := do
  let params ← paramsOf d.query
  return { method := d.method, uri := d.uri, params, headers := headersOf d.headers,
           content := contentOf d }

/-- The body as JSON where that is expected, or else as it is. -/
def decodeBody [Json.Depth] (text : String) (json : Bool) : Except Json.ReadError Value :=
  if text.isEmpty then .ok .null
  else if !json then .ok (.str text)
  else match Json.read text with
    | .ok v => .ok v
    | .error e => if e.isTooDeep then .error e else .ok (.str text)

/-- What comes back for a request. -/
inductive Answer
  | replied (status : Value) (headers : Headers) (octets : List UInt8)
  | failed (f : Fault)

def Answer.reply [Json.Depth] (json : Bool) : Answer → Reply
  | failed f => .failed f
  | replied status headers octets =>
    match Response.ofValue status (some headers) with
    | .error issues => .failed (.recordInvalid issues)
    | .ok r =>
      match decodeBody (String.ofList (Text.Utf8.decodeLossy octets)) json with
      | .ok v => .answered (some r) v
      | .error e => .failed (.bodyTooDeep e)

/-- The transport over HTTP, where `answer` comes back. -/
def send [Json.Depth] (answer : Answer) : Transport := fun d =>
  match Request.of d with
  | .error f => .failed f
  | .ok _ => answer.reply d.json

end RestOperations.Http
