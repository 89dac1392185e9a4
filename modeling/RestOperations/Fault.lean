import RestOperations.Headers
import RestOperations.Json.Octets
import RestOperations.Query.Failure
import RestOperations.Schema
import RestOperations.Slot.Convert
import RestOperations.Slot.Grammar
import RestOperations.Yaml.Failure

/-!
Everything that can go wrong, by cause. A fault is found while templates are loaded, while a call is
bound, while its request is on its way, or in the values that are handed in; `message` words it.

Where an expression, a document or a record is at fault, the message ends before the wording of that
cause, which is told by its code or its issues.
-/

namespace RestOperations

/-- A response with a status that reports an error. -/
structure StatusError where
  status : Value
  body : Value
  /-- The headers, if there are any: fields of a response, or a map that is taken as it is. -/
  headers : Option (Headers ⊕ Value)

namespace StatusError

def message (e : StatusError) : String := "HTTP code: " ++ e.status.text

def headerMap : Headers ⊕ Value → Value
  | .inl h => h.toMap
  | .inr v => v

/-- The error as a record; an absent body and absent headers are left out. -/
def toMap (e : StatusError) : Value :=
  .map ([(.str "message", .str e.message), (.str "statusCode", e.status)] ++
    (if e.body.isNull then [] else [(.str "body", e.body)]) ++
    (match e.headers with | some h => [(.str "headers", headerMap h)] | none => []))

end StatusError

/-- What kind of fault something outside the library reports. -/
inductive ReportKind
  | connection
  | client
  | configuration
  | binding
  | timeout
  | cancelled
  | system
  | value
  | key
  | runtime
deriving DecidableEq, Repr

inductive Fault
  -- While templates and documents are loaded
  | unknownConversion (name source : String)
  | expressionInvalid (source : String) (cause : Query.Failure)
  | responseNotExpression (operation : String)
  | responseInvalid (operation : String) (cause : Query.Failure)
  | templateMissing (what : String)
  | templateInvalid (what : String) (issues : List Issue)
  | noFunction (operation name : String)
  | unbound (operation : String)
  | functionRepeated (name : String)
  | documentInvalid (issues : List Issue)
  | documentNotYaml
  | documentScalar (cause : Yaml.ScalarError)
  | documentNotJson (cause : Json.OctetError)
  -- While a call is bound
  | cannotConvert (slot : Slot) (cause : ConvertError)
  | expressionFailed (destination : Destination) (cause : Query.Failure)
  | tooManyArguments (operation : String) (most given : Nat)
  | argumentRepeated (operation name : String)
  | argumentMissing (operation : String) (slot : Slot)
  | invalidUrl (operation : String) (value : Value)
  -- In the values that are handed in
  | badNumber (cause : ConvertError)
  | notIterable (kind : String)
  | noMembers (kind : String)
  | unhashable (kind : String)
  | notWritable (cause : Json.WriteError)
  | recordInvalid (issues : List Issue)
  | unknownFunction (name : String)
  | noSuchFile (path : String)
  | noBaseUrl
  | notSwitch (text : String)
  | notKept (name : String)
  -- While a request is on its way
  | status (e : StatusError)
  | extraction (cause : Query.Failure)
  | bodyTooDeep (cause : Json.ReadError)
  | reported (kind : ReportKind) (text : Option String)

namespace Fault

/-- The groups of faults that callers tell apart. -/
inductive Group
  | configuration
  | binding
  | status
  | value
  | type
  | overflow
  | depth
  | key
  | attribute
  | index
  | record
  | file
  | assertion
  | query (cause : Query.Failure)
  | report (kind : ReportKind)

/-- The group of a scalar that cannot be read as what it should be. -/
def scalarGroup : Yaml.ScalarError → Group
  | .calendar _ => .value
  | .notTimestamp => .attribute
  | .mappedTimestamp => .type
  | .notInteger _ _ => .value
  | .tooManyDigits _ => .value
  | .notNumber _ => .value
  | .emptyNumber => .index
  | .tooManyPlaces => .overflow
  | .unknownWord _ => .key
  | .noCharacter code => if Yaml.charLimit < code then .overflow else .value

def group : Fault → Group
  | unknownConversion .. => .configuration
  | expressionInvalid .. => .configuration
  | responseNotExpression .. => .configuration
  | responseInvalid .. => .configuration
  | templateMissing .. => .configuration
  | templateInvalid .. => .configuration
  | noFunction .. => .configuration
  | unbound .. => .configuration
  | functionRepeated .. => .configuration
  | documentInvalid .. => .configuration
  | documentNotYaml => .configuration
  | documentScalar cause => scalarGroup cause
  | documentNotJson cause => if cause.isTooDeep then .depth else .configuration
  | cannotConvert _ .infinite => .overflow
  | cannotConvert _ cause => if cause.isBeyond then .depth else .binding
  | expressionFailed .. => .binding
  | tooManyArguments .. => .binding
  | argumentRepeated .. => .binding
  | argumentMissing .. => .binding
  | invalidUrl .. => .binding
  | badNumber .. => .value
  | notIterable .. => .type
  | noMembers .. => .attribute
  | unhashable .. => .type
  | notWritable .tooManyDigits => .value
  | notWritable .. => .type
  | recordInvalid .. => .record
  | unknownFunction .. => .key
  | noSuchFile .. => .file
  | noBaseUrl => .assertion
  | notSwitch .. => .value
  | notKept .. => .key
  | status .. => .status
  | extraction cause => .query cause
  | bodyTooDeep _ => .depth
  | reported kind _ => .report kind

def isConfiguration (f : Fault) : Bool :=
  match f.group with
  | .configuration => true
  | _ => false

def isBinding (f : Fault) : Bool :=
  match f.group with
  | .binding => true
  | _ => false

def message : Fault → String
  | unknownConversion name source =>
    "Unknown placeholder type '" ++ name ++ "' in '" ++ source ++ "'"
  | expressionInvalid source cause =>
    "Invalid JSONata expression '" ++ source ++ "': " ++ cause.text
  | responseNotExpression op => "Response expression of '" ++ op ++ "' must start with '$'"
  | responseInvalid op cause => "Invalid response expression of '" ++ op ++ "': " ++ cause.text
  | templateMissing what => "The operation template is missing: " ++ what
  | templateInvalid what _ => "Invalid operation template " ++ what ++ ": "
  | noFunction op name => "Operation '" ++ op ++ "' has no function '" ++ name ++ "'"
  | unbound op => "Operation '" ++ op ++ "' is not bound to a request builder"
  | functionRepeated name => "Function '" ++ name ++ "' is defined more than once"
  | documentInvalid _ => "Invalid operation document: "
  | documentNotYaml => "Error parsing operation document YAML: "
  | documentScalar cause => cause.message
  | documentNotJson cause =>
    if cause.isTooDeep then cause.message
    else "Error parsing operation document JSON: " ++ cause.message
  | cannotConvert slot cause =>
    if cause.isBeyond then cause.message
    else
      "Cannot convert parameter '" ++ slot.name ++ "' to " ++
        (slot.conversion.map Conversion.name).getD "" ++ ": " ++ cause.message
  | expressionFailed _ cause => "JSONata expression failed: " ++ cause.text
  | tooManyArguments op most given =>
    "Operation '" ++ op ++ "' takes " ++ toString most ++ " positional arguments but " ++
      toString given ++ " were given"
  | argumentRepeated op name =>
    "Operation '" ++ op ++ "' got multiple values for argument '" ++ name ++ "'"
  | argumentMissing op slot =>
    "Operation '" ++ op ++ "' is missing the required " ++ slot.destination.name ++
      " parameter '" ++ slot.name ++ "'"
  | invalidUrl op value => "Operation '" ++ op ++ "' resolved to an invalid URL: " ++ value.shown
  | badNumber cause => cause.message
  | notIterable kind => "'" ++ kind ++ "' object is not iterable"
  | noMembers kind => "'" ++ kind ++ "' object has no attribute 'items'"
  | unhashable kind => "unhashable type: '" ++ kind ++ "'"
  | notWritable cause => cause.message
  | recordInvalid _ => ""
  | unknownFunction name => Text.quote ("Unknown function '" ++ name ++ "'")
  | noSuchFile path => "[Errno 2] No such file or directory: " ++ Text.quote path
  | noBaseUrl => "Base URL is not configured"
  | notSwitch text => "Not a boolean: " ++ text
  | notKept name => Text.quote name
  | status e => e.message
  | extraction cause => cause.text
  | bodyTooDeep cause => cause.message
  | reported .key (some text) => Text.quote text
  | reported _ text => text.getD ""

/-- The argument that a fault of a call is about. -/
def name? : Fault → Option String
  | cannotConvert slot _ => some slot.name
  | argumentRepeated _ name => some name
  | argumentMissing _ slot => some slot.name
  | _ => none

/-- The part of the request that a fault of a call is about. -/
def destination? : Fault → Option Destination
  | cannotConvert slot _ => some slot.destination
  | expressionFailed destination _ => some destination
  | argumentMissing _ slot => some slot.destination
  | invalidUrl .. => some .path
  | _ => none

def issues? : Fault → Option (List Issue)
  | templateInvalid _ issues => some issues
  | documentInvalid issues => some issues
  | recordInvalid issues => some issues
  | _ => none

def failure? : Fault → Option Query.Failure
  | expressionInvalid _ cause => some cause
  | responseInvalid _ cause => some cause
  | expressionFailed _ cause => some cause
  | extraction cause => some cause
  | _ => none

end Fault

end RestOperations
