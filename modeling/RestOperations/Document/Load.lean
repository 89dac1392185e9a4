import RestOperations.Document
import RestOperations.Fault
import RestOperations.Yaml.Read

/-!
Documents from values, from JSON and YAML, and from files.
-/

namespace RestOperations.Document

def ofValue (v : Value) : Except Fault Document := (check v).mapError .documentInvalid

/-- The content of a file or of a message, as characters or as octets. -/
inductive Content
  | text (s : String)
  | octets (bs : List UInt8)

def readJson [Json.Depth] : Content → Except Json.OctetError Value
  | .text s => (Json.read s).mapError .json
  | .octets bs => Json.readOctets bs

def ofJson [Json.Depth] (c : Content) : Except Fault Document := do
  let v ← (readJson c).mapError .documentNotJson
  ofValue v

def readYaml : Content → Except Yaml.Failure Value
  | .text s => Yaml.readText s.toList
  | .octets bs => do Yaml.readText (← Yaml.decode bs)

def yamlFault : Yaml.Failure → Fault
  | .malformed => .documentNotYaml
  | .scalar e => .documentScalar e

def ofYaml (c : Content) : Except Fault Document := do
  let v ← (readYaml c).mapError yamlFault
  ofValue v

abbrev Files := List (String × List UInt8)

def isJsonPath (path : String) : Bool := (".json".toList).isSuffixOf path.toList

/-- Reads a file as JSON or as YAML, as the end of its path says. -/
def load [Json.Depth] (files : Files) (path : String) : Except Fault Document :=
  match files.find? (·.1 == path) with
  | none => .error (.noSuchFile path)
  | some (_, bs) => if isJsonPath path then ofJson (.octets bs) else ofYaml (.octets bs)

end RestOperations.Document
