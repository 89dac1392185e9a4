import RestOperations.Catalog
import RestOperations.Collection
import RestOperations.Document.Load
import RestOperations.Http.Message

/-!
The service that an application configures: where its collections are, which document its functions
come from, how long to wait for a reply, and whether to log.
-/

namespace RestOperations

structure Service where
  name : String
  baseUrl : String
  /-- The path of the document; empty if there is none. -/
  spec : String
  settings : Http.Settings
  client : Client
  catalog : Catalog := {}

namespace Service

abbrev Config := List (String × String)

def defaults : Config := [("base_url", ""), ("spec", ""), ("debug", "no"), ("timeout", "60")]

def defaultName : String := "RestService"

def Config.get (c : Config) (key : String) : String :=
  ((c.find? (·.1 == key)).orElse fun _ => defaults.find? (·.1 == key)).elim "" (·.2)

def onWords : List String := ["1", "yes", "true", "on"]

def offWords : List String := ["0", "no", "false", "off"]

/-- A switch as configurations write it. -/
def readSwitch (s : String) : Except Fault Bool :=
  let word := Text.lower s
  if onWords.contains word then .ok true
  else if offWords.contains word then .ok false
  else .error (.notSwitch s)

def readSeconds (s : String) : Except Fault Float :=
  match Decimal.readFloat? s with
  | some x => .ok x
  | none => .error (.badNumber (.notNumber s))

def ofConfig (c : Config) (name : String) : Except Fault Service := do
  let timeout ← readSeconds (c.get "timeout")
  let debug ← readSwitch (c.get "debug")
  return { name, baseUrl := c.get "base_url", spec := c.get "spec",
           settings := ⟨.null, .float timeout⟩, client := ⟨debug⟩ }

def loadRecord (path : String) (functions : Nat) : LogRecord :=
  ⟨.service, "Loaded operation document", [("path", .str path), ("functions", .int functions)]⟩

/-- The service after its document has been read, or after the attempt. -/
def initializeWith (s : Service) (d : Except Fault Document) : Service × Traced Unit :=
  match d with
  | .error f => (s, .silent (.error f))
  | .ok d =>
    let loaded := Catalog.ofDocument s.client.debug d
    let s := { s with client := ⟨loaded.debug⟩ }
    match loaded.result with
    | .error f => (s, ⟨{ log := loaded.log }, .error f⟩)
    | .ok c =>
      ({ s with catalog := c },
        ⟨{ log := loaded.log ++ [loadRecord s.spec c.functions.length] }, .ok ()⟩)

/-- Reads the document that is configured, if any, from among the files. -/
def initialized [Json.Depth] (s : Service) (files : Document.Files) : Service × Traced Unit :=
  if s.spec.isEmpty then (s, .silent (.ok ()))
  else s.initializeWith (Document.load files s.spec)

/-- A collection behind the given URL, or else behind the one that is configured. -/
def collection (s : Service) (model : String) (baseUrl : Option String) :
    Except Fault Collection :=
  let given := baseUrl.getD ""
  let base := if given.isEmpty then s.baseUrl else given
  if base.isEmpty then .error .noBaseUrl else .ok (.under base model)

def function (s : Service) (name : String) : Except Fault Operation.Function :=
  s.catalog.function name

end Service

end RestOperations
