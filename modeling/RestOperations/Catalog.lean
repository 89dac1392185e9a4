import RestOperations.Client
import RestOperations.Document

/-!
A catalog finds functions by name among the operations that are registered with it. Names are unique:
an operation with a name that is taken is refused as a whole.
-/

namespace RestOperations

structure Catalog where
  operations : List Operation := []
  functions : List (String × Operation.Function) := []

namespace Catalog

def names (c : Catalog) : List String := c.functions.map (·.1)

def contains (c : Catalog) (name : String) : Bool := c.names.contains name

def function (c : Catalog) (name : String) : Except Fault Operation.Function :=
  match c.functions.find? (·.1 == name) with
  | some (_, f) => .ok f
  | none => .error (.unknownFunction name)

/-- The first name of the operation that is taken. -/
def taken? (c : Catalog) (op : Operation) : Option String :=
  (op.functions.map (·.1)).find? c.contains

def mixRecord (op : Operation) (name : String) : LogRecord :=
  ⟨.catalog, "Mixing in function",
    [("name", .str name), ("method", .str op.method), ("url", .str op.source.url)]⟩

def functionsOf (op : Operation) : List (String × Operation.Function) :=
  op.functions.map fun (name, params) => (name, op.function params (some name))

def add (c : Catalog) (op : Operation) : Catalog :=
  ⟨c.operations ++ [op], c.functions ++ functionsOf op⟩

def register (c : Catalog) (op : Operation) : Except Fault Catalog :=
  match c.taken? op with
  | some name => .error (.functionRepeated name)
  | none => .ok (c.add op)

/-- What is logged where the operation is registered. -/
def records (debug : Bool) (op : Operation) : List LogRecord :=
  if debug then op.functions.map fun (name, _) => mixRecord op name else []

/-- The number of the operation that a function belongs to. -/
def indexOf? (c : Catalog) (name : String) : Option Nat :=
  c.operations.findIdx? fun op => (op.functions.map (·.1)).contains name

/-! ### Catalogs of documents -/

/-- What is left after loading: the log, whether to go on logging, and the catalog or a fault. -/
structure Loaded where
  debug : Bool
  log : List LogRecord
  result : Except Fault Catalog

def missing (index : Nat) (e : Document.Entry) : Fault :=
  if e.toValue.isWritable then
    .templateMissing ("operations[" ++ toString index ++ "] " ++ e.toValue.text)
  else .notWritable .tooManyDigits

/-- The operation of an entry. -/
def compileEntry (index : Nat) (e : Document.Entry) : Except Fault Operation :=
  match e.template with
  | none => .error (missing index e)
  | some t => do
    let functions := e.functions.map fun (name, params) => (name, params.map Value.str)
    let op ← Operation.ofTemplate t functions none
    .ok { op with bound := true }

def addEntry (c : Catalog) (index : Nat) (e : Document.Entry) : Except Fault (Operation × Catalog) := do
  let op ← compileEntry index e
  let c ← c.register op
  .ok (op, c)

def addEntries (debug : Bool) (c : Catalog) : List (Document.Entry × Nat) → Loaded
  | [] => ⟨debug, [], .ok c⟩
  | (e, index) :: rest =>
    match c.addEntry index e with
    | .error f => ⟨debug, [], .error f⟩
    | .ok (op, c) =>
      let loaded := addEntries debug c rest
      { loaded with log := records debug op ++ loaded.log }

/-- The catalog of a document. Where the document asks for logging, the client goes on with it. -/
def ofDocument (debug : Bool) (d : Document) : Loaded :=
  addEntries (debug || d.debug) {} d.entries.zipIdx

end Catalog

end RestOperations
