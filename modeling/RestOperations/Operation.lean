import RestOperations.Operation.Template
import RestOperations.Template.Compile

/-!
Operations ready to be called. Everything that a template may have wrong is found when it is compiled,
and an operation never changes afterwards. Its functions are names for ways to call it, each with the
names of the positional arguments.
-/

namespace RestOperations

structure Operation where
  source : OperationTemplate
  name : Option String
  method : String
  url : Template
  query : List (String × Template)
  headers : List (String × Template)
  body : Option Template
  response : Option Query.Expr
  functions : List (String × List Value)
  /-- A client sends the requests of the operation. -/
  bound : Bool := false

namespace Operation

def titleOf (t : OperationTemplate) (name : Option String) : String := name.getD t.title

/-- What messages call the operation. -/
def title (op : Operation) : String := titleOf op.source op.name

/-- Every slot, in the order URL, query, headers, body. -/
def slots (op : Operation) : List Slot :=
  op.url.slots ++ (op.query.flatMap (·.2.slots) ++ (op.headers.flatMap (·.2.slots) ++
    match op.body with | some t => t.slots | none => []))

def optionsName : String := "options"

/-- The template itself says what goes into the header for options. -/
def declaresOptions (op : Operation) : Bool :=
  op.source.headers.any fun (k, _) => Text.sameLetters k optionsName

/-! ### Compilation -/

def compileResponse (t : OperationTemplate) (name : Option String) :
    Except Fault (Option Query.Expr) :=
  match t.response with
  | none => .ok none
  | some s =>
    match s.toList with
    | '$' :: source =>
      match Query.parse (String.ofList source) with
      | .ok e => .ok (some e)
      | .error cause => .error (.responseInvalid (titleOf t name) cause)
    | _ => .error (.responseNotExpression (titleOf t name))

def compileBody (v : Value) : Except Fault (Option Template) :=
  if v.isNull then .ok none else (Template.compile .body v).map some

def ofTemplate (t : OperationTemplate) (functions : List (String × List Value))
    (name : Option String) : Except Fault Operation := do
  let url ← Template.compileUrl t.url
  let query ← Template.compileEntries .query t.query
  let headers ← Template.compileEntries .header t.headers
  let body ← compileBody t.body
  let response ← compileResponse t name
  let method := Text.upper t.method
  return { source := t, name, method, url, query, headers, body, response, functions }

/-- The parameters of a function, from any value that has items. -/
def parametersOf : Value → Except Fault (List Value)
  | .list xs => .ok xs
  | .tuple xs => .ok xs
  | .set xs => .ok xs
  | .str s => .ok (s.toList.map fun c => .str (String.singleton c))
  | .map ms => .ok (ms.map (·.1))
  | .octets bs => .ok (bs.map fun b => .int b.toNat)
  | v => .error (.notIterable v.kind)

def functionsOfMembers : List (Value × Value) → Except Fault (List (String × List Value))
  | [] => .ok []
  | (k, v) :: ms => do
    let params ← parametersOf v
    let more ← functionsOfMembers ms
    .ok ((k.text, params) :: more)

/-- A table of functions from a map; whatever counts as false stands for no functions. -/
def functionsOf (v : Value) : Except Fault (List (String × List Value)) :=
  if !v.truthy then .ok []
  else match v with
    | .map ms => functionsOfMembers ms
    | v => .error (.noMembers v.kind)

/-- What to call an operation without a proper template: its name, or else its functions. -/
def what (functions : Value) (name : Option String) : Except Fault String :=
  match name with
  | some s => if s.isEmpty then ofFunctions else .ok s
  | none => ofFunctions
where ofFunctions :=
  if functions.isWritable then .ok functions.text else .error (.notWritable .tooManyDigits)

/-- Compiles a template that is still a value. -/
def compile (template functions : Value) (name : Option String) : Except Fault Operation := do
  if template.isNull then throw (.templateMissing (← what functions name))
  match OperationTemplate.ofValue template with
  | .error issues => throw (.templateInvalid (← what functions name) issues)
  | .ok t =>
    let op ← ofTemplate t [] name
    return { op with functions := ← functionsOf functions }

/-! ### Functions -/

/-- An operation with the names of its positional arguments. -/
structure Function where
  operation : Operation
  params : List Value
  name : Option String

def function (op : Operation) (params : List Value) (name : Option String) : Function :=
  ⟨op, params, name⟩

/-- The function of that name. -/
def named (op : Operation) (name : String) : Except Fault Function :=
  match op.functions.find? (·.1 == name) with
  | some (_, params) => .ok ⟨op, params, some name⟩
  | none => .error (.noFunction op.title name)

end Operation

end RestOperations
