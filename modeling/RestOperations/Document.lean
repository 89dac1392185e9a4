import RestOperations.Operation.Template

/-!
Documents of operations: templates, each with the functions that call it, and whether to log. An
entry may lack its template, though nothing can be made of it then.
-/

namespace RestOperations

namespace Document

structure Entry where
  template : Option OperationTemplate
  functions : List (String × List String)

namespace Entry

def templateOf (v : Value) : Checked (Option OperationTemplate) :=
  Schema.nullable OperationTemplate.ofValue v

def ofValue (v : Value) : Checked Entry := do
  let ms ← Schema.record v
  let (template, functions) ← Checked.both (Schema.optional ms "template" none templateOf)
    (Schema.optional ms "functions" [] (Schema.texts (Schema.list Schema.text)))
  return { template, functions }

def functionsValue (fs : List (String × List String)) : Value :=
  .map (fs.map fun (name, params) => (.str name, .ofTexts params))

def templateValue : Option OperationTemplate → Value
  | some t => t.toValue
  | none => .null

def toValue (e : Entry) : Value :=
  .map [(.str "template", templateValue e.template),
    (.str "functions", functionsValue e.functions)]

end Entry

end Document

structure Document where
  debug : Bool := false
  entries : List Document.Entry := []

namespace Document

def check (v : Value) : Checked Document := do
  let ms ← Schema.record v
  let (debug, entries) ← Checked.both (Schema.optional ms "debug" false Schema.bool)
    (Schema.optional ms "operations" [] (Schema.list Entry.ofValue))
  return { debug, entries }

def toValue (d : Document) : Value :=
  .map [(.str "debug", .bool d.debug), (.str "operations", .list (d.entries.map Entry.toValue))]

end Document

end RestOperations
