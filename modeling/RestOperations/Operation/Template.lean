import RestOperations.Schema

/-!
The written form of an operation: its method and URL, what goes into the query, the headers and the
body, and how the result is taken from a response.
-/

namespace RestOperations

structure OperationTemplate where
  method : String
  url : String
  query : List (String × Value)
  headers : List (String × Value)
  /-- Null is no body. -/
  body : Value
  /-- An expression with a dollar sign before it. -/
  response : Option String
deriving Inhabited

namespace OperationTemplate

def fieldNames : List String := ["method", "url", "query", "headers", "body", "response"]

def ofValue (v : Value) : Checked OperationTemplate := do
  let ms ← Schema.record v
  let fields := Checked.both
    (.both (Schema.required ms "method" Schema.nonEmptyText)
      (Schema.required ms "url" Schema.nonEmptyText))
    (.both
      (.both (Schema.optional ms "query" [] Schema.anyTexts)
        (Schema.optional ms "headers" [] Schema.anyTexts))
      (.both (Schema.optional ms "body" .null .ok)
        (Schema.optional ms "response" none (Schema.nullable Schema.text))))
  let (((method, url), (query, headers), body, response), _) ←
    Checked.both fields (Schema.only fieldNames ms)
  return { method, url, query, headers, body, response }

def entries (es : List (String × Value)) : Value := .map (es.map fun (k, v) => (.str k, v))

def responseValue : Option String → Value
  | some s => .str s
  | none => .null

/-- The template as a record of all its fields. -/
def toValue (t : OperationTemplate) : Value :=
  .map [(.str "method", .str t.method), (.str "url", .str t.url), (.str "query", entries t.query),
    (.str "headers", entries t.headers), (.str "body", t.body),
    (.str "response", responseValue t.response)]

/-- Method and URL, as the operation is called where it has no name. -/
def title (t : OperationTemplate) : String := t.method ++ " " ++ t.url

end OperationTemplate

end RestOperations
