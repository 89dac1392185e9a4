import RestOperations.Schema

/-!
A request as it is handed to a transport, and the response that comes back.
-/

namespace RestOperations

structure Descriptor where
  method : String
  uri : String
  /-- The body is JSON. -/
  json : Bool := true
  query : Option (List (String × Value)) := none
  /-- Null is no body. -/
  body : Value := .null
  headers : Option (List (String × String)) := none
deriving Inhabited

namespace Descriptor

/-- A request whose query and headers are maps: no two entries of one of them have one name. -/
structure Keyed extends Descriptor where
  nodup_query : ∀ es ∈ query, (es.map (·.1)).Nodup
  nodup_headers : ∀ es ∈ headers, (es.map (·.1)).Nodup

/-- The field goes by a second name where the first one is not used. -/
def jsonName (ms : List (Value × Value)) : String :=
  if (Value.get? ms (.str "json")).isSome then "json" else "json_mode"

def ofMembers (ms : List (Value × Value)) : Checked Descriptor := do
  let ((method, uri), (json, query), body, headers) ← Checked.both
    (.both (Schema.required ms "method" Schema.text) (Schema.required ms "uri" Schema.text))
    (.both
      (.both (Schema.optional ms (jsonName ms) true Schema.bool)
        (Schema.optional ms "qs" none (Schema.nullable Schema.anyTexts)))
      (.both (Schema.optional ms "body" .null .ok)
        (Schema.optional ms "headers" none (Schema.nullable (Schema.texts Schema.text)))))
  return { method, uri, json, query, body, headers }

def entries (es : List (String × Value)) : Value := .map (es.map fun (k, v) => (.str k, v))

def texts (es : List (String × String)) : Value := .map (es.map fun (k, v) => (.str k, .str v))

/-- A member for the entries, if there are any. -/
def member {α : Type} (name : String) (view : List α → Value) : Option (List α) → List (Value × Value)
  | none => []
  | some [] => []
  | some es => [(.str name, view es)]

/-- The request as a record; what is empty is left out, and so is a body that is null. -/
def toMembers (d : Descriptor) : List (Value × Value) :=
  [(.str "method", .str d.method), (.str "uri", .str d.uri), (.str "json", .bool d.json)] ++
    (member "qs" entries d.query ++ ((if d.body.isNull then [] else [(.str "body", d.body)]) ++
      member "headers" texts d.headers))

def toValue (d : Descriptor) : Value := .map d.toMembers

end Descriptor

end RestOperations
