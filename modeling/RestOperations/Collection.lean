import RestOperations.Descriptor
import RestOperations.Fault
import RestOperations.Text.Percent

/-!
A collection of records of one model behind a URL, and the requests that create, change, remove and
find them. An item has the URL of the collection with its identifier as one more segment.
-/

namespace RestOperations

structure Collection where
  url : String
deriving DecidableEq, Repr

namespace Collection

def under (baseUrl model : String) : Collection :=
  if baseUrl.toList.getLast? = some '/' then ⟨baseUrl ++ model⟩ else ⟨baseUrl ++ "/" ++ model⟩

/-- What to do with the records of a collection. -/
inductive Action
  | create (body : Value)
  | update (id body : Value)
  | delete (id : Value)
  | deleteAll
  /-- Without an identifier, all that pass the filter. -/
  | find (id filter : Value)
  | query (filter : Value)

def itemUrl (c : Collection) (id : Value) : Except Fault String :=
  if id.isWritable then .ok (c.url ++ "/" ++ Text.Percent.encode id.text)
  else .error (.notWritable .tooManyDigits)

def optionsHeaders (options : Value) : Except Fault (Option (List (String × String))) :=
  if options.isNull then .ok none
  else ((Json.text options).mapError .notWritable).map fun s => some [("options", s)]

def filterQuery (filter : Value) : Option (List (String × Value)) := some [("filter", filter)]

def describe (method uri : String) (options body : Value)
    (query : Option (List (String × Value))) : Except Fault Descriptor := do
  let headers ← optionsHeaders options
  return { method, uri, query, body, headers }

/-- The request for an action; the options of the caller go into a header of their own. -/
def descriptor (c : Collection) (a : Action) (options : Value) : Except Fault Descriptor :=
  match a with
  | .create body => describe "POST" c.url options body none
  | .update id body => do describe "PUT" (← c.itemUrl id) options body none
  | .delete id => do describe "DELETE" (← c.itemUrl id) options .null none
  | .deleteAll => describe "DELETE" c.url options .null none
  | .find id filter => do
    let uri ← if id.truthy then c.itemUrl id else .ok c.url
    describe "GET" uri options .null (if filter.isNull then none else filterQuery filter)
  | .query filter =>
    describe "GET" c.url options .null (filterQuery (if filter.truthy then filter else .map []))

end Collection

end RestOperations
