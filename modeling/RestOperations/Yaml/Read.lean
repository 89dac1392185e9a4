import RestOperations.Text.Utf16
import RestOperations.Value.Members
import RestOperations.Yaml.Node
import RestOperations.Yaml.Number

/-!
YAML documents as values. A map may take over the members of others, which come before its own; of
equal keys the last one wins. Values are made level by level from the root, so among several faults
the one that is nearest to the root counts, and among those the first.
-/

namespace RestOperations.Yaml

namespace Node

mutual

def depth : Node → Nat
  | scalar _ _ => 1
  | sequence _ items => 1 + depthOfItems items
  | mapping _ members => 1 + depthOfMembers members

def depthOfItems : List Node → Nat
  | [] => 0
  | n :: ns => max (depth n) (depthOfItems ns)

def depthOfMembers : List (Node × Node) → Nat
  | [] => 0
  | (k, v) :: ms => max (max (depth k) (depth v)) (depthOfMembers ms)

end

/-! ### Merging -/

def asText : Node → Node
  | scalar _ s => scalar .text s
  | sequence _ items => sequence .text items
  | mapping _ members => mapping .text members

/-- What is taken over: the members of a map, or of a list of maps, of which the first one wins. -/
def membersFrom (membersOf : List (Node × Node) → Except Failure (List (Node × Node))) :
    Node → Except Failure (List (Node × Node))
  | mapping _ members => membersOf members
  | sequence _ items => do
    let taken ← items.mapM fun n =>
      match n with
      | mapping _ members => membersOf members
      | _ => .error .malformed
    .ok taken.reverse.flatten
  | scalar _ _ => .error .malformed

def isMerge (m : Node × Node) : Bool := m.1.tag == .merge

/-- A member of the map itself. The sign for a value is text where it is a key. -/
def ownMember (m : Node × Node) : Node × Node :=
  (if m.1.tag = .value then m.1.asText else m.1, m.2)

/-- The members of a map, those that it takes over first. -/
def merged : (fuel : Nat) → List (Node × Node) → Except Failure (List (Node × Node))
  | 0, _ => .error .malformed
  | fuel + 1, members => do
    let taken ← (members.filter isMerge).mapM fun (_, v) =>
      membersFrom (fun ms => merged fuel ms) v
    .ok (taken.flatten ++ (members.filter fun m => !isMerge m).map ownMember)

/-! ### Scalars -/

mutual

/-- The text of a scalar, or of the member of a map that stands for its value. -/
def scalarText : Node → Except Failure String
  | scalar _ s => .ok s
  | sequence _ _ => .error .malformed
  | mapping _ members => valueText members

def valueText : List (Node × Node) → Except Failure String
  | [] => .error .malformed
  | (k, v) :: ms => if k.tag = .value then scalarText v else valueText ms

end

/-- A date or a moment; a map may have a text, but not this one. -/
def readStampText (n : Node) (s : String) : Except Failure Value :=
  match n with
  | mapping _ _ => refused .mappedTimestamp
  | _ => readTimestamp s

def readScalar (n : Node) : Except Failure Value := do
  match n.tag with
  | .null => let _ ← n.scalarText; return .null
  | .bool => return .bool (← readBool (← n.scalarText))
  | .int => return .int (← readInt (← n.scalarText))
  | .float => return .float (← readFloat (← n.scalarText))
  | .timestamp => readStampText n (← n.scalarText)
  | .binary => return .octets (← readOctets (← n.scalarText))
  | .text => return .str (← n.scalarText)
  | _ => throw .malformed

/-! ### Values -/

/-- A value, or a failure with the level at which it shows. -/
abbrev Leveled (α : Type) := Except (Nat × Failure) α

def atLevel {α : Type} (level : Nat) (r : Except Failure α) : Leveled α :=
  r.mapError fun e => (level, e)

/-- Both results, or the failure that is nearer to the root. -/
def both {α β : Type} : Leveled α → Leveled β → Leveled (α × β)
  | .ok a, .ok b => .ok (a, b)
  | .ok _, .error e => .error e
  | .error e, .ok _ => .error e
  | .error (m, e), .error (n, f) => .error (if n < m then (n, f) else (m, e))

/-- What this node is does not show in its scalars. -/
def isCollection (n : Node) : Bool :=
  match n.tag with
  | .sequence => true
  | .mapping => true
  | .set => true
  | .orderedMap => true
  | .pairs => true
  | _ => false

/-- A key; no collection is one, whatever there is in it. -/
def readKey (read : Node → Leveled Value) (level : Nat) (k : Node) : Leveled Value :=
  if k.isCollection then .error (level, .malformed) else read k

def all {α : Type} : List (Leveled α) → Leveled (List α)
  | [] => .ok []
  | r :: rs => (both r (all rs)).map fun (a, as) => a :: as

def readMembers (read : Node → Leveled Value) (level : Nat) (members : List (Node × Node)) :
    Leveled (List (Value × Value)) :=
  all (members.map fun (k, v) => both (readKey read level k) (read v))

/-- Pairs, each from a map of one member. -/
def readPairs (read : Node → Leveled Value) (level : Nat) (items : List Node) :
    Leveled (List Value) :=
  all (items.map fun n =>
    match n with
    | mapping _ [(k, v)] => (both (read k) (read v)).map fun (k, v) => .tuple [k, v]
    | _ => .error (level, .malformed))

/-- The set of the keys of a map. -/
def keysOf (members : List (Value × Value)) : Value :=
  .set ((members.foldl (fun ms m => Value.put ms m.1 m.2) []).map (·.1))

def read : (fuel level : Nat) → Node → Leveled Value
  | 0, level, _ => .error (level, .malformed)
  | fuel + 1, level, n =>
    let inner := fun n => read fuel (level + 1) n
    let mapped (members : List (Node × Node)) := do
      readMembers inner (level + 1) (← atLevel (level + 1) (merged (fuel + 1) members))
    match n.tag, n with
    | .sequence, sequence _ items => (all (items.map inner)).map .list
    | .mapping, mapping _ members => (mapped members).map Value.ofMembers
    | .set, mapping _ members => (mapped members).map keysOf
    | .orderedMap, sequence _ items => (readPairs inner (level + 1) items).map .list
    | .pairs, sequence _ items => (readPairs inner (level + 1) items).map .list
    | .sequence, _ => .error (level + 1, .malformed)
    | .mapping, _ => .error (level + 1, .malformed)
    | .set, _ => .error (level + 1, .malformed)
    | .orderedMap, _ => .error (level + 1, .malformed)
    | .pairs, _ => .error (level + 1, .malformed)
    | _, _ => atLevel level n.readScalar

end Node

/-! ### Texts -/

/-- Every character of the text is one that YAML allows. -/
def readText (cs : List Char) : Except Failure Value :=
  if !cs.all isAllowed then .error .malformed
  else do
    match ← Node.ofText? cs with
    | none => .ok .null
    | some n => (n.read n.depth 0).mapError (·.2)

/-- The characters of a text in UTF-16, if a byte order mark says so, or else in UTF-8. -/
def decode (bs : List UInt8) : Except Failure (List Char) :=
  match bs with
  | 0xFF :: 0xFE :: _ => (Text.Utf16.decode false .little bs).mapError fun _ => .malformed
  | 0xFE :: 0xFF :: _ => (Text.Utf16.decode false .big bs).mapError fun _ => .malformed
  | _ => (Text.Utf8.decode bs).mapError fun _ => .malformed

end RestOperations.Yaml
