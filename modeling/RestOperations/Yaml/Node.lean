import RestOperations.Yaml.Layout
import RestOperations.Yaml.Tag

/-!
The tree of a document. An alias is the node that its anchor is at; within that very node it is an
empty one of its kind.
-/

namespace RestOperations.Yaml

inductive Node
  | scalar (tag : Tag) (s : String)
  | sequence (tag : Tag) (items : List Node)
  | mapping (tag : Tag) (members : List (Node × Node))

namespace Node

def tag : Node → Tag
  | scalar t _ => t
  | sequence t _ => t
  | mapping t _ => t

/-- Where a scalar is left out. -/
def empty : Node := scalar .null ""

end Node

/-- What is left to be read, and what is known of the document so far. -/
structure Composer where
  tokens : List Token
  anchors : List (String × Node) := []
  /-- What the handles of tags stand for. -/
  handles : List (String × String) := []

namespace Composer

abbrev Step (α : Type) := StateT Composer (Except Failure) α

/-- The next token, if there is one and it could be made. -/
def peek : Step (Option Token) := do
  match (← get).tokens.head? with
  | some (.broken e) => throw e
  | t? => return t?

def drop : Step Unit := modify fun c => { c with tokens := c.tokens.drop 1 }

/-- The next token is one of these. -/
def isNext (ts : List Token) : Step Bool := do
  match ← peek with
  | some t => return ts.contains t
  | none => return false

/-- Takes the token if it comes next. -/
def accept (t : Token) : Step Bool := do
  if ← isNext [t] then drop; return true else return false

def expect (t : Token) : Step Unit := do if !(← accept t) then throw .malformed

/-! ### Properties of nodes -/

structure Properties where
  anchor : Option String := none
  /-- The tag in full. -/
  tag : Option String := none

namespace Properties

def isEmpty (p : Properties) : Bool := p.anchor.isNone && p.tag.isNone

/-- The tag of a collection, of which `usual` is the one it has by itself. -/
def tagOr (p : Properties) (usual : Tag) : Tag :=
  match p.tag with
  | none => usual
  | some "!" => usual
  | some uri => .ofUri uri

def scalarTag (p : Properties) (s : String) (plain : Bool) : Tag :=
  match p.tag with
  | none => if plain then .ofPlain s else .text
  | some "!" => .ofPlain s
  | some uri => .ofUri uri

end Properties

def resolveTag : Option String × String → Step String
  | (none, suffix) => return suffix
  | (some h, suffix) => do
    match (← get).handles.find? (·.1 == h) with
    | some (_, uri) => return uri ++ suffix
    | none => throw .malformed

def takeAnchor : Step (Option String) := do
  match ← peek with
  | some (.anchor name) => drop; return some name
  | _ => return none

/-- A tag as its handle, if any, and what follows it. -/
def takeTag : Step (Option (Option String × String)) := do
  match ← peek with
  | some (.tag handle suffix) => drop; return some (handle, suffix)
  | _ => return none

/-- An anchor and a tag, in either order. -/
def takeProperties : Step Properties := do
  let first ← takeAnchor
  let tag ← takeTag
  let anchor ← if first.isNone && tag.isSome then takeAnchor else pure first
  return { anchor, tag := ← tag.mapM resolveTag }

def setAnchor (name : Option String) (n : Node) : Step Unit :=
  match name with
  | some name => modify fun c => { c with anchors := (name, n) :: c.anchors }
  | none => return

/-- An anchor may be used once. -/
def checkAnchor (name : Option String) : Step Unit := do
  match name with
  | some name => if (← get).anchors.any (·.1 == name) then throw .malformed
  | none => return

def aliased (name : String) : Step Node := do
  match (← get).anchors.find? (·.1 == name) with
  | some (_, n) => return n
  | none => throw .malformed

/-- A collection, known by its anchor while it is read and afterwards. -/
def collection (p : Properties) (stub : Node) (read : Step Node) : Step Node := do
  drop
  setAnchor p.anchor stub
  let n ← read
  setAnchor p.anchor n
  return n

def scalar (p : Properties) (s : String) (plain : Bool) : Step Node := do
  let n := Node.scalar (p.scalarTag s plain) s
  setAnchor p.anchor n
  return n

/-! ### Nodes -/

/-- Where a node may stand: within brackets, in a block, or as the value of a key, where a sequence
need not be indented. -/
inductive Place
  | flow
  | block
  | member
deriving DecidableEq, Repr

mutual

def node : (fuel : Nat) → Place → Step Node
  | 0, _ => throw .malformed
  | fuel + 1, place => do
    if let some (.alias name) ← peek then
      drop
      return ← aliased name
    let p ← takeProperties
    let next ← peek
    checkAnchor p.anchor
    let listTag := p.tagOr .sequence
    let mapTag := p.tagOr .mapping
    match next, place with
    | some .entry, .member =>
      setAnchor p.anchor (.sequence listTag [])
      let n := Node.sequence listTag (← entries fuel)
      setAnchor p.anchor n
      return n
    | some (.scalar s plain), _ => drop; scalar p s plain
    | some .openSequence, _ =>
      collection p (.sequence listTag []) do return .sequence listTag (← flowItems fuel true)
    | some .openMapping, _ =>
      collection p (.mapping mapTag []) do return .mapping mapTag (← flowMembers fuel true)
    | some .blockSequence, .block => blockSequence fuel p
    | some .blockSequence, .member => blockSequence fuel p
    | some .blockMapping, .block => blockMapping fuel p
    | some .blockMapping, .member => blockMapping fuel p
    | _, _ => if p.isEmpty then throw .malformed else scalar p "" true

def blockSequence : (fuel : Nat) → Properties → Step Node
  | 0, _ => throw .malformed
  | fuel + 1, p => do
    let listTag := p.tagOr .sequence
    collection p (.sequence listTag []) do return .sequence listTag (← blockItems fuel)

def blockMapping : (fuel : Nat) → Properties → Step Node
  | 0, _ => throw .malformed
  | fuel + 1, p => do
    let mapTag := p.tagOr .mapping
    collection p (.mapping mapTag []) do return .mapping mapTag (← blockMembers fuel)

/-- A node, or an empty one if one of the tokens comes next. -/
def nodeUnless : (fuel : Nat) → Place → List Token → Step Node
  | 0, _, _ => throw .malformed
  | fuel + 1, place, ends => do if ← isNext ends then return .empty else node fuel place

/-- The items of a sequence in a block. -/
def blockItems : (fuel : Nat) → Step (List Node)
  | 0 => throw .malformed
  | fuel + 1 => do
    if ← accept .entry then
      let n ← nodeUnless fuel .block [.entry, .blockEnd]
      return n :: (← blockItems fuel)
    else
      expect .blockEnd
      return []

/-- The items of a sequence that has no block of its own. -/
def entries : (fuel : Nat) → Step (List Node)
  | 0 => throw .malformed
  | fuel + 1 => do
    if ← accept .entry then
      let n ← nodeUnless fuel .block [.entry, .key, .value, .blockEnd]
      return n :: (← entries fuel)
    else return []

def blockMembers : (fuel : Nat) → Step (List (Node × Node))
  | 0 => throw .malformed
  | fuel + 1 => do
    if ← accept .key then
      let k ← nodeUnless fuel .member [.key, .value, .blockEnd]
      let v ← blockValue fuel
      return (k, v) :: (← blockMembers fuel)
    else
      expect .blockEnd
      return []

def blockValue : (fuel : Nat) → Step Node
  | 0 => throw .malformed
  | fuel + 1 => do
    if ← accept .value then nodeUnless fuel .member [.key, .value, .blockEnd] else return .empty

/-- The items between brackets. A lone key with its value is a map of one member. -/
def flowItems : (fuel : Nat) → (first : Bool) → Step (List Node)
  | 0, _ => throw .malformed
  | fuel + 1, first => do
    if ← accept .closeSequence then return []
    if !first then expect .comma
    if ← accept .key then
      let k ← nodeUnless fuel .flow [.value, .comma, .closeSequence]
      let v ← flowValue fuel [.comma, .closeSequence]
      return .mapping .mapping [(k, v)] :: (← flowItems fuel false)
    else if ← accept .closeSequence then return []
    else
      let n ← node fuel .flow
      return n :: (← flowItems fuel false)

def flowMembers : (fuel : Nat) → (first : Bool) → Step (List (Node × Node))
  | 0, _ => throw .malformed
  | fuel + 1, first => do
    if ← accept .closeMapping then return []
    if !first then expect .comma
    if ← accept .key then
      let k ← nodeUnless fuel .flow [.value, .comma, .closeMapping]
      let v ← flowValue fuel [.comma, .closeMapping]
      return (k, v) :: (← flowMembers fuel false)
    else if ← accept .closeMapping then return []
    else
      let k ← node fuel .flow
      return (k, .empty) :: (← flowMembers fuel false)

def flowValue : (fuel : Nat) → List Token → Step Node
  | 0, _ => throw .malformed
  | fuel + 1, ends => do
    if ← accept .value then nodeUnless fuel .flow ends else return .empty

end

/-! ### Documents -/

def usualHandles : List (String × String) := [("!", "!"), ("!!", Tag.commonPrefix)]

/-- The directives before a document: at most one version, and each handle at most once. -/
def takeDirectives : (fuel : Nat) → (versioned : Bool) → Step Unit
  | 0, _ => return
  | fuel + 1, versioned => do
    match ← peek with
    | some (.version major) =>
      if versioned || major != 1 then throw .malformed
      drop
      takeDirectives fuel true
    | some (.tagPrefix handle uri) =>
      if (← get).handles.any (·.1 == handle) then throw .malformed
      modify fun c => { c with handles := (handle, uri) :: c.handles }
      drop
      takeDirectives fuel versioned
    | some .directive => drop; takeDirectives fuel versioned
    | _ => return

def startsDocument : Token → Bool
  | .version _ => true
  | .tagPrefix _ _ => true
  | .directive => true
  | .documentStart => true
  | _ => false

def dropEnds : (fuel : Nat) → Step Unit
  | 0 => return
  | fuel + 1 => do if ← accept .documentEnd then dropEnds fuel

/-- Depth enough for any tree of so many tokens. -/
def fuelFor (tokens : List Token) : Nat := 4 * tokens.length + 8

/-- A document after its own mark; it may be empty. -/
def content (fuel : Nat) : Step Node := do
  match ← peek with
  | none => return .empty
  | some t => if startsDocument t || t == .documentEnd then return .empty else node fuel .block

/-- There is no second document, but its directives are looked at. -/
def refuseSecond (fuel : Nat) : Step Unit := do
  modify fun c => { c with handles := [] }
  takeDirectives fuel false
  throw .malformed

/-- The only document, if there is any. -/
def document : Step (Option Node) := do
  let fuel := fuelFor (← get).tokens
  match ← peek with
  | none => return none
  | some t =>
    if startsDocument t then takeDirectives fuel false
    modify fun c => { c with handles := c.handles ++ usualHandles }
    let n ← if startsDocument t then do expect .documentStart; content fuel else node fuel .block
    dropEnds fuel
    if (← peek).isSome then refuseSecond fuel
    return some n

end Composer

/-- The tree of a text, none if there is no document in it. -/
def Node.ofText? (cs : List Char) : Except Failure (Option Node) :=
  (Composer.document.run' { tokens := Token.ofText cs })

end RestOperations.Yaml
