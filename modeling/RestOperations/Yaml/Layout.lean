import RestOperations.Yaml.Scalar

/-!
The tokens of a text. What is indented further than the block around it starts a block, and what is
indented less ends blocks. A key has no mark of its own: when a colon is found, the scalar or
collection before it turns out to be one, provided that it could be a key and is on the same line.
-/

namespace RestOperations.Yaml

open Token (malformed)

/-- A place where a key may have started. -/
structure PendingKey where
  /-- How many tokens come before it. -/
  position : Nat
  /-- Nothing but a key can stand there. -/
  required : Bool
  index : Nat
  line : Nat
  column : Nat

structure Layout where
  cursor : Cursor
  /-- The tokens so far, the last one first. -/
  tokens : List Token := []
  count : Nat := 0
  /-- The columns of the open blocks, the innermost first. -/
  indents : List Nat := []
  /-- The pending keys around each open bracket, the innermost first. -/
  outer : List (Option PendingKey) := []
  pending : Option PendingKey := none
  allowKey : Bool := true

namespace Layout

def inFlow (s : Layout) : Bool := !s.outer.isEmpty

def indent (s : Layout) : Int :=
  match s.indents with
  | [] => -1
  | n :: _ => n

def column (s : Layout) : Nat := s.cursor.column

def emit (s : Layout) (t : Token) : Layout :=
  { s with tokens := t :: s.tokens, count := s.count + 1 }

/-- Puts tokens where `position` tokens come before them. -/
def insert (s : Layout) (position : Nat) (ts : List Token) : Layout :=
  let later := s.count - position
  { s with
    tokens := s.tokens.take later ++ ts.reverse ++ s.tokens.drop later
    count := s.count + ts.length }

/-! ### Blocks -/

def closeBlocks (column : Int) : (indents : List Nat) → List Nat × List Token
  | [] => ([], [])
  | n :: rest =>
    if column < (n : Int) then
      let (indents, ends) := closeBlocks column rest
      (indents, .blockEnd :: ends)
    else (n :: rest, [])

/-- Ends the blocks that are indented further than the column. -/
def unwind (s : Layout) (column : Int) : Layout :=
  if s.inFlow then s
  else
    let (indents, ends) := closeBlocks column s.indents
    { s with indents, tokens := ends ++ s.tokens, count := s.count + ends.length }

/-- Whether a block starts at the column, and the layout with it. -/
def openBlock (s : Layout) (column : Nat) : Bool × Layout :=
  if s.indent < (column : Int) then (true, { s with indents := column :: s.indents })
  else (false, s)

/-- A block of the kind starts here, unless it is open already. -/
def openHere (s : Layout) (t : Token) : Layout :=
  let (opened, s) := s.openBlock s.column
  if opened then s.emit t else s

/-! ### Keys -/

/-- Gives up the pending key of this level. -/
def dropKey (s : Layout) : Except Failure Layout :=
  if s.pending.any (·.required) then malformed else .ok { s with pending := none }

def saveKey (s : Layout) : Except Failure Layout :=
  if !s.allowKey then .ok s
  else do
    let s ← s.dropKey
    let c := s.cursor
    let required := !s.inFlow && s.indent == (s.column : Int)
    .ok { s with pending := some ⟨s.count, required, c.index, c.line, c.column⟩ }

/-- A key is on one line and not longer than this. -/
def keyLimit : Nat := 1024

def isStale (c : Cursor) (k : PendingKey) : Bool :=
  k.line != c.line || decide (keyLimit < c.index - k.index)

def freshen (c : Cursor) (k? : Option PendingKey) : Except Failure (Option PendingKey) :=
  match k? with
  | some k => if !isStale c k then .ok k? else if k.required then malformed else .ok none
  | none => .ok none

def dropStale (s : Layout) : Except Failure Layout := do
  let pending ← freshen s.cursor s.pending
  let outer ← s.outer.mapM (freshen s.cursor)
  .ok { s with pending, outer }

/-! ### Tokens -/

/-- A token of some characters. -/
def take (s : Layout) (n : Nat) (t : Token) : Layout :=
  { s.emit t with cursor := s.cursor.skip n }

def takeDirective (s : Layout) : Except Failure Layout := do
  let s ← (s.unwind (-1)).dropKey
  let (t, c) ← Token.takeDirective s.cursor
  .ok { s.emit t with allowKey := false, cursor := c }

def takeDocumentMark (s : Layout) (t : Token) : Except Failure Layout := do
  let s ← (s.unwind (-1)).dropKey
  .ok ({ s with allowKey := false }.take 3 t)

def openBracket (s : Layout) (t : Token) : Except Failure Layout := do
  let s ← s.saveKey
  .ok ({ s with outer := s.pending :: s.outer, pending := none, allowKey := true }.take 1 t)

def closeBracket (s : Layout) (t : Token) : Except Failure Layout := do
  let s ← s.dropKey
  match s.outer with
  | [] => malformed
  | pending :: outer => .ok ({ s with outer, pending, allowKey := false }.take 1 t)

def takeComma (s : Layout) : Except Failure Layout := do
  let s ← s.dropKey
  .ok ({ s with allowKey := true }.take 1 .comma)

/-- Starts a block where there are no brackets around; a key must be allowed there. -/
def openFor (s : Layout) (block : Token) : Except Failure Layout :=
  if s.inFlow then .ok s else if s.allowKey then .ok (s.openHere block) else malformed

def takeEntry (s : Layout) : Except Failure Layout := do
  let s ← s.openFor .blockSequence
  let s ← s.dropKey
  .ok ({ s with allowKey := true }.take 1 .entry)

def takeKey (s : Layout) : Except Failure Layout := do
  let s ← s.openFor .blockMapping
  let s ← s.dropKey
  .ok ({ s with allowKey := !s.inFlow }.take 1 .key)

def takeValue (s : Layout) : Except Failure Layout :=
  match s.pending with
  | some k =>
    let (opened, s) := if s.inFlow then (false, s) else s.openBlock k.column
    let s := s.insert k.position (if opened then [.blockMapping, .key] else [.key])
    .ok ({ s with pending := none, allowKey := false }.take 1 .value)
  | none => do
    let s ← s.openFor .blockMapping
    let s ← s.dropKey
    .ok ({ s with allowKey := !s.inFlow }.take 1 .value)

/-- A token that a key may start with. -/
def takeContent (s : Layout) (taken : Cursor → Except Failure (Token × Cursor)) :
    Except Failure Layout := do
  let s ← s.saveKey
  let (t, c) ← taken s.cursor
  .ok { s.emit t with allowKey := false, cursor := c }

def takeBlockScalar (s : Layout) (fold : Bool) : Except Failure Layout := do
  let s ← s.dropKey
  let (t, c) ← Scalar.takeBlock fold s.indent s.cursor
  .ok { s.emit t with allowKey := true, cursor := c }

def takePlain (s : Layout) : Except Failure Layout := do
  let s ← s.saveKey
  let (t, fresh, c) := Scalar.takePlain s.inFlow s.indent s.cursor
  .ok { s.emit t with allowKey := fresh, cursor := c }

def takeNamed (make : String → Token) (c : Cursor) : Except Failure (Token × Cursor) :=
  (Token.takeName c).map fun (name, c) => (make name, c)

/-- Characters that stand for something else than a plain scalar. -/
def isIndicator (c : Char) : Bool := "-?:,[]\x7b\x7d#&*!|>'\"%@\x60".toList.contains c

def startsPlain (s : Layout) : Bool :=
  let x := s.cursor.peek
  (!isGap x && !isIndicator x) ||
    (!isGap (s.cursor.peekAt 1) && (x == '-' || (!s.inFlow && (x == '?' || x == ':'))))

/-- Comments, spaces and line breaks; after a break, a key may come where no brackets are open. -/
def skipBlank : (fuel : Nat) → Layout → Layout
  | 0, s => s
  | fuel + 1, s =>
    let c := s.cursor.dropWhile Token.isSpace
    let c := if c.peek = '#' then c.toLineEnd.2 else c
    if isBreak c.peek then
      skipBlank fuel { s with cursor := c.takeBreak.2, allowKey := s.allowKey || !s.inFlow }
    else { s with cursor := c }

def skipByteOrderMark (s : Layout) : Layout :=
  if s.cursor.index = 0 ∧ s.cursor.peek = '\uFEFF' then { s with cursor := s.cursor.advance } else s

def skip (s : Layout) : Layout :=
  let s := s.skipByteOrderMark
  skipBlank (s.cursor.rest.length + 1) s

/-- Takes the token that starts here. -/
def takeToken (s : Layout) : Except Failure Layout :=
  let c := s.cursor
  let apart := isGap (c.peekAt 1)
  if c.column = 0 ∧ c.peek = '%' then s.takeDirective
  else if c.atDocumentStart then s.takeDocumentMark .documentStart
  else if c.atDocumentEnd then s.takeDocumentMark .documentEnd
  else match c.peek with
    | '[' => s.openBracket .openSequence
    | '{' => s.openBracket .openMapping
    | ']' => s.closeBracket .closeSequence
    | '}' => s.closeBracket .closeMapping
    | ',' => s.takeComma
    | '*' => s.takeContent (takeNamed .alias)
    | '&' => s.takeContent (takeNamed .anchor)
    | '!' => s.takeContent Token.takeTag
    | '\'' => s.takeContent (Scalar.takeQuoted false)
    | '"' => s.takeContent (Scalar.takeQuoted true)
    | x =>
      if x = '-' ∧ apart then s.takeEntry
      else if x = '?' ∧ (s.inFlow ∨ apart) then s.takeKey
      else if x = ':' ∧ (s.inFlow ∨ apart) then s.takeValue
      else if x = '|' ∧ !s.inFlow then s.takeBlockScalar false
      else if x = '>' ∧ !s.inFlow then s.takeBlockScalar true
      else if s.startsPlain then s.takePlain
      else malformed

/-- Ends the text: all blocks are closed, and no key is waited for. -/
def finish (s : Layout) : Except Failure Layout := (s.unwind (-1)).dropKey

def next (s : Layout) : Except Failure Layout := do
  let s ← s.skip.dropStale
  (s.unwind s.column).takeToken

/-- Whether nothing but blanks is left. -/
def atEnd (s : Layout) : Bool := s.skip.cursor.atEnd

def complete (s : Layout) : Except Failure Layout := do
  let s ← s.skip.dropStale
  s.finish

/-- The places of the keys that may still be found. -/
def keyPlaces (s : Layout) : List Nat :=
  (s.pending :: s.outer).filterMap fun k? =>
    match k? with
    | some k => if isStale s.cursor k then none else some k.position
    | none => none

/-- The tokens that no key can be put before any more. -/
def settled (s : Layout) : List Token :=
  match s.keyPlaces.min? with
  | some position => s.tokens.drop (s.count - position)
  | none => s.tokens

/-- The layout with the next token, or all the tokens if there are no more or none can be made. -/
def step (s : Layout) : Except (List Token) Layout :=
  let cut (e : Failure) : List Token := .broken e :: s.settled
  if s.atEnd then
    match s.complete with
    | .ok s => .error s.tokens
    | .error e => .error (cut e)
  else s.next.mapError cut

/-- Goes on as long as there is a next layout. -/
def run (step : Layout → Except (List Token) Layout) : (fuel : Nat) → Layout → List Token
  | 0, s => s.tokens
  | fuel + 1, s =>
    match step s with
    | .ok s => run step fuel s
    | .error ts => ts

end Layout

/-- The tokens of a text. -/
def Token.ofText (cs : List Char) : List Token :=
  (Layout.run Layout.step (cs.length + 1) { cursor := { rest := cs } }).reverse

end RestOperations.Yaml
