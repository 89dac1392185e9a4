import RestOperations.Text.Hex
import RestOperations.Text.Utf8
import RestOperations.Yaml.Cursor
import RestOperations.Yaml.Failure

/-!
The tokens of YAML, and those of them that take one line: directives, anchors and tags. Indentation
is tokens, too: blocks start and end like brackets.
-/

namespace RestOperations.Yaml

inductive Token
  | version (major : Nat)
  | tagPrefix (handle uri : String)
  | directive
  | documentStart
  | documentEnd
  | blockSequence
  | blockMapping
  | blockEnd
  | openSequence
  | closeSequence
  | openMapping
  | closeMapping
  | entry
  | comma
  | key
  | value
  | alias (name : String)
  | anchor (name : String)
  /-- A tag that names no handle is given in full. -/
  | tag (handle : Option String) (suffix : String)
  | scalar (text : String) (plain : Bool)
  /-- No token could be made of what follows. -/
  | broken (e : Failure)
deriving DecidableEq, Repr

namespace Token

def malformed {α : Type} : Except Failure α := .error .malformed

/-! ### Anchors -/

/-- The characters that may follow the name of an anchor. -/
def endsAnchor (c : Char) : Bool :=
  isGap c || c == '?' || c == ':' || c == ',' || c == ']' || c == '}' || c == '%' || c == '@' ||
    c == '\x60'

/-- The name after the mark of an anchor or an alias. -/
def takeName (c : Cursor) : Except Failure (String × Cursor) :=
  let (name, c) := c.advance.span isNameChar
  if name.isEmpty || !endsAnchor c.peek then malformed else .ok (String.ofList name, c)

/-! ### Tags -/

def isUriChar (c : Char) : Bool :=
  c.isAlphanum || "-;/?:@&=+$,_.!~*'()[]%".toList.contains c

/-- Octets that are written with percent signs. -/
def takeEscapes : (fuel : Nat) → Cursor → Except Failure (List UInt8 × Cursor)
  | 0, c => .ok ([], c)
  | fuel + 1, c =>
    match c.rest with
    | '%' :: a :: b :: _ =>
      match Text.octetsOfHex? [a, b] with
      | some bs => do
        let (more, c) ← takeEscapes fuel (c.skip 3)
        .ok (bs ++ more, c)
      | none => malformed
    | '%' :: _ => malformed
    | _ => .ok ([], c)

def takeUriChars : (fuel : Nat) → Cursor → Except Failure (List Char × Cursor)
  | 0, c => .ok ([], c)
  | fuel + 1, c =>
    if c.peek = '%' then do
      let (bs, c) ← takeEscapes c.rest.length c
      match Text.Utf8.decode bs with
      | .error _ => malformed
      | .ok cs =>
        let (more, c) ← takeUriChars fuel c
        .ok (cs ++ more, c)
    else if isUriChar c.peek then do
      let (more, c') ← takeUriChars fuel c.advance
      .ok (c.peek :: more, c')
    else .ok ([], c)

def takeUri (c : Cursor) : Except Failure (String × Cursor) :=
  if !isUriChar c.peek then malformed
  else do
    let (cs, c) ← takeUriChars c.rest.length c
    .ok (String.ofList cs, c)

/-- A handle: an exclamation mark, or two with a name between them. -/
def takeHandle (c : Cursor) : Except Failure (String × Cursor) :=
  if c.peek != '!' then malformed
  else if c.peekAt 1 = ' ' then .ok ("!", c.advance)
  else
    let (name, after) := c.advance.span isNameChar
    if after.peek = '!' then .ok ("!" ++ String.ofList name ++ "!", after.advance) else malformed

def endsTag (c : Char) : Bool := c == ' ' || isLineEnd c

/-- The word at the cursor has another exclamation mark in it. -/
def usesHandle (c : Cursor) : Bool :=
  ((c.rest.drop 1).takeWhile fun x => !endsTag x).contains '!'

def takeTagParts (c : Cursor) : Except Failure ((Option String × String) × Cursor) :=
  let next := c.peekAt 1
  if next = '<' then do
    let (uri, c) ← takeUri (c.skip 2)
    if c.peek = '>' then .ok ((none, uri), c.advance) else malformed
  else if isGap next then .ok ((none, "!"), c.advance)
  else if usesHandle c then do
    let (handle, c) ← takeHandle c
    let (suffix, c) ← takeUri c
    .ok ((some handle, suffix), c)
  else do
    let (suffix, c) ← takeUri c.advance
    .ok ((some "!", suffix), c)

def takeTag (c : Cursor) : Except Failure (Token × Cursor) := do
  let ((handle, suffix), c) ← takeTagParts c
  if endsTag c.peek then .ok (.tag handle suffix, c) else malformed

/-! ### Directives -/

def isSpace (c : Char) : Bool := c == ' '

/-- The end of a line that may hold a comment and nothing else. -/
def takeLineRest (c : Cursor) : Except Failure Cursor :=
  let c := c.dropWhile isSpace
  let c := if c.peek = '#' then c.toLineEnd.2 else c
  if isLineEnd c.peek then .ok c.takeBreak.2 else malformed

def takeNumber (c : Cursor) : Except Failure (Nat × Cursor) :=
  let (ds, c) := c.span Char.isDigit
  if ds.isEmpty then malformed
  else if Decimal.digitLimit < ds.length then .error (.scalar (.tooManyDigits ds.length))
  else .ok (ds.foldl (fun n d => n * 10 + (d.toNat - 48)) 0, c)

def takeVersion (c : Cursor) : Except Failure (Token × Cursor) := do
  let (major, c) ← takeNumber (c.dropWhile isSpace)
  if c.peek != '.' then malformed
  else
    let (_, c) ← takeNumber c.advance
    if endsTag c.peek then .ok (.version major, c) else malformed

def takeTagPrefix (c : Cursor) : Except Failure (Token × Cursor) := do
  let (handle, c) ← takeHandle (c.dropWhile isSpace)
  if c.peek != ' ' then malformed
  else
    let (uri, c) ← takeUri (c.dropWhile isSpace)
    if endsTag c.peek then .ok (.tagPrefix handle uri, c) else malformed

/-- A directive with its line; unknown ones are let be. -/
def takeDirective (c : Cursor) : Except Failure (Token × Cursor) := do
  let (name, c) := c.advance.span isNameChar
  if name.isEmpty || !endsTag c.peek then malformed
  else
    let (token, c) ←
      if name = "YAML".toList then takeVersion c
      else if name = "TAG".toList then takeTagPrefix c
      else .ok (.directive, c.toLineEnd.2)
    let c ← takeLineRest c
    .ok (token, c)

end Token

end RestOperations.Yaml
