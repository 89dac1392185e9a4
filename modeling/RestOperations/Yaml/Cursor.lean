import RestOperations.Text.Ranges

/-!
A place in a YAML text, with the line and the column that indentation goes by. The end of the text
reads as the null character, which no YAML text holds.
-/

namespace RestOperations.Yaml

def endMark : Char := '\x00'

/-- Characters that end a line. -/
def isBreak (c : Char) : Bool :=
  c == '\r' || c == '\n' || c == '\x85' || c == '\u2028' || c == '\u2029'

def isLineEnd (c : Char) : Bool := c == endMark || isBreak c

/-- Ends a word: white space, a line break or the end of the text. -/
def isGap (c : Char) : Bool := c == ' ' || c == '\t' || isLineEnd c

def isTab (c : Char) : Bool := c == ' ' || c == '\t'

def isNameChar (c : Char) : Bool := c.isAlphanum || c == '-' || c == '_'

/-- The characters a YAML text may hold. -/
def allowedRanges : List (Nat × Nat) := [
  (0x9, 0xa), (0xd, 0xd), (0x20, 0x7e), (0x85, 0x85), (0xa0, 0xd7ff), (0xe000, 0xfffd),
  (0x10000, 0x10ffff)]

def isAllowed (c : Char) : Bool := Text.inRanges allowedRanges c.toNat

structure Cursor where
  rest : List Char
  index : Nat := 0
  line : Nat := 0
  column : Nat := 0

namespace Cursor

def peek (c : Cursor) : Char := c.rest.headD endMark

def peekAt (c : Cursor) (n : Nat) : Char := c.rest.getD n endMark

def atEnd (c : Cursor) : Bool := c.rest.isEmpty

/-- A line ends with its break; of the two-character break, with the second one. -/
def endsLine (x : Char) (rest : List Char) : Bool :=
  isBreak x && !(x == '\r' && rest.head? == some '\n')

def advance (c : Cursor) : Cursor :=
  match c.rest with
  | [] => c
  | x :: rest =>
    if endsLine x rest then ⟨rest, c.index + 1, c.line + 1, 0⟩
    else ⟨rest, c.index + 1, c.line, if x = '\uFEFF' then c.column else c.column + 1⟩

def skip (c : Cursor) : Nat → Cursor
  | 0 => c
  | n + 1 => c.advance.skip n

/-- The characters from here on that pass the test, and the place after them. -/
def span (c : Cursor) (p : Char → Bool) : List Char × Cursor :=
  let cs := c.rest.takeWhile p
  (cs, c.skip cs.length)

def dropWhile (c : Cursor) (p : Char → Bool) : Cursor := (c.span p).2

def toLineEnd (c : Cursor) : List Char × Cursor := c.span fun x => !isLineEnd x

/-- A line break, as the character that stands for it, if there is one here. -/
def takeBreak (c : Cursor) : List Char × Cursor :=
  match c.rest with
  | '\r' :: '\n' :: _ => (['\n'], c.skip 2)
  | x :: _ =>
    if x = '\u2028' ∨ x = '\u2029' then ([x], c.advance)
    else if isBreak x then (['\n'], c.advance)
    else ([], c)
  | [] => ([], c)

def startsWith (c : Cursor) (s : String) : Bool := s.toList.isPrefixOf c.rest

/-- Three characters that are a word of their own. -/
def atMark (c : Cursor) (mark : String) : Bool := c.startsWith mark && isGap (c.peekAt 3)

def atDocumentStart (c : Cursor) : Bool := c.column == 0 && c.atMark "---"

def atDocumentEnd (c : Cursor) : Bool := c.column == 0 && c.atMark "..."

/-- A mark between documents stands here. -/
def atSeparator (c : Cursor) : Bool := c.atMark "---" || c.atMark "..."

end Cursor

end RestOperations.Yaml
