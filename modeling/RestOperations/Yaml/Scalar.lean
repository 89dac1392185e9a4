import RestOperations.Yaml.Token

/-!
Scalars as they are written. Quoted and plain ones may go over several lines, of which a single break
is a space; a block scalar takes all lines that are indented enough, as they are or folded.
-/

namespace RestOperations.Yaml.Scalar

open Token (malformed)

/-! ### Quoted scalars -/

/-- The breaks of further empty lines. No document may start or end within a scalar. -/
def takeBreaks : (fuel : Nat) → Cursor → Except Failure (List Char × Cursor)
  | 0, c => .ok ([], c)
  | fuel + 1, c =>
    if c.atSeparator then malformed
    else
      let c := c.dropWhile isTab
      if isBreak c.peek then do
        let (here, c) := c.takeBreak
        let (more, c) ← takeBreaks fuel c
        .ok (here ++ more, c)
      else .ok ([], c)

/-- What a line break and the empty lines after it stand for. -/
def folded (lineBreak breaks : List Char) : List Char :=
  if lineBreak != ['\n'] then lineBreak ++ breaks
  else if breaks.isEmpty then [' ']
  else breaks

/-- White space within a quoted scalar: kept within a line, folded at its end. -/
def takeGap (c : Cursor) : Except Failure (List Char × Cursor) := do
  let (blanks, c) := c.span isTab
  if c.atEnd then malformed
  else if isBreak c.peek then
    let (lineBreak, c) := c.takeBreak
    let (breaks, c) ← takeBreaks c.rest.length c
    .ok (folded lineBreak breaks, c)
  else .ok (blanks, c)

def escaped? (c : Char) : Option Char :=
  match c with
  | '0' => some '\x00'
  | 'a' => some '\x07'
  | 'b' => some '\x08'
  | 't' => some '\t'
  | '\t' => some '\t'
  | 'n' => some '\n'
  | 'v' => some '\x0b'
  | 'f' => some '\x0c'
  | 'r' => some '\r'
  | 'e' => some '\x1b'
  | ' ' => some ' '
  | '"' => some '"'
  | '\\' => some '\\'
  | '/' => some '/'
  | 'N' => some '\x85'
  | '_' => some '\xa0'
  | 'L' => some '\u2028'
  | 'P' => some '\u2029'
  | _ => none

/-- How many hexadecimal digits follow the letter. -/
def codeLength? (c : Char) : Option Nat :=
  match c with
  | 'x' => some 2
  | 'u' => some 4
  | 'U' => some 8
  | _ => none

/-- Half a surrogate pair is no character. -/
def charOfCode (n : Nat) : Except Failure Char :=
  if 0x110000 ≤ n then .error (.scalar (.noCharacter n))
  else .ok (if 0xD800 ≤ n ∧ n < 0xE000 then '\uFFFD' else Char.ofNat n)

/-- What follows a backslash. -/
def takeEscape (c : Cursor) : Except Failure (List Char × Cursor) :=
  match escaped? c.peek, codeLength? c.peek with
  | some x, _ => .ok ([x], c.advance)
  | none, some n =>
    let digits := c.advance.rest.take n
    match if digits.length = n then Text.readHex? digits else none with
    | none => malformed
    | some code => do
      let x ← charOfCode code
      .ok ([x], c.skip (n + 1))
  | none, none => if isBreak c.peek then takeBreaks c.rest.length c.takeBreak.2 else malformed

/-- The characters up to the closing mark. -/
def takeQuotedChars (double : Bool) : (fuel : Nat) → Cursor → Except Failure (List Char × Cursor)
  | 0, _ => malformed
  | fuel + 1, c =>
    match c.rest with
    | [] => malformed
    | x :: rest =>
      if isTab x || isBreak x then do
        let (here, c) ← takeGap c
        let (more, c) ← takeQuotedChars double fuel c
        .ok (here ++ more, c)
      else if double && x == '\\' then do
        let (here, c) ← takeEscape c.advance
        let (more, c) ← takeQuotedChars double fuel c
        .ok (here ++ more, c)
      else if !double && x == '\'' && rest.head? == some '\'' then do
        let (more, c) ← takeQuotedChars double fuel (c.skip 2)
        .ok ('\'' :: more, c)
      else if x == (if double then '"' else '\'') then .ok ([], c.advance)
      else do
        let (more, c) ← takeQuotedChars double fuel c.advance
        .ok (x :: more, c)

def takeQuoted (double : Bool) (c : Cursor) : Except Failure (Token × Cursor) := do
  let (cs, c) ← takeQuotedChars double (c.rest.length + 1) c.advance
  .ok (.scalar (String.ofList cs) false, c)

/-! ### Block scalars -/

/-- What becomes of the breaks at the end: all but one go, unless they are stripped or kept. -/
inductive Chomping
  | clip
  | strip
  | keep
deriving DecidableEq, Repr

def takeChomping (c : Cursor) : Option Chomping × Cursor :=
  if c.peek = '+' then (some .keep, c.advance)
  else if c.peek = '-' then (some .strip, c.advance)
  else (none, c)

/-- A digit that says how far the scalar is indented; zero is refused. -/
def takeIncrement (c : Cursor) : Except Failure (Option Nat × Cursor) :=
  if !c.peek.isDigit then .ok (none, c)
  else if c.peek = '0' then malformed
  else .ok (some (c.peek.toNat - 48), c.advance)

/-- The marks after the start of a block scalar, in either order. -/
def takeHeader (c : Cursor) : Except Failure ((Chomping × Option Nat) × Cursor) := do
  let (first, c) := takeChomping c
  let (increment, c) ← takeIncrement c
  let (second, c) := if first.isNone && increment.isSome then takeChomping c else (none, c)
  if !Token.endsTag c.peek then malformed
  else
    let c ← Token.takeLineRest c
    .ok (((first.orElse fun _ => second).getD .clip, increment), c)

/-- The empty lines at the start, and the greatest column that white space reaches. -/
def takeIndentation : (fuel most : Nat) → Cursor → List Char × Nat × Cursor
  | 0, most, c => ([], most, c)
  | fuel + 1, most, c =>
    if c.peek = ' ' then takeIndentation fuel (max most c.advance.column) c.advance
    else if isBreak c.peek then
      let (here, c) := c.takeBreak
      let (more, most, c) := takeIndentation fuel most c
      (here ++ more, most, c)
    else ([], most, c)

/-- Goes on to a column, over spaces. -/
def indentTo (column : Nat) : (fuel : Nat) → Cursor → Cursor
  | 0, c => c
  | fuel + 1, c =>
    if c.column < column && c.peek == ' ' then indentTo column fuel c.advance else c

/-- The breaks of empty lines, and the place where the next line has its text. -/
def takeBlockBreaks (indent : Nat) : (fuel : Nat) → Cursor → List Char × Cursor
  | 0, c => ([], c)
  | fuel + 1, c =>
    let c := indentTo indent indent c
    if isBreak c.peek then
      let (here, c) := c.takeBreak
      let (more, c) := takeBlockBreaks indent fuel c
      (here ++ more, c)
    else ([], c)

/-- What stands between two lines of a block scalar. -/
def lineGap (fold : Bool) (lineBreak breaks : List Char) (before after : Char) : List Char :=
  if fold && lineBreak == ['\n'] && !isTab before && !isTab after then
    if breaks.isEmpty then [' '] else []
  else lineBreak

structure BlockStyle where
  fold : Bool
  chomping : Chomping
  indent : Nat

def lastBreaks (chomping : Chomping) (lineBreak breaks : List Char) : List Char :=
  match chomping with
  | .clip => lineBreak
  | .strip => []
  | .keep => lineBreak ++ breaks

/-- The lines from here on; `breaks` are those before the first of them. -/
def takeLines (style : BlockStyle) : (fuel : Nat) → (breaks : List Char) → Cursor →
    List Char × Cursor
  | 0, _, c => ([], c)
  | fuel + 1, breaks, c =>
    let (line, c') := c.toLineEnd
    let (lineBreak, c') := c'.takeBreak
    let (more, c') := takeBlockBreaks style.indent c'.rest.length c'
    if c'.column = style.indent ∧ !c'.atEnd then
      let (rest, c'') := takeLines style fuel more c'
      (breaks ++ line ++ lineGap style.fold lineBreak more c.peek c'.peek ++ rest, c'')
    else (breaks ++ line ++ lastBreaks style.chomping lineBreak more, c')

/-- A block scalar within a block at column `indent`, or one less than the first. -/
def takeBlock (fold : Bool) (indent : Int) (c : Cursor) : Except Failure (Token × Cursor) := do
  let ((chomping, increment), c) ← takeHeader c.advance
  let least := max (indent + 1).toNat 1
  let (breaks, indent, c) := match increment with
    | some n =>
      let (breaks, c) := takeBlockBreaks (least + n - 1) c.rest.length c
      (breaks, least + n - 1, c)
    | none =>
      let (breaks, most, c) := takeIndentation c.rest.length 0 c
      (breaks, max least most, c)
  let style : BlockStyle := ⟨fold, chomping, indent⟩
  if c.column = indent ∧ !c.atEnd then
    let (cs, c) := takeLines style c.rest.length breaks c
    .ok (.scalar (String.ofList cs) false, c)
  else .ok (.scalar (String.ofList (lastBreaks chomping [] breaks)) false, c)

/-! ### Plain scalars -/

/-- Brackets and commas, which end a plain scalar within brackets. -/
def isFlowMark (c : Char) : Bool := c == ',' || c == '[' || c == ']' || c == '{' || c == '}'

/-- A plain scalar goes no further than here. -/
def endsPlain (flow : Bool) (x : Char) (rest : List Char) : Bool :=
  let next := rest.headD endMark
  isGap x || (x == ':' && (isGap next || (flow && isFlowMark next))) ||
    (flow && (isFlowMark x || x == '?'))

def plainRun (flow : Bool) : List Char → List Char
  | [] => []
  | x :: rest => if endsPlain flow x rest then [] else x :: plainRun flow rest

/-- The empty lines between two lines of a plain scalar; none where a document starts or ends. -/
def takePlainBreaks : (fuel : Nat) → Cursor → Option (List Char) × Cursor
  | 0, c => (some [], c)
  | fuel + 1, c =>
    if c.peek = ' ' then takePlainBreaks fuel c.advance
    else if isBreak c.peek then
      let (here, c) := c.takeBreak
      if c.atSeparator then (none, c)
      else
        let (more, c) := takePlainBreaks fuel c
        (more.map (here ++ ·), c)
    else (some [], c)

/-- What separates two runs of a plain scalar, and whether a line was ended. -/
def takePlainGap (c : Cursor) : List Char × Bool × Cursor :=
  let (blanks, c) := c.span Token.isSpace
  if !isBreak c.peek then (blanks, false, c)
  else
    let (lineBreak, c) := c.takeBreak
    if c.atSeparator then ([], true, c)
    else match takePlainBreaks c.rest.length c with
      | (none, c) => ([], true, c)
      | (some breaks, c) => (folded lineBreak breaks, true, c)

/-- The runs of a plain scalar, and whether the place after it is at the start of a line. -/
def takePlainChars (flow : Bool) (indent : Int) : (fuel : Nat) → (gap : List Char) → (fresh : Bool) →
    Cursor → List Char × Bool × Cursor
  | 0, _, fresh, c => ([], fresh, c)
  | fuel + 1, gap, fresh, c =>
    let run := if c.peek = '#' then [] else plainRun flow c.rest
    if run.isEmpty then ([], fresh, c)
    else
      let (next, fresh, c) := takePlainGap (c.skip run.length)
      if next.isEmpty || c.peek == '#' || (!flow && decide ((c.column : Int) < indent + 1)) then
        (gap ++ run, fresh, c)
      else
        let (more, fresh, c) := takePlainChars flow indent fuel next fresh c
        (gap ++ run ++ more, fresh, c)

/-- A plain scalar, and whether a key may start after it. -/
def takePlain (flow : Bool) (indent : Int) (c : Cursor) : Token × Bool × Cursor :=
  let (cs, fresh, c) := takePlainChars flow indent (c.rest.length + 1) [] false c
  (.scalar (String.ofList cs) true, fresh, c)

end RestOperations.Yaml.Scalar
