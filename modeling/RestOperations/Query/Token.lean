import RestOperations.Decimal.Numeral
import RestOperations.Query.Failure
import RestOperations.Text.Hex

/-!
Expressions as tokens. Blanks and comments stand between tokens and are passed over.

A name runs to the next blank or operator character; a dollar sign in front makes it a variable, and
a few names are operators or constants.
-/

namespace RestOperations.Query

inductive Token
  | name (s : String)
  | var (s : String)
  | string (s : String)
  | integer (n : Int)
  | real (x : Float)
  | constant (b : Option Bool)
  | operator (s : String)
  | finish

namespace Token

/-- Operators and how tightly they bind on their left. -/
def operators : List (String × Nat) :=
  [(".", 75), ("[", 80), ("]", 0), ("\x7b", 70), ("\x7d", 0), ("(", 80), (")", 0), (",", 0),
    ("@", 80), ("#", 80), (";", 80), (":", 80), ("?", 20), ("+", 50), ("-", 50), ("*", 60),
    ("/", 60), ("%", 60), ("|", 20), ("=", 40), ("<", 40), (">", 40), ("^", 40), ("**", 60),
    ("..", 20), (":=", 10), ("!=", 40), ("<=", 40), (">=", 40), ("~>", 40), ("and", 30),
    ("or", 25), ("in", 40), ("&", 50), ("!", 0), ("~", 0)]

def isOperatorChar (c : Char) : Bool := operators.any (·.1 == String.singleton c)

def doubleOperators : List (Char × Char) :=
  [('.', '.'), (':', '='), ('!', '='), ('>', '='), ('<', '='), ('*', '*'), ('~', '>')]

def isSpace (c : Char) : Bool := c == ' ' || c == '\t' || c == '\n' || c == '\r' || c == '\x0b'

def fail {α : Type} (code : String) : Except Failure α := .error (.coded code)

/-- The characters after a comment, of which the opening is passed already. -/
def afterComment : List Char → Except Failure (List Char)
  | '*' :: '/' :: rest => .ok rest
  | _ :: rest => afterComment rest
  | [] => fail "S0106"

def skipSpace : (fuel : Nat) → List Char → Except Failure (List Char)
  | 0, cs => .ok cs
  | fuel + 1, cs =>
    match cs.dropWhile isSpace with
    | '/' :: '*' :: rest => do skipSpace fuel (← afterComment rest)
    | rest => .ok rest

def escaped? (c : Char) : Option Char :=
  match c with
  | '"' => some '"'
  | '\\' => some '\\'
  | '/' => some '/'
  | 'b' => some '\x08'
  | 'f' => some '\x0c'
  | 'n' => some '\n'
  | 'r' => some '\r'
  | 't' => some '\t'
  | _ => none

/-- A code point of four digits; half of a pair is no character. -/
def charOfUnit (n : Nat) : Char := if 0xD800 ≤ n ∧ n < 0xE000 then '\uFFFD' else Char.ofNat n

/-- The text up to the closing quote. -/
def stringRest (quote : Char) : List Char → Except Failure (List Char × List Char)
  | [] => fail "S0101"
  | ['\\'] => fail "S0101"
  | '\\' :: 'u' :: a :: b :: c :: d :: rest =>
    match Text.readHex? [a, b, c, d] with
    | some n => do
      let (cs, rest) ← stringRest quote rest
      .ok (charOfUnit n :: cs, rest)
    | none => fail "S0104"
  | '\\' :: 'u' :: _ => fail "S0104"
  | '\\' :: c :: rest =>
    match escaped? c with
    | some c => do
      let (cs, rest) ← stringRest quote rest
      .ok (c :: cs, rest)
    | none => fail "S0103"
  | c :: rest =>
    if c = quote then .ok ([], rest)
    else do
      let (cs, rest) ← stringRest quote rest
      .ok (c :: cs, rest)

def takeDigits (cs : List Char) : List Nat × List Char :=
  ((cs.takeWhile Char.isDigit).map (·.toNat - 48), cs.dropWhile Char.isDigit)

def takeFraction (cs : List Char) : List Nat × List Char :=
  match cs with
  | '.' :: rest => if (takeDigits rest).1.isEmpty then ([], cs) else takeDigits rest
  | _ => ([], cs)

def takeExponent (cs : List Char) : Int × List Char :=
  match cs with
  | c :: rest =>
    if c = 'e' ∨ c = 'E' then
      let (negative, rest) := Decimal.takeSign rest
      let (ds, rest) := takeDigits rest
      if ds.isEmpty then (0, cs) else (Decimal.signed negative (Decimal.ofDigits 10 ds), rest)
    else (0, cs)
  | [] => (0, cs)

/-- A number literal, rounded to a float; one that is whole counts as an integer. -/
def number (cs : List Char) : Except Failure (Token × List Char) :=
  let (whole, rest) := match cs with
    | '0' :: rest => ([0], rest)
    | _ => takeDigits cs
  let (fraction, rest) := takeFraction rest
  let (e, rest) := takeExponent rest
  let x := Decimal.floatOfDecimal false (Decimal.ofDigits 10 (whole ++ fraction))
    (e - fraction.length)
  match Decimal.whole? x with
  | some n => .ok (integer n, rest)
  | none => if Decimal.isFinite x then .ok (real x, rest) else fail "S0102"

def ofWord (s : String) : Token :=
  if s = "and" ∨ s = "or" ∨ s = "in" then operator s
  else if s = "true" then constant (some true)
  else if s = "false" then constant (some false)
  else if s = "null" then constant none
  else name s

def isNameChar (c : Char) : Bool := !isSpace c && !isOperatorChar c

/-- A slash where an operand is expected opens a pattern. Patterns are left out, so it is refused, as
the language refuses one that is empty or has no end. -/
def patternError : List Char → Failure
  | '/' :: _ => .coded "S0301"
  | _ => .coded "S0302"

/-- The next token and the rest; `operand` says that an operand is expected here. -/
def next (operand : Bool) (cs : List Char) : Except Failure (Token × List Char) := do
  match ← skipSpace (cs.length + 1) cs with
  | [] => return (finish, [])
  | c :: rest =>
    if operand && c == '/' then throw (patternError rest)
    match rest with
    | d :: more =>
      if doubleOperators.contains (c, d) then return (operator (String.ofList [c, d]), more)
    | [] => pure ()
    if isOperatorChar c then return (operator (String.singleton c), rest)
    if c = '"' ∨ c = '\'' then
      let (s, rest) ← stringRest c rest
      return (string (String.ofList s), rest)
    if c.isDigit then return ← number (c :: rest)
    if c = '\x60' then
      match rest.dropWhile (· != '\x60') with
      | _ :: more => return (name (String.ofList (rest.takeWhile (· != '\x60'))), more)
      | [] => throw (.coded "S0105")
    if c = '$' then
      return (var (String.ofList (rest.takeWhile isNameChar)), rest.dropWhile isNameChar)
    return (ofWord (String.ofList (c :: rest.takeWhile isNameChar)), rest.dropWhile isNameChar)

/-- How tightly the token binds on its left; none if it cannot stand in an expression. -/
def binding? : Token → Option Nat
  | operator s =>
    -- Separators end an expression, whatever the table says of them.
    if s = ";" ∨ s = ":" ∨ s = ".." ∨ s = "|" ∨ s = "**" then some 0
    else if s = "!" ∨ s = "~" then none
    else (operators.find? (·.1 == s)).map (·.2)
  | _ => some 0

end Token

end RestOperations.Query
