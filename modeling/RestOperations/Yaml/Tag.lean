import RestOperations.Yaml.Cursor

/-!
Tags say what a node is. A plain scalar without one gets it from its form: truth values, numbers,
dates, null, and the marks that merge maps and that stand for their value; all else is text.
-/

namespace RestOperations.Yaml

inductive Tag
  | null
  | bool
  | int
  | float
  | timestamp
  | binary
  | text
  | sequence
  | mapping
  | orderedMap
  | pairs
  | set
  | merge
  | value
  /-- A tag that stands for nothing known. -/
  | other
deriving DecidableEq, Repr

namespace Tag

def commonPrefix : String := "tag:yaml.org,2002:"

def common : List (String × Tag) := [
  ("null", null), ("bool", bool), ("int", int), ("float", float), ("timestamp", timestamp),
  ("binary", binary), ("str", text), ("seq", sequence), ("map", mapping), ("omap", orderedMap),
  ("pairs", pairs), ("set", set), ("merge", merge), ("value", value)]

def ofUri (uri : String) : Tag :=
  ((common.find? fun (name, _) => commonPrefix ++ name == uri).map (·.2)).getD other

/-! ### Forms of plain scalars -/

/-- A line break may end a form, but it is none by itself. -/
def withoutBreak (cs : List Char) : List Char :=
  if cs.getLast? = some '\n' ∧ cs.length ≠ 1 then cs.dropLast else cs

def boolWords : List (String × Bool) := [
  ("yes", true), ("no", false), ("true", true), ("false", false), ("on", true), ("off", false)]

/-- A word in lower case, in upper case, or with a capital. -/
def isSpelling (cs : List Char) (word : String) : Bool :=
  let w := word.toList
  let capital := (w.take 1).map Char.toUpper ++ w.drop 1
  cs == w || cs == w.map Char.toUpper || cs == capital

def isBool (cs : List Char) : Bool := boolWords.any fun (w, _) => isSpelling cs w

def isNull (cs : List Char) : Bool := cs.isEmpty || cs == ['~'] || isSpelling cs "null"

def isSign (c : Char) : Bool := c == '+' || c == '-'

def dropSign : List Char → List Char
  | c :: cs => if isSign c then cs else c :: cs
  | [] => []

def isDigitOrLow (c : Char) : Bool := c.isDigit || c == '_'

/-- Digits and low lines, of which the first is a digit. -/
def startsDigits (cs : List Char) : Bool := (cs.head?.any Char.isDigit)

def isOctalOrLow (c : Char) : Bool := (decide ('0' ≤ c) && decide (c ≤ '7')) || c == '_'

def isHexOrLow (c : Char) : Bool :=
  c.isDigit || (decide ('a' ≤ c) && decide (c ≤ 'f')) || (decide ('A' ≤ c) && decide (c ≤ 'F')) ||
    c == '_'

def isBinaryOrLow (c : Char) : Bool := c == '0' || c == '1' || c == '_'

/-- One digit, or two of which the first is at most five. -/
def takeSixtieth? : List Char → Option (List Char)
  | ':' :: a :: b :: cs =>
    if a.isDigit && b.isDigit then if a ≤ '5' then some cs else none
    else if a.isDigit then some (b :: cs)
    else none
  | [':', a] => if a.isDigit then some [] else none
  | _ => none

/-- Sixtieths after their colons, as many as there are, and what follows them. -/
def dropSixtieths : (fuel : Nat) → List Char → List Char
  | 0, cs => cs
  | fuel + 1, cs =>
    match takeSixtieth? cs with
    | some rest => dropSixtieths fuel rest
    | none => cs

def isNonZeroDigit (c : Char) : Bool := c.isDigit && c != '0'

def isInt (cs : List Char) : Bool :=
  match dropSign cs with
  | ['0'] => true
  | '0' :: 'b' :: d :: ds => (d :: ds).all isBinaryOrLow
  | '0' :: 'x' :: d :: ds => (d :: ds).all isHexOrLow
  | '0' :: d :: ds => (d :: ds).all isOctalOrLow
  | d :: ds =>
    isNonZeroDigit d &&
      (dropSixtieths ds.length (ds.dropWhile isDigitOrLow)).isEmpty
  | [] => false

/-- An exponent with its sign, or nothing. -/
def isExponentEnd : List Char → Bool
  | [] => true
  | e :: s :: d :: ds => (e == 'e' || e == 'E') && isSign s && (d :: ds).all Char.isDigit
  | _ => false

def isInfinity (cs : List Char) : Bool :=
  match dropSign cs with
  | '.' :: w => isSpelling w "inf"
  | _ => false

def isNan (cs : List Char) : Bool := [".nan", ".NaN", ".NAN"].any fun w => w.toList == cs

/-- Digits, a point, digits, and an exponent. -/
def isDecimal (cs : List Char) : Bool :=
  startsDigits cs &&
    match cs.dropWhile isDigitOrLow with
    | '.' :: rest => isExponentEnd (rest.dropWhile isDigitOrLow)
    | _ => false

def isFraction (cs : List Char) : Bool :=
  match cs with
  | '.' :: rest => startsDigits rest && isExponentEnd (rest.dropWhile isDigitOrLow)
  | _ => false

/-- Digits, sixtieths, a point and digits. -/
def isSexagesimal (cs : List Char) : Bool :=
  startsDigits cs &&
    let rest := cs.dropWhile isDigitOrLow
    let more := dropSixtieths rest.length rest
    decide (more.length < rest.length) &&
      match more with
      | '.' :: ds => ds.all isDigitOrLow
      | _ => false

def isFloat (cs : List Char) : Bool :=
  isDecimal (dropSign cs) || isFraction cs || isSexagesimal (dropSign cs) || isInfinity cs || isNan cs

/-! ### Dates and moments -/

def natOf (cs : List Char) : Nat := cs.foldl (fun n c => n * 10 + (c.toNat - 48)) 0

/-- Digits, at least `least` and at most `most` of them. -/
def takeDigits? (least most : Nat) (cs : List Char) : Option (List Char × List Char) :=
  let ds := (cs.take most).takeWhile Char.isDigit
  if ds.length < least then none else some (ds, cs.drop ds.length)

def takeChar? (c : Char) : List Char → Option (List Char)
  | x :: cs => if x = c then some cs else none
  | [] => none

structure Clock where
  hour : Nat
  minute : Nat
  second : Nat
  fraction : List Char
  /-- The distance from universal time in minutes, with whether it is to the west. -/
  offset : Option (Bool × Nat)

structure Stamp where
  year : Nat
  month : List Char
  day : List Char
  clock : Option Clock

/-- The zone at the end: the letter for universal time, or hours and minutes with a sign. -/
def readZone? (cs : List Char) : Option (Option (Bool × Nat)) :=
  if cs.isEmpty then some none
  else match cs.dropWhile isTab with
    | ['Z'] => some (some (false, 0))
    | s :: rest => do
      if !isSign s then none
      let (hours, rest) ← takeDigits? 1 2 rest
      match rest with
      | [] => some (some (s == '-', natOf hours * 60))
      | ':' :: rest =>
        let (minutes, rest) ← takeDigits? 2 2 rest
        if rest.isEmpty then some (some (s == '-', natOf hours * 60 + natOf minutes)) else none
      | _ => none
    | [] => none

def readClock? (cs : List Char) : Option Clock := do
  let (hour, cs) ← takeDigits? 1 2 cs
  let (minute, cs) ← takeDigits? 2 2 (← takeChar? ':' cs)
  let (second, cs) ← takeDigits? 2 2 (← takeChar? ':' cs)
  let (fraction, cs) := match cs with
    | '.' :: cs => (cs.takeWhile Char.isDigit, cs.dropWhile Char.isDigit)
    | cs => ([], cs)
  let offset ← readZone? cs
  some { hour := natOf hour, minute := natOf minute, second := natOf second, fraction, offset }

/-- What separates the date from the time: a letter, or white space. -/
def dropSeparator? : List Char → Option (List Char)
  | c :: cs =>
    if c = 'T' ∨ c = 't' then some cs else if isTab c then some (cs.dropWhile isTab) else none
  | [] => none

def readStamp? (cs : List Char) : Option Stamp := do
  let (year, cs) ← takeDigits? 4 4 cs
  let (month, cs) ← takeDigits? 1 2 (← takeChar? '-' cs)
  let (day, cs) ← takeDigits? 1 2 (← takeChar? '-' cs)
  let stamp (clock : Option Clock) : Stamp := ⟨natOf year, month, day, clock⟩
  if cs.isEmpty then some (stamp none)
  else
    let clock ← readClock? (← dropSeparator? cs)
    some (stamp (some clock))

/-- A lone date has two digits for its month and for its day. -/
def isTimestamp (cs : List Char) : Bool :=
  match readStamp? cs with
  | some s => s.clock.isSome || (s.month.length == 2 && s.day.length == 2)
  | none => false

/-- The tag that the form of a plain scalar stands for. -/
def ofPlain (s : String) : Tag :=
  let cs := withoutBreak s.toList
  if isBool cs then bool
  else if isFloat cs then float
  else if isInt cs then int
  else if cs = ['<', '<'] then merge
  else if isNull cs then null
  else if isTimestamp cs then timestamp
  else if cs = ['='] then value
  else if cs = ['!'] ∨ cs = ['&'] ∨ cs = ['*'] then other
  else text

end Tag

end RestOperations.Yaml
