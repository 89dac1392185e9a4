import RestOperations.Decimal.Numeral
import RestOperations.Text.Utf8
import RestOperations.Value.Display
import RestOperations.Value.Members

/-!
Checking values against the shape of a record. A check yields the value that is meant, with some
leniency about its form, or all issues that it finds, each with the path to where it is.
-/

namespace RestOperations

inductive IssueKind
  | missing
  | extraForbidden
  | invalidKey
  | stringType
  | stringUnicode
  | stringTooShort
  | dictType
  | listType
  | modelType
  | boolType
  | boolParsing
  | intType
  | intParsing
  | intParsingSize
  | intFromFloat
  | finiteNumber
deriving DecidableEq, Repr

def IssueKind.name : IssueKind → String
  | missing => "missing"
  | extraForbidden => "extra_forbidden"
  | invalidKey => "invalid_key"
  | stringType => "string_type"
  | stringUnicode => "string_unicode"
  | stringTooShort => "string_too_short"
  | dictType => "dict_type"
  | listType => "list_type"
  | modelType => "model_type"
  | boolType => "bool_type"
  | boolParsing => "bool_parsing"
  | intType => "int_type"
  | intParsing => "int_parsing"
  | intParsingSize => "int_parsing_size"
  | intFromFloat => "int_from_float"
  | finiteNumber => "finite_number"

structure Issue where
  path : List String
  kind : IssueKind
deriving DecidableEq, Repr

def Issue.within (i : Issue) (step : String) : Issue := { i with path := step :: i.path }

abbrev Checked (α : Type) := Except (List Issue) α

namespace Checked

def issue {α : Type} (kind : IssueKind) : Checked α := .error [⟨[], kind⟩]

def within {α : Type} (c : Checked α) (step : String) : Checked α :=
  c.mapError (·.map (·.within step))

/-- Both results, or the issues of both. -/
def both {α β : Type} : Checked α → Checked β → Checked (α × β)
  | .ok a, .ok b => .ok (a, b)
  | .ok _, .error e => .error e
  | .error e, .ok _ => .error e
  | .error e, .error e' => .error (e ++ e')

/-- All results, or the issues of all. -/
def all {α : Type} : List (Checked α) → Checked (List α)
  | [] => .ok []
  | c :: cs => (both c (all cs)).map fun (a, as) => a :: as

theorem both_ok_iff {α β : Type} {a : Checked α} {b : Checked β} {r : α × β} :
    both a b = .ok r ↔ a = .ok r.1 ∧ b = .ok r.2 := by
  obtain ⟨x, y⟩ := r
  cases a <;> cases b <;> simp [both]

end Checked

namespace Schema

/-- Octets may stand for the text that they encode. -/
def text : Value → Checked String
  | .str s => .ok s
  | .octets bs =>
    match Text.Utf8.decode bs with
    | .ok cs => .ok (String.ofList cs)
    | .error _ => .issue .stringUnicode
  | _ => .issue .stringType

def nonEmptyText (v : Value) : Checked String := do
  let s ← text v
  if s.isEmpty then .issue .stringTooShort else .ok s

def falseWords : List String := ["0", "f", "n", "no", "off", "false"]

def trueWords : List String := ["1", "t", "y", "on", "yes", "true"]

/-- Integers beyond this are not taken from a number with a fraction part. -/
def int64Bound : Int := 0x8000000000000000

def boolOfInt (n : Int) : Checked Bool :=
  if n = 0 then .ok false else if n = 1 then .ok true else .issue .boolParsing

def boolOfText (s : String) : Checked Bool :=
  let word := s.map Char.toLower
  if falseWords.contains word then .ok false
  else if trueWords.contains word then .ok true
  else .issue .boolParsing

/-- A truth value, zero or one, or one of the words for them. -/
def bool : Value → Checked Bool
  | .bool b => .ok b
  | .str s => boolOfText s
  | .octets bs =>
    match Text.Utf8.decode bs with
    | .ok cs => boolOfText (String.ofList cs)
    | .error _ => .issue .boolParsing
  | .int n =>
    if -int64Bound ≤ n ∧ n < int64Bound then boolOfInt n else .issue .boolType
  | .float x =>
    match Decimal.whole? x with
    | some n => if -int64Bound < n ∧ n < int64Bound then boolOfInt n else .issue .boolType
    | none => .issue .boolType
  | _ => .issue .boolType

/-- Decimal digits of ASCII with single underscores between them. -/
def asciiDigits? (cs : List Char) : Option (List Nat) :=
  match Decimal.digitRun false cs with
  | (ds, []) => if ds.isEmpty || cs.any (fun c => !(c.isDigit || c == '_')) then none else some ds
  | _ => none

/-- An integer in text: a sign, digits, and at most zeros after a point. -/
def intOfText (s : String) : Checked Int :=
  let (negative, cs) := Decimal.takeSign (Decimal.trimNumeral s.toList)
  let fraction := (cs.dropWhile (· != '.')).drop 1
  let digits := if fraction.all (· == '0') then cs.takeWhile (· != '.') else cs
  match asciiDigits? digits with
  | none => .issue .intParsing
  | some ds =>
    if Decimal.digitLimit < ds.length then .issue .intParsingSize
    else .ok (Decimal.signed negative (Decimal.ofDigits 10 ds))

def int : Value → Checked Int
  | .int n => .ok n
  | .bool b => .ok (if b then 1 else 0)
  | .float x =>
    if !Decimal.isFinite x then .issue .finiteNumber
    else
      match Decimal.whole? x with
      | none => .issue .intFromFloat
      | some n => if -int64Bound < n ∧ n < int64Bound then .ok n else .issue .intParsingSize
  | .str s => intOfText s
  | _ => .issue .intType

def nullable {α : Type} (check : Value → Checked α) : Value → Checked (Option α)
  | .null => .ok none
  | v => (check v).map some

/-- A key as a step of a path. -/
def keyStep : Value → String
  | .str s => s
  | .bool b => if b then "1" else "0"
  | k => k.shown

/-- Adds an entry. One of the same name keeps its place and gets the value. -/
def putEntry {α : Type} (es : List (String × α)) (e : String × α) : List (String × α) :=
  match es with
  | [] => [e]
  | (k, a) :: rest => if k == e.1 then (k, e.2) :: rest else (k, a) :: putEntry rest e

/-- A map from texts, with a check for its values. A text and the octets that encode it are keys of
one entry. -/
def texts {α : Type} (check : Value → Checked α) : Value → Checked (List (String × α))
  | .map ms =>
    (Checked.all (ms.map fun (k, v) =>
      .both (((text k).within "[key]").within (keyStep k)) ((check v).within (keyStep k)))).map
        fun es => es.foldl putEntry []
  | _ => .issue .dictType

def anyTexts : Value → Checked (List (String × Value)) := texts .ok

def items {α : Type} (check : Value → Checked α) (xs : List Value) : Checked (List α) :=
  .all (xs.zipIdx.map fun (x, i) => (check x).within (toString i))

def list {α : Type} (check : Value → Checked α) : Value → Checked (List α)
  | .list xs => items check xs
  | .tuple xs => items check xs
  | .set xs => items check xs
  | _ => .issue .listType

/-- The members of a record. -/
def record : Value → Checked (List (Value × Value))
  | .map ms => .ok ms
  | _ => .issue .modelType

/-- A member that has to be there. -/
def required {α : Type} (ms : List (Value × Value)) (name : String) (check : Value → Checked α) :
    Checked α :=
  match Value.get? ms (.str name) with
  | some v => (check v).within name
  | none => (Checked.issue .missing).within name

def optional {α : Type} (ms : List (Value × Value)) (name : String) (default : α)
    (check : Value → Checked α) : Checked α :=
  match Value.get? ms (.str name) with
  | some v => (check v).within name
  | none => .ok default

/-- No members but these. -/
def only (names : List String) (ms : List (Value × Value)) : Checked Unit :=
  (Checked.all (ms.map fun (k, _) =>
    match text k with
    | .ok s => if names.contains s then .ok () else (Checked.issue .extraForbidden).within s
    | .error _ => (Checked.issue .invalidKey).within (keyStep k))).map fun _ => ()

end Schema

end RestOperations
