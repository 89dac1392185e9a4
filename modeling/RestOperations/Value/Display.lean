import RestOperations.Decimal.Numeral
import RestOperations.Decimal.Shortest
import RestOperations.Text.Quoted
import RestOperations.Value

/-!
A value as a person reads it. A text stands for itself; within a collection, and where a message
shows a value, texts are quoted.
-/

namespace RestOperations

/-- The fewest digits that read back, positional from `0.0001` to below `10 ^ 16`; a whole number
keeps a zero after the point. -/
def floatText (x : Float) : String :=
  match Decimal.classify x with
  | .nan => "nan"
  | .infinite negative => if negative then "-inf" else "inf"
  | .finite negative b =>
    let d := Decimal.shortest b
    let text :=
      if -4 ≤ d.leading ∧ d.leading < 16 then
        d.positional ++ (if 0 ≤ d.exponent then ".0" else "")
      else d.exponential 2
    if negative then "-" ++ text else text

def padded (width n : Nat) : String :=
  let ds := Nat.toDigits 10 n
  String.ofList (List.replicate (width - ds.length) '0' ++ ds)

def Date.text (d : Date) : String :=
  padded 4 d.year ++ "-" ++ padded 2 d.month ++ "-" ++ padded 2 d.day

def Date.fields (d : Date) : List String := [toString d.year, toString d.month, toString d.day]

/-- Hours and minutes from universal time, with a sign. -/
def offsetText (minutes : Int) : String :=
  (if minutes < 0 then "-" else "+") ++ padded 2 (minutes.natAbs / 60) ++ ":" ++
    padded 2 (minutes.natAbs % 60)

/-- The date and the time of day with `separator` between them. -/
def Moment.text (separator : String) (m : Moment) : String :=
  m.date.text ++ separator ++ padded 2 m.hour ++ ":" ++ padded 2 m.minute ++ ":" ++
    padded 2 m.second ++
    (if m.microsecond = 0 then "" else "." ++ padded 6 m.microsecond) ++
    (match m.offset with | some o => offsetText o | none => "")

/-- A distance in time, by its days and seconds. -/
def spanText (minutes : Int) : String :=
  let days := minutes.fdiv 1440
  let seconds := minutes.fmod 1440 * 60
  let parts := (if days = 0 then [] else ["days=" ++ toString days]) ++
    (if seconds = 0 then [] else ["seconds=" ++ toString seconds])
  "datetime.timedelta(" ++ (if parts.isEmpty then "0" else ", ".intercalate parts) ++ ")"

/-- The fields of a moment; seconds and smaller parts only as far as they are not zero. -/
def Moment.fields (m : Moment) : List String :=
  m.date.fields ++ [toString m.hour, toString m.minute] ++
    (if m.microsecond ≠ 0 then [toString m.second, toString m.microsecond]
      else if m.second ≠ 0 then [toString m.second] else []) ++
    (match m.offset with
      | some 0 => ["tzinfo=datetime.timezone.utc"]
      | some o => ["tzinfo=datetime.timezone(" ++ spanText o ++ ")"]
      | none => [])

namespace Value

def boolText (b : Bool) : String := if b then "True" else "False"

mutual

/-- The value as a message shows it. -/
def shown : Value → String
  | null => "None"
  | bool b => boolText b
  | int n => toString n
  | float x => floatText x
  | str s => Text.quote s
  | list xs => "[" ++ ", ".intercalate (shownItems xs) ++ "]"
  | tuple [x] => "(" ++ shown x ++ ",)"
  | tuple xs => "(" ++ ", ".intercalate (shownItems xs) ++ ")"
  | set [] => "set()"
  | set xs => "\x7b" ++ ", ".intercalate (shownItems xs) ++ "\x7d"
  | map ms => "\x7b" ++ ", ".intercalate (shownMembers ms) ++ "\x7d"
  | octets bs => Text.quoteOctets bs
  | date d => "datetime.date(" ++ ", ".intercalate d.fields ++ ")"
  | moment m => "datetime.datetime(" ++ ", ".intercalate m.fields ++ ")"
  | function kind => "<" ++ kind ++ " object>"

def shownItems : List Value → List String
  | [] => []
  | x :: xs => shown x :: shownItems xs

def shownMembers : List (Value × Value) → List String
  | [] => []
  | (k, v) :: ms => (shown k ++ ": " ++ shown v) :: shownMembers ms

end

/-- The value as plain text. -/
def text : Value → String
  | str s => s
  | date d => d.text
  | moment m => m.text " "
  | v => v.shown

@[simp] theorem text_str (s : String) : (str s).text = s := rfl

mutual

/-- No integer within the value has too many digits to be written. -/
def isWritable : Value → Bool
  | int n => Decimal.isWritable n
  | list xs => allWritable xs
  | tuple xs => allWritable xs
  | set xs => allWritable xs
  | map ms => membersWritable ms
  | _ => true

def allWritable : List Value → Bool
  | [] => true
  | x :: xs => isWritable x && allWritable xs

def membersWritable : List (Value × Value) → Bool
  | [] => true
  | (k, v) :: ms => isWritable k && isWritable v && membersWritable ms

end

end Value

end RestOperations
