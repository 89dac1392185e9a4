import RestOperations.Fault

/-!
What a call provides: arguments by name, arguments by position, and the options of the caller. A slot
takes the argument of its name, or the one at its position if the name is a number. Null is the lack
of an argument, and lets the default of the slot step in.
-/

namespace RestOperations

structure Scope where
  arguments : List (Value × Value)
  positional : List Value
  options : Value

namespace Slot

def defaultValue (s : Slot) : Value :=
  match s.default with
  | some t => .str t
  | none => .null

def convert [Json.Depth] (s : Slot) (v : Value) : Except Fault Value :=
  match s.conversion with
  | none => .ok v
  | some c => (c.apply v).mapError (.cannotConvert s)

/-- The position that the name stands for, if any. -/
def index (s : Slot) : Except Fault (Option Nat) :=
  s.position.mapError fun e => .badNumber (.ofNumeral s.name e)

end Slot

namespace Scope

/-- The argument for a slot as it was given. -/
def given (scope : Scope) (s : Slot) : Except Fault Value :=
  s.index.map fun i? =>
    match i? with
    | some i => (scope.positional[i]?).getD .null
    | none => (Value.get? scope.arguments (.str s.name)).getD .null

/-- The value that fills a slot, null if there is none. -/
def lookup [Json.Depth] (scope : Scope) (s : Slot) : Except Fault Value := do
  let v ← scope.given s
  let v := if v.isNull then s.defaultValue else v
  if v.isNull then .ok .null else s.convert v

/-- The data that expressions see. -/
def data (scope : Scope) : Value :=
  .map [(.str "arguments", .map scope.arguments), (.str "parameters", .map scope.arguments),
    (.str "options", scope.options)]

end Scope

end RestOperations
