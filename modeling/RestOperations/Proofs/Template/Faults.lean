import RestOperations.Proofs.Outcome
import RestOperations.Template

/-!
What can go wrong while a template is evaluated: in filling a slot, in writing a value as text, or
in an expression. Evaluation never complains that an argument is missing; what is missing is absent.
-/

namespace RestOperations

/-- Faults of making a request from what a call provides. -/
inductive Fault.OfEvaluation : Fault → Prop
  | cannotConvert (s : Slot) (cause : ConvertError) : OfEvaluation (.cannotConvert s cause)
  | badNumber (cause : ConvertError) : OfEvaluation (.badNumber cause)
  | expressionFailed (d : Destination) (cause : Query.Failure) :
      OfEvaluation (.expressionFailed d cause)
  | notWritable (cause : Json.WriteError) : OfEvaluation (.notWritable cause)
  | invalidUrl (operation : String) (v : Value) : OfEvaluation (.invalidUrl operation v)

namespace Scope

lemma faultsIn_lookup [Json.Depth] (scope : Scope) (s : Slot) :
    FaultsIn Fault.OfEvaluation (scope.lookup s) := by
  have hgiven : FaultsIn Fault.OfEvaluation (scope.given s) :=
    (faultsIn_map _ _).mpr (faultsIn_mapError (fun _ => .badNumber _) _)
  refine hgiven.bind fun v => ?_
  generalize (if v.isNull then s.defaultValue else v) = w
  dsimp only
  split
  · exact faultsIn_ok _
  · rw [Slot.convert]
    split
    · exact faultsIn_ok _
    · exact faultsIn_mapError (fun _ => .cannotConvert _ _) _

end Scope

namespace Template

lemma faultsIn_written (v : Value) : FaultsIn Fault.OfEvaluation (written v) :=
  faultsIn_mapError (fun _ => .notWritable _) _

lemma faultsIn_escaped (v : Value) : FaultsIn Fault.OfEvaluation (escaped v) :=
  (faultsIn_map _ _).mpr (faultsIn_written v)

variable (scope : Scope)

lemma faultsIn_textOfParts [Json.Depth] (parts : List Part) :
    FaultsIn Fault.OfEvaluation (textOfParts scope.lookup parts) := by
  induction parts with
  | nil => exact faultsIn_ok _
  | cons p rest ih =>
    cases p with
    | text s => exact ih.bind fun _ => faultsIn_ok _
    | slot s =>
      refine (scope.faultsIn_lookup s).bind fun v => ?_
      split
      · exact faultsIn_ok _
      · exact (faultsIn_written v).bind fun _ => ih.bind fun _ => faultsIn_ok _

lemma faultsIn_urlOfParts [Json.Depth] (parts : List Part) :
    FaultsIn Fault.OfEvaluation (urlOfParts scope.lookup parts) := by
  fun_induction urlOfParts scope.lookup parts with
  | case1 => exact faultsIn_ok _
  | case2 t s rest ih =>
    refine (scope.faultsIn_lookup s).bind fun v => ?_
    split
    · exact ih.bind fun _ => faultsIn_ok _
    · exact (faultsIn_escaped v).bind fun _ => ih.bind fun _ => faultsIn_ok _
  | case3 t rest _ ih => exact ih.bind fun _ => faultsIn_ok _
  | case4 s rest ih =>
    refine (scope.faultsIn_lookup s).bind fun v => ?_
    split
    · exact ih.bind fun _ => faultsIn_ok _
    · exact (faultsIn_escaped v).bind fun _ => ih.bind fun _ => faultsIn_ok _

lemma faultsIn_evaluateExpression (data : Value) (e : Query.Expr) (d : Destination) :
    FaultsIn Fault.OfEvaluation (evaluateExpression data e d) := by
  unfold evaluateExpression
  split
  · exact faultsIn_ok _
  · exact (faultsIn_error _).mpr (.expressionFailed _ _)

mutual

theorem faultsIn_evaluate [Json.Depth] : ∀ t, FaultsIn Fault.OfEvaluation (evaluate scope t)
  | literal v => faultsIn_ok v
  | slot s => scope.faultsIn_lookup s
  | text parts => (faultsIn_textOfParts scope parts).bind fun _ => faultsIn_ok _
  | url parts => (faultsIn_urlOfParts scope parts).bind fun _ => faultsIn_ok _
  | expression e d => faultsIn_evaluateExpression scope.data e d
  | mapping ms => (faultsIn_fillMembers ms).bind fun _ => faultsIn_ok _
  | sequence ts => (faultsIn_fillItems ts).bind fun _ => faultsIn_ok _

theorem faultsIn_fillMembers [Json.Depth] :
    ∀ ms, FaultsIn Fault.OfEvaluation (fillMembers scope.lookup scope.data ms)
  | [] => faultsIn_ok _
  | (_, t) :: ms =>
    (faultsIn_evaluate t).bind fun _ => (faultsIn_fillMembers ms).bind fun _ => faultsIn_ok _

theorem faultsIn_fillItems [Json.Depth] :
    ∀ ts, FaultsIn Fault.OfEvaluation (fillItems scope.lookup scope.data ts)
  | [] => faultsIn_ok _
  | t :: ts =>
    (faultsIn_evaluate t).bind fun _ => (faultsIn_fillItems ts).bind fun _ => faultsIn_ok _

end

lemma faultsIn_evaluateEntries [Json.Depth] (es : List (String × Template)) :
    FaultsIn Fault.OfEvaluation (evaluateEntries scope es) := by
  induction es with
  | nil => exact faultsIn_ok _
  | cons e es ih => exact (faultsIn_evaluate scope e.2).bind fun _ => ih.bind fun _ => faultsIn_ok _

end Template

end RestOperations
