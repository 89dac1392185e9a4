import RestOperations.Proofs.Slot.Conversion
import RestOperations.Proofs.Template.Faults

/-!
When a template can be evaluated without anything going wrong but faults of the call. The condition
goes through the template in the order in which it is evaluated: a slot must be served by the call,
and what stands within text must have a text of its own. What comes after a place where the
evaluation ends is not looked at.
-/

namespace RestOperations

namespace Scope

/-- The name of the slot can be read, and the slot copes with what the call has for it. -/
def Serves [Json.Depth] (scope : Scope) (s : Slot) : Prop :=
  s.Readable ∧ ∀ v, scope.given s = .ok v → s.Copes (if v.isNull then s.defaultValue else v)

lemma contained_given (scope : Scope) (s : Slot) : Contained (scope.given s) ↔ s.Readable := by
  rw [given, contained_map, s.contained_index]

theorem contained_lookup [Json.Depth] (scope : Scope) (s : Slot) :
    Contained (scope.lookup s) ↔ scope.Serves s := by
  rw [lookup, contained_bind, contained_given, Serves]
  refine and_congr_right fun _ => forall₂_congr fun v _ => ?_
  generalize (if v.isNull then s.defaultValue else v) = w
  rw [← s.contained_convert w]
  dsimp only
  split
  · next hw =>
    -- Null is no argument, and no conversion is at a loss with it.
    cases w <;> simp [Value.isNull] at hw
    rw [s.contained_convert]
    simp only [contained_ok, true_iff]
    intro c _
    cases c <;> trivial
  · rfl

end Scope

namespace Template

variable (scope : Scope)

/-- The slots of a text are served and have texts, up to one that is absent. -/
def TextServed [Json.Depth] : List Part → Prop
  | [] => True
  | .text _ :: rest => TextServed rest
  | .slot s :: rest => scope.Serves s ∧
      ∀ v, scope.lookup s = .ok v → v.isNull = false → v.fitsText = true ∧ TextServed rest

/-- The slots of a URL are served, and those that are not absent have texts. -/
def UrlServed [Json.Depth] : List Part → Prop
  | [] => True
  | .text _ :: rest => UrlServed rest
  | .slot s :: rest => scope.Serves s ∧
      ∀ v, scope.lookup s = .ok v → (v.isNull = false → v.fitsText = true) ∧ UrlServed rest

mutual

/-- The call serves the template, as far as it is evaluated. -/
def Served [Json.Depth] : Template → Prop
  | literal _ => True
  | slot s => scope.Serves s
  | text parts => TextServed scope parts
  | url parts => UrlServed scope parts
  | expression _ _ => True
  | mapping ms => MembersServed ms
  | sequence ts => ItemsServed ts

def MembersServed [Json.Depth] : List (Value × Template) → Prop
  | [] => True
  | (_, t) :: ms => Served t ∧ ∀ v, t.evaluate scope = .ok v → MembersServed ms

def ItemsServed [Json.Depth] : List Template → Prop
  | [] => True
  | t :: ts => Served t ∧ ∀ v, t.evaluate scope = .ok v → ItemsServed ts

end

/-- The entries of a query or of headers are served. -/
def EntriesServed [Json.Depth] : List (String × Template) → Prop
  | [] => True
  | (_, t) :: es => t.Served scope ∧ ∀ v, t.evaluate scope = .ok v → EntriesServed es

variable {scope}

/-! ### Text and URLs -/

lemma isBinding_notWritable (e : Json.WriteError) : (Fault.notWritable e).isBinding = false := by
  cases e <;> rfl

lemma isOk_written (v : Value) : (written v).isOk = v.fitsText := by
  rw [written, isOk_mapError, v.isOk_inText]

/-- Writing is contained only where it succeeds. -/
lemma contained_written (v : Value) : Contained (written v) ↔ (written v).isOk = true := by
  rw [written, contained_mapError isBinding_notWritable, isOk_mapError]

lemma isOk_escaped (v : Value) : (escaped v).isOk = v.fitsText := by
  rw [escaped, isOk_map, isOk_written]

lemma contained_escaped (v : Value) : Contained (escaped v) ↔ (escaped v).isOk = true := by
  rw [escaped, contained_map, contained_written, isOk_map]

lemma contained_textOfParts [Json.Depth] (parts : List Part) :
    Contained (textOfParts scope.lookup parts) ↔ TextServed scope parts := by
  induction parts with
  | nil => simp [textOfParts, TextServed]
  | cons p rest ih =>
    cases p with
    | text s => simp [textOfParts, TextServed, contained_bind, ih]
    | slot s =>
      rw [textOfParts, contained_bind, scope.contained_lookup, TextServed]
      refine and_congr_right fun _ => forall₂_congr fun v _ => ?_
      cases hv : v.isNull with
      | true => simp
      | false =>
        have hrest (here : String) := (contained_bind_ok (textOfParts scope.lookup rest)
          fun more => more.map (here ++ ·)).trans ih
        have hbind := contained_bind_of_isOk (contained_written v) hrest
        rw [isOk_written] at hbind
        simpa using hbind

lemma contained_urlOfParts [Json.Depth] (parts : List Part) :
    Contained (urlOfParts scope.lookup parts) ↔ UrlServed scope parts := by
  fun_induction urlOfParts scope.lookup parts with
  | case1 => simp [UrlServed]
  | case2 t s rest ih =>
    rw [contained_bind, scope.contained_lookup, UrlServed, UrlServed]
    refine and_congr_right fun _ => forall₂_congr fun v _ => ?_
    cases hv : v.isNull with
    | true => simp [contained_bind, ih]
    | false =>
      have hrest (here : List Char) := (contained_bind_ok (urlOfParts scope.lookup rest)
        fun more => t.toList ++ here ++ more).trans ih
      have hbind := contained_bind_of_isOk (contained_escaped v) hrest
      rw [isOk_escaped] at hbind
      simpa using hbind
  | case3 t rest h ih => simp [UrlServed, contained_bind, ih]
  | case4 s rest ih =>
    rw [contained_bind, scope.contained_lookup, UrlServed]
    refine and_congr_right fun _ => forall₂_congr fun v _ => ?_
    cases hv : v.isNull with
    | true => simp [contained_bind, ih]
    | false =>
      have hrest (here : List Char) := (contained_bind_ok (urlOfParts scope.lookup rest)
        fun more => here ++ more).trans ih
      have hbind := contained_bind_of_isOk (contained_escaped v) hrest
      rw [isOk_escaped] at hbind
      simpa using hbind

lemma contained_evaluateExpression (data : Value) (e : Query.Expr) (d : Destination) :
    Contained (evaluateExpression data e d) := by
  unfold evaluateExpression
  split
  · exact contained_ok _
  · exact (contained_error _).mpr rfl

/-! ### Templates -/

mutual

/-- Evaluation is contained exactly where the call serves the template. -/
theorem contained_evaluate [Json.Depth] : ∀ t, Contained (evaluate scope t) ↔ Served scope t
  | literal v => by simp [evaluate, fillWith, Served]
  | slot s => scope.contained_lookup s
  | text parts => by
    rw [evaluate, fillWith, contained_bind, contained_textOfParts, Served]
    simp
  | url parts => by
    rw [evaluate, fillWith, contained_bind, contained_urlOfParts, Served]
    simp
  | expression e d => by
    rw [evaluate, fillWith, Served, iff_true]
    exact contained_evaluateExpression _ e d
  | mapping ms => by
    rw [evaluate, fillWith, contained_bind, contained_fillMembers ms, Served]
    simp
  | sequence ts => by
    rw [evaluate, fillWith, contained_bind, contained_fillItems ts, Served]
    simp

theorem contained_fillMembers [Json.Depth] :
    ∀ ms, Contained (fillMembers scope.lookup scope.data ms) ↔ MembersServed scope ms
  | [] => by simp [fillMembers, MembersServed]
  | (k, t) :: ms => by
    have ht := contained_evaluate t
    rw [evaluate] at ht
    rw [fillMembers, contained_bind, ht, MembersServed]
    refine and_congr_right fun _ => forall₂_congr fun v _ => ?_
    rw [contained_bind, contained_fillMembers ms]
    simp

theorem contained_fillItems [Json.Depth] :
    ∀ ts, Contained (fillItems scope.lookup scope.data ts) ↔ ItemsServed scope ts
  | [] => by simp [fillItems, ItemsServed]
  | t :: ts => by
    have ht := contained_evaluate t
    rw [evaluate] at ht
    rw [fillItems, contained_bind, ht, ItemsServed]
    refine and_congr_right fun _ => forall₂_congr fun v _ => ?_
    rw [contained_bind, contained_fillItems ts]
    simp

end

lemma contained_evaluateEntries [Json.Depth] (es : List (String × Template)) :
    Contained (evaluateEntries scope es) ↔ EntriesServed scope es := by
  induction es with
  | nil => simp [evaluateEntries, EntriesServed]
  | cons e es ih =>
    rw [evaluateEntries, contained_bind, contained_evaluate, EntriesServed]
    refine and_congr_right fun _ => forall₂_congr fun v _ => ?_
    rw [contained_bind, ih]
    simp

end Template

end RestOperations
