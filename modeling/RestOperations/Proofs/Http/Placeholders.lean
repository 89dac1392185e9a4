import RestOperations.Proofs.Operation.SlotTexts
import RestOperations.Proofs.Query.Members
import RestOperations.Proofs.Template.Places

/-!
Two ways to put an argument into a query: a lone slot with its name, and the expression that takes it.
Both hand the argument over, but an expression makes text of a truth value, wherever it stands. As the
value of a parameter a truth value becomes the same text anyway; within a map or a list it does not,
since JSON has truth values of its own.
-/

namespace RestOperations

namespace SlotSyntax

/-- The slot of a name, and nothing more. -/
def plain (x : String) : SlotSyntax := ⟨none, x.toList, none, none⟩

lemma plain_around (x : String) : (plain x).around "" "" = "\x7b" ++ x ++ "\x7d" := by
  apply String.toList_injective
  simp [around, plain, source, markSource, String.toList_append]

lemma wellFormed_plain {x : String} (hx : Query.IsIdentifier x) : (plain x).WellFormed := by
  obtain ⟨c, cs, hname, hc, -, hcs⟩ := hx.starts
  refine ⟨?_, ?_, by simp [plain], by simp [plain]⟩
  · simp [plain, hname]
  · intro d hd
    rw [plain, hname] at hd
    obtain rfl | hd := List.mem_cons.mp hd
    · simp [isNameChar, hc]
    · simp [isNameChar, hcs d hd]

lemma name_plain (x : String) (d : Destination) : ((plain x).slotIn d).name = x :=
  String.ofList_toList

end SlotSyntax

namespace Query.IsIdentifier

lemma not_numeric {x : String} (hx : IsIdentifier x) : Text.looksNumeric x = false := by
  obtain ⟨c, cs, hname, -, hdigit, -⟩ := hx.starts
  simp [Text.looksNumeric, hname, hdigit]

end Query.IsIdentifier

namespace Template

open SlotSyntax (plain)

variable {scope : Scope} {x : String} {u : Value}

/-- The template that is nothing but the slot of the name. -/
def placeholder (x : String) : Value := .str ("\x7b" ++ x ++ "\x7d")

/-- The template that is the expression for the argument of the name. -/
def argument (x : String) : Value := .str ("$arguments." ++ x)

lemma compile_placeholder (hx : Query.IsIdentifier x) (d : Destination) :
    compile d (placeholder x) = .ok (.slot ((plain x).slotIn d)) := by
  have hnothing : SlotSyntax.Surrounds "" "" := ⟨by simp, by simp, by simp⟩
  rw [placeholder, compile, ← SlotSyntax.plain_around, compileString_around hnothing,
    compileText_lone (SlotSyntax.wellFormed_plain hx) rfl]

/-- The slot comes to the argument as it is. -/
lemma evaluate_placeholder [Json.Depth] (hx : Query.IsIdentifier x) (d : Destination)
    (hu : Value.get? scope.arguments (.str x) = some u) (hnull : u ≠ .null) :
    (slot ((plain x).slotIn d)).evaluate scope = .ok u := by
  have hnumeric : Text.looksNumeric ((plain x).slotIn d).name = false := by
    rw [SlotSyntax.name_plain, hx.not_numeric]
  refine lookup_of_given rfl ?_ hnull
  rw [Scope.given, Operation.index_of_not_numeric hnumeric, SlotSyntax.name_plain, hu]
  rfl

lemma compile_argument (hx : Query.IsIdentifier x)
    (hread : (Query.parse ("arguments." ++ x)).isOk = true) (d : Destination) :
    compile d (argument x) = .ok (.expression (Query.memberPath x) d) := by
  have hfree : x ∉ Query.constants := fun hmem => by
    rw [Query.refused_of_constant hmem] at hread
    cases hread
  have hsource : ("$arguments." ++ x).toList = '$' :: ("arguments." ++ x).toList := by
    simp [String.toList_append]
  rw [argument, compile, compileString, hsource]
  change compileExpression (String.ofList ("arguments." ++ x).toList) d = _
  rw [String.ofList_toList, compileExpression, Query.parse_member (hx.isName hfree)]

/-- The expression comes to the argument, too, but makes text of a truth value. -/
lemma evaluate_argument [Json.Depth] (d : Destination) (hsimple : Query.isSimple u = true)
    (hu : Value.get? scope.arguments (.str x) = some u) :
    (expression (Query.memberPath x) d).evaluate scope = .ok (ofResult d u) := by
  rw [evaluate, fillWith, evaluateExpression, Query.evaluate_memberPath hsimple hu]

end Template

namespace Http

open Template (EntryPlace placeholder argument ofResult)

variable {scope : Scope} {e : EntryPlace} {u u' : Value} {s : String}

/-- The parameters that a query comes to in a call. -/
def parametersOf [Json.Depth] (scope : Scope) (query : List (String × Value)) :
    Except Fault (List (String × String)) :=
  Template.compileEntries .query query >>= Template.evaluateEntries scope >>= encodeQuery

/-! ### Places in the text of a parameter -/

/-- A place in the text of one of some parameters, with the other parameters. -/
structure ParameterPlace where
  before : List (String × String)
  key : String
  front : String
  back : String
  after : List (String × String)

/-- The parameters, if this is at the place. -/
def ParameterPlace.holding (p : ParameterPlace) (s : String) : List (String × String) :=
  p.before ++ (p.key, p.front ++ s ++ p.back) :: p.after

lemma encodeQuery_cons_eq (q : String × Value) (qs : List (String × Value)) :
    encodeQuery (q :: qs) =
      (if q.2.isNull then .ok []
        else (q.2.inText.mapError .notWritable).map fun s => [(q.1, s)]) >>= fun here =>
        (encodeQuery qs).map (here ++ ·) := by
  rw [encodeQuery]
  split
  · cases encodeQuery qs <;> rfl
  · cases q.2.inText <;> cases encodeQuery qs <;> rfl

/-- The place in the text of the parameters, for a place within a collection. -/
def encoded (e : EntryPlace) : Except Fault ParameterPlace := do
  let before ← encodeQuery e.before
  let sides ← (e.inner.written .spaced).mapError .notWritable
  let after ← encodeQuery e.after
  .ok ⟨before, e.key, String.ofList sides.1, String.ofList sides.2, after⟩

/-- Within a collection, what the place holds stands in the text as JSON. -/
lemma encodeQuery_inside (hin : e.inner ≠ .here) (hnull : u.isNull = false)
    (hs : Json.text u = .ok s) : encodeQuery (e.holding u) = (encoded e).map (·.holding s) := by
  have hentry : (if (e.inner.holding u).isNull then .ok []
      else ((e.inner.holding u).inText.mapError Fault.notWritable).map fun s => [(e.key, s)]) =
        ((e.inner.written .spaced).mapError .notWritable).map fun sides =>
          [(e.key, String.ofList sides.1 ++ s ++ String.ofList sides.2)] := by
    rw [if_neg (by simp [Value.Place.isNull_holding hnull]), Value.Place.inText_holding hin hs]
    cases e.inner.written .spaced <;> rfl
  rw [EntryPlace.holding, around_of_cons (f := encodeQuery) rfl encodeQuery_cons_eq hentry, encoded]
  cases encodeQuery e.before <;> cases e.inner.written .spaced <;> cases encodeQuery e.after <;> rfl

/-- As a parameter of its own, a value counts by its text only. -/
lemma encodeQuery_whole (hin : e.inner = .here) (hnull : u.isNull = u'.isNull)
    (htext : u.inText = u'.inText) : encodeQuery (e.holding u) = encodeQuery (e.holding u') := by
  simp only [EntryPlace.holding, hin, Value.Place.holding,
    append_of_cons (f := encodeQuery) rfl encodeQuery_cons_eq, encodeQuery_cons_eq, hnull, htext]

lemma parametersOf_holding [Json.Depth] {v : Value} {t : Template}
    (ht : Template.compile .query v = .ok t)
    (hu : t.evaluate scope = .ok u) (hnull : u.isNull = false) (e : EntryPlace) :
    parametersOf scope (e.holding v) =
      e.evaluated .query scope >>= fun e' => encodeQuery (e'.holding u) := by
  rw [parametersOf, EntryPlace.evaluate_holding ht hu hnull]
  cases e.evaluated .query scope <;> rfl

/-- A place that is a whole parameter stays one. -/
lemma parameters_whole [Json.Depth] (hin : e.inner = .here) (hnull : u.isNull = u'.isNull)
    (htext : u.inText = u'.inText) :
    (e.evaluated .query scope >>= fun e' => encodeQuery (e'.holding u)) =
      e.evaluated .query scope >>= fun e' => encodeQuery (e'.holding u') := by
  cases he : e.evaluated .query scope with
  | error f => rfl
  | ok e' => exact encodeQuery_whole ((EntryPlace.inner_eq_here he).mpr hin) hnull htext

lemma parameters_inside [Json.Depth] (hin : e.inner ≠ .here) (hnull : u.isNull = false)
    (hs : Json.text u = .ok s) :
    (e.evaluated .query scope >>= fun e' => encodeQuery (e'.holding u)) =
      (e.evaluated .query scope >>= encoded).map (·.holding s) := by
  cases he : e.evaluated .query scope with
  | error f => rfl
  | ok e' => exact encodeQuery_inside (mt (EntryPlace.inner_eq_here he).mp hin) hnull hs

/-! ### The two ways -/

lemma isNull_of_isSimple (h : Query.isSimple u = true) : u.isNull = false := by
  cases u with
  | null => cases h
  | _ => rfl

lemma isNull_ofResult (u : Value) : (ofResult .query u).isNull = u.isNull := by
  cases u <;> rfl

/-- What becomes of a truth value has the text of it. -/
lemma inText_ofResult (u : Value) : (ofResult .query u).inText = u.inText := by
  cases u with
  | bool b => cases b <;> rfl
  | _ => rfl

lemma ofResult_of_ne_bool (h : ∀ b, u ≠ .bool b) : ofResult .query u = u := by
  cases u with
  | bool b => exact absurd rfl (h b)
  | _ => rfl

/-- A truth value as JSON and in a query. -/
def wordOf (b : Bool) : String := if b then "true" else "false"

lemma text_bool (b : Bool) : Json.text (.bool b) = .ok (wordOf b) := by
  cases b <;> rfl

lemma text_wordOf (b : Bool) : Json.text (.str (wordOf b)) = .ok ("\"" ++ wordOf b ++ "\"") := by
  cases b <;> rfl

/-- **The expression for an argument does what the slot does.** The parameters are the same, or there
are none for the same reason. Only for a truth value within a map or a list, they are the same but for
the text of this value, which the expression has in quotes. The expression is one unless the name is a
constant of the language. -/
theorem parametersOf_argument [Json.Depth] {x : String} (hx : Query.IsIdentifier x)
    (hread : (Query.parse ("arguments." ++ x)).isOk = true) (hsimple : Query.isSimple u = true)
    (hu : Value.get? scope.arguments (.str x) = some u) (e : EntryPlace) :
    ((∀ b, u = .bool b → e.inner = .here) →
      parametersOf scope (e.holding (argument x)) = parametersOf scope (e.holding (placeholder x))) ∧
    (∀ b, u = .bool b → e.inner ≠ .here → ∃ r : Except Fault ParameterPlace,
      parametersOf scope (e.holding (placeholder x)) = r.map (·.holding (wordOf b)) ∧
      parametersOf scope (e.holding (argument x)) = r.map (·.holding ("\"" ++ wordOf b ++ "\""))) := by
  have hnull := isNull_of_isSimple hsimple
  have hslot : parametersOf scope (e.holding (placeholder x)) =
      e.evaluated .query scope >>= fun e' => encodeQuery (e'.holding u) :=
    parametersOf_holding (Template.compile_placeholder hx .query)
      (Template.evaluate_placeholder hx .query hu (by rintro rfl; cases hnull)) hnull e
  have hexpression : parametersOf scope (e.holding (argument x)) =
      e.evaluated .query scope >>= fun e' => encodeQuery (e'.holding (ofResult .query u)) :=
    parametersOf_holding (Template.compile_argument hx hread .query)
      (Template.evaluate_argument .query hsimple hu) ((isNull_ofResult u).trans hnull) e
  rw [hslot, hexpression]
  constructor
  · intro hwhole
    by_cases hbool : ∃ b, u = .bool b
    · obtain ⟨b, hb⟩ := hbool
      exact parameters_whole (hwhole b hb) (isNull_ofResult u) (inText_ofResult u)
    · rw [ofResult_of_ne_bool fun b hb => hbool ⟨b, hb⟩]
  · rintro b rfl hinside
    exact ⟨e.evaluated .query scope >>= encoded, parameters_inside hinside rfl (text_bool b),
      parameters_inside hinside rfl (text_wordOf b)⟩

attribute [local instance] Json.Depth.thousand

/-- A tag within a list of a map, which has a member that is absent. -/
def tagPlace : EntryPlace where
  before := [("all", placeholder "all")]
  key := "filter"
  inner := .member [] (.str "tags") (.item [.str "new"] .here []) [(.str "note", placeholder "note")]
  after := []

/-- A truth value within a map. -/
def allPlace : EntryPlace where
  before := []
  key := "filter"
  inner := .member [] (.str "all") .here []
  after := [("tag", placeholder "tag")]

def searchScope : Scope := ⟨[(.str "tag", .str "a\"b"), (.str "all", .bool true)], [], .null⟩

lemma isIdentifier_tag : Query.IsIdentifier "tag" :=
  ⟨'t', "ag".toList, by decide, by decide, by decide, List.all_eq_true.mp (by decide)⟩

lemma isIdentifier_all : Query.IsIdentifier "all" :=
  ⟨'a', "ll".toList, by decide, by decide, by decide, List.all_eq_true.mp (by decide)⟩

theorem search_parameters :
    parametersOf searchScope (tagPlace.holding (argument "tag")) =
      .ok [("all", "true"), ("filter", "\x7b\"tags\": [\"new\", \"a\\\"b\"]\x7d")] ∧
    ∃ r : Except Fault ParameterPlace,
      parametersOf searchScope (allPlace.holding (placeholder "all")) = r.map (·.holding "true") ∧
      parametersOf searchScope (allPlace.holding (argument "all")) =
        r.map (·.holding ("\"" ++ "true" ++ "\"")) := by
  have htag : Value.get? searchScope.arguments (.str "tag") = some (.str "a\"b") := rfl
  have hall : Value.get? searchScope.arguments (.str "all") = some (.bool true) := rfl
  have hsame := (parametersOf_argument isIdentifier_tag (by decide +kernel) rfl htag tagPlace).1
    (fun b hb => by cases hb)
  obtain ⟨params, hparams, heq⟩ :
      ∃ params, parametersOf searchScope (tagPlace.holding (placeholder "tag")) = .ok params ∧
        params = [("all", "true"),
          ("filter", "\x7b\"tags\": [\"new\", \"a\\\"b\"]\x7d")] := by
    decide +kernel
  have hinside : allPlace.inner ≠ .here := by simp [allPlace]
  exact ⟨by rw [hsame, hparams, heq],
    (parametersOf_argument isIdentifier_all (by decide +kernel) rfl hall allPlace).2 true rfl hinside⟩

/-- Within a map, a truth value is sent as one by the slot, and as text by the expression. -/
theorem nested_flag_differs :
    ¬ ∀ (scope : Scope) (x : String) (u : Value) (e : EntryPlace), Query.IsIdentifier x →
      (Query.parse ("arguments." ++ x)).isOk = true → Query.isSimple u = true →
        Value.get? scope.arguments (.str x) = some u →
          parametersOf scope (e.holding (argument x)) =
            parametersOf scope (e.holding (placeholder x)) := by
  intro h
  have hsame := h searchScope "all" (.bool true) allPlace isIdentifier_all (by decide +kernel) rfl rfl
  obtain ⟨params, hparams, hne⟩ :
      ∃ params, parametersOf searchScope (allPlace.holding (argument "all")) = .ok params ∧
        params = [("filter", "\x7b\"all\": \"true\"\x7d"), ("tag", "a\"b")] := by
    decide +kernel
  obtain ⟨params', hparams', hne'⟩ :
      ∃ params, parametersOf searchScope (allPlace.holding (placeholder "all")) = .ok params ∧
        params = [("filter", "\x7b\"all\": true\x7d"), ("tag", "a\"b")] := by
    decide +kernel
  rw [hparams, hparams', hne, hne'] at hsame
  exact absurd hsame (by simp)

end Http

end RestOperations
