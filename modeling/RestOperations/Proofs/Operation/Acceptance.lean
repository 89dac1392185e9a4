import RestOperations.Document
import RestOperations.Proofs.Operation.Slots
import RestOperations.Proofs.Template.Acceptance

/-!
Which templates of operations can be compiled: exactly the well-formed ones. All texts of the URL, of
the query, of the headers and of the body are well written, and the result is taken by an expression,
if it is not the body as a whole. Whatever else a template has wrong is found when it is validated.
-/

namespace RestOperations

namespace OperationTemplate

open Template

/-- Every text that slots are looked for in, or that is an expression: the URL, and those within the
query, the headers and the body. -/
def texts (t : OperationTemplate) : List String :=
  t.url :: (t.query.flatMap (·.2.texts) ++ (t.headers.flatMap (·.2.texts) ++ t.body.texts))

/-- What a template needs to be compiled. -/
@[mk_iff]
structure WellFormed (t : OperationTemplate) : Prop where
  texts : ∀ s ∈ t.texts, WellWritten s
  response : ∀ s, t.response = some s → IsExpression s

/-- A template says at least where the request goes. -/
lemma not_ofValue_null (t : OperationTemplate) : ofValue .null ≠ .ok t := nofun

end OperationTemplate

namespace Operation

open Template

lemma accepts_compileBody (v : Value) :
    Accepts (∀ s ∈ v.texts, WellWritten s) (compileBody v) := by
  unfold compileBody
  split
  · next hv =>
    obtain rfl := Value.isNull_iff.mp hv
    exact .ok _ (List.forall_mem_nil _)
  · exact (accepts_compile .body v).map _

lemma accepts_compileResponse (t : OperationTemplate) (name : Option String) :
    Accepts (∀ s, t.response = some s → IsExpression s) (compileResponse t name) := by
  unfold compileResponse
  cases t.response with
  | none => exact .ok _ nofun
  | some s =>
    have hresponse : (∀ r, some s = some r → IsExpression r) ↔ IsExpression s := by simp
    refine Accepts.congr ?_ hresponse.symm
    dsimp only
    split
    · next source hs =>
      split
      · next e he =>
        exact .ok _ ((isExpression_iff hs).mpr ⟨e, he⟩)
      · next cause he =>
        refine .error rfl fun h => ?_
        obtain ⟨e, he'⟩ := (isExpression_iff hs).mp h
        rw [he] at he'
        cases he'
    · next hs =>
      exact .error rfl fun ⟨source, _, h, _⟩ => hs source h

/-- A template is compiled if and only if it is well-formed. -/
lemma accepts_ofTemplate (t : OperationTemplate) (functions : List (String × List Value))
    (name : Option String) : Accepts t.WellFormed (ofTemplate t functions name) := by
  have hparts := (accepts_compileUrl t.url).bind fun url =>
    (accepts_compileEntries .query t.query).bind fun query =>
      (accepts_compileEntries .header t.headers).bind fun headers =>
        (accepts_compileBody t.body).bind fun body =>
          (accepts_compileResponse t name).bind_ok fun response =>
            (⟨t, name, Text.upper t.method, url, query, headers, body, response, functions, false⟩ :
              Operation)
  refine hparts.congr ?_
  rw [OperationTemplate.wellFormed_iff, OperationTemplate.texts]
  simp only [List.forall_mem_cons, List.forall_mem_append, and_assoc]

/-- Lists of texts are fine as the parameters of functions. -/
lemma functionsOf_functionsValue (functions : List (String × List String)) :
    ∃ table, functionsOf (Document.Entry.functionsValue functions) = .ok table := by
  have hmembers : ∃ table, functionsOfMembers
      (functions.map fun f => (.str f.1, .ofTexts f.2)) = .ok table := by
    induction functions with
    | nil => exact ⟨[], rfl⟩
    | cons f functions ih =>
      obtain ⟨table, htable⟩ := ih
      exact ⟨(f.1, f.2.map .str) :: table, by rw [List.map_cons, functionsOfMembers, htable]; rfl⟩
  unfold functionsOf
  split
  · exact ⟨[], rfl⟩
  · exact hmembers

/-- **Exactly the well-formed templates are compiled.** A template that is valid as such is compiled,
with whatever functions and under whatever name, if and only if the slots of all its texts, at any
depth, have known conversions or none, its expressions are expressions, and so is what takes the
result. If it is not, the configuration is at fault, and nothing else goes wrong. -/
theorem compiled_iff_wellFormed {template : Value} {t : OperationTemplate}
    (ht : OperationTemplate.ofValue template = .ok t) (functions : List (String × List String))
    (name : Option String) :
    Accepts t.WellFormed (compile template (Document.Entry.functionsValue functions) name) ∧
      ∀ table, Accepts t.WellFormed (ofTemplate t table name) := by
  refine ⟨?_, fun table => accepts_ofTemplate t table name⟩
  have hnull : template.isNull = false := by
    rw [Bool.eq_false_iff, ne_eq, Value.isNull_iff]
    rintro rfl
    exact t.not_ofValue_null ht
  obtain ⟨table, htable⟩ := functionsOf_functionsValue functions
  rw [compile_eq, hnull, ht, htable]
  exact (accepts_ofTemplate t [] name).bind_ok _

/-- A template with slots and expressions at several depths. -/
def listingTemplate : Value :=
  .map [(.str "method", .str "POST"), (.str "url", .str "/items/\x7bid:integer\x7d"),
    (.str "query", .map [(.str "\x7bkey:no\x7d", .str "\x7b!tag\x7d, \x7b!other:string=x\x7d")]),
    (.str "body", .list [.null, .list [.str "$options", .str "\x7b:no\x7d"]]),
    (.str "response", .str "$items")]

theorem listing_compiled :
    ∃ t, OperationTemplate.ofValue listingTemplate = .ok t ∧ t.WellFormed ∧
      Accepts t.WellFormed
        (compile listingTemplate (Document.Entry.functionsValue [("list", ["id"])]) none) := by
  obtain ⟨t, ht, hok⟩ : ∃ t, OperationTemplate.ofValue listingTemplate = .ok t ∧
      (ofTemplate t [] none).isOk = true := by
    decide +kernel
  obtain ⟨hcompile, htemplate⟩ := compiled_iff_wellFormed ht [("list", ["id"])] none
  exact ⟨t, ht, (htemplate []).isOk_iff.mp hok, hcompile⟩

end Operation

end RestOperations
