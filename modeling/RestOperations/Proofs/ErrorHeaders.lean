import Mathlib.Data.List.Basic
import Mathlib.Tactic.Lemma
import RestOperations.Envelope
import RestOperations.Value.Members

/-!
The headers of an error report. A response may have a name in several fields and in several
spellings. Its report has no header that the response does not have, and of each name one only: the
first field, as it is spelled there.
-/

namespace RestOperations

namespace Text

lemma sameLetters_iff {a b : String} : sameLetters a b = true ↔ lower a = lower b := by
  rw [sameLetters, beq_iff_eq]

lemma sameLetters_comm (a b : String) : sameLetters a b = sameLetters b a := by
  rw [Bool.eq_iff_iff, sameLetters_iff, sameLetters_iff, eq_comm]

end Text

namespace Headers

/-- The fields stand for all of the headers: they are some of them in their order, no two have one
name, and of each name the first field is there. -/
structure Condenses (h : Headers) (fs : List (String × Value)) : Prop where
  occurring : fs.Sublist h.fields
  apart : fs.Pairwise fun f g => Text.sameLetters f.1 g.1 = false
  first : ∀ f ∈ h.fields, ∃ g ∈ fs, (h.named f.1).head? = some g

variable {fs : List (String × Value)} {f g : String × Value}

/-- Two spellings of a name name the same fields. -/
lemma named_congr (h : Headers) {a b : String} (hab : Text.sameLetters a b = true) :
    h.named a = h.named b := by
  rw [named, named]
  congr 1
  funext f
  rw [Bool.eq_iff_iff, Text.sameLetters_iff, Text.sameLetters_iff, Text.sameLetters_iff.mp hab]

lemma firsts_sublist (fs : List (String × Value)) : (firsts fs).Sublist fs := by
  induction fs with
  | nil => exact .slnil
  | cons f fs ih => exact (List.filter_sublist.trans ih).cons_cons f

lemma firsts_apart (fs : List (String × Value)) :
    (firsts fs).Pairwise fun f g => Text.sameLetters f.1 g.1 = false := by
  induction fs with
  | nil => exact .nil
  | cons f fs ih =>
    refine .cons (fun g hg => ?_) (ih.filter _)
    have hne := (List.mem_filter.mp hg).2
    rwa [Bool.not_eq_true', Text.sameLetters_comm] at hne

/-- A field is among the first ones if it is what comes first under its name. -/
lemma mem_firsts_iff : g ∈ firsts fs ↔ (named ⟨fs⟩ g.1).head? = some g := by
  induction fs with
  | nil => simp [firsts, named]
  | cons f fs ih =>
    rw [named] at ih ⊢
    rw [firsts, List.mem_cons, List.mem_filter, ih, List.filter_cons, Text.sameLetters_comm g.1]
    cases hsame : Text.sameLetters f.1 g.1 with
    | true => simp [eq_comm]
    | false =>
      -- A field of another name neither is the one that is looked for nor comes before it.
      have hne : g ≠ f := by
        rintro rfl
        rw [Text.sameLetters_self] at hsame
        cases hsame
      simp [hne]

/-- The first fields of all names stand for the headers. -/
theorem condenses_firsts (h : Headers) : h.Condenses (firsts h.fields) where
  occurring := firsts_sublist h.fields
  apart := firsts_apart h.fields
  first f hf := by
    have hmem : f ∈ h.named f.1 := List.mem_filter.mpr ⟨hf, Text.sameLetters_self _⟩
    obtain ⟨g, hg⟩ := Option.isSome_iff_exists.mp (List.isSome_head?.mpr (List.ne_nil_of_mem hmem))
    have hsame : Text.sameLetters g.1 f.1 = true :=
      (List.mem_filter.mp (List.mem_of_mem_head? hg)).2
    exact ⟨g, mem_firsts_iff.mpr (by rwa [named_congr h hsame]), hg⟩

end Headers

namespace StatusError

/-- What the record of an error has under headers. -/
lemma get?_headers {e : StatusError} {ms : List (Value × Value)} (h : e.toMap = .map ms) :
    Value.get? ms (.str "headers") = e.headers.map headerMap := by
  cases h
  cases e.headers <;> by_cases hbody : e.body.isNull = true <;> simp [Value.get?, hbody]

end StatusError

namespace Response

/-- An error status makes an envelope with the error of the response. -/
lemma of_isError {r : Response} (h : 400 ≤ r.status) (body : Value) :
    Envelope.of none (some r) body = .failure (.status (r.error body)) (some r) := by
  have herror : r.isError = true := decide_eq_true h
  rw [Envelope.of, if_pos herror]

/-- **An error report has no header but those of the response.** A response with an error status is
reported with a record of its headers, each of them a field of the response, and one for each name:
the field of this name that comes first. -/
theorem headers_reported {status : Int} (hstatus : 400 ≤ status) (h : Headers) (body : Value) :
    ∃ e ms fs, Envelope.of none (some ⟨status, some h⟩) body =
        .failure (.status e) (some ⟨status, some h⟩) ∧
      e.toMap = .map ms ∧
      Value.get? ms (.str "headers") = some (.map (fs.map fun f => (.str f.1, f.2))) ∧
      h.Condenses fs := by
  refine ⟨_, _, _, of_isError hstatus body, rfl, ?_, h.condenses_firsts⟩
  rw [StatusError.get?_headers rfl]
  rfl

/-- A name in two spellings, and another one. -/
def respelled : Headers := ⟨[("X-Id", .str "1"), ("x-id", .str "2"), ("Age", .str "3")]⟩

theorem respelled_reported :
    (400 : Int) ≤ 404 ∧ ∃ e ms fs, Envelope.of none (some ⟨404, some respelled⟩) .null =
        .failure (.status e) (some ⟨404, some respelled⟩) ∧
      e.toMap = .map ms ∧
      Value.get? ms (.str "headers") = some (.map (fs.map fun f => (.str f.1, f.2))) ∧
      respelled.Condenses fs :=
  ⟨by decide, headers_reported (by decide) respelled .null⟩

/-- Of two spellings of a name, a report has one only. -/
theorem spelling_not_reported :
    ¬ ∀ (status : Int) (h : Headers) (body : Value), 400 ≤ status →
      ∃ e ms hs, Envelope.of none (some ⟨status, some h⟩) body =
          .failure (.status e) (some ⟨status, some h⟩) ∧
        e.toMap = .map ms ∧ Value.get? ms (.str "headers") = some (.map hs) ∧
        (∀ m ∈ hs, ∃ f ∈ h.fields, m = (.str f.1, f.2)) ∧
        ∀ f ∈ h.fields, ∃ v, (.str f.1, v) ∈ hs := by
  intro hall
  obtain ⟨e, ms, hs, he, hms, hheaders, -, hspelled⟩ := hall 404 respelled .null (by decide)
  rw [of_isError (by decide)] at he
  cases he
  rw [StatusError.get?_headers hms] at hheaders
  cases hheaders
  obtain ⟨v, hv⟩ := hspelled ("x-id", .str "2") (by simp [respelled])
  obtain ⟨⟨name, w⟩, hmem, heq⟩ := List.mem_map.mp hv
  cases heq
  -- What is reported under a name comes first among its fields, and that is another spelling.
  have hfirst : (respelled.named "x-id").head? = some ("X-Id", .str "1") := rfl
  rw [Headers.mem_firsts_iff.mp hmem] at hfirst
  simp at hfirst

end Response

end RestOperations
