import RestOperations.Operation.Call
import RestOperations.Proofs.Outcome

/-!
Entries, as of a query or of headers. Each of them is compiled, evaluated and written by itself, and
so are the parts of a list of them, wherever it is cut.
-/

namespace RestOperations

variable {scope : Scope}

namespace Template

lemma compileEntries_cons_eq (d : Destination) (e : String × Value) (es : List (String × Value)) :
    compileEntries d (e :: es) = ((compile d e.2).map fun t => [(e.1, t)]) >>= fun here =>
      (compileEntries d es).map (here ++ ·) := by
  rw [compileEntries]
  cases compile d e.2 <;> cases compileEntries d es <;> rfl

lemma compileEntries_append (d : Destination) (vs ws : List (String × Value)) :
    compileEntries d (vs ++ ws) = compileEntries d vs >>= fun ts =>
      (compileEntries d ws).map (ts ++ ·) :=
  append_of_cons (f := compileEntries d) rfl (compileEntries_cons_eq d) vs ws

lemma evaluateEntries_cons_eq [Json.Depth] (e : String × Template) (es : List (String × Template)) :
    evaluateEntries scope (e :: es) =
      ((e.2.evaluate scope).map fun v => if v.isNull then [] else [(e.1, v)]) >>= fun here =>
        (evaluateEntries scope es).map (here ++ ·) := by
  rw [evaluateEntries]
  cases e.2.evaluate scope with
  | error f => rfl
  | ok v => cases evaluateEntries scope es <;> cases hnull : v.isNull <;> simp [Except.map, hnull]

lemma evaluateEntries_append [Json.Depth] (es es' : List (String × Template)) :
    evaluateEntries scope (es ++ es') = evaluateEntries scope es >>= fun vs =>
      (evaluateEntries scope es').map (vs ++ ·) :=
  append_of_cons (f := evaluateEntries scope) rfl evaluateEntries_cons_eq es es'

lemma mem_compileEntries {d : Destination} {es : List (String × Value)}
    {ts : List (String × Template)} (h : compileEntries d es = .ok ts) {k : String} {v : Value}
    (he : (k, v) ∈ es) : ∃ t, compile d v = .ok t ∧ (k, t) ∈ ts := by
  induction es generalizing ts with
  | nil => cases he
  | cons e es ih =>
    obtain ⟨t, ht, h⟩ := bind_eq_ok.mp h
    obtain ⟨ts, hts, h⟩ := bind_eq_ok.mp h
    cases h
    obtain heq | he := List.mem_cons.mp he
    · subst heq
      exact ⟨t, ht, List.mem_cons_self⟩
    · obtain ⟨t', ht', hmem⟩ := ih hts he
      exact ⟨t', ht', List.mem_cons_of_mem _ hmem⟩

lemma mem_evaluateEntries [Json.Depth] {es : List (String × Template)} {vs : List (String × Value)}
    (h : evaluateEntries scope es = .ok vs) {k : String} {t : Template} (he : (k, t) ∈ es) :
    ∃ v, t.evaluate scope = .ok v ∧ (v ≠ .null → (k, v) ∈ vs) := by
  induction es generalizing vs with
  | nil => cases he
  | cons e es ih =>
    obtain ⟨v, hv, h⟩ := bind_eq_ok.mp h
    obtain ⟨vs, hvs, h⟩ := bind_eq_ok.mp h
    cases h
    obtain heq | he := List.mem_cons.mp he
    · subst heq
      refine ⟨v, hv, fun hne => ?_⟩
      rw [if_neg (mt Value.isNull_iff.mp hne)]
      exact List.mem_cons_self
    · obtain ⟨v', hv', hmem⟩ := ih hvs he
      refine ⟨v', hv', fun hne => ?_⟩
      split
      · exact hmem hne
      · exact List.mem_cons_of_mem _ (hmem hne)

end Template

namespace Operation

variable {es es' : List (String × Template)}

/-- A header that is no text is written as JSON. -/
lemma headerText_eq {v : Value} (h : ∀ s, v ≠ .str s) :
    headerText v = (Json.text v).mapError .notWritable := by
  cases v <;> first | rfl | exact absurd rfl (h _)

lemma headerTexts_append (vs ws : List (String × Value)) :
    headerTexts (vs ++ ws) = headerTexts vs >>= fun ts => (headerTexts ws).map (ts ++ ·) := by
  refine append_of_cons (f := headerTexts) (g := fun e => (headerText e.2).map fun s => [(e.1, s)])
    rfl (fun e es => ?_) vs ws
  rw [headerTexts]
  cases headerText e.2 <;> cases headerTexts es <;> rfl

lemma mem_headerTexts {vs : List (String × Value)} {texts : List (String × String)}
    (h : headerTexts vs = .ok texts) {k : String} {v : Value} (he : (k, v) ∈ vs) :
    ∃ s, headerText v = .ok s ∧ (k, s) ∈ texts := by
  induction vs generalizing texts with
  | nil => cases he
  | cons e vs ih =>
    obtain ⟨s, hs, h⟩ := bind_eq_ok.mp h
    obtain ⟨texts, htexts, h⟩ := bind_eq_ok.mp h
    cases h
    obtain heq | he := List.mem_cons.mp he
    · subst heq
      exact ⟨s, hs, List.mem_cons_self⟩
    · obtain ⟨s', hs', hmem⟩ := ih htexts he
      exact ⟨s', hs', List.mem_cons_of_mem _ hmem⟩

/-- The texts of entries of headers. -/
def textsOf [Json.Depth] (scope : Scope) (es : List (String × Template)) :
    Except Fault (List (String × String)) :=
  Template.evaluateEntries scope es >>= headerTexts

/-- Entries of headers have their texts, wherever the list of them is cut. -/
lemma textsOf_append_eq_ok [Json.Depth] {texts : List (String × String)} :
    textsOf scope (es ++ es') = .ok texts ↔
      ∃ front back, textsOf scope es = .ok front ∧ textsOf scope es' = .ok back ∧
        front ++ back = texts := by
  simp only [textsOf, Template.evaluateEntries_append, bind_eq_ok, map_eq_ok]
  constructor
  · rintro ⟨_, ⟨vs, hvs, ws, hws, rfl⟩, htexts⟩
    rw [headerTexts_append] at htexts
    obtain ⟨front, hfront, htexts⟩ := bind_eq_ok.mp htexts
    obtain ⟨back, hback, rfl⟩ := map_eq_ok.mp htexts
    exact ⟨front, back, ⟨vs, hvs, hfront⟩, ⟨ws, hws, hback⟩, rfl⟩
  · rintro ⟨front, back, ⟨vs, hvs, hfront⟩, ⟨ws, hws, hback⟩, rfl⟩
    refine ⟨vs ++ ws, ⟨vs, hvs, ws, hws, rfl⟩, ?_⟩
    rw [headerTexts_append, hfront, ok_bind, hback]
    rfl

end Operation

end RestOperations
