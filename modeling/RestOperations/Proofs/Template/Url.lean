import RestOperations.Proofs.Operation.Required
import RestOperations.Proofs.Slot.Pieces
import RestOperations.Proofs.Template.Faults
import RestOperations.Proofs.Text.Percent

/-!
What a URL is made of. Its literal texts are as they are in the template, but for the slash before an
absent slot that is a whole segment; every other character of it comes from an argument, and is
escaped. So the characters that separate the parts of a URL are those of the template, whatever the
arguments are.
-/

namespace RestOperations.Template

open Text.Percent

/-! ### What the parts add to a URL -/

/-- The text ends with the slash before a whole segment, which is an absent slot: what comes after
it is the end, or text that ends the segment. -/
def DropsSlash [Json.Depth] (scope : Scope) (t : String) (after : List Part) : Prop :=
  t.toList.getLast? = some '/' ∧ ∃ s more, after = .slot s :: more ∧ scope.Lacks s ∧
    (more = [] ∨ ∃ u more' c cs, more = .text u :: more' ∧ u.toList = c :: cs ∧ c ∈ ['/', '?', '#'])

/-- What a part adds to the URL, with the parts that come after it. -/
inductive Adds [Json.Depth] (scope : Scope) (after : List Part) : Part → List Char → Prop
  | whole {t : String} : ¬ DropsSlash scope t after → Adds scope after (.text t) t.toList
  | trimmed {t : String} : DropsSlash scope t after → Adds scope after (.text t) t.toList.dropLast
  | absent {s : Slot} : scope.Lacks s → Adds scope after (.slot s) []
  | present {s : Slot} {v : Value} {t : String} :
      scope.lookup s = .ok v → v ≠ .null → v.inText = .ok t →
      Adds scope after (.slot s) (encodeChars t.toList)

/-- What the parts add to the URL, one after the other. -/
inductive Assembled [Json.Depth] (scope : Scope) : List Part → List (List Char) → Prop
  | nil : Assembled scope [] []
  | cons {p : Part} {after : List Part} {cs : List Char} {css : List (List Char)} :
      Adds scope after p cs → Assembled scope after css → Assembled scope (p :: after) (cs :: css)

/-- The separators that the literal texts have, without the slashes that go with absent segments. -/
inductive Separators [Json.Depth] (scope : Scope) : List Part → List Char → Prop
  | nil : Separators scope [] []
  | slot {s : Slot} {after : List Part} {seps : List Char} :
      Separators scope after seps → Separators scope (.slot s :: after) seps
  | whole {t : String} {after : List Part} {seps : List Char} :
      ¬ DropsSlash scope t after → Separators scope after seps →
      Separators scope (.text t :: after) (t.toList.filter isSeparator ++ seps)
  | trimmed {t : String} {after : List Part} {seps kept : List Char} :
      DropsSlash scope t after → t.toList.filter isSeparator = kept ++ ['/'] →
      Separators scope after seps → Separators scope (.text t :: after) (kept ++ seps)

section

variable {scope : Scope}

lemma Adds.escaped [Json.Depth] {s : Slot} {after : List Part} {cs : List Char}
    (h : Adds scope after (.slot s) cs) : Escaped cs := by
  cases h with
  | absent => exact .nil
  | present => exact escaped_encodeChars _

/-- What stands for a part in the URL is what the part adds. -/
lemma Assembled.exists_adds [Json.Depth] {parts : List Part} {css : List (List Char)} {p : Part}
    {cs : List Char}
    (h : Assembled scope parts css) (hmem : (p, cs) ∈ parts.zip css) :
    ∃ after, Adds scope after p cs := by
  induction h with
  | nil => cases hmem
  | cons hadds _ ih =>
    obtain heq | hmem := List.mem_cons.mp hmem
    · cases heq
      exact ⟨_, hadds⟩
    · exact ih hmem

lemma Assembled.escaped [Json.Depth] {parts : List Part} {css : List (List Char)} {s : Slot}
    {cs : List Char}
    (h : Assembled scope parts css) (hmem : (.slot s, cs) ∈ parts.zip css) : Escaped cs := by
  obtain ⟨_, hadds⟩ := h.exists_adds hmem
  exact hadds.escaped

lemma separators_of_assembled [Json.Depth] {parts : List Part} {css : List (List Char)}
    (h : Assembled scope parts css) : Separators scope parts (css.flatten.filter isSeparator) := by
  induction h with
  | nil => exact .nil
  | @cons p after cs css hadds _ ih =>
    rw [List.flatten_cons, List.filter_append]
    cases p with
    | slot s =>
      rw [hadds.escaped.filter_isSeparator, List.nil_append]
      exact .slot ih
    | text t =>
      cases hadds with
      | whole hkeeps => exact .whole hkeeps ih
      | trimmed hdrops =>
        refine .trimmed hdrops ?_ ih
        have hlast : t.toList.dropLast ++ ['/'] = t.toList :=
          List.dropLast_append_getLast? '/' hdrops.1
        rw [← hlast, List.filter_append, hlast]
        rfl

/-! ### The URL of a template -/

/-- No part is an empty text. -/
def NoneEmpty (parts : List Part) : Prop := ∀ t, .text t ∈ parts → t.toList ≠ []

lemma atSegmentEnd_iff {more : List Part} (h : NoneEmpty more) :
    atSegmentEnd more = true ↔ more = [] ∨
      ∃ u more' c cs, more = .text u :: more' ∧ u.toList = c :: cs ∧ c ∈ ['/', '?', '#'] := by
  cases more with
  | nil => simp [atSegmentEnd]
  | cons p more =>
    cases p with
    | slot s => simp [atSegmentEnd]
    | text u =>
      obtain ⟨c, cs, hu⟩ := List.exists_cons_of_ne_nil (h u (by simp))
      simp [atSegmentEnd, hu, endsSegment, or_assoc]

lemma dropsSlash_iff [Json.Depth] {t : String} {s : Slot} {more : List Part}
    (hmore : NoneEmpty more)
    (hs : scope.Lacks s) :
    DropsSlash scope t (.slot s :: more) ↔
      t.toList.getLast? = some '/' ∧ atSegmentEnd more = true := by
  rw [atSegmentEnd_iff hmore]
  refine and_congr_right fun _ => ⟨?_, fun h => ⟨s, more, rfl, hs, h⟩⟩
  rintro ⟨_, _, ⟨⟩, -, h⟩
  exact h

lemma lacks_of_isNull [Json.Depth] {s : Slot} {v : Value} (hv : scope.lookup s = .ok v)
    (hnull : v.isNull = true) : scope.Lacks s := by
  rw [Scope.Lacks, hv, Value.isNull_iff.mp hnull]

lemma not_lacks_of_not_isNull [Json.Depth] {s : Slot} {v : Value} (hv : scope.lookup s = .ok v)
    (hnull : v.isNull = false) : ¬ scope.Lacks s :=
  Scope.Provides.not_lacks ⟨v, hv, hnull⟩

/-- What a text before an absent slot adds. -/
lemma adds_before_absent [Json.Depth] {t : String} {s : Slot} {more : List Part}
    (hmore : NoneEmpty more)
    (hs : scope.Lacks s) :
    Adds scope (.slot s :: more) (.text t)
      (if atSegmentEnd more then withoutSlash t.toList else t.toList) := by
  have hdrops := dropsSlash_iff (t := t) hmore hs
  unfold withoutSlash
  split
  · next hend =>
    split
    · next hlast => exact .trimmed (hdrops.mpr ⟨hlast, hend⟩)
    · next hlast => exact .whole fun h => hlast (hdrops.mp h).1
  · next hend => exact .whole fun h => hend (hdrops.mp h).2

lemma adds_before_present [Json.Depth] {t : String} {s : Slot} {more : List Part}
    (hs : ¬ scope.Lacks s) :
    Adds scope (.slot s :: more) (.text t) t.toList := by
  refine .whole ?_
  rintro ⟨-, _, _, ⟨⟩, hlacks, -⟩
  exact hs hlacks

/-- What a slot adds. -/
lemma adds_slot [Json.Depth] {s : Slot} {after : List Part} {v : Value} {cs : List Char}
    (hv : scope.lookup s = .ok v) (hcs : (if v.isNull then .ok [] else escaped v) = .ok cs) :
    Adds scope after (.slot s) cs := by
  split at hcs
  · next hnull =>
    cases hcs
    exact .absent (lacks_of_isNull hv hnull)
  · next hnull =>
    obtain ⟨t, ht, rfl⟩ := map_eq_ok.mp hcs
    exact .present hv (fun h => hnull (Value.isNull_iff.mpr h)) (mapError_eq_ok.mp ht)

lemma assembled_urlOfParts [Json.Depth] {parts : List Part} {cs : List Char}
    (hparts : NoneEmpty parts)
    (h : urlOfParts scope.lookup parts = .ok cs) :
    ∃ css, Assembled scope parts css ∧ css.flatten = cs := by
  have hafter {p : Part} {after : List Part} (h : NoneEmpty (p :: after)) : NoneEmpty after :=
    fun t ht => h t (List.mem_cons_of_mem _ ht)
  fun_induction urlOfParts scope.lookup parts generalizing cs with
  | case1 =>
    cases h
    exact ⟨[], .nil, rfl⟩
  | case2 t s rest ih =>
    obtain ⟨v, hv, h⟩ := bind_eq_ok.mp h
    have hrest := hafter (hafter hparts)
    split at h
    · next hnull =>
      obtain ⟨more, hmore, ⟨⟩⟩ := bind_eq_ok.mp h
      obtain ⟨css, hcss, rfl⟩ := ih hrest hmore
      have hs := lacks_of_isNull hv hnull
      exact ⟨_ :: [] :: css, .cons (adds_before_absent hrest hs) (.cons (.absent hs) hcss), rfl⟩
    · next hnull =>
      obtain ⟨here, hhere, h⟩ := bind_eq_ok.mp h
      obtain ⟨more, hmore, ⟨⟩⟩ := bind_eq_ok.mp h
      obtain ⟨css, hcss, rfl⟩ := ih hrest hmore
      have hs := not_lacks_of_not_isNull hv (Bool.eq_false_iff.mpr hnull)
      refine ⟨t.toList :: here :: css, .cons (adds_before_present hs) (.cons (adds_slot hv ?_) hcss),
        by simp⟩
      rw [if_neg hnull, hhere]
  | case3 t rest hslot ih =>
    obtain ⟨more, hmore, ⟨⟩⟩ := bind_eq_ok.mp h
    obtain ⟨css, hcss, rfl⟩ := ih (hafter hparts) hmore
    refine ⟨t.toList :: css, .cons (.whole ?_) hcss, rfl⟩
    rintro ⟨-, s, more, rfl, -⟩
    exact hslot s more rfl
  | case4 s rest ih =>
    obtain ⟨v, hv, h⟩ := bind_eq_ok.mp h
    have hbind : ((if v.isNull then .ok [] else escaped v) >>= fun here =>
        urlOfParts scope.lookup rest >>= fun more => .ok (here ++ more)) = .ok cs := by
      rw [← h]
      dsimp only
      split <;> rfl
    obtain ⟨here, hhere, h⟩ := bind_eq_ok.mp hbind
    obtain ⟨more, hmore, ⟨⟩⟩ := bind_eq_ok.mp h
    obtain ⟨css, hcss, rfl⟩ := ih (hafter hparts) hmore
    exact ⟨here :: css, .cons (adds_slot hv hhere) hcss, rfl⟩

lemma noneEmpty_of_split {s : String} {d : Destination} {parts : List Part}
    (h : Part.split s d = .ok parts) : NoneEmpty parts := by
  obtain ⟨ps, hps⟩ := Piece.exists_splits s.toList
  rw [Piece.split_eq d hps, Piece.toParts_eq_ok] at h
  intro t ht
  obtain ⟨p, hp, hpart⟩ := forall₂_mem_right h ht
  cases hpart with
  | plain cs =>
    rw [String.toList_ofList]
    exact hps.nonempty cs hp

lemma compileUrl_parts {s : String} {t : Template} (hs : s.toList.head? ≠ some '$')
    (h : compileUrl s = .ok t) : ∃ parts, Part.split s .path = .ok parts ∧ t = .url parts := by
  unfold compileUrl at h
  split at h
  · next heq =>
    rw [heq] at hs
    exact absurd rfl hs
  · obtain ⟨parts, hparts, ⟨⟩⟩ := bind_eq_ok.mp h
    exact ⟨parts, mapError_eq_ok.mp hparts, rfl⟩

lemma compileUrl_of_parts {s : String} {parts : List Part} (hs : s.toList.head? ≠ some '$')
    (hparts : Part.split s .path = .ok parts) : compileUrl s = .ok (.url parts) := by
  unfold compileUrl
  split
  · next heq =>
    rw [heq] at hs
    exact absurd rfl hs
  · rw [partsOf, hparts]
    rfl

lemma evaluate_url_eq_ok [Json.Depth] {parts : List Part} {v : Value} :
    (url parts).evaluate scope = .ok v ↔
      ∃ cs, urlOfParts scope.lookup parts = .ok cs ∧ .str (String.ofList cs) = v := by
  rw [evaluate, fillWith, bind_eq_ok]
  simp only [Except.ok.injEq]

end

/-- **Arguments do not change the structure of a URL.** The URL is what its parts add to it, one after
the other: literal texts as they are, without the slash before an absent slot that is a whole
segment, and the escaped text of each slot that is there. So its separators are those of the literal
texts, but for these slashes. -/
theorem url_structure [Json.Depth] {s : String} {t : Template} {scope : Scope} {v : Value}
    (hs : s.toList.head? ≠ some '$') (ht : compileUrl s = .ok t) (hv : t.evaluate scope = .ok v) :
    ∃ parts css uri, Part.split s .path = .ok parts ∧ v = .str uri ∧
      Assembled scope parts css ∧ uri.toList = css.flatten ∧
      (∀ r cs, (.slot r, cs) ∈ parts.zip css → Escaped cs) ∧
      Separators scope parts (uri.toList.filter isSeparator) := by
  obtain ⟨parts, hparts, rfl⟩ := compileUrl_parts hs ht
  obtain ⟨cs, hcs, ⟨⟩⟩ := bind_eq_ok.mp hv
  obtain ⟨css, hcss, rfl⟩ := assembled_urlOfParts (noneEmpty_of_split hparts) hcs
  refine ⟨parts, css, String.ofList css.flatten, hparts, rfl, hcss, String.toList_ofList, ?_, ?_⟩
  · exact fun r cs hmem => hcss.escaped hmem
  · rw [String.toList_ofList]
    exact separators_of_assembled hcss

attribute [local instance] Json.Depth.thousand

/-- A URL with two segments that may be absent. -/
def sectionUrl : String := "/items/\x7b!id\x7d/\x7b!section\x7d?q=\x7bq\x7d"

/-- Neither of the segments is there, and the argument for the query has separators in it. -/
def sectionScope : Scope := ⟨[(.str "q", .str "a/b&c=1")], [], .null⟩

theorem section_url_structure :
    ∃ t, compileUrl sectionUrl = .ok t ∧
      t.evaluate sectionScope = .ok (.str "/items?q=a%2Fb%26c%3D1") ∧
      ∃ parts, Part.split sectionUrl .path = .ok parts ∧
        Separators sectionScope parts ['/', '?', '='] := by
  obtain ⟨t, ht, v, hv, htext⟩ : ∃ t, compileUrl sectionUrl = .ok t ∧
      ∃ v, t.evaluate sectionScope = .ok v ∧ v.text = "/items?q=a%2Fb%26c%3D1" := by
    decide +kernel
  obtain ⟨parts, css, uri, hparts, rfl, -, -, -, hseps⟩ := url_structure (by decide) ht hv
  obtain rfl : uri = "/items?q=a%2Fb%26c%3D1" := htext
  exact ⟨t, ht, hv, parts, hparts, hseps⟩

end RestOperations.Template
