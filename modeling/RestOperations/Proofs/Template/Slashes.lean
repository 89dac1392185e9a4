import RestOperations.Proofs.Slot.Splitting
import RestOperations.Proofs.Template.Url

/-!
Slashes that go with an absent slot. A slot counts as a whole segment by the characters around it,
wherever in the URL it stands. So it is not only from the path that slashes go: an absent host takes
one of those before it along, and in the query and in the fragment they go as they do in the path.
Everywhere else a URL is its scheme and what the rest is on its own.
-/

namespace RestOperations

/-! ### Text before other text -/

namespace Part

/-- Text before a text with slots becomes one with the text that it starts with, or else a part of
its own. -/
inductive Prepends (before : String) : List Part → List Part → Prop
  | joined (t : String) (more : List Part) :
      t ≠ "" → Prepends before (.text t :: more) (.text (before ++ t) :: more)
  | apart {parts : List Part} :
      (∀ t more, parts ≠ .text t :: more) → Prepends before parts (.text before :: parts)

lemma split_append {before s : String} {d : Destination} {parts : List Part} (hne : before ≠ "")
    (hbrace : '{' ∉ before.toList) (h : split (before ++ s) d = .ok parts) :
    ∃ parts', split s d = .ok parts' ∧ Prepends before parts' parts := by
  obtain ⟨ps, hps⟩ := Piece.exists_splits s.toList
  have hlength : (before ++ s).length = before.toList.length + s.length := by
    rw [String.length_append, String.length_toList]
  have hpieces : Piece.toParts d (Piece.addPlain before.toList ps) = .ok parts := by
    rw [split, hlength, String.toList_append, splitFrom_plain hbrace, List.append_nil,
      Piece.splitFrom_eq (le_of_eq s.length_toList) hps, List.reverse_reverse] at h
    exact h
  rw [Piece.split_eq d hps]
  cases ps with
  | nil =>
    have hparts : [text before] = parts := by
      simpa [Piece.addPlain, hne, Piece.toParts, Piece.toPart, pure, Except.pure] using hpieces
    exact ⟨[], rfl, hparts ▸ .apart (by simp)⟩
  | cons p ps =>
    cases p with
    | plain cs =>
      rw [Piece.addPlain, Piece.toParts_cons] at hpieces
      obtain ⟨part, hpart, hpieces⟩ := bind_eq_ok.mp hpieces
      obtain ⟨more, hmore, rfl⟩ := map_eq_ok.mp hpieces
      obtain rfl := Except.ok.inj hpart
      have hcs : String.ofList cs ≠ "" := by
        simpa using hps.nonempty cs List.mem_cons_self
      refine ⟨.text (String.ofList cs) :: more, by rw [Piece.toParts_cons, hmore]; rfl, ?_⟩
      rw [String.ofList_append, String.ofList_toList]
      exact .joined _ more hcs
    | slot r =>
      have hbefore : before.toList.reverse.reverse = before.toList := List.reverse_reverse _
      have hfirst : ∀ p ∈ (Piece.slot r :: ps).head?, p.isPlain = false := by
        intro p hp
        rw [← Option.some.inj hp]
        rfl
      rw [← hbefore, Piece.toParts_addPlain _ hfirst] at hpieces
      obtain ⟨parts', hparts', rfl⟩ := map_eq_ok.mp hpieces
      refine ⟨parts', hparts', ?_⟩
      rw [flush_reverse (by simpa using hne), String.ofList_toList]
      refine .apart fun t more heq => ?_
      rw [Piece.toParts_cons, heq] at hparts'
      obtain ⟨part, hpart, hmore⟩ := bind_eq_ok.mp hparts'
      obtain ⟨more, -, heq⟩ := map_eq_ok.mp hmore
      obtain ⟨slot, -, rfl⟩ := map_eq_ok.mp hpart
      simp at heq

end Part

namespace Template

open Text.Percent

/-! ### Beyond the path -/

/-- The literal text of the parts. -/
def literalText (parts : List Part) : List Char :=
  parts.flatMap fun p => match p with | .text t => t.toList | .slot _ => []

@[simp] lemma literalText_nil : literalText [] = [] := rfl

@[simp] lemma literalText_text (t : String) (parts : List Part) :
    literalText (.text t :: parts) = t.toList ++ literalText parts := rfl

@[simp] lemma literalText_slot (s : Slot) (parts : List Part) :
    literalText (.slot s :: parts) = literalText parts := rfl

/-- With this character the path of a URL is over. -/
def endsPath (c : Char) : Bool := c == '?' || c == '#'

/-- What comes after the path, from the first character on that ends it. -/
def afterPath (cs : List Char) : List Char := cs.dropWhile fun c => !endsPath c

/-- A slash goes that stands after the path. `seen` is the literal text before the parts. -/
def TrimsBeyondPath [Json.Depth] (scope : Scope) (seen : List Char) (parts : List Part) : Prop :=
  ∃ before t after, parts = before ++ .text t :: after ∧ DropsSlash scope t after ∧
    (seen ++ literalText before ++ t.toList).any endsPath = true

section Beyond

variable {scope : Scope} {seen : List Char} {parts after : List Part}

lemma not_trimsBeyondPath_nil [Json.Depth] : ¬ TrimsBeyondPath scope seen [] := by
  rintro ⟨before, t, after, h, -⟩
  simp at h

lemma trimsBeyondPath_slot [Json.Depth] {s : Slot} :
    TrimsBeyondPath scope seen (.slot s :: after) ↔ TrimsBeyondPath scope seen after := by
  constructor
  · rintro ⟨before, t, after', h, hdrops, hseen⟩
    cases before with
    | nil => cases h
    | cons p before =>
      obtain ⟨rfl, rfl⟩ := List.cons_eq_cons.mp h
      exact ⟨before, t, after', rfl, hdrops, hseen⟩
  · rintro ⟨before, t, after', rfl, hdrops, hseen⟩
    exact ⟨.slot s :: before, t, after', rfl, hdrops, hseen⟩

lemma trimsBeyondPath_text [Json.Depth] {t : String} :
    TrimsBeyondPath scope seen (.text t :: after) ↔
      DropsSlash scope t after ∧ (seen ++ t.toList).any endsPath = true ∨
        TrimsBeyondPath scope (seen ++ t.toList) after := by
  constructor
  · rintro ⟨before, u, after', h, hdrops, hseen⟩
    cases before with
    | nil =>
      obtain ⟨⟨⟩, rfl⟩ := List.cons_eq_cons.mp h
      exact .inl ⟨hdrops, by simpa using hseen⟩
    | cons p before =>
      obtain ⟨rfl, rfl⟩ := List.cons_eq_cons.mp h
      refine .inr ⟨before, u, after', rfl, hdrops, ?_⟩
      rw [literalText_text, ← List.append_assoc] at hseen
      exact hseen
  · rintro (⟨hdrops, hseen⟩ | ⟨before, u, after', rfl, hdrops, hseen⟩)
    · exact ⟨[], t, after, rfl, hdrops, by simpa using hseen⟩
    · refine ⟨.text t :: before, u, after', rfl, hdrops, ?_⟩
      rw [literalText_text, ← List.append_assoc]
      exact hseen

lemma afterPath_append (xs ys : List Char) :
    afterPath (xs ++ ys) = if xs.any endsPath then afterPath xs ++ ys else afterPath ys := by
  rw [afterPath, List.dropWhile_append]
  by_cases h : xs.any endsPath = true
  · have hne : (xs.dropWhile fun c => !endsPath c) ≠ [] := by
      obtain ⟨c, hc, hends⟩ := List.any_eq_true.mp h
      intro hnil
      have hnot := List.dropWhile_eq_nil_iff.mp hnil c hc
      simp [hends] at hnot
    simp [h, hne, afterPath]
  · have hnil : (xs.dropWhile fun c => !endsPath c) = [] := by
      refine List.dropWhile_eq_nil_iff.mpr fun c hc => ?_
      have hnot : ¬ endsPath c = true := fun hends => h (List.any_eq_true.mpr ⟨c, hc, hends⟩)
      simp [hnot]
    simp [h, hnil, afterPath]

/-- More text within a URL that does not end the path adds its slashes, where the path is over. -/
lemma count_afterPath_insert {cs : List Char} (hcs : cs.any endsPath = false)
    (xs ys : List Char) :
    (afterPath (xs ++ cs ++ ys)).count '/' =
      (afterPath (xs ++ ys)).count '/' + if xs.any endsPath then cs.count '/' else 0 := by
  by_cases h : xs.any endsPath = true
  · rw [List.append_assoc, afterPath_append, afterPath_append xs ys, if_pos h, if_pos h, if_pos h]
    simp only [List.count_append]
    omega
  · rw [List.append_assoc, afterPath_append, afterPath_append xs ys, if_neg h, if_neg h, if_neg h,
      afterPath_append, hcs]
    simp

lemma any_endsPath_of_escaped {cs : List Char} (h : Escaped cs) : cs.any endsPath = false := by
  refine List.any_eq_false.mpr fun c hc hends => ?_
  obtain rfl | rfl : c = '?' ∨ c = '#' := by simpa [endsPath] using hends
  · exact h.not_mem_of_isSeparator (by decide) hc
  · exact h.not_mem_of_isSeparator (by decide) hc

/-- After the path, a URL has as many slashes as its literal text, but for those that go. -/
lemma count_afterPath [Json.Depth] {css : List (List Char)} (h : Assembled scope parts css)
    (seen : List Char) :
    (afterPath (seen ++ css.flatten)).count '/' ≤
        (afterPath (seen ++ literalText parts)).count '/' ∧
      ((afterPath (seen ++ css.flatten)).count '/' =
          (afterPath (seen ++ literalText parts)).count '/' ↔
        ¬ TrimsBeyondPath scope seen parts) := by
  induction h generalizing seen with
  | nil => simp [not_trimsBeyondPath_nil]
  | @cons p after cs css hadds _ ih =>
    rw [List.flatten_cons]
    cases p with
    | slot s =>
      have hescaped := hadds.escaped
      have hnone : cs.count '/' = 0 :=
        List.count_eq_zero.mpr (hescaped.not_mem_of_isSeparator (by decide))
      rw [← List.append_assoc, count_afterPath_insert (any_endsPath_of_escaped hescaped), hnone, ite_self,
        Nat.add_zero, literalText_slot, trimsBeyondPath_slot]
      exact ih seen
    | text t =>
      obtain ⟨hle, heq⟩ := ih (seen ++ t.toList)
      rw [literalText_text, trimsBeyondPath_text, ← List.append_assoc, ← List.append_assoc]
      cases hadds with
      | whole hkeeps =>
        refine ⟨hle, heq.trans (not_congr ?_)⟩
        simp [hkeeps]
      | trimmed hdrops =>
        have hlast : t.toList = t.toList.dropLast ++ ['/'] :=
          (List.dropLast_append_getLast? '/' hdrops.1).symm
        have hany : (seen ++ t.toList).any endsPath = (seen ++ t.toList.dropLast).any endsPath := by
          rw [hlast]
          simp [endsPath]
        have hinsert : (afterPath (seen ++ t.toList ++ css.flatten)).count '/' =
            (afterPath (seen ++ t.toList.dropLast ++ css.flatten)).count '/' +
              if (seen ++ t.toList).any endsPath then 1 else 0 := by
          have hslash : ['/'].any endsPath = false := by decide
          have hinsert := count_afterPath_insert hslash (seen ++ t.toList.dropLast) css.flatten
          rw [List.append_assoc seen, ← hlast, List.count_singleton_self, ← hany] at hinsert
          exact hinsert
        by_cases hbeyond : (seen ++ t.toList).any endsPath = true
        · rw [if_pos hbeyond] at hinsert
          refine ⟨by omega, iff_of_false (by omega) (not_not.mpr (.inl ⟨hdrops, hbeyond⟩))⟩
        · rw [if_neg hbeyond, Nat.add_zero] at hinsert
          rw [hinsert] at hle heq
          exact ⟨hle, heq.trans (not_congr (by simp [hbeyond]))⟩

end Beyond

/-! ### The host -/

/-- What stands before the host of a URL. -/
structure IsScheme (s : String) : Prop where
  nonempty : s ≠ ""
  plain : ∀ c ∈ s.toList, c ∉ ['/', '{', '$']

section Host

variable {scope : Scope} {fill : Slot → Except Fault Value} {before : String} {cs : List Char}

lemma withoutSlash_append {ys : List Char} (hne : ys ≠ []) (xs : List Char) :
    withoutSlash (xs ++ ys) = xs ++ withoutSlash ys := by
  rw [withoutSlash, withoutSlash, List.getLast?_append_of_ne_nil _ hne,
    List.dropLast_append_of_ne_nil hne]
  split <;> rfl

lemma urlOfParts_text {more : List Part} (h : ∀ s after, more ≠ .slot s :: after) (t : String) :
    urlOfParts fill (.text t :: more) = (urlOfParts fill more).map (t.toList ++ ·) := by
  rw [urlOfParts]
  · cases urlOfParts fill more <;> rfl
  · exact fun s after heq => h s after heq

/-- What a text before a slot adds depends on the slot, and on what comes after it. -/
lemma urlOfParts_text_slot (t : String) (s : Slot) (more : List Part) :
    urlOfParts fill (.text t :: .slot s :: more) = fill s >>= fun v =>
      (urlOfParts fill (.slot s :: more)).map
        ((if v.isNull && atSegmentEnd more then withoutSlash t.toList else t.toList) ++ ·) := by
  rw [urlOfParts, urlOfParts]
  cases fill s with
  | error f => rfl
  | ok v =>
    rw [ok_bind, ok_bind, ok_bind]
    cases hnull : v.isNull with
    | true => cases urlOfParts fill more <;> simp [Except.map]
    | false => cases escaped v <;> cases urlOfParts fill more <;> simp [Except.map]

/-- More text before a text of a URL is just more text. -/
lemma urlOfParts_joined {t : String} (hne : t ≠ "") (before : String) (more : List Part) :
    urlOfParts fill (.text (before ++ t) :: more) =
      (urlOfParts fill (.text t :: more)).map (before.toList ++ ·) := by
  have ht : t.toList ≠ [] := by simpa using hne
  by_cases hslot : ∃ s after, more = .slot s :: after
  · obtain ⟨s, after, rfl⟩ := hslot
    rw [urlOfParts_text_slot, urlOfParts_text_slot, String.toList_append, withoutSlash_append ht]
    cases fill s with
    | error f => rfl
    | ok v =>
      rw [ok_bind, ok_bind]
      cases urlOfParts fill (.slot s :: after) with
      | error f => rfl
      | ok tail =>
        simp only [Except.map]
        split <;> simp
  · have hnone : ∀ s after, more ≠ .slot s :: after := fun s after heq => hslot ⟨s, after, heq⟩
    rw [urlOfParts_text hnone, urlOfParts_text hnone]
    cases urlOfParts fill more <;> simp [Except.map]

lemma not_dropsSlash_nil [Json.Depth] (t : String) : ¬ DropsSlash scope t [] := by
  rintro ⟨-, s, more, h, -⟩
  cases h

lemma DropsSlash.lacks [Json.Depth] {t : String} {s : Slot} {more : List Part}
    (h : DropsSlash scope t (.slot s :: more)) : scope.Lacks s := by
  obtain ⟨-, _, _, ⟨⟩, hlacks, -⟩ := h
  exact hlacks

lemma not_dropsSlash_text [Json.Depth] (t u : String) (more : List Part) :
    ¬ DropsSlash scope t (.text u :: more) := by
  rintro ⟨-, s, more', h, -⟩
  cases h

/-- Text before a slot of a URL is there as it is, but for the slash that goes with the slot. -/
lemma urlOfParts_before_slot [Json.Depth] {s : Slot} {more : List Part} (hmore : NoneEmpty more)
    (h : urlOfParts scope.lookup (.text before :: .slot s :: more) = .ok cs) :
    ∃ tail, urlOfParts scope.lookup (.slot s :: more) = .ok tail ∧
      (DropsSlash scope before (.slot s :: more) ∧ cs = before.toList.dropLast ++ tail ∨
        ¬ DropsSlash scope before (.slot s :: more) ∧ cs = before.toList ++ tail) := by
  rw [urlOfParts_text_slot] at h
  obtain ⟨v, hv, h⟩ := bind_eq_ok.mp h
  obtain ⟨tail, htail, rfl⟩ := map_eq_ok.mp h
  refine ⟨tail, htail, ?_⟩
  cases hnull : v.isNull with
  | false =>
    exact .inr ⟨fun hdrops => not_lacks_of_not_isNull hv hnull hdrops.lacks, by simp⟩
  | true =>
    have hdrops := dropsSlash_iff (t := before) hmore (lacks_of_isNull hv hnull)
    rw [Bool.true_and, withoutSlash]
    by_cases h : DropsSlash scope before (.slot s :: more)
    · obtain ⟨hlast, hend⟩ := hdrops.mp h
      exact .inl ⟨h, by rw [if_pos hend, if_pos hlast]⟩
    · refine .inr ⟨h, ?_⟩
      rw [hdrops, not_and] at h
      split
      · split
        · exact absurd ‹_› (h ‹_›)
        · rfl
      · rfl

lemma noneEmpty_tail {p : Part} {parts : List Part} (h : NoneEmpty (p :: parts)) :
    NoneEmpty parts :=
  fun t ht => h t (List.mem_cons_of_mem _ ht)

/-- With text before it, a URL is that text and what it is without, but for the slash that goes with
a slot at its start. -/
lemma urlOfParts_prepends [Json.Depth] {parts parts' : List Part}
    (hp : Part.Prepends before parts' parts)
    (hparts : NoneEmpty parts) (h : urlOfParts scope.lookup parts = .ok cs) :
    ∃ tail, urlOfParts scope.lookup parts' = .ok tail ∧
      (DropsSlash scope before parts' ∧ cs = before.toList.dropLast ++ tail ∨
        ¬ DropsSlash scope before parts' ∧ cs = before.toList ++ tail) := by
  cases hp with
  | joined t more hne =>
    rw [urlOfParts_joined hne] at h
    obtain ⟨tail, htail, rfl⟩ := map_eq_ok.mp h
    exact ⟨tail, htail, .inr ⟨not_dropsSlash_text _ _ _, rfl⟩⟩
  | apart hnone =>
    match parts', hnone with
    | [], _ =>
      rw [urlOfParts_text (by simp)] at h
      obtain ⟨tail, htail, rfl⟩ := map_eq_ok.mp h
      exact ⟨tail, htail, .inr ⟨not_dropsSlash_nil _, rfl⟩⟩
    | .text t :: more, hnone => exact absurd rfl (hnone t more)
    | .slot s :: more, _ =>
      exact urlOfParts_before_slot (noneEmpty_tail (noneEmpty_tail hparts)) h

/-- Nothing of a URL is dropped but slashes of its path: after the scheme it is what the rest is on
its own, and after the path all slashes of the literal text are there. -/
structure TrimsPathOnly [Json.Depth] (scheme rest : String) (scope : Scope) (uri : String) :
    Prop where
  apart : ∃ parts tail, Part.split rest .path = .ok parts ∧
    (url parts).evaluate scope = .ok (.str tail) ∧ uri = scheme ++ "://" ++ tail
  kept : ∃ parts, Part.split (scheme ++ "://" ++ rest) .path = .ok parts ∧
    (afterPath uri.toList).count '/' = (afterPath (literalText parts)).count '/'

variable {scheme rest uri : String} {parts : List Part}

lemma IsScheme.braceless (h : IsScheme scheme) : '{' ∉ (scheme ++ "://").toList := by
  rw [String.toList_append, List.mem_append]
  rintro (hmem | hmem)
  · exact h.plain _ hmem (by decide)
  · revert hmem
    decide

lemma IsScheme.head?_ne (h : IsScheme scheme) (rest : String) :
    (scheme ++ "://" ++ rest).toList.head? ≠ some '$' := by
  obtain ⟨c, cs, hcs⟩ := List.exists_cons_of_ne_nil
    (show scheme.toList ≠ [] by simpa using h.nonempty)
  have hc := h.plain c (by rw [hcs]; exact List.mem_cons_self)
  rw [String.toList_append, String.toList_append, hcs]
  rintro ⟨⟩
  exact hc (by decide)

/-- A URL is its scheme and what the rest is on its own, but for a slash that goes with an absent
host. -/
lemma url_after_scheme [Json.Depth] (hscheme : IsScheme scheme)
    (hparts : Part.split (scheme ++ "://" ++ rest) .path = .ok parts)
    (huri : (url parts).evaluate scope = .ok (.str uri)) :
    ∃ parts' tail, Part.split rest .path = .ok parts' ∧
      (url parts').evaluate scope = .ok (.str tail) ∧
      (DropsSlash scope (scheme ++ "://") parts' ∧ uri = scheme ++ ":/" ++ tail ∨
        ¬ DropsSlash scope (scheme ++ "://") parts' ∧ uri = scheme ++ "://" ++ tail) := by
  obtain ⟨cs, hcs, heq⟩ := evaluate_url_eq_ok.mp huri
  obtain rfl : String.ofList cs = uri := by simpa using heq
  have hne : scheme ++ "://" ≠ "" := by simp
  obtain ⟨parts', hparts', hp⟩ := Part.split_append hne hscheme.braceless hparts
  obtain ⟨tail, htail, h⟩ := urlOfParts_prepends hp (noneEmpty_of_split hparts) hcs
  refine ⟨parts', String.ofList tail, hparts', evaluate_url_eq_ok.mpr ⟨tail, htail, rfl⟩, ?_⟩
  refine h.imp (And.imp_right ?_) (And.imp_right ?_)
  · rintro rfl
    apply String.toList_injective
    simp
  · rintro rfl
    apply String.toList_injective
    simp

/-- After the scheme, a URL is what the rest is on its own, if no slash goes with an absent host. -/
lemma apart_iff [Json.Depth] {parts' : List Part} (hparts' : Part.split rest .path = .ok parts')
    {tail : String}
    (htail : (url parts').evaluate scope = .ok (.str tail))
    (huri : DropsSlash scope (scheme ++ "://") parts' ∧ uri = scheme ++ ":/" ++ tail ∨
      ¬ DropsSlash scope (scheme ++ "://") parts' ∧ uri = scheme ++ "://" ++ tail) :
    (∃ parts tail, Part.split rest .path = .ok parts ∧
        (url parts).evaluate scope = .ok (.str tail) ∧ uri = scheme ++ "://" ++ tail) ↔
      ¬ DropsSlash scope (scheme ++ "://") parts' := by
  constructor
  · rintro ⟨parts, tail', hparts, htail', heq⟩ hdrops
    obtain ⟨-, huri⟩ | ⟨hnot, -⟩ := huri
    · obtain rfl : parts' = parts := Except.ok.inj (hparts'.symm.trans hparts)
      obtain rfl : tail = tail' := by simpa using htail.symm.trans htail'
      have hlength := congrArg String.length (huri.symm.trans heq)
      simp only [String.length_append] at hlength
      have hless : ":/".length < "://".length := by decide
      omega
    · exact hnot hdrops
  · intro hkeeps
    obtain ⟨hdrops, -⟩ | ⟨-, huri⟩ := huri
    · exact absurd hdrops hkeeps
    · exact ⟨parts', tail, hparts', htail, huri⟩

/-- After its path, a URL has all slashes of the literal text, if none goes there. -/
lemma kept_iff [Json.Depth] (hparts : Part.split (scheme ++ "://" ++ rest) .path = .ok parts)
    (huri : (url parts).evaluate scope = .ok (.str uri)) :
    (∃ parts, Part.split (scheme ++ "://" ++ rest) .path = .ok parts ∧
        (afterPath uri.toList).count '/' = (afterPath (literalText parts)).count '/') ↔
      ¬ TrimsBeyondPath scope [] parts := by
  obtain ⟨cs, hcs, heq⟩ := evaluate_url_eq_ok.mp huri
  obtain rfl : String.ofList cs = uri := by simpa using heq
  obtain ⟨css, hcss, rfl⟩ := assembled_urlOfParts (noneEmpty_of_split hparts) hcs
  have hcount := (count_afterPath hcss []).2
  rw [List.nil_append, List.nil_append] at hcount
  rw [String.toList_ofList, ← hcount]
  constructor
  · rintro ⟨parts', hparts', hkept⟩
    obtain rfl : parts = parts' := Except.ok.inj (hparts.symm.trans hparts')
    exact hkept
  · intro hkept
    exact ⟨parts, hparts, hkept⟩

end Host

/-- **Which slashes go.** A URL with a scheme loses nothing but slashes of its path if and only if no
slash goes with an absent host, and none that stands after the path. Where one goes with the host,
the URL is what the rest is on its own, with a slash less before it. -/
theorem trims_path_only_iff [Json.Depth] {scheme rest : String} {t : Template} {scope : Scope}
    {v : Value}
    (hscheme : IsScheme scheme) (ht : compileUrl (scheme ++ "://" ++ rest) = .ok t)
    (hv : t.evaluate scope = .ok v) :
    ∃ parts parts' uri tail, Part.split (scheme ++ "://" ++ rest) .path = .ok parts ∧
      Part.split rest .path = .ok parts' ∧ v = .str uri ∧
      (url parts').evaluate scope = .ok (.str tail) ∧
      (TrimsPathOnly scheme rest scope uri ↔
        ¬ DropsSlash scope (scheme ++ "://") parts' ∧ ¬ TrimsBeyondPath scope [] parts) ∧
      (DropsSlash scope (scheme ++ "://") parts' → uri = scheme ++ ":/" ++ tail) := by
  obtain ⟨parts, hparts, rfl⟩ := compileUrl_parts (hscheme.head?_ne rest) ht
  obtain ⟨cs, -, rfl⟩ := evaluate_url_eq_ok.mp hv
  obtain ⟨parts', tail, hparts', htail, huri⟩ := url_after_scheme hscheme hparts hv
  refine ⟨parts, parts', String.ofList cs, tail, hparts, hparts', rfl, htail, ?_, ?_⟩
  · rw [← apart_iff hparts' htail huri, ← kept_iff hparts hv]
    exact ⟨fun h => ⟨h.apart, h.kept⟩, fun h => ⟨h.1, h.2⟩⟩
  · intro hdrops
    obtain ⟨-, huri⟩ | ⟨hnot, -⟩ := huri
    · exact huri
    · exact absurd hdrops hnot

attribute [local instance] Json.Depth.thousand

/-- The rest of a URL whose host, a segment and the end of the query may be absent. -/
def hostRest : String := "\x7b!host\x7d/items/\x7b!id\x7d?path=/\x7b!path\x7d"

def hostSlot (name : String) : Slot := ⟨name, .path, false, none, none⟩

def hostRestParts : List Part :=
  [.slot (hostSlot "host"), .text "/items/", .slot (hostSlot "id"), .text "?path=/",
    .slot (hostSlot "path")]

/-- Host and path are there, and the segment is not. -/
def hostScope : Scope := ⟨[(.str "host", .str "h"), (.str "path", .str "a/b")], [], .null⟩

theorem host_given_trims_path_only :
    IsScheme "http" ∧ ∃ t, compileUrl ("http" ++ "://" ++ hostRest) = .ok t ∧
      t.evaluate hostScope = .ok (.str "http://h/items?path=/a%2Fb") ∧
      TrimsPathOnly "http" hostRest hostScope "http://h/items?path=/a%2Fb" := by
  have hscheme : IsScheme "http" := ⟨by decide, by simp⟩
  obtain ⟨t, ht, v, hv, htext⟩ : ∃ t, compileUrl ("http" ++ "://" ++ hostRest) = .ok t ∧
      ∃ v, t.evaluate hostScope = .ok v ∧ v.text = "http://h/items?path=/a%2Fb" := by
    decide +kernel
  obtain ⟨parts, parts', uri, -, hparts, hparts', rfl, -, hiff, -⟩ :=
    trims_path_only_iff hscheme ht hv
  obtain rfl : uri = "http://h/items?path=/a%2Fb" := htext
  have hsplit : Part.split ("http" ++ "://" ++ hostRest) .path =
      .ok (.text "http://" :: hostRestParts) := by decide +kernel
  have hsplit' : Part.split hostRest .path = .ok hostRestParts := by decide +kernel
  obtain rfl := Except.ok.inj (hparts.symm.trans hsplit)
  obtain rfl := Except.ok.inj (hparts'.symm.trans hsplit')
  have hhost : ¬ hostScope.Lacks (hostSlot "host") := by decide +kernel
  have hpath : ¬ hostScope.Lacks (hostSlot "path") := by decide +kernel
  refine ⟨hscheme, t, ht, hv, hiff.mpr ⟨fun hdrops => hhost hdrops.lacks, ?_⟩⟩
  rw [hostRestParts, trimsBeyondPath_text, trimsBeyondPath_slot, trimsBeyondPath_text,
    trimsBeyondPath_slot, trimsBeyondPath_text, trimsBeyondPath_slot]
  rintro (⟨hdrops, -⟩ | ⟨-, hseen⟩ | ⟨hdrops, -⟩ | h)
  · exact hhost hdrops.lacks
  · revert hseen
    decide
  · exact hpath hdrops.lacks
  · exact not_trimsBeyondPath_nil h

/-- Nothing is there. -/
def bareScope : Scope := ⟨[], [], .null⟩

/-- Nothing is there but the host. -/
def bareHostScope : Scope := ⟨[(.str "host", .str "h")], [], .null⟩

/-- Without a host, the first segment is in its place; with it, the query still lacks a slash. -/
theorem slots_absent_not_trims_path_only :
    (∃ t, compileUrl ("http" ++ "://" ++ hostRest) = .ok t ∧
      t.evaluate bareScope = .ok (.str "http://items?path=") ∧
      t.evaluate bareHostScope = .ok (.str "http://h/items?path=")) ∧
      ¬ TrimsPathOnly "http" hostRest bareScope "http://items?path=" ∧
      ¬ TrimsPathOnly "http" hostRest bareHostScope "http://h/items?path=" := by
  have hsplit : Part.split ("http" ++ "://" ++ hostRest) .path =
      .ok (.text "http://" :: hostRestParts) := by decide +kernel
  have hsplit' : Part.split hostRest .path = .ok hostRestParts := by decide +kernel
  refine ⟨?_, fun h => ?_, fun h => ?_⟩
  · obtain ⟨t, ht, ⟨v, hv, htext⟩, w, hw, htext'⟩ :
        ∃ t, compileUrl ("http" ++ "://" ++ hostRest) = .ok t ∧
          (∃ v, t.evaluate bareScope = .ok v ∧ v.text = "http://items?path=") ∧
          ∃ w, t.evaluate bareHostScope = .ok w ∧ w.text = "http://h/items?path=" := by
      decide +kernel
    obtain ⟨parts, -, rfl⟩ := compileUrl_parts (by decide) ht
    obtain ⟨cs, -, rfl⟩ := evaluate_url_eq_ok.mp hv
    obtain ⟨ds, -, rfl⟩ := evaluate_url_eq_ok.mp hw
    rw [Value.text_str] at htext htext'
    rw [htext] at hv
    rw [htext'] at hw
    exact ⟨_, ht, hv, hw⟩
  · obtain ⟨parts, tail, hparts, htail, heq⟩ := h.apart
    obtain rfl := Except.ok.inj (hparts.symm.trans hsplit')
    obtain ⟨v, hv, htext⟩ : ∃ v, (url hostRestParts).evaluate bareScope = .ok v ∧
        v.text = "/items?path=" := by decide +kernel
    obtain rfl : v = .str tail := Except.ok.inj (hv.symm.trans htail)
    obtain rfl : tail = "/items?path=" := htext
    revert heq
    decide
  · obtain ⟨parts, hparts, hkept⟩ := h.kept
    obtain rfl := Except.ok.inj (hparts.symm.trans hsplit)
    revert hkept
    decide

end Template

end RestOperations
