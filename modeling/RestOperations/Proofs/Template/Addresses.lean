import RestOperations.Collection
import RestOperations.Proofs.Template.Url
import RestOperations.Proofs.Text.Unescape

/-!
Different arguments, different URLs. Where the text between two slots that follow one another has a
character that no argument can bring along, a URL tells the texts of its arguments: it is plain where
each of them ends, and none is escaped like another. Likewise an item of a collection is told from
the other ones by its URL.
-/

namespace RestOperations

namespace Template

open Text.Percent

/-! ### The texts of a URL -/

/-- The literal text before the next slot. -/
def leading : List Part → List Char
  | .text t :: parts => t.toList ++ leading parts
  | _ => []

/-- Between any two slots that follow one another there is text with a character that cannot stand
in escaped text. -/
def separated : List Part → Bool
  | [] => true
  | .text _ :: parts => separated parts
  | .slot _ :: parts =>
    ((slotsOfParts parts).isEmpty || (leading parts).any (fun c => !mayStand c)) && separated parts

/-- The call brings an argument for the slot, which has this text. -/
def Brings [Json.Depth] (scope : Scope) (s : Slot) (t : String) : Prop :=
  ∃ v, scope.lookup s = .ok v ∧ v ≠ .null ∧ v.inText = .ok t

section

variable {scope scope' : Scope} {s : Slot} {parts after : List Part} {cs : List Char}
  {css css' : List (List Char)}

/-- The slots of the parts are all filled. -/
def AllThere [Json.Depth] (scope : Scope) (parts : List Part) : Prop :=
  ∀ s ∈ slotsOfParts parts, scope.Provides s

lemma allThere_text [Json.Depth] {t : String} (h : AllThere scope (.text t :: parts)) :
    AllThere scope parts := h

lemma allThere_slot [Json.Depth] (h : AllThere scope (.slot s :: parts)) :
    scope.Provides s ∧ AllThere scope parts :=
  List.forall_mem_cons.mp h

/-- Text stays as it is where no slot is absent. -/
lemma Adds.eq_text [Json.Depth] {t : String} (h : Adds scope after (.text t) cs)
    (hall : AllThere scope after) :
    cs = t.toList := by
  cases h with
  | whole => rfl
  | trimmed hdrops =>
    obtain ⟨-, s, more, rfl, hlacks, -⟩ := hdrops
    exact absurd hlacks (allThere_slot hall).1.not_lacks

lemma Adds.exists_brings [Json.Depth] (h : Adds scope after (.slot s) cs) (hs : scope.Provides s) :
    ∃ t, Brings scope s t ∧ cs = encodeChars t.toList := by
  cases h with
  | absent hlacks => exact absurd hlacks hs.not_lacks
  | present hv hnull ht => exact ⟨_, ⟨_, hv, hnull, ht⟩, rfl⟩

/-- A URL starts with the text before its next slot; without a slot, that is all of it. -/
lemma exists_flatten_eq [Json.Depth] (h : Assembled scope parts css) (hall : AllThere scope parts) :
    ∃ rest, css.flatten = leading parts ++ rest ∧ (slotsOfParts parts = [] → rest = []) := by
  induction h with
  | nil => exact ⟨[], rfl, fun _ => rfl⟩
  | @cons p after cs css hadds _ ih =>
    cases p with
    | slot s => exact ⟨_, rfl, fun hnone => absurd hnone (List.cons_ne_nil _ _)⟩
    | text t =>
      obtain ⟨rest, hrest, hnone⟩ := ih (allThere_text hall)
      refine ⟨rest, ?_, hnone⟩
      rw [List.flatten_cons, hrest, hadds.eq_text hall, leading, List.append_assoc]

/-- Where the first slot ends is plain from the URL. -/
lemma eq_of_separated [Json.Depth] {as bs : List Char} (has : Escaped as) (hbs : Escaped bs)
    (hsep : separated (.slot s :: parts) = true) (h : Assembled scope parts css)
    (h' : Assembled scope' parts css') (hall : AllThere scope parts)
    (hall' : AllThere scope' parts) (heq : as ++ css.flatten = bs ++ css'.flatten) : as = bs := by
  obtain ⟨rest, hrest, hnone⟩ := exists_flatten_eq h hall
  obtain ⟨rest', hrest', hnone'⟩ := exists_flatten_eq h' hall'
  rw [separated, Bool.and_eq_true, Bool.or_eq_true, List.isEmpty_iff] at hsep
  rw [hrest, hrest'] at heq
  obtain hlast | hmark := hsep.1
  · rw [hnone hlast, hnone' hlast, List.append_nil] at heq
    exact List.append_cancel_right heq
  · exact has.eq_of_append_eq hbs hmark heq

/-- The same URL comes of the same texts. -/
lemma brings_same [Json.Depth] (hsep : separated parts = true) (h : Assembled scope parts css)
    (h' : Assembled scope' parts css') (hall : AllThere scope parts)
    (hall' : AllThere scope' parts) (heq : css.flatten = css'.flatten) :
    ∀ s ∈ slotsOfParts parts, ∃ t, Brings scope s t ∧ Brings scope' s t := by
  induction h generalizing css' with
  | nil => simp [slotsOfParts]
  | @cons p after cs css hadds hafter ih =>
    cases h' with
    | @cons _ _ cs' css' hadds' hafter' =>
    rw [List.flatten_cons, List.flatten_cons] at heq
    cases p with
    | text t =>
      rw [hadds.eq_text hall, hadds'.eq_text hall'] at heq
      exact ih hsep hafter' hall hall' (List.append_cancel_left heq)
    | slot s =>
      obtain ⟨hs, hall⟩ := allThere_slot hall
      obtain ⟨hs', hall'⟩ := allThere_slot hall'
      obtain rfl : cs = cs' :=
        eq_of_separated hadds.escaped hadds'.escaped hsep hafter hafter' hall hall' heq
      obtain ⟨t, ht, rfl⟩ := hadds.exists_brings hs
      obtain ⟨t', ht', hencoded⟩ := hadds'.exists_brings hs'
      obtain rfl : t = t' := String.toList_injective (encodeChars_injective hencoded)
      rw [separated, Bool.and_eq_true] at hsep
      refine List.forall_mem_cons.mpr ⟨⟨t, ht, ht'⟩, ?_⟩
      exact ih hsep.2 hafter' hall hall' (List.append_cancel_left heq)

/-- A template of a URL is made of the parts of its text. -/
lemma split_of_compileUrl {s : String} (h : compileUrl s = .ok (.url parts)) :
    Part.split s .path = .ok parts := by
  unfold compileUrl at h
  split at h
  · unfold compileExpression at h
    split at h <;> cases h
  · obtain ⟨parts', hparts, h⟩ := bind_eq_ok.mp h
    cases h
    exact mapError_eq_ok.mp hparts

end

end Template

namespace Collection

open Text.Percent

variable {c : Collection} {id : Value} {u : String}

lemma itemUrl_eq_ok :
    c.itemUrl id = .ok u ↔ id.isWritable = true ∧ u = c.url ++ "/" ++ encode id.text := by
  unfold itemUrl
  split
  · next hid => simp [hid, eq_comm]
  · next hid => simp [hid]

/-- The identifier is one segment of the URL, and no more than that. -/
lemma encode_not_mem (s : String) : ∀ x ∈ (encode s).toList, x ∉ ['/', '?', '#'] := by
  intro x hx hmem
  rw [encode, String.toList_ofList] at hx
  have hall : ['/', '?', '#'].all isSeparator = true := by decide
  exact (escaped_encodeChars _).not_mem_of_isSeparator (List.all_eq_true.mp hall x hmem) hx

lemma encode_injective {s t : String} (h : encode s = encode t) : s = t :=
  String.toList_injective (encodeChars_injective (String.ofList_injective h))

end Collection

/-- **Different arguments address different URLs.** Where the text between any two slots that follow
one another has a character that no argument can bring along, the same URL comes of the same texts
only. The URL of an item is that of the collection with one more segment, and it tells the text of
the identifier. -/
theorem Template.arguments_told_apart [Json.Depth] :
    (∀ {s : String} {parts : List Part} {scope scope' : Scope} {v : Value},
      compileUrl s = .ok (.url parts) → separated parts = true →
      AllThere scope parts → AllThere scope' parts →
      (url parts).evaluate scope = .ok v → (url parts).evaluate scope' = .ok v →
      ∀ r ∈ slotsOfParts parts, ∃ t, Brings scope r t ∧ Brings scope' r t) ∧
    ∀ (c : Collection) (id : Value), ((∃ u, c.itemUrl id = .ok u) ↔ id.isWritable = true) ∧
      ∀ u, c.itemUrl id = .ok u →
        (∃ segment, u = c.url ++ "/" ++ segment ∧ ∀ x ∈ segment.toList, x ∉ ['/', '?', '#']) ∧
        ∀ id', c.itemUrl id' = .ok u → id.text = id'.text := by
  refine ⟨?_, fun c id => ⟨?_, fun u hu => ⟨?_, fun id' hu' => ?_⟩⟩⟩
  · intro s parts scope scope' v hs hsep hall hall' hv hv'
    have hparts := noneEmpty_of_split (split_of_compileUrl hs)
    obtain ⟨cs, hcs, rfl⟩ := evaluate_url_eq_ok.mp hv
    obtain ⟨cs', hcs', heq⟩ := evaluate_url_eq_ok.mp hv'
    obtain ⟨css, hcss, rfl⟩ := assembled_urlOfParts hparts hcs
    obtain ⟨css', hcss', rfl⟩ := assembled_urlOfParts hparts hcs'
    have hflatten : css'.flatten = css.flatten := String.ofList_injective (by simpa using heq)
    exact brings_same hsep hcss hcss' hall hall' hflatten.symm
  · simp [Collection.itemUrl_eq_ok]
  · obtain ⟨-, rfl⟩ := Collection.itemUrl_eq_ok.mp hu
    exact ⟨_, rfl, Collection.encode_not_mem _⟩
  · obtain ⟨-, rfl⟩ := Collection.itemUrl_eq_ok.mp hu
    obtain ⟨-, heq⟩ := Collection.itemUrl_eq_ok.mp hu'
    have hencoded : Text.Percent.encode id.text = Text.Percent.encode id'.text := by
      simpa using heq
    exact Collection.encode_injective hencoded

namespace Template

attribute [local instance] Json.Depth.thousand

/-- Text that starts like an argument may, between two slots. -/
def pairUrl : String := "/\x7bleft\x7d-to/\x7bright\x7d.txt"

def pairScope (right : Value) : Scope := ⟨[(.str "left", .str "é/-"), (.str "right", right)], [], .null⟩

def pairParts : List Part :=
  [.text "/", .slot ⟨"left", .path, true, none, none⟩, .text "-to/",
    .slot ⟨"right", .path, true, none, none⟩, .text ".txt"]

/-- An integer and its text make the same URL, and so do they as identifiers. -/
theorem pair_told_apart :
    compileUrl pairUrl = .ok (.url pairParts) ∧ separated pairParts = true ∧
      (url pairParts).evaluate (pairScope (.int 7)) = .ok (.str "/%C3%A9%2F--to/7.txt") ∧
      (url pairParts).evaluate (pairScope (.str "7")) = .ok (.str "/%C3%A9%2F--to/7.txt") ∧
      (∀ r ∈ slotsOfParts pairParts, ∃ t,
        Brings (pairScope (.int 7)) r t ∧ Brings (pairScope (.str "7")) r t) ∧
      (⟨"/items"⟩ : Collection).itemUrl (.int 7) = .ok "/items/7" ∧
      (⟨"/items"⟩ : Collection).itemUrl (.str "7") = .ok "/items/7" ∧
      (Value.int 7).text = (Value.str "7").text := by
  have hcompile : compileUrl pairUrl = .ok (.url pairParts) := by
    have hparts : Part.split pairUrl .path = .ok pairParts := by decide +kernel
    rw [compileUrl, partsOf, hparts]
    rfl
  have hsep : separated pairParts = true := by decide +kernel
  have huri (right : Value) (h : ∃ cs, urlOfParts (pairScope right).lookup pairParts = .ok cs ∧
      String.ofList cs = "/%C3%A9%2F--to/7.txt") :
      (url pairParts).evaluate (pairScope right) = .ok (.str "/%C3%A9%2F--to/7.txt") := by
    obtain ⟨cs, hcs, htext⟩ := h
    exact evaluate_url_eq_ok.mpr ⟨cs, hcs, by rw [htext]⟩
  have hint := huri (.int 7) (by decide +kernel)
  have htext := huri (.str "7") (by decide +kernel)
  have hall (right : Value) (h : ∀ r ∈ slotsOfParts pairParts,
      ∃ v, (pairScope right).lookup r = .ok v ∧ v.isNull = false) :
      AllThere (pairScope right) pairParts := h
  have hitem : (⟨"/items"⟩ : Collection).itemUrl (.int 7) = .ok "/items/7" :=
    Collection.itemUrl_eq_ok.mpr ⟨by decide +kernel, by decide +kernel⟩
  have hitem' : (⟨"/items"⟩ : Collection).itemUrl (.str "7") = .ok "/items/7" :=
    Collection.itemUrl_eq_ok.mpr ⟨by decide +kernel, by decide +kernel⟩
  obtain ⟨htold, hitems⟩ := arguments_told_apart
  exact ⟨hcompile, hsep, hint, htext, htold hcompile hsep (hall (.int 7) (by decide +kernel))
    (hall (.str "7") (by decide +kernel)) hint htext, hitem, hitem',
    ((hitems _ _).2 _ hitem).2 _ hitem'⟩

end Template

end RestOperations
