import RestOperations.Proofs.Outcome
import RestOperations.Yaml.Layout

/-!
What goes wrong where tokens are made of a text. It is that the text is malformed, or that a number in
it is too large: the code of a character in an escape, or a version in a directive. The last token
says so, and all those before it are as they should be.
-/

namespace RestOperations.Yaml

/-- What can go wrong before the tree of a text is there. -/
inductive Failure.Early : Failure → Prop
  | malformed : Early .malformed
  | character {code : Nat} : 0x110000 ≤ code → Early (.scalar (.noCharacter code))
  | version {digits : Nat} : Decimal.digitLimit < digits → Early (.scalar (.tooManyDigits digits))

/-- There is a result of this kind, or one of these failures. -/
inductive Ends {α : Type} (P : α → Prop) : Except Failure α → Prop
  | ok {a : α} : P a → Ends P (.ok a)
  | error {f : Failure} : f.Early → Ends P (.error f)

/-- Nothing but these failures goes wrong. -/
abbrev EndsEarly {α : Type} (r : Except Failure α) : Prop := Ends (fun _ => True) r

section

variable {α β : Type} {P : α → Prop} {Q : β → Prop} {r r' : Except Failure α}

lemma ends_malformed : Ends P (Token.malformed : Except Failure α) := .error .malformed

lemma endsEarly_ok (a : α) : EndsEarly (.ok a) := .ok trivial

lemma ends_ite {p : Prop} [Decidable p] (hr : Ends P r) (hr' : Ends P r') :
    Ends P (if p then r else r') := by
  split
  · exact hr
  · exact hr'

lemma Ends.bind {next : α → Except Failure β} (hr : Ends P r) (hnext : ∀ a, P a → Ends Q (next a)) :
    Ends Q (r >>= next) := by
  cases hr with
  | ok ha => exact hnext _ ha
  | error hf => exact .error hf

lemma Ends.map {g : α → β} (hr : Ends P r) (hg : ∀ a, P a → Q (g a)) : Ends Q (r.map g) := by
  cases hr with
  | ok ha => exact .ok (hg _ ha)
  | error hf => exact .error hf

/-- Where any result will do, what is made of it does not count. -/
lemma EndsEarly.andThen {g : α → β} (hr : EndsEarly r) : EndsEarly (r >>= fun a => .ok (g a)) :=
  hr.bind fun _ _ => .ok trivial

end

/-! ### Tokens of one line -/

namespace Token

/-- It is a token, or says why none could be made. -/
def Sound (t : Token) : Prop := ∀ f, t = .broken f → f.Early

/-- A token that is sound, with the place after it. -/
abbrev Takes (r : Except Failure (Token × Cursor)) : Prop := Ends (fun p => p.1.Sound) r

lemma endsEarly_takeName (c : Cursor) : EndsEarly (takeName c) :=
  ends_ite ends_malformed (endsEarly_ok _)

lemma endsEarly_takeEscapes (fuel : Nat) (c : Cursor) : EndsEarly (takeEscapes fuel c) := by
  induction fuel generalizing c with
  | zero => exact endsEarly_ok _
  | succ fuel ih =>
    unfold takeEscapes
    split
    · split
      · exact (ih _).andThen
      · exact ends_malformed
    · exact ends_malformed
    · exact endsEarly_ok _

lemma endsEarly_takeUriChars (fuel : Nat) (c : Cursor) : EndsEarly (takeUriChars fuel c) := by
  induction fuel generalizing c with
  | zero => exact endsEarly_ok _
  | succ fuel ih =>
    refine ends_ite ((endsEarly_takeEscapes _ c).bind fun (bs, c) _ => ?_)
      (ends_ite (ih _).andThen (endsEarly_ok _))
    dsimp only
    split
    · exact ends_malformed
    · exact (ih c).andThen

lemma endsEarly_takeUri (c : Cursor) : EndsEarly (takeUri c) :=
  ends_ite ends_malformed (endsEarly_takeUriChars _ c).andThen

lemma endsEarly_takeHandle (c : Cursor) : EndsEarly (takeHandle c) :=
  ends_ite ends_malformed (ends_ite (endsEarly_ok _) (ends_ite (endsEarly_ok _) ends_malformed))

lemma endsEarly_takeTagParts (c : Cursor) : EndsEarly (takeTagParts c) := by
  refine ends_ite ?_ (ends_ite (endsEarly_ok _) (ends_ite ?_ ?_))
  · exact (endsEarly_takeUri _).bind fun _ _ => ends_ite (endsEarly_ok _) ends_malformed
  · exact (endsEarly_takeHandle c).bind fun _ _ => (endsEarly_takeUri _).andThen
  · exact (endsEarly_takeUri _).andThen

lemma takes_takeTag (c : Cursor) : Takes (takeTag c) :=
  (endsEarly_takeTagParts c).bind fun _ _ => ends_ite (.ok nofun) ends_malformed

lemma endsEarly_takeLineRest (c : Cursor) : EndsEarly (takeLineRest c) :=
  ends_ite (endsEarly_ok _) ends_malformed

/-- A number is refused for its length only. -/
lemma endsEarly_takeNumber (c : Cursor) : EndsEarly (takeNumber c) := by
  refine ends_ite ends_malformed ?_
  split
  · next hlong => exact .error (.version hlong)
  · exact endsEarly_ok _

lemma takes_takeVersion (c : Cursor) : Takes (takeVersion c) :=
  (endsEarly_takeNumber _).bind fun _ _ => ends_ite ends_malformed <|
    (endsEarly_takeNumber _).bind fun _ _ => ends_ite (.ok nofun) ends_malformed

lemma takes_takeTagPrefix (c : Cursor) : Takes (takeTagPrefix c) :=
  (endsEarly_takeHandle _).bind fun _ _ => ends_ite ends_malformed <|
    (endsEarly_takeUri _).bind fun _ _ => ends_ite (.ok nofun) ends_malformed

lemma takes_takeDirective (c : Cursor) : Takes (takeDirective c) := by
  have hother (c : Cursor) : Takes (.ok (.directive, c)) := .ok nofun
  refine ends_ite ends_malformed (ends_ite ?_ (ends_ite ?_ ?_))
  · exact (takes_takeVersion _).bind fun (_, c) ht =>
      (endsEarly_takeLineRest c).bind fun _ _ => .ok ht
  · exact (takes_takeTagPrefix _).bind fun (_, c) ht =>
      (endsEarly_takeLineRest c).bind fun _ _ => .ok ht
  · exact (hother _).bind fun (_, c) ht => (endsEarly_takeLineRest c).bind fun _ _ => .ok ht

end Token

/-! ### Scalars -/

namespace Scalar

open Token

lemma endsEarly_takeBreaks (fuel : Nat) (c : Cursor) : EndsEarly (takeBreaks fuel c) := by
  induction fuel generalizing c with
  | zero => exact endsEarly_ok _
  | succ fuel ih => exact ends_ite ends_malformed (ends_ite (ih _).andThen (endsEarly_ok _))

lemma endsEarly_takeGap (c : Cursor) : EndsEarly (takeGap c) :=
  ends_ite ends_malformed (ends_ite (endsEarly_takeBreaks _ _).andThen (endsEarly_ok _))

/-- A code is refused if it is beyond those of characters. -/
lemma endsEarly_charOfCode (n : Nat) : EndsEarly (charOfCode n) := by
  unfold charOfCode
  split
  · next hbeyond => exact .error (.character hbeyond)
  · exact endsEarly_ok _

lemma endsEarly_takeEscape (c : Cursor) : EndsEarly (takeEscape c) := by
  unfold takeEscape
  cases escaped? c.peek with
  | some x => exact endsEarly_ok _
  | none =>
    cases codeLength? c.peek with
    | none => exact ends_ite (endsEarly_takeBreaks _ _) ends_malformed
    | some n =>
      dsimp only
      split
      · exact ends_malformed
      · exact (endsEarly_charOfCode _).andThen

lemma endsEarly_takeQuotedChars (double : Bool) (fuel : Nat) (c : Cursor) :
    EndsEarly (takeQuotedChars double fuel c) := by
  induction fuel generalizing c with
  | zero => exact ends_malformed
  | succ fuel ih =>
    unfold takeQuotedChars
    split
    · exact ends_malformed
    · refine ends_ite ?_ <| ends_ite ?_ <| ends_ite (ih _).andThen <|
        ends_ite (endsEarly_ok _) (ih _).andThen
      · exact (endsEarly_takeGap c).bind fun _ _ => (ih _).andThen
      · exact (endsEarly_takeEscape _).bind fun _ _ => (ih _).andThen

lemma takes_takeQuoted (double : Bool) (c : Cursor) : Takes (takeQuoted double c) :=
  (endsEarly_takeQuotedChars double _ _).bind fun _ _ => .ok nofun

lemma endsEarly_takeIncrement (c : Cursor) : EndsEarly (takeIncrement c) :=
  ends_ite (endsEarly_ok _) (ends_ite ends_malformed (endsEarly_ok _))

lemma endsEarly_takeHeader (c : Cursor) : EndsEarly (takeHeader c) :=
  (endsEarly_takeIncrement _).bind fun _ _ => ends_ite ends_malformed
    (endsEarly_takeLineRest _).andThen

lemma takes_takeBlock (fold : Bool) (indent : Int) (c : Cursor) :
    Takes (takeBlock fold indent c) :=
  (endsEarly_takeHeader _).bind fun _ _ => ends_ite (.ok nofun) (.ok nofun)

end Scalar

/-! ### The tokens of a text -/

namespace Layout

open Token (Takes)

/-- All the tokens so far are sound. -/
def Sound (s : Layout) : Prop := ∀ t ∈ s.tokens, t.Sound

/-- The layout goes on with sound tokens. -/
abbrev GoesOn (r : Except Failure Layout) : Prop := Ends Sound r

variable {s : Layout}

lemma Sound.emit (h : s.Sound) {t : Token} (ht : t.Sound) : (s.emit t).Sound :=
  List.forall_mem_cons.mpr ⟨ht, h⟩

lemma Sound.insert (h : s.Sound) (position : Nat) {ts : List Token} (hts : ∀ t ∈ ts, t.Sound) :
    (s.insert position ts).Sound := by
  intro t ht
  obtain ht | ht := List.mem_append.mp ht
  · obtain ht | ht := List.mem_append.mp ht
    · exact h t (List.mem_of_mem_take ht)
    · exact hts t (List.mem_reverse.mp ht)
  · exact h t (List.mem_of_mem_drop ht)

lemma sound_of_mem_closeBlocks {column : Int} {indents : List Nat} {t : Token}
    (h : t ∈ (closeBlocks column indents).2) : t.Sound := by
  induction indents with
  | nil => cases h
  | cons n indents ih =>
    rw [closeBlocks] at h
    split at h
    · obtain rfl | h := List.mem_cons.mp h
      · exact nofun
      · exact ih h
    · cases h

lemma Sound.unwind (h : s.Sound) (column : Int) : (s.unwind column).Sound := by
  unfold Layout.unwind
  split
  · exact h
  · intro t ht
    obtain ht | ht := List.mem_append.mp ht
    · exact sound_of_mem_closeBlocks ht
    · exact h t ht

lemma Sound.openBlock (h : s.Sound) (column : Nat) : (s.openBlock column).2.Sound := by
  unfold Layout.openBlock
  split <;> exact h

lemma Sound.openHere (h : s.Sound) {t : Token} (ht : t.Sound) : (s.openHere t).Sound := by
  have hopen := h.openBlock s.column
  unfold Layout.openHere
  dsimp only
  split
  · exact hopen.emit ht
  · exact hopen

lemma Sound.dropKey (h : s.Sound) : GoesOn s.dropKey :=
  ends_ite ends_malformed (.ok h)

lemma Sound.saveKey (h : s.Sound) : GoesOn s.saveKey :=
  ends_ite (.ok h) (h.dropKey.bind fun _ h => .ok h)

lemma endsEarly_freshen (c : Cursor) (k? : Option PendingKey) : EndsEarly (freshen c k?) := by
  unfold freshen
  split
  · exact ends_ite (endsEarly_ok _) (ends_ite ends_malformed (endsEarly_ok _))
  · exact endsEarly_ok _

lemma endsEarly_mapM {α β : Type} {f : α → Except Failure β} (h : ∀ a, EndsEarly (f a))
    (as : List α) : EndsEarly (as.mapM f) := by
  induction as with
  | nil => exact endsEarly_ok _
  | cons a as ih =>
    rw [List.mapM_cons]
    exact (h a).bind fun _ _ => ih.andThen

lemma Sound.dropStale (h : s.Sound) : GoesOn s.dropStale :=
  (endsEarly_freshen _ _).bind fun _ _ =>
    (endsEarly_mapM (endsEarly_freshen _) _).bind fun _ _ => .ok h

lemma Sound.openFor (h : s.Sound) {t : Token} (ht : t.Sound) : GoesOn (s.openFor t) :=
  ends_ite (.ok h) (ends_ite (.ok (h.openHere ht)) ends_malformed)

lemma Sound.takeDirective (h : s.Sound) : GoesOn s.takeDirective :=
  (h.unwind _).dropKey.bind fun _ h =>
    (Token.takes_takeDirective _).bind fun (_, _) ht => .ok (h.emit ht)

lemma Sound.takeDocumentMark (h : s.Sound) {t : Token} (ht : t.Sound) :
    GoesOn (s.takeDocumentMark t) :=
  (h.unwind _).dropKey.bind fun _ h => .ok (h.emit ht)

lemma Sound.openBracket (h : s.Sound) {t : Token} (ht : t.Sound) : GoesOn (s.openBracket t) :=
  h.saveKey.bind fun _ h => .ok (h.emit ht)

lemma Sound.closeBracket (h : s.Sound) {t : Token} (ht : t.Sound) : GoesOn (s.closeBracket t) := by
  refine h.dropKey.bind fun s h => ?_
  split
  · exact ends_malformed
  · exact .ok (h.emit ht)

lemma Sound.takeComma (h : s.Sound) : GoesOn s.takeComma :=
  h.dropKey.bind fun _ h => .ok (h.emit nofun)

lemma Sound.takeEntry (h : s.Sound) : GoesOn s.takeEntry :=
  (h.openFor (t := .blockSequence) nofun).bind fun _ h =>
    h.dropKey.bind fun _ h => .ok (h.emit nofun)

lemma Sound.takeKey (h : s.Sound) : GoesOn s.takeKey :=
  (h.openFor (t := .blockMapping) nofun).bind fun _ h =>
    h.dropKey.bind fun _ h => .ok (h.emit nofun)

lemma Sound.takeValue (h : s.Sound) : GoesOn s.takeValue := by
  unfold Layout.takeValue
  split
  · next k hk =>
    have hopen : (if s.inFlow then (false, s) else s.openBlock k.column).2.Sound := by
      split
      · exact h
      · exact h.openBlock k.column
    refine .ok ((hopen.insert k.position ?_).emit (t := .value) nofun)
    split <;> simp [Token.Sound]
  · exact (h.openFor (t := .blockMapping) nofun).bind fun _ h =>
      h.dropKey.bind fun _ h => .ok (h.emit nofun)

lemma Sound.takeContent (h : s.Sound) {taken : Cursor → Except Failure (Token × Cursor)}
    (htaken : ∀ c, Takes (taken c)) : GoesOn (s.takeContent taken) :=
  h.saveKey.bind fun _ h => (htaken _).bind fun (_, _) ht => .ok (h.emit ht)

lemma Sound.takeBlockScalar (h : s.Sound) (fold : Bool) : GoesOn (s.takeBlockScalar fold) :=
  h.dropKey.bind fun _ h => (Scalar.takes_takeBlock _ _ _).bind fun (_, _) ht => .ok (h.emit ht)

lemma Sound.takePlain (h : s.Sound) : GoesOn s.takePlain :=
  h.saveKey.bind fun _ h => .ok (h.emit nofun)

lemma takes_takeNamed {make : String → Token} (hmake : ∀ name, (make name).Sound) (c : Cursor) :
    Takes (takeNamed make c) :=
  (Token.endsEarly_takeName c).map fun _ _ => hmake _

lemma Sound.takeToken (h : s.Sound) : GoesOn s.takeToken := by
  refine ends_ite h.takeDirective ?_
  refine ends_ite (h.takeDocumentMark nofun) (ends_ite (h.takeDocumentMark nofun) ?_)
  split
  · exact h.openBracket nofun
  · exact h.openBracket nofun
  · exact h.closeBracket nofun
  · exact h.closeBracket nofun
  · exact h.takeComma
  · exact h.takeContent (takes_takeNamed nofun)
  · exact h.takeContent (takes_takeNamed nofun)
  · exact h.takeContent Token.takes_takeTag
  · exact h.takeContent (Scalar.takes_takeQuoted false)
  · exact h.takeContent (Scalar.takes_takeQuoted true)
  · exact ends_ite h.takeEntry <| ends_ite h.takeKey <| ends_ite h.takeValue <|
      ends_ite (h.takeBlockScalar false) <| ends_ite (h.takeBlockScalar true) <|
      ends_ite h.takePlain ends_malformed

lemma skipBlank_tokens (fuel : Nat) (s : Layout) : (skipBlank fuel s).tokens = s.tokens := by
  induction fuel generalizing s with
  | zero => rfl
  | succ fuel ih =>
    unfold skipBlank
    extract_lets
    split
    · exact ih _
    · rfl

lemma Sound.skip (h : s.Sound) : s.skip.Sound := by
  have htokens : s.skip.tokens = s.tokens := by
    rw [Layout.skip, skipBlank_tokens, skipByteOrderMark]
    split <;> rfl
  rwa [Sound, htokens]

lemma Sound.next (h : s.Sound) : GoesOn s.next :=
  h.skip.dropStale.bind fun _ h => (h.unwind _).takeToken

lemma Sound.complete (h : s.Sound) : GoesOn s.complete :=
  h.skip.dropStale.bind fun _ h => (h.unwind _).dropKey

lemma Sound.settled (h : s.Sound) : ∀ t ∈ s.settled, t.Sound := by
  unfold Layout.settled
  split
  · exact fun t ht => h t (List.mem_of_mem_drop ht)
  · exact h

/-- The next layout is sound, or else all the tokens are. -/
def Steps : Except (List Token) Layout → Prop
  | .ok s => s.Sound
  | .error ts => ∀ t ∈ ts, t.Sound

/-- Where no token can be made, the last one says why. -/
lemma Sound.cut (h : s.Sound) {f : Failure} (hf : f.Early) :
    ∀ t ∈ .broken f :: s.settled, t.Sound := by
  refine List.forall_mem_cons.mpr ⟨?_, h.settled⟩
  rintro _ ⟨⟩
  exact hf

lemma Sound.step (h : s.Sound) : Steps s.step := by
  have hcomplete := h.complete
  have hnext := h.next
  unfold Layout.step
  split
  · generalize s.complete = r at hcomplete ⊢
    cases hcomplete with
    | ok h => exact h
    | error hf => exact h.cut hf
  · generalize s.next = r at hnext ⊢
    cases hnext with
    | ok h => exact h
    | error hf => exact h.cut hf

lemma Sound.run (h : s.Sound) (fuel : Nat) : ∀ t ∈ Layout.run Layout.step fuel s, t.Sound := by
  induction fuel generalizing s with
  | zero => exact h
  | succ fuel ih =>
    have hstep := h.step
    rw [Layout.run]
    generalize s.step = r at hstep ⊢
    cases r with
    | ok s => exact ih hstep
    | error ts => exact hstep

end Layout

/-- All tokens of a text are sound, and so is what says that there are no more of them. -/
theorem Token.sound_ofText (cs : List Char) : ∀ t ∈ ofText cs, t.Sound := by
  intro t ht
  exact Layout.Sound.run (s := { cursor := { rest := cs } }) nofun _ t (List.mem_reverse.mp ht)

end RestOperations.Yaml
