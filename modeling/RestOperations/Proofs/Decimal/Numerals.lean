import RestOperations.Proofs.Slot.Position

/-!
Which texts are numbers. An integer is a run of decimal digits, in which an underscore may stand
between two of them; a float is one with a point and an exponent besides, or a word. Either may have
a sign before it and blanks around it. Reading succeeds for these texts and for no others, but for
integers of too many digits.
-/

namespace RestOperations.Decimal

open Text (isDecimal decimalValue?)

/-! ### The grammar of numerals -/

/-- What may follow a digit in a run of digits, and how many digits that is. -/
inductive MoreDigits : List Char → Nat → Prop
  | nil : MoreDigits [] 0
  | digit {c : Char} {cs : List Char} {n : Nat} :
      isDecimal c = true → MoreDigits cs n → MoreDigits (c :: cs) (n + 1)
  | low {c : Char} {cs : List Char} {n : Nat} :
      isDecimal c = true → MoreDigits cs n → MoreDigits ('_' :: c :: cs) (n + 1)

/-- A run of so many digits. -/
inductive Digits : List Char → Nat → Prop
  | intro {c : Char} {cs : List Char} {n : Nat} :
      isDecimal c = true → MoreDigits cs n → Digits (c :: cs) (n + 1)

def signs : List (List Char) := [[], ['+'], ['-']]

/-- Digits with at most one point, which may also come first or last. -/
inductive Mantissa : List Char → Prop
  | whole {cs : List Char} {n : Nat} : Digits cs n → Mantissa cs
  | pointed {cs : List Char} {n : Nat} : Digits cs n → Mantissa (cs ++ ['.'])
  | fraction {cs : List Char} {n : Nat} : Digits cs n → Mantissa ('.' :: cs)
  | both {cs ds : List Char} {m n : Nat} : Digits cs m → Digits ds n → Mantissa (cs ++ '.' :: ds)

inductive Exponent : List Char → Prop
  | none : Exponent []
  | some {e : Char} {sign cs : List Char} {n : Nat} :
      e = 'e' ∨ e = 'E' → sign ∈ signs → Digits cs n → Exponent (e :: (sign ++ cs))

/-- The words for infinity and for no number, in any case. -/
def floatWords : List (List Char) := ["inf".toList, "infinity".toList, "nan".toList]

inductive FloatLiteral : List Char → Prop
  | word {cs : List Char} : cs.map Char.toLower ∈ floatWords → FloatLiteral cs
  | decimal {cs ds : List Char} : Mantissa cs → Exponent ds → FloatLiteral (cs ++ ds)

/-- The text is of this form, after a sign and between blanks. -/
def Signed (P : List Char → Prop) (s : String) : Prop :=
  ∃ before sign body after, s.toList = before ++ (sign ++ body) ++ after ∧
    (∀ c ∈ before, isNumeralBlank c = true) ∧ (∀ c ∈ after, isNumeralBlank c = true) ∧
    sign ∈ signs ∧ P body

/-- The text is an integer of no more digits than there may be. -/
def IsInteger (s : String) : Prop := Signed (fun cs => ∃ n, Digits cs n ∧ n ≤ digitLimit) s

def IsFloat (s : String) : Prop := Signed FloatLiteral s

/-! ### Runs of digits -/

/-- A run of digits does not go on here. -/
def Stops (cs : List Char) : Prop :=
  ∀ c more, cs = c :: more ∨ cs = '_' :: c :: more → isDecimal c = false

lemma isDecimal_low : isDecimal '_' = false := by decide

lemma exists_decimalValue {c : Char} (h : isDecimal c = true) : ∃ d, decimalValue? c = some d :=
  Option.isSome_iff_exists.mp h

lemma digitRun_digit {c : Char} (h : isDecimal c = true) (b : Bool) (cs : List Char) :
    ∃ d, digitRun b (c :: cs) = (d :: (digitRun true cs).1, (digitRun true cs).2) := by
  obtain ⟨d, hd⟩ := exists_decimalValue h
  have hc : c ≠ '_' := by
    rintro rfl
    cases isDecimal_low.symm.trans h
  refine ⟨d, ?_⟩
  rw [digitRun.eq_4 b c cs fun _ _ h' _ => hc h', hd]

lemma digitRun_low {c : Char} (h : isDecimal c = true) (cs : List Char) :
    ∃ d, digitRun true ('_' :: c :: cs) = (d :: (digitRun true cs).1, (digitRun true cs).2) := by
  obtain ⟨d, hd⟩ := exists_decimalValue h
  exact ⟨d, digitRun.eq_2 c cs d hd⟩

lemma decimalValue_eq_none {c : Char} (h : isDecimal c = false) : decimalValue? c = none :=
  Option.isNone_iff_eq_none.mp (by simpa [isDecimal] using h)

lemma digitRun_other {c : Char} (hc : c ≠ '_') (h : isDecimal c = false) (b : Bool)
    (cs : List Char) : digitRun b (c :: cs) = ([], c :: cs) := by
  rw [digitRun.eq_4 b c cs fun _ _ h' _ => hc h', decimalValue_eq_none h]

lemma digitRun_lone (b : Bool) : digitRun b ['_'] = ([], ['_']) := by
  have hcs (c : Char) (cs : List Char) : '_' = '_' → [] = c :: cs → False := nofun
  rw [digitRun.eq_4 b '_' [] hcs, decimalValue_eq_none isDecimal_low]

/-- Without a digit before it, a run starts with a digit or is empty. -/
lemma digitRun_none {c : Char} (h : isDecimal c = false) (cs : List Char) :
    digitRun false (c :: cs) = ([], c :: cs) := by
  by_cases hc : c = '_'
  · subst hc
    cases cs with
    | nil => exact digitRun_lone false
    | cons c cs => exact digitRun.eq_3 c cs false fun _ h => absurd h Bool.false_ne_true
  · exact digitRun_other hc h false cs

lemma digitRun_stop {cs : List Char} (h : Stops cs) (b : Bool) : digitRun b cs = ([], cs) := by
  cases cs with
  | nil => rw [digitRun]
  | cons c cs =>
    by_cases hc : c = '_'
    · subst hc
      cases cs with
      | nil => exact digitRun_lone b
      | cons c cs =>
        have hlow := decimalValue_eq_none (h c cs (.inr rfl))
        exact digitRun.eq_3 c cs b fun d _ hd => by simp [hlow] at hd
    · exact digitRun_other hc (h c cs (.inl rfl)) b cs

/-- A run of digits is read up to where it stops. -/
lemma digitRun_more {run rest : List Char} {n : Nat} (h : MoreDigits run n) (hrest : Stops rest) :
    ∃ ds, digitRun true (run ++ rest) = (ds, rest) ∧ ds.length = n := by
  induction h with
  | nil => exact ⟨[], digitRun_stop hrest true, rfl⟩
  | @digit c cs n hc _ ih =>
    obtain ⟨ds, hds, hlength⟩ := ih
    obtain ⟨d, hd⟩ := digitRun_digit hc true (cs ++ rest)
    rw [hds] at hd
    exact ⟨d :: ds, hd, by rw [List.length_cons, hlength]⟩
  | @low c cs n hc _ ih =>
    obtain ⟨ds, hds, hlength⟩ := ih
    obtain ⟨d, hd⟩ := digitRun_low hc (cs ++ rest)
    rw [hds] at hd
    exact ⟨d :: ds, hd, by rw [List.length_cons, hlength]⟩

lemma digitRun_digits_append {run rest : List Char} {n : Nat} (h : Digits run n)
    (hrest : Stops rest) : ∃ ds, digitRun false (run ++ rest) = (ds, rest) ∧ ds.length = n := by
  cases h with
  | @intro c cs n hc hmore =>
    obtain ⟨ds, hds, hlength⟩ := digitRun_more hmore hrest
    obtain ⟨d, hd⟩ := digitRun_digit hc false (cs ++ rest)
    rw [hds] at hd
    exact ⟨d :: ds, hd, by rw [List.length_cons, hlength]⟩

/-- What is read after a digit is a run of digits. -/
lemma moreDigits_digitRun (cs : List Char) :
    ∃ run, cs = run ++ (digitRun true cs).2 ∧ MoreDigits run (digitRun true cs).1.length ∧
      Stops (digitRun true cs).2 := by
  induction hn : cs.length using Nat.strong_induction_on generalizing cs with
  | _ n ih =>
    subst hn
    by_cases hstops : Stops cs
    · rw [digitRun_stop hstops]
      exact ⟨[], rfl, .nil, hstops⟩
    · simp only [Stops, not_forall, Bool.not_eq_false, exists_prop] at hstops
      obtain ⟨c, more, rfl | rfl, hc⟩ := hstops
      · obtain ⟨run, hrun, hmore, hrest⟩ := ih more.length (by simp) more rfl
        obtain ⟨d, hd⟩ := digitRun_digit hc true more
        rw [hd]
        exact ⟨c :: run, congrArg (c :: ·) hrun, .digit hc hmore, hrest⟩
      · obtain ⟨run, hrun, hmore, hrest⟩ :=
          ih more.length (by rw [List.length_cons, List.length_cons]; omega) more rfl
        obtain ⟨d, hd⟩ := digitRun_low hc more
        rw [hd]
        exact ⟨'_' :: c :: run, congrArg ('_' :: c :: ·) hrun,
          .low hc hmore, hrest⟩

/-- Nothing is read, or a run of digits up to where it stops. -/
lemma digits_digitRun (cs : List Char) :
    digitRun false cs = ([], cs) ∨
      ∃ run ds rest, digitRun false cs = (ds, rest) ∧ cs = run ++ rest ∧ Digits run ds.length ∧
        Stops rest := by
  cases cs with
  | nil => exact .inl (by rw [digitRun])
  | cons c cs =>
    cases hc : isDecimal c with
    | false => exact .inl (digitRun_none hc cs)
    | true =>
      obtain ⟨run, hrun, hmore, hrest⟩ := moreDigits_digitRun cs
      obtain ⟨d, hd⟩ := digitRun_digit hc false cs
      exact .inr ⟨c :: run, _, _, hd, congrArg (c :: ·) hrun, .intro hc hmore, hrest⟩

/-! ### Blanks and signs around a numeral -/

/-- Neither blanks nor a sign can be taken off the text. -/
structure Solid (body : List Char) : Prop where
  nonempty : body ≠ []
  noBlank : ∀ c ∈ body, isNumeralBlank c = false
  unsigned : ∀ c, body.head? = some c → c ≠ '+' ∧ c ≠ '-'

lemma dropBlank_append {before body : List Char} (hbefore : ∀ c ∈ before, isNumeralBlank c = true)
    (hbody : ∀ c, body.head? = some c → isNumeralBlank c = false) :
    (before ++ body).dropWhile isNumeralBlank = body := by
  rw [List.dropWhile_append_of_pos hbefore]
  cases body with
  | nil => rfl
  | cons c cs => rw [List.dropWhile_cons_of_neg (by simp [hbody c rfl])]

lemma trimNumeral_append {before body after : List Char}
    (hbefore : ∀ c ∈ before, isNumeralBlank c = true)
    (hafter : ∀ c ∈ after, isNumeralBlank c = true) (hne : body ≠ [])
    (hbody : ∀ c ∈ body, isNumeralBlank c = false) :
    trimNumeral (before ++ body ++ after) = body := by
  have hhead (tail : List Char) :
      ∀ c, (body ++ tail).head? = some c → isNumeralBlank c = false := by
    intro c hc
    rw [List.head?_append_of_ne_nil _ hne] at hc
    exact hbody c (List.mem_of_mem_head? hc)
  have hlast : ∀ c, body.reverse.head? = some c → isNumeralBlank c = false :=
    fun c hc => hbody c (List.mem_reverse.mp (List.mem_of_mem_head? hc))
  rw [trimNumeral, List.append_assoc, dropBlank_append hbefore (hhead after), List.reverse_append,
    dropBlank_append (by simpa using hafter) hlast, List.reverse_reverse]

/-- What is cut off around a numeral is blank. -/
lemma exists_trimNumeral (cs : List Char) :
    ∃ before after, cs = before ++ trimNumeral cs ++ after ∧
      (∀ c ∈ before, isNumeralBlank c = true) ∧ ∀ c ∈ after, isNumeralBlank c = true := by
  generalize hmid : cs.dropWhile isNumeralBlank = mid
  refine ⟨cs.takeWhile isNumeralBlank, (mid.reverse.takeWhile isNumeralBlank).reverse, ?_,
    fun c hc => List.mem_takeWhile_imp hc, fun c hc => List.mem_takeWhile_imp (List.mem_reverse.mp hc)⟩
  rw [trimNumeral, hmid, List.append_assoc, ← List.reverse_append, List.takeWhile_append_dropWhile,
    List.reverse_reverse, ← hmid, List.takeWhile_append_dropWhile]

lemma takeSign_append {sign body : List Char} (hsign : sign ∈ signs)
    (hbody : ∀ c, body.head? = some c → c ≠ '+' ∧ c ≠ '-') :
    (takeSign (sign ++ body)).2 = body := by
  simp only [signs, List.mem_cons, List.not_mem_nil, or_false] at hsign
  obtain rfl | rfl | rfl := hsign
  · rw [List.nil_append]
    unfold takeSign
    split
    · exact absurd rfl (hbody '-' rfl).2
    · exact absurd rfl (hbody '+' rfl).1
    · rfl
  · rfl
  · rfl

lemma exists_takeSign (cs : List Char) : ∃ sign ∈ signs, cs = sign ++ (takeSign cs).2 := by
  unfold takeSign
  split
  · exact ⟨['-'], by simp [signs], rfl⟩
  · exact ⟨['+'], by simp [signs], rfl⟩
  · exact ⟨[], by simp [signs], rfl⟩

lemma mem_signs {sign : List Char} {c : Char} (hsign : sign ∈ signs) (hc : c ∈ sign) :
    isNumeralBlank c = false := by
  have hall : signs.all (fun sign => sign.all fun c => !isNumeralBlank c) = true := by decide
  have hsigns := List.all_eq_true.mp (List.all_eq_true.mp hall sign hsign) c hc
  simpa using hsigns

/-- Where nothing can be taken off, it is the text without blanks and sign that counts. -/
lemma signed_iff {P : List Char → Prop} (hP : ∀ body, P body → Solid body) (s : String) :
    Signed P s ↔ P (takeSign (trimNumeral s.toList)).2 := by
  constructor
  · rintro ⟨before, sign, body, after, hs, hbefore, hafter, hsign, hbody⟩
    have hsolid := hP body hbody
    have hnoBlank : ∀ c ∈ sign ++ body, isNumeralBlank c = false := by
      intro c hc
      obtain hc | hc := List.mem_append.mp hc
      · exact mem_signs hsign hc
      · exact hsolid.noBlank c hc
    rw [hs, trimNumeral_append hbefore hafter (by simp [hsolid.nonempty]) hnoBlank,
      takeSign_append hsign hsolid.unsigned]
    exact hbody
  · intro h
    obtain ⟨before, after, hs, hbefore, hafter⟩ := exists_trimNumeral s.toList
    obtain ⟨sign, hsign, htrim⟩ := exists_takeSign (trimNumeral s.toList)
    exact ⟨before, sign, _, after, by rw [← htrim]; exact hs, hbefore, hafter, hsign, h⟩

/-! ### Integers -/

lemma not_isNumeralBlank {c : Char} (h : Text.isBlank c = false) : isNumeralBlank c = false := by
  rw [isNumeralBlank, h, Bool.false_and]

lemma mem_moreDigits {run : List Char} {n : Nat} (h : MoreDigits run n) :
    ∀ c ∈ run, isNumeralBlank c = false := by
  have hdigit {c : Char} (hc : isDecimal c = true) : isNumeralBlank c = false :=
    not_isNumeralBlank (Text.not_isBlank_of_isDecimal hc)
  induction h with
  | nil => simp
  | digit hc _ ih => exact List.forall_mem_cons.mpr ⟨hdigit hc, ih⟩
  | low hc _ ih =>
    exact List.forall_mem_cons.mpr ⟨by decide, List.forall_mem_cons.mpr ⟨hdigit hc, ih⟩⟩

lemma Digits.solid {run : List Char} {n : Nat} (h : Digits run n) : Solid run := by
  cases h with
  | @intro c cs n hc hmore =>
    refine ⟨List.cons_ne_nil _ _, List.forall_mem_cons.mpr
      ⟨not_isNumeralBlank (Text.not_isBlank_of_isDecimal hc), mem_moreDigits hmore⟩, ?_⟩
    rintro c ⟨⟩
    constructor
    · rintro rfl
      exact absurd hc (by decide)
    · rintro rfl
      exact absurd hc (by decide)

lemma stops_nil : Stops [] := by
  rintro c more (h | h) <;> cases h

/-- A run of digits that is all there is. -/
lemma digits_iff {cs : List Char} {n : Nat} :
    Digits cs n ↔ ∃ ds, digitRun false cs = (ds, []) ∧ ds.length = n ∧ 0 < n := by
  constructor
  · intro h
    obtain ⟨ds, hds, hlength⟩ := digitRun_digits_append h stops_nil
    rw [List.append_nil] at hds
    refine ⟨ds, hds, hlength, ?_⟩
    cases h
    exact Nat.succ_pos _
  · rintro ⟨ds, hds, hlength, hpos⟩
    obtain h | ⟨run, ds', rest, h, rfl, hrun, -⟩ := digits_digitRun cs
    · rw [h] at hds
      cases hds
      cases hlength
      exact absurd hpos (lt_irrefl 0)
    · rw [h] at hds
      cases hds
      rwa [List.append_nil, ← hlength]

/-- **An integer is read where one is written.** -/
theorem isOk_readInt_iff (s : String) : (readInt s).isOk = true ↔ IsInteger s := by
  rw [IsInteger, signed_iff (fun body h => h.choose_spec.1.solid), readInt]
  generalize takeSign (trimNumeral s.toList) = p
  obtain ⟨negative, cs⟩ := p
  dsimp only
  simp only [digits_iff]
  obtain ⟨ds, rest⟩ := digitRun false cs
  simp only [Prod.mk.injEq, List.isEmpty_iff, Bool.or_eq_true, beq_iff_eq]
  constructor
  · intro hok
    split_ifs at hok with hbad hlong hend
    · cases hok
    · cases hok
    · have hpos := List.length_pos_iff.mpr (not_or.mp hbad).1
      exact ⟨ds.length, ⟨ds, ⟨rfl, hend⟩, rfl, hpos⟩, Nat.not_lt.mp hlong⟩
    · cases hok
  · rintro ⟨n, ⟨_, ⟨rfl, rfl⟩, rfl, hpos⟩, hlimit⟩
    have hgood : ¬ (ds = [] ∨ ([] : List Char).head? = some '_') := by
      simp [List.length_pos_iff.mp hpos]
    rw [if_neg hgood, if_neg (Nat.not_lt.mpr hlimit), if_pos rfl]
    rfl

/-! ### Floats -/

lemma Stops.of_head {c : Char} (hc : c ≠ '_') (h : isDecimal c = false) (cs : List Char) :
    Stops (c :: cs) := by
  rintro d more (heq | heq)
  · cases heq
    exact h
  · exact absurd (List.cons_eq_cons.mp heq).1 hc

lemma isDecimal_exponent {e : Char} (h : e = 'e' ∨ e = 'E') : isDecimal e = false := by
  obtain rfl | rfl := h <;> decide

lemma Exponent.stops {cs : List Char} (h : Exponent cs) : Stops cs := by
  cases h with
  | none => exact stops_nil
  | @some e sign cs n he =>
    refine .of_head ?_ (isDecimal_exponent he) _
    obtain rfl | rfl := he <;> decide

/-- An exponent that is all there is. -/
lemma exponent_iff {cs : List Char} : Exponent cs ↔ ∃ e, takeExponent? cs = some (e, []) := by
  constructor
  · intro h
    cases h with
    | none => exact ⟨0, rfl⟩
    | @some e sign cs n he hsign hcs =>
      obtain ⟨ds, hds, hlength, hpos⟩ := digits_iff.mp hcs
      have hne : ds.isEmpty = false := by
        rw [List.isEmpty_eq_false_iff, ← List.length_pos_iff, hlength]
        exact hpos
      refine ⟨signed (takeSign (sign ++ cs)).1 (ofDigits 10 ds), ?_⟩
      simp only [takeExponent?, if_pos he, takeSign_append hsign hcs.solid.unsigned, hds, hne]
      rfl
  · rintro ⟨n, h⟩
    cases cs with
    | nil => exact .none
    | cons c cs =>
      rw [takeExponent?] at h
      obtain ⟨sign, hsign, hcs⟩ := exists_takeSign cs
      generalize takeSign cs = p at h hcs
      obtain ⟨negative, body⟩ := p
      dsimp only at h hcs
      generalize hrun : digitRun false body = run at h
      obtain ⟨ds, rest⟩ := run
      dsimp only at h
      split_ifs at h with hc hempty
      · cases h
        have hpos : 0 < ds.length := List.length_pos_iff.mpr (by simpa using hempty)
        rw [hcs]
        exact .some hc hsign (digits_iff.mpr ⟨ds, hrun, rfl, hpos⟩)
      · cases h

/-- The digits before and after the point, and what follows them. -/
def mantissa (cs : List Char) : (List Nat × List Nat) × List Char :=
  (((digitRun false cs).1, (takeFraction (digitRun false cs).2).1),
    (takeFraction (digitRun false cs).2).2)

lemma stops_point (cs : List Char) : Stops ('.' :: cs) := .of_head (by decide) (by decide) cs

lemma digitRun_point (b : Bool) (cs : List Char) : digitRun b ('.' :: cs) = ([], '.' :: cs) :=
  digitRun_stop (stops_point cs) b

lemma takeFraction_cases (cs : List Char) :
    (∃ more, cs = '.' :: more ∧ takeFraction cs = digitRun false more) ∨
      takeFraction cs = ([], cs) := by
  unfold takeFraction
  split
  · exact .inl ⟨_, rfl, rfl⟩
  · exact .inr rfl

lemma takeFraction_exponent {cs : List Char} (h : Exponent cs) : takeFraction cs = ([], cs) := by
  cases h with
  | none => rfl
  | some he => obtain rfl | rfl := he <;> rfl

/-- A mantissa is read up to where an exponent may start. -/
lemma mantissa_append {cs rest : List Char} (h : Mantissa cs) (hrest : Exponent rest) :
    ∃ whole fraction, mantissa (cs ++ rest) = ((whole, fraction), rest) ∧
      (whole ≠ [] ∨ fraction ≠ []) := by
  have hne {ds : List Nat} {n : Nat} {run : List Char} (hrun : Digits run n)
      (hds : ds.length = n) : ds ≠ [] := by
    obtain ⟨_, -, -, hpos⟩ := digits_iff.mp hrun
    exact List.length_pos_iff.mp (hds ▸ hpos)
  cases h with
  | whole hcs =>
    obtain ⟨ds, hds, hlength⟩ := digitRun_digits_append hcs hrest.stops
    refine ⟨ds, [], ?_, .inl (hne hcs hlength)⟩
    rw [mantissa, hds, takeFraction_exponent hrest]
  | @pointed cs n hcs =>
    obtain ⟨ds, hds, hlength⟩ := digitRun_digits_append hcs (stops_point rest)
    refine ⟨ds, [], ?_, .inl (hne hcs hlength)⟩
    rw [mantissa, List.append_assoc, List.singleton_append, hds, takeFraction,
      digitRun_stop hrest.stops]
  | @fraction cs n hcs =>
    obtain ⟨ds, hds, hlength⟩ := digitRun_digits_append hcs hrest.stops
    refine ⟨[], ds, ?_, .inr (hne hcs hlength)⟩
    rw [mantissa, List.cons_append, digitRun_point, takeFraction, hds]
  | @both cs cs' m n hcs hcs' =>
    obtain ⟨ds, hds, hlength⟩ := digitRun_digits_append hcs (stops_point (cs' ++ rest))
    obtain ⟨ds', hds', -⟩ := digitRun_digits_append hcs' hrest.stops
    refine ⟨ds, ds', ?_, .inl (hne hcs hlength)⟩
    rw [mantissa, List.append_assoc, List.cons_append, hds, takeFraction, hds']

/-- What is read as a mantissa is one. -/
lemma exists_mantissa {cs rest : List Char} {whole fraction : List Nat}
    (h : mantissa cs = ((whole, fraction), rest)) (hne : whole ≠ [] ∨ fraction ≠ []) :
    ∃ ds, cs = ds ++ rest ∧ Mantissa ds := by
  rw [mantissa] at h
  obtain hnone | ⟨run, ds, more, hread, rfl, hrun, -⟩ := digits_digitRun cs
  · rw [hnone] at h
    obtain ⟨more, rfl, htake⟩ | htake := takeFraction_cases cs
    · obtain hnone' | ⟨run, ds, rest', hread, rfl, hrun, -⟩ := digits_digitRun more
      · rw [htake, hnone'] at h
        cases h
        simp at hne
      · rw [htake, hread] at h
        cases h
        exact ⟨'.' :: run, rfl, .fraction hrun⟩
    · rw [htake] at h
      cases h
      simp at hne
  · rw [hread] at h
    obtain ⟨more, rfl, htake⟩ | htake := takeFraction_cases more
    · obtain hnone' | ⟨run', ds', rest', hread', rfl, hrun', -⟩ := digits_digitRun more
      · rw [htake, hnone'] at h
        cases h
        exact ⟨run ++ ['.'], by simp, .pointed hrun⟩
      · rw [htake, hread'] at h
        cases h
        exact ⟨run ++ '.' :: run', by simp, .both hrun hrun'⟩
    · rw [htake] at h
      cases h
      exact ⟨run, rfl, .whole hrun⟩

/-! ### What stands between the blanks -/

lemma Solid.append {cs ds : List Char} (h : Solid cs) (hds : ∀ c ∈ ds, isNumeralBlank c = false) :
    Solid (cs ++ ds) where
  nonempty := by simp [h.nonempty]
  noBlank := List.forall_mem_append.mpr ⟨h.noBlank, hds⟩
  unsigned := by
    rw [List.head?_append_of_ne_nil _ h.nonempty]
    exact h.unsigned

lemma Solid.point {cs : List Char} (h : ∀ c ∈ cs, isNumeralBlank c = false) : Solid ('.' :: cs) where
  nonempty := List.cons_ne_nil _ _
  noBlank := List.forall_mem_cons.mpr ⟨by decide, h⟩
  unsigned := by
    rintro c ⟨⟩
    decide

lemma Mantissa.solid {cs : List Char} (h : Mantissa cs) : Solid cs := by
  cases h with
  | whole hcs => exact hcs.solid
  | pointed hcs => exact hcs.solid.append (List.forall_mem_singleton.mpr (by decide))
  | fraction hcs => exact .point hcs.solid.noBlank
  | both hcs hds => exact hcs.solid.append (Solid.point hds.solid.noBlank).noBlank

lemma Exponent.noBlank {cs : List Char} (h : Exponent cs) :
    ∀ c ∈ cs, isNumeralBlank c = false := by
  cases h with
  | none => simp
  | some he hsign hcs =>
    refine List.forall_mem_cons.mpr ⟨?_, List.forall_mem_append.mpr
      ⟨fun c => mem_signs hsign, hcs.solid.noBlank⟩⟩
    obtain rfl | rfl := he <;> decide

/-- Blanks are no capital letters. -/
lemma toLower_of_isNumeralBlank {c : Char} (h : isNumeralBlank c = true) : c.toLower = c := by
  unfold Char.toLower
  split
  · next hcapital =>
    have hapart : ∀ r ∈ Text.blankRanges, r.2 < 65 ∨ 90 < r.1 := by decide
    have hblank : Text.isBlank c = false := Text.not_isBlank_of_apart fun r hr => by
      have hr := hapart r hr
      have hleast : 65 ≤ c.toNat := hcapital.1
      have hmost : c.toNat ≤ 90 := hcapital.2
      omega
    rw [not_isNumeralBlank hblank] at h
    cases h
  · rfl

lemma solid_word {cs : List Char} (h : cs.map Char.toLower ∈ floatWords) : Solid cs := by
  have hwords : ∀ w ∈ floatWords, w ≠ [] ∧ '+' ∉ w ∧ '-' ∉ w := by decide
  have hblanks : floatWords.all (fun w => w.all fun c => !isNumeralBlank c) = true := by decide
  obtain ⟨hne, hplus, hminus⟩ := hwords _ h
  have hblank := List.all_eq_true.mp (List.all_eq_true.mp hblanks _ h)
  refine ⟨fun hnil => hne (by rw [hnil]; rfl), fun c hc => ?_, fun c hc => ⟨?_, ?_⟩⟩
  · refine Bool.eq_false_iff.mpr fun hcblank => ?_
    have hmem := hblank c.toLower (List.mem_map_of_mem hc)
    rw [toLower_of_isNumeralBlank hcblank, hcblank] at hmem
    exact Bool.false_ne_true hmem
  · rintro rfl
    exact hplus (List.mem_map.mpr ⟨'+', List.mem_of_mem_head? hc, rfl⟩)
  · rintro rfl
    exact hminus (List.mem_map.mpr ⟨'-', List.mem_of_mem_head? hc, rfl⟩)

lemma FloatLiteral.solid {cs : List Char} (h : FloatLiteral cs) : Solid cs := by
  cases h with
  | word hcs => exact solid_word hcs
  | decimal hcs hds => exact hcs.solid.append hds.noBlank

lemma mem_floatWords_iff {cs : List Char} :
    cs ∈ floatWords ↔ (String.ofList cs = "inf" ∨ String.ofList cs = "infinity") ∨
      String.ofList cs = "nan" := by
  have hword (s : String) : String.ofList cs = s ↔ cs = s.toList :=
    ⟨fun h => by rw [← h, String.toList_ofList], fun h => by rw [h, String.ofList_toList]⟩
  simp only [floatWords, List.mem_cons, List.not_mem_nil, or_false, hword, or_assoc]

/-- **A float is read where one is written.** -/
theorem isSome_readFloat?_iff (s : String) : (readFloat? s).isSome = true ↔ IsFloat s := by
  rw [IsFloat, signed_iff (fun _ => FloatLiteral.solid), readFloat?]
  generalize takeSign (trimNumeral s.toList) = p
  obtain ⟨negative, cs⟩ := p
  dsimp only
  by_cases hword : cs.map Char.toLower ∈ floatWords
  · refine iff_of_true ?_ (.word hword)
    obtain h | h := mem_floatWords_iff.mp hword
    · rw [if_pos h]
      rfl
    · rw [if_pos h]
      split <;> rfl
  · have hnot := mt mem_floatWords_iff.mpr hword
    rw [if_neg (not_or.mp hnot).1, if_neg (not_or.mp hnot).2]
    rcases hread : digitRun false cs with ⟨whole, more⟩
    rcases htake : takeFraction more with ⟨fraction, rest⟩
    have hmantissa : mantissa cs = ((whole, fraction), rest) := by
      rw [mantissa, hread, htake]
    dsimp only
    constructor
    · intro h
      split at h
      · cases h
      · next hempty =>
        have hne : whole ≠ [] ∨ fraction ≠ [] := by
          rwa [Bool.and_eq_true, not_and_or, List.isEmpty_iff, List.isEmpty_iff] at hempty
        obtain ⟨ds, rfl, hds⟩ := exists_mantissa hmantissa hne
        split at h
        · next e hexponent => exact .decimal hds (exponent_iff.mpr ⟨e, hexponent⟩)
        · cases h
    · rintro (h | ⟨hcs, hds⟩)
      · exact absurd h hword
      · obtain ⟨whole', fraction', hread', hne⟩ := mantissa_append hcs hds
        rw [hmantissa] at hread'
        cases hread'
        obtain ⟨e, he⟩ := exponent_iff.mp hds
        have hempty : (whole.isEmpty && fraction.isEmpty) = false := by
          rw [Bool.and_eq_false_iff, List.isEmpty_eq_false_iff, List.isEmpty_eq_false_iff]
          exact hne
        rw [hempty, he]
        rfl

end RestOperations.Decimal
