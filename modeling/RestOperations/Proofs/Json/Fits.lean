import RestOperations.Proofs.Outcome

/-!
Which values have a text. JSON wants integers of a bounded length, scalars for keys, and a form for
every value that a style does not write a stand-in for; within a URL or a text only collections are
JSON. Here the conditions are read off the value alone, and they are shown to be exact.
-/

namespace RestOperations

namespace Json

/-- A key that can be written: a scalar, and no integer of too many digits. -/
def keyFits : Value → Bool
  | .str _ => true
  | .null => true
  | .bool _ => true
  | .int n => Decimal.isWritable n
  | .float _ => true
  | _ => false

mutual

/-- The value can be written in the style. -/
def fits (style : Style) : Value → Bool
  | .null => true
  | .bool _ => true
  | .int n => Decimal.isWritable n
  | .float _ => true
  | .str _ => true
  | .list xs => itemsFit style xs
  | .tuple xs => itemsFit style xs
  | .map ms => membersFit style ms
  | v => (style.substitute v).isSome

def itemsFit (style : Style) : List Value → Bool
  | [] => true
  | x :: xs => fits style x && itemsFit style xs

def membersFit (style : Style) : List (Value × Value) → Bool
  | [] => true
  | (k, v) :: ms => keyFits k && fits style v && membersFit style ms

end

lemma isOk_writeInt? (n : Int) : (writeInt? n).isOk = Decimal.isWritable n := by
  unfold writeInt?
  split <;> simp_all [Except.isOk, Except.toBool]

lemma isOk_writeKey (k : Value) : (writeKey k).isOk = keyFits k := by
  cases k with
  | int n => simp only [writeKey, isOk_map, isOk_writeInt?, keyFits]
  | _ => rfl

lemma isOk_writeOther (style : Style) (v : Value) :
    (writeOther style v).isOk = (style.substitute v).isSome := by
  unfold writeOther
  split <;> simp_all [Except.isOk, Except.toBool]

mutual

/-- A value can be written exactly if it fits. -/
theorem isOk_writeChars (style : Style) : ∀ v, (writeChars style v).isOk = fits style v
  | .null => rfl
  | .bool _ => rfl
  | .int n => by rw [writeChars, isOk_writeInt?, fits]
  | .float _ => rfl
  | .str _ => rfl
  | .list xs => by
    have ih := isOk_writeItems style xs
    rw [fits, ← ih, writeChars]
    cases writeItems style xs <;> rfl
  | .tuple xs => by
    have ih := isOk_writeItems style xs
    rw [fits, ← ih, writeChars]
    cases writeItems style xs <;> rfl
  | .map ms => by
    have ih := isOk_writeMembers style ms
    rw [fits, ← ih, writeChars]
    cases writeMembers style ms <;> rfl
  | .set xs => by simp only [writeChars, isOk_writeOther, fits]
  | .octets bs => by simp only [writeChars, isOk_writeOther, fits]
  | .date d => by simp only [writeChars, isOk_writeOther, fits]
  | .moment m => by simp only [writeChars, isOk_writeOther, fits]
  | .function kind => by simp only [writeChars, isOk_writeOther, fits]

theorem isOk_writeItems (style : Style) : ∀ xs, (writeItems style xs).isOk = itemsFit style xs
  | [] => rfl
  | x :: xs => by
    have hx := isOk_writeChars style x
    have hxs := isOk_writeItems style xs
    rw [itemsFit, ← hx, ← hxs, writeItems]
    cases writeChars style x <;> cases writeItems style xs <;> rfl

theorem isOk_writeMembers (style : Style) :
    ∀ ms, (writeMembers style ms).isOk = membersFit style ms
  | [] => rfl
  | (k, v) :: ms => by
    have hv := isOk_writeChars style v
    have hms := isOk_writeMembers style ms
    rw [membersFit, ← isOk_writeKey, ← hv, ← hms, writeMembers]
    cases writeKey k <;> cases writeChars style v <;> cases writeMembers style ms <;> rfl

end

@[simp] theorem isOk_write (style : Style) (v : Value) : (write style v).isOk = fits style v := by
  rw [write, isOk_map, isOk_writeChars]

@[simp] theorem isOk_text (v : Value) : (text v).isOk = fits .spaced v := isOk_write .spaced v

/-! ### Values that JSON has -/

mutual

/-- The value is one that JSON has: null, a truth value, an integer that is not too long, a finite
number, a text, a list, or a map with texts for keys. -/
def isJson : Value → Bool
  | .null => true
  | .bool _ => true
  | .int n => Decimal.isWritable n
  | .float x => Decimal.isFinite x
  | .str _ => true
  | .list xs => itemsAreJson xs
  | .map ms => membersAreJson ms
  | _ => false

def itemsAreJson : List Value → Bool
  | [] => true
  | x :: xs => isJson x && itemsAreJson xs

def membersAreJson : List (Value × Value) → Bool
  | [] => true
  | (.str _, v) :: ms => isJson v && membersAreJson ms
  | _ => false

end

lemma membersAreJson_cons {key v : Value} {ms : List (Value × Value)}
    (h : membersAreJson ((key, v) :: ms) = true) :
    ∃ k, key = .str k ∧ isJson v = true ∧ membersAreJson ms = true := by
  cases key with
  | str k =>
    rw [membersAreJson, Bool.and_eq_true] at h
    exact ⟨k, rfl, h⟩
  | _ => cases h

mutual

/-- What JSON has can be written. -/
theorem fits_of_isJson (style : Style) : ∀ v, isJson v = true → fits style v = true
  | .null => fun _ => rfl
  | .bool _ => fun _ => rfl
  | .int n => fun h => by
    rw [isJson] at h
    rw [fits, h]
  | .float _ => fun _ => rfl
  | .str _ => fun _ => rfl
  | .list xs => fun h => by
    rw [isJson] at h
    rw [fits, itemsFit_of_isJson style xs h]
  | .map ms => fun h => by
    rw [isJson] at h
    rw [fits, membersFit_of_isJson style ms h]
  | .tuple _ => nofun
  | .set _ => nofun
  | .octets _ => nofun
  | .date _ => nofun
  | .moment _ => nofun
  | .function _ => nofun

theorem itemsFit_of_isJson (style : Style) : ∀ xs, itemsAreJson xs = true → itemsFit style xs = true
  | [], _ => rfl
  | x :: xs, h => by
    rw [itemsAreJson, Bool.and_eq_true] at h
    rw [itemsFit, fits_of_isJson style x h.1, itemsFit_of_isJson style xs h.2]
    rfl

theorem membersFit_of_isJson (style : Style) :
    ∀ ms, membersAreJson ms = true → membersFit style ms = true
  | [], _ => rfl
  | (key, v) :: ms, h => by
    obtain ⟨k, rfl, hv, hms⟩ := membersAreJson_cons h
    rw [membersFit, fits_of_isJson style v hv, membersFit_of_isJson style ms hms]
    rfl

end

lemma exists_text {v : Value} (h : isJson v = true) : ∃ t, text v = .ok t :=
  isOk_iff.mp (by rw [isOk_text, fits_of_isJson _ v h])

end Json

namespace Value

/-- The value has a text of its own within other text. -/
def fitsText : Value → Bool
  | list xs => Json.fits .spaced (list xs)
  | map ms => Json.fits .spaced (map ms)
  | v => v.isWritable

theorem isOk_inText (v : Value) : v.inText.isOk = v.fitsText := by
  have plain (w : Value) :
      (if w.isWritable then .ok w.text else .error .tooManyDigits :
        Except Json.WriteError String).isOk = w.isWritable := by
    cases w.isWritable <;> rfl
  cases v with
  | list xs => rw [inText, Json.isOk_text, fitsText]
  | map ms => rw [inText, Json.isOk_text, fitsText]
  | bool b => rfl
  | _ =>
    simp only [inText, fitsText]
    exact plain _

end Value

end RestOperations
