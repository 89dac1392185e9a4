import RestOperations.Proofs.Slot.Position

/-!
What a slot makes of an argument, and when it is at a loss. Most of what is wrong with an argument
is reported as a fault of the call. Two things are not: an infinite number that should be an
integer, and a JSON text whose collections lie too deep in each other.
-/

namespace RestOperations

namespace Conversion

/-- Whatever the conversion does not like about the value, it can report. -/
def Copes [Json.Depth] : Conversion → Value → Prop
  | integer, .float x => ∀ negative, Decimal.classify x ≠ .infinite negative
  | object, .str s => ∀ e, Json.read s = .error e → e.isTooDeep = false
  | _, _ => True

lemma isBeyond_ofNumeral (s : String) (e : Decimal.NumeralError) :
    (ConvertError.ofNumeral s e).isBeyond = false := by
  cases e <;> rfl

@[simp] lemma isBeyond_ofOctets (bs : List UInt8) (e : ConvertError) :
    (e.ofOctets bs).isBeyond = e.isBeyond := by
  cases e <;> rfl

lemma readInteger_reports {s : String} {e : ConvertError} (h : readInteger s = .error e) :
    e.isBeyond = false := by
  obtain ⟨e', -, rfl⟩ := mapError_eq_error.mp h
  exact isBeyond_ofNumeral s e'

lemma toInteger_reports {v : Value} {e : ConvertError} (h : toInteger v = .error e) :
    e.isBeyond = true ↔ ∃ x negative, v = .float x ∧ Decimal.classify x = .infinite negative := by
  cases v with
  | float x =>
    cases hx : Decimal.classify x <;> simp only [toInteger, hx] at h <;> cases h <;>
      simp [ConvertError.isBeyond, hx]
  | str s => simp [readInteger_reports (e := e) h]
  | octets bs =>
    obtain ⟨e', he', rfl⟩ := mapError_eq_error.mp h
    simp [isBeyond_ofOctets, readInteger_reports he']
  | null => cases h; simp [ConvertError.isBeyond]
  | _ => cases h <;> simp [ConvertError.isBeyond]

lemma readNumber_reports {s : String} {e : ConvertError} (h : readNumber s = .error e) :
    e.isBeyond = false := by
  unfold readNumber at h
  split at h
  · cases h
  · split at h <;> cases h
    rfl

lemma toNumber_reports {v : Value} {e : ConvertError} (h : toNumber v = .error e) :
    e.isBeyond = false := by
  unfold toNumber at h
  split at h
  · cases h
  · exact readNumber_reports h
  · obtain ⟨e', he', rfl⟩ := mapError_eq_error.mp h
    rw [isBeyond_ofOctets, readNumber_reports he']
  · next hfloat _ _ =>
    rw [← Bool.not_eq_true, toInteger_reports (map_eq_error.mp h)]
    rintro ⟨x, _, rfl, -⟩
    exact hfloat x rfl

lemma toBoolean_reports {v : Value} {e : ConvertError} (h : toBoolean v = .error e) :
    e.isBeyond = false := by
  unfold toBoolean at h
  split at h
  · dsimp only at h
    split_ifs at h
    cases h
    rfl
  · cases h

lemma toText_reports {v : Value} {e : ConvertError} (h : toText v = .error e) :
    e.isBeyond = false := by
  unfold toText at h
  split at h
  · cases h
  · obtain ⟨e', -, rfl⟩ := mapError_eq_error.mp h
    rfl

/-- The conversion is at a loss exactly where it does not cope. -/
theorem isBeyond_apply [Json.Depth] (c : Conversion) (v : Value) :
    (∀ e, c.apply v = .error e → e.isBeyond = false) ↔ c.Copes v := by
  cases c with
  | string => exact ⟨fun _ => by simp [Copes], fun _ _ h => toText_reports h⟩
  | number => exact ⟨fun _ => by simp [Copes], fun _ _ h => toNumber_reports h⟩
  | boolean =>
    exact ⟨fun _ => by simp [Copes], fun _ _ h => toBoolean_reports (map_eq_error.mp h)⟩
  | integer =>
    have key : (∃ x negative, v = .float x ∧ Decimal.classify x = .infinite negative) ↔
        ¬ Copes integer v := by
      cases v with
      | float x =>
        simp only [Copes, not_forall, not_not]
        constructor
        · rintro ⟨_, negative, ⟨rfl⟩, hx⟩
          exact ⟨negative, hx⟩
        · rintro ⟨negative, hx⟩
          exact ⟨x, negative, rfl, hx⟩
      | _ => simp [Copes]
    constructor
    · intro h
      by_contra hc
      obtain ⟨x, negative, rfl, hx⟩ := key.mpr hc
      have := h .infinite (by simp [apply, toInteger, hx, Except.map])
      cases this
    · intro hc e h
      rw [← Bool.not_eq_true, toInteger_reports (map_eq_error.mp h), key]
      exact not_not.mpr hc
  | object =>
    cases v with
    | str s =>
      simp only [apply, toObject, mapError_eq_error, Copes]
      constructor
      · exact fun h e he => h _ ⟨e, he, rfl⟩
      · rintro h _ ⟨e, he, rfl⟩
        exact h e he
    | _ => simp [apply, toObject, Copes]
  | other name => simp [apply, Copes]

end Conversion

namespace Slot

lemma isBinding_cannotConvert (s : Slot) (e : ConvertError) :
    (Fault.cannotConvert s e).isBinding = !e.isBeyond := by
  cases e with
  | notJson e =>
    cases h : e.isTooDeep <;> simp [Fault.isBinding, Fault.group, ConvertError.isBeyond, h]
  | _ => rfl

/-- The slot can make something of the value, or report why not. -/
def Copes [Json.Depth] (s : Slot) (v : Value) : Prop := ∀ c, s.conversion = some c → c.Copes v

theorem contained_convert [Json.Depth] (s : Slot) (v : Value) :
    Contained (s.convert v) ↔ s.Copes v := by
  unfold convert Copes
  cases s.conversion with
  | none => simp
  | some c =>
    simp only [Contained, FaultsIn, mapError_eq_error, Option.some.injEq, forall_eq',
      ← c.isBeyond_apply v]
    constructor
    · intro h e he
      simpa [isBinding_cannotConvert] using h _ ⟨e, he, rfl⟩
    · rintro h _ ⟨e, he, rfl⟩
      simpa [isBinding_cannotConvert] using h e he

end Slot

end RestOperations
