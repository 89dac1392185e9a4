import RestOperations.Proofs.Json.Data
import RestOperations.Proofs.Outcome
import RestOperations.Slot.Convert

/-!
Places in values, within maps and lists to any depth. What stands around a place is written as it is,
whatever the place holds.
-/

namespace RestOperations

namespace Json

variable {style : Style}

lemma writeItems_cons_eq (style : Style) (x : Value) (xs : List Value) :
    writeItems style (x :: xs) = ((writeChars style x).map fun cs => [cs]) >>= fun here =>
      (writeItems style xs).map (here ++ ·) := by
  rw [writeItems]
  cases writeChars style x <;> cases writeItems style xs <;> rfl

/-- The text of a member of a map. -/
def writeMember (style : Style) (m : Value × Value) : Except WriteError (List Char) :=
  writeKey m.1 >>= fun key => (writeChars style m.2).map fun cs => key ++ style.keySeparator ++ cs

lemma writeMembers_cons_eq (style : Style) (m : Value × Value) (ms : List (Value × Value)) :
    writeMembers style (m :: ms) = ((writeMember style m).map fun cs => [cs]) >>= fun here =>
      (writeMembers style ms).map (here ++ ·) := by
  rw [writeMembers, writeMember]
  cases writeKey m.1 <;> cases writeChars style m.2 <;> cases writeMembers style ms <;> rfl

/-- Each part but the first has a separator before it. -/
lemma joined_first (separator part : List Char) (back : List (List Char)) :
    joined separator (part :: back) = part ++ back.flatMap (separator ++ ·) := by
  induction back generalizing part with
  | nil => simp [joined]
  | cons next back ih =>
    rw [joined_cons separator part (by simp), ih]
    simp

lemma joined_around (separator part : List Char) (front back : List (List Char)) :
    joined separator (front ++ part :: back) =
      front.flatMap (· ++ separator) ++ part ++ back.flatMap (separator ++ ·) := by
  induction front with
  | nil => simp [joined_first]
  | cons first front ih =>
    rw [List.cons_append, joined_cons separator first (by simp), ih]
    simp

end Json

namespace Value

/-- A place in a value, with all that stands around it. -/
inductive Place
  | here
  | member (before : List (Value × Value)) (key : Value) (inner : Place)
      (after : List (Value × Value))
  | item (before : List Value) (inner : Place) (after : List Value)

namespace Place

/-- The whole value, if this is at the place. -/
def holding : Place → Value → Value
  | here, v => v
  | member before key inner after, v => .map (before ++ (key, inner.holding v) :: after)
  | item before inner after, v => .list (before ++ inner.holding v :: after)

lemma isNull_holding {v : Value} (hv : v.isNull = false) (p : Place) :
    (p.holding v).isNull = false := by
  cases p with
  | here => exact hv
  | member => rfl
  | item => rfl

open Json in
/-- The JSON text on both sides of the place. -/
def written (style : Style) : Place → Except WriteError (List Char × List Char)
  | here => .ok ([], [])
  | member before key inner after => do
    let front ← writeMembers style before
    let key ← writeKey key
    let sides ← inner.written style
    let back ← writeMembers style after
    return ('{' :: front.flatMap (· ++ style.itemSeparator) ++ key ++ style.keySeparator ++ sides.1,
      sides.2 ++ back.flatMap (style.itemSeparator ++ ·) ++ ['}'])
  | item before inner after => do
    let front ← writeItems style before
    let sides ← inner.written style
    let back ← writeItems style after
    return ('[' :: front.flatMap (· ++ style.itemSeparator) ++ sides.1,
      sides.2 ++ back.flatMap (style.itemSeparator ++ ·) ++ [']'])

open Json in
/-- The text of what the place holds stands between two texts that have nothing to do with it. -/
theorem writeChars_holding {style : Style} {v : Value} {cs : List Char}
    (h : writeChars style v = .ok cs) (p : Place) :
    writeChars style (p.holding v) =
      (p.written style).map fun sides => sides.1 ++ cs ++ sides.2 := by
  induction p with
  | here =>
    rw [holding, h]
    simp [written, Except.map]
  | member before key inner after ih =>
    have hmember : ((writeMember style (key, inner.holding v)).map fun cs => [cs]) =
        (writeKey key >>= fun key => (inner.written style).map fun sides =>
          key ++ style.keySeparator ++ (sides.1 ++ cs ++ sides.2)).map fun cs => [cs] := by
      rw [writeMember, ih]
      cases writeKey key <;> cases inner.written style <;> rfl
    rw [holding, writeChars,
      around_of_cons (f := writeMembers style) rfl (writeMembers_cons_eq style) hmember, written]
    cases writeMembers style before <;> cases writeKey key <;> cases inner.written style <;>
      cases writeMembers style after <;> simp [Except.map, joined_around]
  | item before inner after ih =>
    have hitem : ((writeChars style (inner.holding v)).map fun cs => [cs]) =
        (inner.written style).map fun sides => [sides.1 ++ cs ++ sides.2] := by
      rw [ih]
      cases inner.written style <;> rfl
    rw [holding, writeChars,
      around_of_cons (f := writeItems style) rfl (writeItems_cons_eq style) hitem, written]
    cases writeItems style before <;> cases inner.written style <;> cases writeItems style after <;>
      simp [Except.map, joined_around]

/-- A collection is text as JSON. -/
lemma inText_holding {p : Place} (hp : p ≠ here) {v : Value} {s : String}
    (h : Json.text v = .ok s) :
    (p.holding v).inText =
      (p.written .spaced).map fun sides =>
        String.ofList sides.1 ++ s ++ String.ofList sides.2 := by
  obtain ⟨cs, hcs, rfl⟩ := map_eq_ok.mp h
  have hjson : (p.holding v).inText = Json.text (p.holding v) := by
    cases p with
    | here => exact absurd rfl hp
    | member => rfl
    | item => rfl
  rw [hjson, Json.text, Json.write, writeChars_holding hcs]
  cases p.written .spaced with
  | error e => rfl
  | ok sides => simp [Except.map, String.append_assoc]

end Place

end Value

end RestOperations
