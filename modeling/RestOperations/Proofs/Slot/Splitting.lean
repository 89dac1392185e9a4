import RestOperations.Proofs.Slot.Occurrence

/-!
The parts of simple texts. A text without braces is a single part, and so is what stands before the
first brace of any text.
-/

namespace RestOperations.Part

open SlotSyntax

variable {d : Destination}

lemma read?_of_ne {c : Char} (h : c ≠ '{') (cs : List Char) : read? (c :: cs) = none := by
  simp [read?, h]

/-- Text without a brace is gathered as it is. -/
lemma splitFrom_plain {before : List Char} (h : '{' ∉ before) (gathered : List Char) (fuel : Nat)
    (rest : List Char) :
    splitFrom d gathered (before.length + fuel) (before ++ rest) =
      splitFrom d (before.reverse ++ gathered) fuel rest := by
  induction before generalizing gathered with
  | nil => simp
  | cons c before ih =>
    have hc : c ≠ '{' := fun heq => h (by simp [heq])
    have hbefore : '{' ∉ before := fun hmem => h (List.mem_cons_of_mem _ hmem)
    have hlength : (c :: before).length + fuel = before.length + fuel + 1 := by
      rw [List.length_cons]
      omega
    rw [hlength, List.cons_append, splitFrom, read?_of_ne hc]
    dsimp only
    rw [ih hbefore, List.reverse_cons, List.append_assoc, List.singleton_append]

lemma splitFrom_nil (gathered : List Char) (fuel : Nat) :
    splitFrom d gathered fuel [] = .ok (flush gathered) := by
  cases fuel <;> rfl

lemma flush_reverse {cs : List Char} (h : cs ≠ []) : flush cs.reverse = [text (String.ofList cs)] := by
  rw [flush, if_neg (by simpa using h), List.reverse_reverse]

/-- A text without braces is one part. -/
lemma split_plain {s : String} (hne : s.toList ≠ []) (h : '{' ∉ s.toList) :
    split s d = .ok [text s] := by
  have hsplit := splitFrom_plain (d := d) h [] 0 []
  rw [List.append_nil, Nat.add_zero, splitFrom_nil, List.append_nil, flush_reverse hne,
    String.ofList_toList] at hsplit
  rw [split, ← String.length_toList, hsplit]

/-- A text as a part, if there is any of it. -/
def optional (s : String) : List Part := flush s.toList.reverse

@[simp] lemma optional_empty : optional "" = [] := rfl

lemma optional_of_ne {s : String} (h : s ≠ "") : optional s = [text s] := by
  rw [optional, flush_reverse (mt String.toList_eq_nil_iff.mp h), String.ofList_toList]

/-- A slot with text without braces on both sides, where there is any. -/
lemma split_around {before after : String} {s : SlotSyntax} {slot : Slot}
    (hbefore : '{' ∉ before.toList) (hafter : '{' ∉ after.toList) (hs : s.WellFormed)
    (hslot : s.toSlot d = .ok slot) :
    split (before ++ String.ofList s.source ++ after) d =
      .ok (optional before ++ Part.slot slot :: optional after) := by
  have hsource : s.source = '{' :: s.source.tail := by
    have happend := source_append s []
    rw [List.append_nil] at happend
    rw [happend]
    rfl
  have hread : read? ('{' :: (s.source.tail ++ after.toList)) = some (s, after.toList) := by
    rw [← List.cons_append, ← hsource]
    exact read?_source hs after.toList
  have hlength : (before ++ String.ofList s.source ++ after).length =
      before.toList.length + (after.toList.length + s.source.tail.length + 1) := by
    rw [← String.length_toList, String.toList_append, String.toList_append, List.length_append,
      List.length_append, String.toList_ofList, hsource, List.length_cons, List.tail_cons]
    omega
  have hrest : splitFrom d [] (after.toList.length + s.source.tail.length) after.toList =
      .ok (optional after) := by
    have hplain := splitFrom_plain (d := d) hafter [] s.source.tail.length []
    rwa [List.append_nil, List.append_nil, splitFrom_nil] at hplain
  rw [split, hlength, String.toList_append, String.toList_append, String.toList_ofList,
    List.append_assoc, splitFrom_plain hbefore, List.append_nil, hsource, List.cons_append, splitFrom,
    List.tail_cons, hread]
  dsimp only
  rw [hslot, ok_bind, hrest]
  rfl

/-- Text without braces, and a slot at its end. -/
lemma split_slot {before : String} {s : SlotSyntax} {slot : Slot} (hne : before ≠ "")
    (h : '{' ∉ before.toList) (hs : s.WellFormed) (hslot : s.toSlot d = .ok slot) :
    split (before ++ String.ofList s.source) d = .ok [text before, Part.slot slot] := by
  have hnothing : '{' ∉ "".toList := by simp
  have hsplit := split_around h hnothing hs hslot
  rw [String.append_empty, optional_of_ne hne, optional_empty] at hsplit
  exact hsplit

end RestOperations.Part
