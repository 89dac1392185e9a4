import RestOperations.Proofs.Outcome
import RestOperations.Proofs.Slot.Grammar
import RestOperations.Proofs.Value.Members
import RestOperations.Query.Evaluate
import RestOperations.Scope

/-!
Expressions that take one argument of the call, such as `arguments.name`. A name that is no word of
the language is read as one, and the path of the two names yields the argument as it is, where this is
a text, an integer or a truth value.
-/

namespace RestOperations.Query

namespace Token

open SlotSyntax (Ends takeWhile_run dropWhile_run)

/-- The character may start a name. -/
structure StartsName (c : Char) : Prop where
  name : isNameChar c = true
  digit : c.isDigit = false
  other : c ∉ ['"', '\'', '\x60', '$']

variable {c : Char} {cs rest : List Char}

lemma isNameChar_iff : isNameChar c = true ↔ isSpace c = false ∧ isOperatorChar c = false := by
  simp [isNameChar]

lemma ne_of_isNameChar {d : Char} (hc : isNameChar c = true) (hd : isNameChar d = false) : c ≠ d := by
  rintro rfl
  rw [hc] at hd
  cases hd

lemma skipSpace_cons {fuel : Nat} (hspace : isSpace c = false) (hslash : c ≠ '/') :
    skipSpace (fuel + 1) (c :: cs) = .ok (c :: cs) := by
  rw [skipSpace, List.dropWhile_cons_of_neg (by simp [hspace])]
  split
  · next heq =>
    cases heq
    exact absurd rfl hslash
  · rfl

/-- Two characters make an operator only if the first one is one. -/
lemma doubleOperators_of_isNameChar (hc : isNameChar c = true) (d : Char) :
    doubleOperators.contains (c, d) = false := by
  have hops : ∀ p ∈ doubleOperators, isNameChar p.1 = false := by decide
  rw [List.contains_eq_mem, decide_eq_false_iff_not]
  intro hmem
  exact ne_of_isNameChar hc (hops _ hmem) rfl

/-- A name is read up to where it ends. -/
lemma next_name (operand : Bool) (hc : StartsName c) (hcs : ∀ d ∈ cs, isNameChar d = true)
    (hrest : Ends isNameChar rest) :
    next operand (c :: (cs ++ rest)) = .ok (ofWord (String.ofList (c :: cs)), rest) := by
  obtain ⟨hspace, hop⟩ := isNameChar_iff.mp hc.name
  have hslash : c ≠ '/' := ne_of_isNameChar hc.name (by decide)
  have hother := hc.other
  simp only [List.mem_cons, List.not_mem_nil, or_false, not_or] at hother
  obtain ⟨hquote, hsingle, hback, hdollar⟩ := hother
  have htake := takeWhile_run hcs hrest
  have hdrop := dropWhile_run hcs hrest
  rw [next, skipSpace_cons hspace hslash, ok_bind]
  have hpattern : (operand && c == '/') = false := by simp [hslash]
  simp only [hpattern, hop, hquote, hsingle, hc.digit, hback, hdollar, htake, hdrop,
    doubleOperators_of_isNameChar hc.name, Bool.false_eq_true, or_self, if_false]
  split <;> rfl

/-- A dot is an operator by itself, unless another one follows it. -/
lemma next_dot (hrest : rest.head? ≠ some '.') :
    next false ('.' :: rest) = .ok (operator ".", rest) := by
  rw [next, skipSpace_cons (by decide) (by decide), ok_bind]
  have hdouble : ∀ d more, rest = d :: more → ('.', d) ∉ doubleOperators := by
    rintro d more rfl
    simpa [doubleOperators] using hrest
  have hdot : isOperatorChar '.' = true := by decide
  have hsingle : String.singleton '.' = "." := by decide
  cases rest with
  | nil =>
    simp [hdot, hsingle]
    rfl
  | cons d more =>
    simp [hdot, hsingle, hdouble d more rfl]
    rfl

lemma next_nil (operand : Bool) : next operand [] = .ok (finish, []) := rfl

end Token

namespace Reader

variable {α β : Type} {c c' : Cursor} {t : Token} {rest : List Char} {fuel power : Nat}

lemma bind_apply (m : Reader α) (next : α → Reader β) (c : Cursor) :
    (m >>= next) c = m c >>= fun r => next r.1 r.2 := rfl

lemma get_apply (c : Cursor) : (get : Reader Cursor) c = .ok (c, c) := rfl

lemma advance_of_next {operand : Bool} (hnext : Token.next operand c.rest = .ok (t, rest))
    (ht : t.binding?.isNone = false) : advance operand c = .ok ((), ⟨t, rest⟩) := by
  have hlift : (liftM (Token.next operand c.rest) : Reader (Token × List Char)) c =
      .ok ((t, rest), c) := by
    change (Token.next operand c.rest >>= fun a => .ok (a, c)) = _
    rw [hnext, ok_bind]
  rw [advance, bind_apply, get_apply, ok_bind, bind_apply, hlift, ok_bind]
  simp only [ht, Bool.false_eq_true, if_false]
  rfl

/-- A name is an expression, and what follows decides how it goes on. -/
lemma expression_name {s : String} (hadvance : advance false ⟨.name s, rest⟩ = .ok ((), c')) :
    expression (fuel + 2) power ⟨.name s, rest⟩ =
      operators (fuel + 1) power (.token (.name s)) c' := by
  rw [expression, bind_apply, get_apply, ok_bind, bind_apply, hadvance, ok_bind]
  rfl

/-- At the end of the text no operator follows. -/
lemma operators_finish (left : Raw) (rest : List Char) :
    operators (fuel + 1) power left ⟨.finish, rest⟩ = .ok (left, ⟨.finish, rest⟩) := by
  rw [operators, bind_apply, get_apply, ok_bind]
  rfl

/-- A token that stands for a name, as an operand, is read to the end. -/
lemma expression_last {s : String}
    (hoperand : ∀ c, operand (fuel + 1) t c = .ok (.token (.name s), c)) :
    expression (fuel + 2) power ⟨t, []⟩ = .ok (.token (.name s), ⟨.finish, []⟩) := by
  have hadvance : advance false ⟨t, []⟩ = .ok ((), ⟨.finish, []⟩) :=
    advance_of_next (Token.next_nil false) rfl
  rw [expression, bind_apply, get_apply, ok_bind, bind_apply, hadvance, ok_bind, bind_apply,
    hoperand, ok_bind, operators_finish]

/-- A dot takes the name after it. -/
lemma operators_dot {left : Raw} {s : String}
    (hadvance : advance true ⟨.operator ".", rest⟩ = .ok ((), ⟨t, []⟩))
    (hlast : expression (fuel + 2) 75 ⟨t, []⟩ = .ok (.token (.name s), ⟨.finish, []⟩)) :
    operators (fuel + 4) 0 left ⟨.operator ".", rest⟩ =
      .ok (.dot left (.token (.name s)), ⟨.finish, []⟩) := by
  have hoperation : operation (fuel + 3) "." 75 left ⟨t, []⟩ =
      .ok (.dot left (.token (.name s)), ⟨.finish, []⟩) := by
    rw [operation]
    change (expression (fuel + 2) 75 >>= _) _ = _
    rw [bind_apply, hlast, ok_bind]
    rfl
  rw [operators, bind_apply, get_apply, ok_bind]
  change (advance true >>= fun _ => operation (fuel + 3) "." 75 left >>= operators (fuel + 3) 0) _ = _
  rw [bind_apply, hadvance, ok_bind, bind_apply, hoperation, ok_bind, operators_finish]

end Reader

/-! ### Names -/

/-- The words for constants, which are no names. -/
def constants : List String := ["true", "false", "null"]

/-- The text is read as a name where an operand is expected. -/
structure IsName (s : String) : Prop where
  starts : ∃ c cs, s.toList = c :: cs ∧ Token.StartsName c ∧ ∀ d ∈ cs, Token.isNameChar d = true
  free : s ∉ constants

namespace IsName

variable {s : String}

lemma next_eq (h : IsName s) (operand : Bool) {rest : List Char}
    (hrest : SlotSyntax.Ends Token.isNameChar rest) :
    Token.next operand (s.toList ++ rest) = .ok (Token.ofWord s, rest) := by
  obtain ⟨c, cs, hs, hc, hcs⟩ := h.starts
  rw [hs, List.cons_append, Token.next_name operand hc hcs hrest, ← hs, String.ofList_toList]

lemma head?_ne_dot (h : IsName s) : s.toList.head? ≠ some '.' := by
  obtain ⟨c, cs, hs, hc, -⟩ := h.starts
  rw [hs, List.head?_cons, ne_eq, Option.some.injEq]
  exact Token.ne_of_isNameChar hc.name (by decide)

/-- The words of operators are names, too, where an operand is expected. -/
lemma ofWord_cases (h : IsName s) : Token.ofWord s = .name s ∨
    Token.ofWord s = .operator s ∧ (s = "and" ∨ s = "or" ∨ s = "in") := by
  have hfree := h.free
  simp only [constants, List.mem_cons, List.not_mem_nil, or_false, not_or] at hfree
  obtain ⟨htrue, hfalse, hnull⟩ := hfree
  rw [Token.ofWord]
  by_cases hword : s = "and" ∨ s = "or" ∨ s = "in"
  · rw [if_pos hword]
    exact .inr ⟨rfl, hword⟩
  · rw [if_neg hword, if_neg htrue, if_neg hfalse, if_neg hnull]
    exact .inl rfl

lemma binding_ofWord (h : IsName s) : (Token.ofWord s).binding?.isNone = false := by
  obtain heq | ⟨heq, rfl | rfl | rfl⟩ := h.ofWord_cases <;> rw [heq] <;> rfl

lemma operand_ofWord (h : IsName s) (fuel : Nat) (c : Cursor) :
    Reader.operand (fuel + 1) (Token.ofWord s) c = .ok (.token (.name s), c) := by
  obtain heq | ⟨heq, rfl | rfl | rfl⟩ := h.ofWord_cases <;> rw [heq] <;> rfl

end IsName

/-- The text is an identifier: letters, digits and underscores, with no digit at the start. -/
structure IsIdentifier (s : String) : Prop where
  starts : ∃ c cs, s.toList = c :: cs ∧ Text.isWord c = true ∧ Text.isDigitLike c = false ∧
    ∀ d ∈ cs, Text.isWord d = true

/-- No operator of one character is a word character, and no blank is one. -/
lemma isNameChar_of_isWord {c : Char} (h : Text.isWord c = true) : Token.isNameChar c = true := by
  have hspace : Token.isSpace c = false := by
    rw [Bool.eq_false_iff]
    intro hc
    simp only [Token.isSpace, Bool.or_eq_true, beq_iff_eq] at hc
    obtain (((rfl | rfl) | rfl) | rfl) | rfl := hc <;> exact absurd h (by decide)
  have hop : Token.isOperatorChar c = false := by
    have hops : ∀ op ∈ Token.operators, op.1.toList.length = 1 →
        op.1.toList.any Text.isWord = false := by
      decide
    rw [Token.isOperatorChar, List.any_eq_false]
    intro op hmem heq
    have hfalse := hops op hmem
    rw [beq_iff_eq.mp heq, String.toList_singleton] at hfalse
    simp [h] at hfalse
  exact Token.isNameChar_iff.mpr ⟨hspace, hop⟩

lemma IsIdentifier.isName {s : String} (h : IsIdentifier s) (hfree : s ∉ constants) : IsName s := by
  obtain ⟨c, cs, hs, hc, hdigit, hcs⟩ := h.starts
  refine ⟨⟨c, cs, hs, ⟨isNameChar_of_isWord hc, ?_, ?_⟩, fun d hd => isNameChar_of_isWord (hcs d hd)⟩,
    hfree⟩
  · rw [Bool.eq_false_iff]
    intro hisDigit
    rw [Text.isDigitLike_of_isDecimal (Text.isDecimal_of_isDigit hisDigit)] at hdigit
    cases hdigit
  · have hothers : ['"', '\'', '\x60', '$'].all (fun d => !Text.isWord d) = true := by decide
    intro hmem
    simpa [hc] using List.all_eq_true.mp hothers c hmem

lemma isName_arguments : IsName "arguments" where
  starts := ⟨'a', "rguments".toList, by decide, ⟨by decide, by decide, by decide⟩,
    List.all_eq_true.mp (by decide)⟩
  free := by decide

/-- The path to an argument. -/
def memberPath (s : String) : Expr :=
  .plain (.path [.plain (.field "arguments"), .plain (.field s)] false)

/-- The words for constants name no member: there is no expression that takes an argument of such a
name. -/
lemma refused_of_constant {s : String} (h : s ∈ constants) : (parse ("arguments." ++ s)).isOk = false := by
  have hall : ∀ s ∈ constants, (parse ("arguments." ++ s)).isOk = false := by decide +kernel
  exact hall s h

lemma readRaw_member {s : String} (h : IsName s) :
    readRaw ("arguments." ++ s) =
      .ok (.dot (.token (.name "arguments")) (.token (.name s))) := by
  have hsource : ("arguments." ++ s).toList = "arguments".toList ++ '.' :: s.toList := by
    rw [String.toList_append]
    rfl
  have hfirst : Reader.advance true ⟨.finish, ("arguments." ++ s).toList⟩ =
      .ok ((), ⟨.name "arguments", '.' :: s.toList⟩) := by
    refine Reader.advance_of_next ?_ rfl
    rw [hsource]
    exact isName_arguments.next_eq true (SlotSyntax.ends_cons.mpr (by decide))
  have hdot : Reader.advance false ⟨.name "arguments", '.' :: s.toList⟩ =
      .ok ((), ⟨.operator ".", s.toList⟩) :=
    Reader.advance_of_next (Token.next_dot h.head?_ne_dot) rfl
  have hsecond : Reader.advance true ⟨.operator ".", s.toList⟩ =
      .ok ((), ⟨Token.ofWord s, []⟩) := by
    refine Reader.advance_of_next ?_ h.binding_ofWord
    have hends : SlotSyntax.Ends Token.isNameChar [] := by simp [SlotSyntax.Ends]
    rw [← List.append_nil s.toList]
    exact h.next_eq true hends
  have hexpression (fuel : Nat) :
      Reader.expression (fuel + 5) 0 ⟨.name "arguments", '.' :: s.toList⟩ =
        .ok (.dot (.token (.name "arguments")) (.token (.name s)), ⟨.finish, []⟩) := by
    rw [Reader.expression_name hdot, Reader.operators_dot hsecond
      (Reader.expression_last (h.operand_ofWord fuel))]
  rw [readRaw, StateT.run', Reader.bind_apply, hfirst, ok_bind, Reader.bind_apply,
    hexpression (8 * ("arguments." ++ s).toList.length + 11), ok_bind]
  rfl

lemma parse_member {s : String} (h : IsName s) : parse ("arguments." ++ s) = .ok (memberPath s) := by
  rw [parse, readRaw_member h, ok_bind]
  rfl

/-! ### Evaluation -/

/-- The value is a text, an integer or a truth value. -/
def isSimple : Value → Bool
  | .str _ => true
  | .int _ => true
  | .bool _ => true
  | _ => false

lemma toValue_ofValue {v : Value} (h : isSimple v = true) : (Item.ofValue v).toValue = v := by
  cases v with
  | str s => rfl
  | int n => rfl
  | bool b => rfl
  | _ => cases h

/-- Members under texts are found as they are in the data. -/
lemma get?_ofMembers (ms : List (Value × Value)) (name : String) :
    Item.get? (Item.ofMembers ms) name = (Value.get? ms (.str name)).map Item.ofValue := by
  induction ms with
  | nil => rfl
  | cons m ms ih =>
    obtain ⟨key, v⟩ := m
    rw [Item.get?, Value.get?] at ih ⊢
    by_cases hkey : key = .str name
    · rw [hkey, Item.ofMembers, List.find?_cons_of_pos (by simp), List.find?_cons_of_pos (by simp)]
      rfl
    · rw [List.find?_cons_of_neg (by rwa [Value.sameKey_str_right]), ← ih]
      cases key with
      | str k =>
        have hne : k ≠ name := fun h => hkey (congrArg Value.str h)
        rw [Item.ofMembers, List.find?_cons_of_neg (by simpa using hne)]
      | _ => rfl

namespace Engine

variable (k : Engine) (frame : Nat)

/-- A name takes the member of its context. -/
lemma eval_field (s : String) (context : Item) :
    (next k).eval (.plain (.field s)) context frame =
      pure (collapse false (Item.lookup s context)) := rfl

/-- What is one thing, and there. -/
def isSingle : Item → Bool
  | .missing => false
  | .array _ _ => false
  | _ => true

lemma collapse_of_isSingle {y : Item} (h : isSingle y = true) : collapse false y = y := by
  cases y with
  | array o xs => cases h
  | _ => rfl

lemma step_field {s : String} {x y : Item} (hy : Item.lookup s x = y) (hsingle : isSingle y = true)
    (last : Bool) :
    step (next k) (.plain (.field s)) (.sequence [x]) frame last = pure (.sequence [y]) := by
  have heval : (next k).eval (.plain (.field s)) x frame = pure y := by
    rw [eval_field, hy, collapse_of_isSingle hsingle]
  have hresults : [x].mapM (fun x => do
      filterAll (next k) (Expr.plain (.field s)).stages
        (← (next k).eval (.plain (.field s)) x frame) frame) = pure [y] := by
    rw [List.mapM_cons, heval, pure_bind]
    rfl
  change ([x].mapM (fun x => do
      filterAll (next k) (Expr.plain (.field s)).stages
        (← (next k).eval (.plain (.field s)) x frame) frame) >>= _) = _
  rw [hresults, pure_bind]
  cases y with
  | missing => cases hsingle
  | array o xs => cases hsingle
  | _ => cases last <;> rfl

/-- A path of names goes from member to member. -/
lemma eval_memberPath {s : String} {ms args : List (String × Item)} {y : Item}
    (hargs : Item.lookup "arguments" (.object ms) = .object args)
    (hy : Item.lookup s (.object args) = y) (hsingle : isSingle y = true) :
    (next (next k)).eval (memberPath s) (.object ms) frame = pure y := by
  have hsteps : steps (next k) frame [.plain (.field "arguments"), .plain (.field s)]
      (.sequence [.object ms]) = pure (.sequence [y]) := by
    rw [steps, step_field k frame hargs rfl, pure_bind]
    change steps (next k) frame [.plain (.field s)] (.sequence [.object args]) = _
    rw [steps, step_field k frame hy hsingle, pure_bind]
    rfl
  have hpath : path (next k) [.plain (.field "arguments"), .plain (.field s)] false none (.object ms)
      frame = pure (.sequence [y]) := by
    change (steps (next k) frame [.plain (.field "arguments"), .plain (.field s)]
      (.sequence [.object ms]) >>= _) = _
    rw [hsteps, pure_bind]
    rfl
  change (path (next k) [.plain (.field "arguments"), .plain (.field s)] false none (.object ms)
      frame >>= _) = _
  rw [hpath, pure_bind]
  rfl

end Engine

lemma isSingle_ofValue {v : Value} (h : isSimple v = true) : Engine.isSingle (Item.ofValue v) = true := by
  cases v with
  | str s => rfl
  | int n => rfl
  | bool b => rfl
  | _ => cases h

/-- What the arguments of the call have under the name, as an expression sees it. -/
lemma lookup_arguments {scope : Scope} {s : String} {v : Value} (hsimple : isSimple v = true)
    (hv : Value.get? scope.arguments (.str s) = some v) :
    Item.lookup s (.object (Item.ofMembers scope.arguments)) = Item.ofValue v := by
  rw [Item.lookup, get?_ofMembers, hv]
  cases v with
  | str s => rfl
  | int n => rfl
  | bool b => rfl
  | _ => cases hsimple

/-- **A name after `arguments` takes the argument of the name.** -/
theorem evaluate_memberPath {scope : Scope} {s : String} {v : Value} (hsimple : isSimple v = true)
    (hv : Value.get? scope.arguments (.str s) = some v) :
    evaluate (memberPath s) scope.data = .ok v := by
  have hdepth : Engine.ofDepth Engine.depth = Engine.next (Engine.next (Engine.ofDepth 998)) := rfl
  have heval : (Engine.ofDepth Engine.depth).eval (memberPath s) (inputOf scope.data) 0 =
      pure (Item.ofValue v) := by
    rw [hdepth]
    exact Engine.eval_memberPath _ 0 rfl (lookup_arguments hsimple hv) (isSingle_ofValue hsimple)
  rw [evaluate, heval]
  exact congrArg Except.ok (toValue_ofValue hsimple)

end RestOperations.Query
