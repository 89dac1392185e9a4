import RestOperations.Proofs.Yaml.Scanning
import RestOperations.Yaml.Node

/-!
What goes wrong where a tree is made of tokens. It is what went wrong with the tokens, or that there
is no tree of them. Whether a scalar holds what its tag promises does not show there.
-/

namespace RestOperations.Yaml

namespace Composer

/-- All tokens that are left are sound. -/
def Sound (c : Composer) : Prop := ∀ t ∈ c.tokens, t.Sound

lemma sound_start {ts : List Token} (h : ∀ t ∈ ts, t.Sound) : Composer.Sound { tokens := ts } := h

/-- The step leaves sound tokens, or fails as it may. -/
def Keeps {α : Type} (m : Step α) : Prop :=
  ∀ c : Composer, c.Sound → Ends (fun p => p.2.Sound) (m c)

section

variable {α β : Type} {m m' : Step α}

lemma keeps_pure (a : α) : Keeps (pure a) := fun _ h => .ok h

lemma keeps_malformed : Keeps (throw .malformed : Step α) := fun _ _ => .error .malformed

lemma Keeps.bind {next : α → Step β} (hm : Keeps m) (hnext : ∀ a, Keeps (next a)) :
    Keeps (m >>= next) :=
  fun c h => (hm c h).bind fun (a, c) h => hnext a c h

/-- Only what the step ends in counts in the end. -/
lemma Keeps.run' (hm : Keeps m) {c : Composer} (hc : c.Sound) : EndsEarly (m.run' c) :=
  (hm c hc).map fun _ _ => trivial

lemma Keeps.map (hm : Keeps m) (g : α → β) : Keeps (g <$> m) :=
  hm.bind fun a => keeps_pure (g a)

lemma keeps_ite {p : Prop} [Decidable p] (hm : Keeps m) (hm' : Keeps m') :
    Keeps (if p then m else m') := by
  split
  · exact hm
  · exact hm'

/-- A step that is only taken sometimes, and what comes after it. -/
lemma keeps_ite_bind {p : Prop} [Decidable p] {m : Step Unit} {next : Unit → Step α}
    (hm : Keeps m) (hnext : ∀ u, Keeps (next u)) : Keeps (if p then m >>= next else next ()) :=
  keeps_ite (hm.bind hnext) (hnext ())

lemma keeps_get : Keeps (get : Step Composer) := fun _ h => .ok h

lemma keeps_modify {f : Composer → Composer} (hf : ∀ c, (f c).tokens = c.tokens) :
    Keeps (modify f : Step Unit) := by
  intro c h
  have hsound : (f c).Sound := by
    unfold Sound
    rwa [hf]
  exact .ok hsound

lemma keeps_peek : Keeps peek := by
  intro c h
  obtain ⟨_ | ⟨t, tokens⟩, anchors, handles⟩ := c
  · exact .ok h
  · cases t with
    | broken e => exact .error (h _ List.mem_cons_self e rfl)
    | _ => exact .ok h

lemma keeps_drop : Keeps drop := fun _ h => .ok fun t ht => h t (List.mem_of_mem_drop ht)

lemma keeps_isNext (ts : List Token) : Keeps (isNext ts) := by
  refine keeps_peek.bind fun t? => ?_
  cases t? <;> exact keeps_pure _

lemma keeps_accept (t : Token) : Keeps (accept t) :=
  (keeps_isNext _).bind fun _ =>
    keeps_ite (keeps_drop.bind fun _ => keeps_pure true) (keeps_pure false)

lemma keeps_expect (t : Token) : Keeps (expect t) :=
  (keeps_accept t).bind fun _ => keeps_ite keeps_malformed (keeps_pure ())

lemma keeps_resolveTag (t : Option String × String) : Keeps (resolveTag t) := by
  obtain ⟨_ | h, suffix⟩ := t
  · exact keeps_pure suffix
  · refine keeps_get.bind fun c => ?_
    cases c.handles.find? (·.1 == h) with
    | none => exact keeps_malformed
    | some handle => exact keeps_pure _

lemma keeps_takeAnchor : Keeps takeAnchor := by
  refine keeps_peek.bind fun t? => ?_
  split
  · exact keeps_drop.bind fun _ => keeps_pure _
  · exact keeps_pure none

lemma keeps_takeTag : Keeps takeTag := by
  refine keeps_peek.bind fun t? => ?_
  split
  · exact keeps_drop.bind fun _ => keeps_pure _
  · exact keeps_pure none

lemma keeps_takeProperties : Keeps takeProperties := by
  refine keeps_takeAnchor.bind fun first => keeps_takeTag.bind fun tag => ?_
  have hrest (anchor : Option String) :
      Keeps (do return ({ anchor, tag := ← tag.mapM resolveTag } : Properties)) := by
    cases tag with
    | none => exact keeps_pure _
    | some t => exact ((keeps_resolveTag t).map some).map _
  exact keeps_ite (keeps_takeAnchor.bind hrest) (hrest first)

lemma keeps_setAnchor (name : Option String) (n : Node) : Keeps (setAnchor name n) := by
  cases name with
  | none => exact keeps_pure ()
  | some name => exact keeps_modify fun _ => rfl

lemma keeps_checkAnchor (name : Option String) : Keeps (checkAnchor name) := by
  cases name with
  | none => exact keeps_pure ()
  | some name => exact keeps_get.bind fun _ => keeps_ite keeps_malformed (keeps_pure ())

lemma keeps_aliased (name : String) : Keeps (aliased name) := by
  refine keeps_get.bind fun c => ?_
  split
  · exact keeps_pure _
  · exact keeps_malformed

lemma Keeps.collection {read : Step Node} (hread : Keeps read) (p : Properties) (stub : Node) :
    Keeps (collection p stub read) :=
  keeps_drop.bind fun _ => (keeps_setAnchor _ _).bind fun _ => hread.bind fun n =>
    (keeps_setAnchor _ _).bind fun _ => keeps_pure n

lemma keeps_scalar (p : Properties) (s : String) (plain : Bool) : Keeps (scalar p s plain) :=
  (keeps_setAnchor _ _).bind fun _ => keeps_pure _

end

/-! ### Nodes -/

/-- All that is done to compose a node keeps to this, with so much fuel. -/
structure Composes (fuel : Nat) : Prop where
  node : ∀ place, Keeps (node fuel place)
  blockSequence : ∀ p, Keeps (blockSequence fuel p)
  blockMapping : ∀ p, Keeps (blockMapping fuel p)
  nodeUnless : ∀ place ends, Keeps (nodeUnless fuel place ends)
  blockItems : Keeps (blockItems fuel)
  entries : Keeps (entries fuel)
  blockMembers : Keeps (blockMembers fuel)
  blockValue : Keeps (blockValue fuel)
  flowItems : ∀ first, Keeps (flowItems fuel first)
  flowMembers : ∀ first, Keeps (flowMembers fuel first)
  flowValue : ∀ ends, Keeps (flowValue fuel ends)

variable {fuel : Nat}

lemma Composes.node_succ (h : Composes fuel) (place : Place) :
    Keeps (Composer.node (fuel + 1) place) := by
  unfold Composer.node
  refine keeps_peek.bind fun t? => ?_
  split
  · exact keeps_drop.bind fun _ => keeps_aliased _
  · refine keeps_takeProperties.bind fun p => keeps_peek.bind fun next =>
      (keeps_checkAnchor _).bind fun _ => ?_
    dsimp only
    split
    · exact (keeps_setAnchor _ _).bind fun _ => h.entries.bind fun _ =>
        (keeps_setAnchor _ _).bind fun _ => keeps_pure _
    · exact keeps_drop.bind fun _ => keeps_scalar p _ _
    · exact ((h.flowItems true).map _).collection p _
    · exact ((h.flowMembers true).map _).collection p _
    · exact h.blockSequence p
    · exact h.blockSequence p
    · exact h.blockMapping p
    · exact h.blockMapping p
    · exact keeps_ite keeps_malformed (keeps_scalar p "" true)

lemma Composes.nodeUnless_succ (h : Composes fuel) (place : Place) (ends : List Token) :
    Keeps (Composer.nodeUnless (fuel + 1) place ends) :=
  (keeps_isNext ends).bind fun _ => keeps_ite (keeps_pure _) (h.node place)

lemma Composes.blockItems_succ (h : Composes fuel) : Keeps (Composer.blockItems (fuel + 1)) :=
  (keeps_accept _).bind fun _ => keeps_ite
    ((h.nodeUnless _ _).bind fun _ => h.blockItems.map _)
    ((keeps_expect _).bind fun _ => keeps_pure [])

lemma Composes.entries_succ (h : Composes fuel) : Keeps (Composer.entries (fuel + 1)) :=
  (keeps_accept _).bind fun _ => keeps_ite
    ((h.nodeUnless _ _).bind fun _ => h.entries.map _) (keeps_pure [])

lemma Composes.blockMembers_succ (h : Composes fuel) : Keeps (Composer.blockMembers (fuel + 1)) :=
  (keeps_accept _).bind fun _ => keeps_ite
    ((h.nodeUnless _ _).bind fun _ => h.blockValue.bind fun _ => h.blockMembers.map _)
    ((keeps_expect _).bind fun _ => keeps_pure [])

lemma Composes.flowItems_succ (h : Composes fuel) (first : Bool) :
    Keeps (Composer.flowItems (fuel + 1) first) := by
  refine (keeps_accept _).bind fun _ => keeps_ite (keeps_pure []) ?_
  refine keeps_ite_bind (keeps_expect _) fun _ => (keeps_accept _).bind fun _ => keeps_ite ?_ ?_
  · exact (h.nodeUnless _ _).bind fun _ => (h.flowValue _).bind fun _ => (h.flowItems false).map _
  · exact (keeps_accept _).bind fun _ => keeps_ite (keeps_pure []) <|
      (h.node _).bind fun _ => (h.flowItems false).map _

lemma Composes.flowMembers_succ (h : Composes fuel) (first : Bool) :
    Keeps (Composer.flowMembers (fuel + 1) first) := by
  refine (keeps_accept _).bind fun _ => keeps_ite (keeps_pure []) ?_
  refine keeps_ite_bind (keeps_expect _) fun _ => (keeps_accept _).bind fun _ => keeps_ite ?_ ?_
  · exact (h.nodeUnless _ _).bind fun _ => (h.flowValue _).bind fun _ => (h.flowMembers false).map _
  · exact (keeps_accept _).bind fun _ => keeps_ite (keeps_pure []) <|
      (h.node _).bind fun _ => (h.flowMembers false).map _

lemma composes (fuel : Nat) : Composes fuel := by
  induction fuel with
  | zero =>
    exact ⟨fun _ => keeps_malformed, fun _ => keeps_malformed, fun _ => keeps_malformed,
      fun _ _ => keeps_malformed, keeps_malformed, keeps_malformed, keeps_malformed,
      keeps_malformed, fun _ => keeps_malformed, fun _ => keeps_malformed,
      fun _ => keeps_malformed⟩
  | succ fuel ih =>
    exact {
      node := ih.node_succ
      blockSequence := fun p => (ih.blockItems.map _).collection p _
      blockMapping := fun p => (ih.blockMembers.map _).collection p _
      nodeUnless := ih.nodeUnless_succ
      blockItems := ih.blockItems_succ
      entries := ih.entries_succ
      blockMembers := ih.blockMembers_succ
      blockValue := (keeps_accept _).bind fun _ => keeps_ite (ih.nodeUnless _ _) (keeps_pure _)
      flowItems := ih.flowItems_succ
      flowMembers := ih.flowMembers_succ
      flowValue := fun _ =>
        (keeps_accept _).bind fun _ => keeps_ite (ih.nodeUnless _ _) (keeps_pure _) }

/-! ### Documents -/

lemma keeps_takeDirectives (fuel : Nat) (versioned : Bool) :
    Keeps (takeDirectives fuel versioned) := by
  induction fuel generalizing versioned with
  | zero => exact keeps_pure ()
  | succ fuel ih =>
    refine keeps_peek.bind fun t? => ?_
    split
    · exact keeps_ite_bind keeps_malformed fun _ => keeps_drop.bind fun _ => ih true
    · exact keeps_get.bind fun _ => keeps_ite_bind keeps_malformed fun _ =>
        (keeps_modify (by simp)).bind fun _ => keeps_drop.bind fun _ => ih versioned
    · exact keeps_drop.bind fun _ => ih versioned
    · exact keeps_pure ()

lemma keeps_dropEnds (fuel : Nat) : Keeps (dropEnds fuel) := by
  induction fuel with
  | zero => exact keeps_pure ()
  | succ fuel ih => exact (keeps_accept _).bind fun _ => keeps_ite ih (keeps_pure ())

lemma keeps_content (fuel : Nat) : Keeps (content fuel) := by
  refine keeps_peek.bind fun t? => ?_
  cases t? with
  | none => exact keeps_pure _
  | some t => exact keeps_ite (keeps_pure _) ((composes fuel).node _)

lemma keeps_refuseSecond (fuel : Nat) : Keeps (refuseSecond fuel) :=
  (keeps_modify (by simp)).bind fun _ => (keeps_takeDirectives _ _).bind fun _ => keeps_malformed

lemma keeps_document : Keeps document := by
  refine keeps_get.bind fun c => keeps_peek.bind fun t? => ?_
  cases t? with
  | none => exact keeps_pure none
  | some t =>
    refine keeps_ite_bind (keeps_takeDirectives _ _) fun _ =>
      (keeps_modify (by simp)).bind fun _ => ?_
    have hend (n : Node) : Keeps (do
        dropEnds (fuelFor c.tokens)
        if (← peek).isSome then refuseSecond (fuelFor c.tokens)
        return some n) :=
      (keeps_dropEnds _).bind fun _ => keeps_peek.bind fun _ =>
        keeps_ite_bind (keeps_refuseSecond _) fun _ => keeps_pure _
    exact keeps_ite ((keeps_expect _).bind fun _ => (keeps_content _).bind hend)
      (((composes _).node _).bind hend)

end Composer

/-- **A text has a tree unless it is malformed or a number in it is too large.** -/
theorem Node.endsEarly_ofText? (cs : List Char) : EndsEarly (ofText? cs) := by
  unfold ofText?
  exact Composer.keeps_document.run' (Composer.sound_start (Token.sound_ofText cs))

end RestOperations.Yaml
