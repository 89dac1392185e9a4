import RestOperations.Proofs.Outcome
import RestOperations.Yaml.Read

/-!
What is wrong with a tree, level by level. A scalar may not hold what its tag promises; that shows at
the scalar itself. What is wrong with a collection shows one level below it, where its content is.
Reading a tree fails if there is anything wrong with it, and it fails with what comes first: of the
level that is nearest to the root, and within this level from left to right.
-/

namespace RestOperations.Yaml.Node

/-! ### The levels of a tree -/

/-- A key as what stands at its place, which is nothing to go on with if it is a collection. -/
def keyPlace (k : Node) : Except Failure Node := if k.isCollection then .error .malformed else .ok k

def placesOfMember (m : Node × Node) : List (Except Failure Node) := [keyPlace m.1, .ok m.2]

/-- The two places of a pair, which is a map of one member. -/
def placesOfPair : Node → List (Except Failure Node)
  | mapping _ [(k, v)] => [.ok k, .ok v]
  | _ => [.error .malformed]

/-- The places of a map with what it takes over, or the reason why it cannot be taken over. -/
def placesOfMap (n : Node) (members : List (Node × Node)) : List (Except Failure Node) :=
  match merged n.depth members with
  | .ok ms => ms.flatMap placesOfMember
  | .error e => [.error e]

/-- What stands one level below a node: further nodes, and what shows that they are not as they
should be. -/
def content (n : Node) : List (Except Failure Node) :=
  match n.tag, n with
  | .sequence, sequence _ items => items.map .ok
  | .mapping, mapping _ members => n.placesOfMap members
  | .set, mapping _ members => n.placesOfMap members
  | .orderedMap, sequence _ items => items.flatMap placesOfPair
  | .pairs, sequence _ items => items.flatMap placesOfPair
  | _, _ => if n.isCollection then [.error .malformed] else []

/-- What is wrong with the node itself. -/
def ownFaults (n : Node) : List Failure :=
  if n.isCollection then []
  else match n.readScalar with
    | .ok _ => []
    | .error e => [e]

/-- What is wrong with the nodes that are so many levels below this one, from left to right. -/
def faultsAt : Node → Nat → List Failure
  | n, 0 => n.ownFaults
  | n, level + 1 => n.content.flatMap fun
    | .ok m => m.faultsAt level
    | .error e => if level = 0 then [e] else []

/-- The first thing that is wrong with a tree. -/
def FirstFault (n : Node) (level : Nat) (e : Failure) : Prop :=
  (∀ j < level, n.faultsAt j = []) ∧ (n.faultsAt level).head? = some e

/-! ### Results and what is wrong at each level -/

/-- The result fails if anything is wrong at any level, and with what comes first. -/
def Meets {α : Type} (faults : Nat → List Failure) : Leveled α → Prop
  | .ok _ => ∀ k, faults k = []
  | .error (k, e) => (∀ j < k, faults j = []) ∧ (faults k).head? = some e

/-- Faults below this level. -/
def under (level : Nat) (faults : Nat → List Failure) (k : Nat) : List Failure :=
  if level ≤ k then faults (k - level) else []

section

variable {α β : Type} {F G : Nat → List Failure}

lemma meets_map {r : Leveled α} (h : Meets F r) (f : α → β) : Meets F (r.map f) := by
  cases r <;> exact h

lemma meets_both {r : Leveled α} {r' : Leveled β} (h : Meets F r) (h' : Meets G r') :
    Meets (fun k => F k ++ G k) (both r r') := by
  match r, r', h, h' with
  | .ok _, .ok _, h, h' => exact fun k => List.append_eq_nil_iff.mpr ⟨h k, h' k⟩
  | .ok _, .error (n, f), h, h' =>
    refine ⟨fun j hj => List.append_eq_nil_iff.mpr ⟨h j, h'.1 j hj⟩, ?_⟩
    dsimp only
    rw [h n, List.nil_append, h'.2]
  | .error (m, e), .ok _, h, h' =>
    refine ⟨fun j hj => List.append_eq_nil_iff.mpr ⟨h.1 j hj, h' j⟩, ?_⟩
    dsimp only
    rw [h' m, List.append_nil, h.2]
  | .error (m, e), .error (n, f), h, h' =>
    rw [both]
    by_cases hlt : n < m
    · rw [if_pos hlt]
      refine ⟨fun j hj => List.append_eq_nil_iff.mpr ⟨h.1 j (by omega), h'.1 j hj⟩, ?_⟩
      dsimp only
      rw [h.1 n hlt, List.nil_append, h'.2]
    · rw [if_neg hlt]
      refine ⟨fun j hj => List.append_eq_nil_iff.mpr ⟨h.1 j hj, h'.1 j (by omega)⟩, ?_⟩
      dsimp only
      rw [List.head?_append, h.2, Option.some_or]

lemma meets_all {xs : List α} {f : α → Leveled β} {faults : α → Nat → List Failure}
    (h : ∀ x ∈ xs, Meets (faults x) (f x)) :
    Meets (fun k => xs.flatMap (faults · k)) (all (xs.map f)) := by
  induction xs with
  | nil => exact fun _ => rfl
  | cons x xs ih =>
    have hrest := ih fun y hy => h y (List.mem_cons_of_mem _ hy)
    exact meets_map (meets_both (h x List.mem_cons_self) hrest) _

/-- A fault with nothing below it. -/
lemma meets_error (level : Nat) (e : Failure) :
    Meets (under level fun k => if k = 0 then [e] else []) (.error (level, e) : Leveled α) := by
  refine ⟨fun j hj => ?_, ?_⟩
  · rw [under, if_neg (by omega)]
  · rw [under, if_pos (Nat.le_refl _), Nat.sub_self, if_pos rfl, List.head?_cons]

end

/-! ### How deep a tree is -/

section

variable {d : Nat} {members taken : List (Node × Node)} {items : List Node} {n : Node}

@[simp] lemma depth_sequence (tag : Tag) (items : List Node) :
    (sequence tag items).depth = 1 + depthOfItems items := rfl

@[simp] lemma depth_mapping (tag : Tag) (members : List (Node × Node)) :
    (mapping tag members).depth = 1 + depthOfMembers members := rfl

lemma depthOfItems_le_iff : depthOfItems items ≤ d ↔ ∀ n ∈ items, n.depth ≤ d := by
  induction items with
  | nil => simp [depthOfItems]
  | cons n items ih => rw [depthOfItems, Nat.max_le, ih, List.forall_mem_cons]

lemma depthOfMembers_le_iff :
    depthOfMembers members ≤ d ↔ ∀ m ∈ members, m.1.depth ≤ d ∧ m.2.depth ≤ d := by
  induction members with
  | nil => simp [depthOfMembers]
  | cons m members ih => rw [depthOfMembers, Nat.max_le, Nat.max_le, ih, List.forall_mem_cons]

lemma depth_of_mem_items (h : n ∈ items) : n.depth ≤ depthOfItems items :=
  depthOfItems_le_iff.mp (Nat.le_refl _) n h

lemma depth_of_mem_members {m : Node × Node} (h : m ∈ members) :
    m.1.depth ≤ depthOfMembers members ∧ m.2.depth ≤ depthOfMembers members :=
  depthOfMembers_le_iff.mp (Nat.le_refl _) m h

@[simp] lemma depth_asText (n : Node) : n.asText.depth = n.depth := by
  cases n <;> rfl

/-- What is taken over comes from further down. -/
lemma depth_membersFrom {read : List (Node × Node) → Except Failure (List (Node × Node))}
    (hread : ∀ ms ms', read ms = .ok ms' → depthOfMembers ms' ≤ depthOfMembers ms)
    (h : membersFrom read n = .ok taken) : depthOfMembers taken ≤ n.depth := by
  cases n with
  | scalar tag s => cases h
  | mapping tag members =>
    have hle := hread _ _ h
    rw [depth_mapping]
    omega
  | sequence tag items =>
    obtain ⟨lists, hlists, ⟨⟩⟩ := bind_eq_ok.mp h
    rw [depthOfMembers_le_iff]
    intro m hm
    obtain ⟨ms', hms', hm⟩ := List.mem_flatten.mp hm
    obtain ⟨n, hn, hread'⟩ := forall₂_mem_right (mapM_eq_ok.mp hlists) (List.mem_reverse.mp hms')
    have hdepth := depth_of_mem_items hn
    cases n with
    | mapping tag members =>
      have hle := hread _ _ hread'
      have hmem := depth_of_mem_members hm
      rw [depth_mapping] at hdepth
      rw [depth_sequence]
      omega
    | scalar tag s => cases hread'
    | sequence tag items => cases hread'

/-- Merging does not make a map deeper. -/
lemma depth_merged {fuel : Nat} (h : merged fuel members = .ok taken) :
    depthOfMembers taken ≤ depthOfMembers members := by
  induction fuel generalizing members taken with
  | zero => cases h
  | succ fuel ih =>
    obtain ⟨lists, hlists, ⟨⟩⟩ := bind_eq_ok.mp h
    rw [depthOfMembers_le_iff]
    intro m hm
    obtain hm | hm := List.mem_append.mp hm
    · obtain ⟨ms', hms', hm⟩ := List.mem_flatten.mp hm
      obtain ⟨merge, hmerge, hfrom⟩ := forall₂_mem_right (mapM_eq_ok.mp hlists) hms'
      have hle := depth_membersFrom (fun _ _ => ih) hfrom
      have hmem := depth_of_mem_members (List.mem_of_mem_filter hmerge)
      have hdepth := depth_of_mem_members hm
      omega
    · obtain ⟨own, hown, rfl⟩ := List.mem_map.mp hm
      have hmem := depth_of_mem_members (List.mem_of_mem_filter hown)
      unfold ownMember
      split
      · rwa [depth_asText]
      · exact hmem

lemma membersFrom_congr {read read' : List (Node × Node) → Except Failure (List (Node × Node))}
    (h : ∀ ms, depthOfMembers ms < n.depth → read ms = read' ms) :
    membersFrom read n = membersFrom read' n := by
  cases n with
  | scalar tag s => rfl
  | mapping tag members => exact h members (by rw [depth_mapping]; omega)
  | sequence tag items =>
    rw [membersFrom, membersFrom, mapM_congr fun n hn => ?_]
    have hdepth := depth_of_mem_items hn
    cases n with
    | mapping tag members =>
      rw [depth_mapping] at hdepth
      exact h members (by rw [depth_sequence]; omega)
    | scalar tag s => rfl
    | sequence tag items => rfl

/-- Fuel enough is as good as more of it. -/
lemma merged_eq {fuel fuel' : Nat} (h : depthOfMembers members < fuel)
    (h' : depthOfMembers members < fuel') : merged fuel members = merged fuel' members := by
  induction fuel generalizing fuel' members with
  | zero => omega
  | succ fuel ih =>
    cases fuel' with
    | zero => omega
    | succ fuel' =>
      have hfrom : ∀ m ∈ members.filter isMerge,
          membersFrom (fun ms => merged fuel ms) m.2 =
            membersFrom (fun ms => merged fuel' ms) m.2 := by
        intro m hm
        have hmem := depth_of_mem_members (List.mem_of_mem_filter hm)
        exact membersFrom_congr fun ms hms => ih (by omega) (by omega)
      rw [merged, merged, mapM_congr hfrom]

end

/-! ### Reading a tree -/

/-- What shows at a place, at so many levels below it. -/
def showsAt (level : Nat) : Except Failure Node → List Failure
  | .ok m => m.faultsAt level
  | .error e => if level = 0 then [e] else []

lemma faultsAt_succ (n : Node) (level : Nat) :
    n.faultsAt (level + 1) = n.content.flatMap (showsAt level) := by
  rw [faultsAt]
  rfl

section

variable {α β : Type} {fuel level : Nat} {n : Node}

lemma under_append (F G : Nat → List Failure) :
    (fun k => under level F k ++ under level G k) = under level fun j => F j ++ G j := by
  funext k
  unfold under
  split <;> rfl

lemma under_flatMap (xs : List α) (F : α → Nat → List Failure) :
    (fun k => xs.flatMap fun x => under level (F x) k) =
      under level fun j => xs.flatMap fun x => F x j := by
  funext k
  unfold under
  split
  · rfl
  · exact List.flatMap_eq_nil_iff.mpr fun _ _ => rfl

/-- What is wrong with a collection is wrong with its content. -/
lemma under_faultsAt (h : n.isCollection = true) :
    under level n.faultsAt = under (level + 1) fun j => n.content.flatMap (showsAt j) := by
  funext k
  unfold under
  obtain hlt | rfl | hgt := Nat.lt_trichotomy k level
  · rw [if_neg (by omega), if_neg (by omega)]
  · rw [if_pos (Nat.le_refl k), if_neg (by omega), Nat.sub_self, faultsAt, ownFaults, if_pos h]
  · have hk : k - level = k - (level + 1) + 1 := by omega
    rw [if_pos (by omega), if_pos (by omega), hk, faultsAt_succ]

/-- The nodes that are no deeper than this are read as they should be. -/
def ReadsTo (fuel : Nat) : Prop :=
  ∀ level n, n.depth ≤ fuel → Meets (under level n.faultsAt) (read fuel level n)

lemma meets_readKey (hread : ReadsTo fuel) (level : Nat) {k : Node} (hk : k.depth ≤ fuel) :
    Meets (under level (showsAt · (keyPlace k))) (readKey (read fuel level) level k) := by
  unfold readKey keyPlace
  split
  · exact meets_error level _
  · exact hread level k hk

/-- Several places, each of which is read as it should be. -/
lemma meets_places {xs : List α} {f : α → Leveled β} {places : α → List (Except Failure Node)}
    (h : ∀ x ∈ xs, Meets (under level fun j => (places x).flatMap (showsAt j)) (f x)) :
    Meets (under level fun j => (xs.flatMap places).flatMap (showsAt j)) (all (xs.map f)) := by
  have hall := meets_all h
  rw [under_flatMap] at hall
  simpa only [List.flatMap_assoc] using hall

/-- Two places next to each other. -/
lemma meets_pair {r : Leveled α} {r' : Leveled β} {p p' : Except Failure Node}
    (h : Meets (under level (showsAt · p)) r) (h' : Meets (under level (showsAt · p')) r') :
    Meets (under level fun j => [p, p'].flatMap (showsAt j)) (both r r') := by
  have hboth := meets_both h h'
  rw [under_append] at hboth
  simpa using hboth

lemma meets_items (hread : ReadsTo fuel) (level : Nat) {items : List Node}
    (h : depthOfItems items ≤ fuel) :
    Meets (under level fun j => (items.map .ok).flatMap (showsAt j))
      (all (items.map (read fuel level))) := by
  have hall := meets_all fun n hn => hread level n (Nat.le_trans (depth_of_mem_items hn) h)
  rw [under_flatMap] at hall
  have hplaces (j : Nat) : (items.map .ok).flatMap (showsAt j) = items.flatMap (·.faultsAt j) :=
    List.flatMap_map ..
  simpa only [hplaces] using hall

lemma meets_readMembers (hread : ReadsTo fuel) (level : Nat) {members : List (Node × Node)}
    (h : depthOfMembers members ≤ fuel) :
    Meets (under level fun j => (members.flatMap placesOfMember).flatMap (showsAt j))
      (readMembers (read fuel level) level members) := by
  refine meets_places fun m hm => ?_
  have hdepth := depth_of_mem_members hm
  exact meets_pair (meets_readKey hread level (by omega)) (hread level m.2 (by omega))

lemma meets_mismatch (level : Nat) (e : Failure) :
    Meets (under level fun j => [.error e].flatMap (showsAt j)) (.error (level, e) : Leveled α) := by
  have hplace (j : Nat) : [Except.error e].flatMap (showsAt j) = if j = 0 then [e] else [] := by
    rw [List.flatMap_singleton, showsAt]
  simpa only [hplace] using meets_error level e

lemma meets_readPairs (hread : ReadsTo fuel) (level : Nat) {items : List Node}
    (h : depthOfItems items ≤ fuel + 1) :
    Meets (under level fun j => (items.flatMap placesOfPair).flatMap (showsAt j))
      (readPairs (read fuel level) level items) := by
  refine meets_places fun n hn => ?_
  have hdepth := Nat.le_trans (depth_of_mem_items hn) h
  split
  · next tag k v =>
    rw [depth_mapping] at hdepth
    obtain ⟨hk, hv⟩ := depth_of_mem_members (List.mem_singleton_self (k, v))
    dsimp only at hk hv
    exact meets_map (meets_pair (hread level k (by omega)) (hread level v (by omega))) _
  · next hother =>
    have hplaces : placesOfPair n = [.error .malformed] := by
      unfold placesOfPair
      split
      · exact absurd rfl (hother _ _ _)
      · rfl
    rw [hplaces]
    exact meets_mismatch level _

/-- A map, read with what it takes over. -/
lemma meets_map_members (hread : ReadsTo fuel) (level : Nat) {n : Node}
    {members : List (Node × Node)} (hdepth : n.depth = 1 + depthOfMembers members)
    (h : n.depth ≤ fuel + 1) :
    Meets (under level fun j => (n.placesOfMap members).flatMap (showsAt j))
      (atLevel level (merged (fuel + 1) members) >>= readMembers (read fuel level) level) := by
  have hfuel : merged (fuel + 1) members = merged n.depth members :=
    merged_eq (by omega) (by omega)
  rw [hfuel]
  unfold placesOfMap
  cases hmerged : merged n.depth members with
  | error e => exact meets_mismatch level e
  | ok ms =>
    have hle := depth_merged hmerged
    exact meets_readMembers hread level (by omega)

lemma content_of_not_isCollection (h : n.isCollection = false) : n.content = [] := by
  cases n with
  | scalar tag s => cases tag <;> first | rfl | cases h
  | sequence tag items => cases tag <;> first | rfl | cases h
  | mapping tag members => cases tag <;> first | rfl | cases h

/-- A node that is no collection is read by itself. -/
lemma meets_readScalar (h : n.isCollection = false) :
    Meets (under level n.faultsAt) (atLevel level n.readScalar) := by
  have hlater (k : Nat) : n.faultsAt (k + 1) = [] := by
    rw [faultsAt_succ, content_of_not_isCollection h, List.flatMap_nil]
  have hfaults : n.faultsAt = fun k => if k = 0 then n.ownFaults else [] := by
    funext k
    cases k with
    | zero => rfl
    | succ k => exact hlater k
  rw [hfaults, ownFaults, h]
  cases n.readScalar with
  | error e => exact meets_error level e
  | ok v =>
    intro k
    simp [under]

lemma read_of_not_isCollection (h : n.isCollection = false) :
    read (fuel + 1) level n = atLevel level n.readScalar := by
  unfold isCollection at h
  unfold read
  split <;> simp_all

/-- Nodes are read level by level. -/
lemma readsTo (fuel : Nat) : ReadsTo fuel := by
  induction fuel with
  | zero =>
    intro level n h
    cases n <;> simp [depth] at h
  | succ fuel ih =>
    intro level n h
    cases hn : n.isCollection with
    | false =>
      rw [read_of_not_isCollection hn]
      exact meets_readScalar hn
    | true =>
      rw [under_faultsAt hn]
      -- A collection is of the kind that its tag asks for, or it shows below that it is not.
      cases n with
      | scalar tag s =>
        cases tag <;> cases hn <;> exact meets_mismatch _ _
      | sequence tag items =>
        rw [depth_sequence] at h
        have hitems : depthOfItems items ≤ fuel := by omega
        cases tag with
        | sequence => exact meets_map (meets_items ih _ hitems) _
        | orderedMap => exact meets_map (meets_readPairs ih _ (by omega)) _
        | pairs => exact meets_map (meets_readPairs ih _ (by omega)) _
        | mapping => exact meets_mismatch _ _
        | set => exact meets_mismatch _ _
        | _ => cases hn
      | mapping tag members =>
        cases tag with
        | mapping => exact meets_map (meets_map_members ih _ rfl h) _
        | set => exact meets_map (meets_map_members ih _ rfl h) _
        | sequence => exact meets_mismatch _ _
        | orderedMap => exact meets_mismatch _ _
        | pairs => exact meets_mismatch _ _
        | _ => cases hn

/-- **A tree is refused for what is wrong nearest to its root.** Reading it fails with a failure at a
level if and only if this is the first thing wrong with it. -/
theorem read_eq_error_iff {n : Node} {level : Nat} {e : Failure} :
    n.read n.depth 0 = .error (level, e) ↔ n.FirstFault level e := by
  have hmeets := readsTo n.depth 0 n (Nat.le_refl _)
  have hunder : under 0 n.faultsAt = n.faultsAt := by
    funext k
    rw [under, if_pos (Nat.zero_le k), Nat.sub_zero]
  rw [hunder] at hmeets
  constructor
  · intro h
    rwa [h] at hmeets
  · rintro ⟨hbefore, hfirst⟩
    cases hread : n.read n.depth 0 with
    | ok v =>
      rw [hread] at hmeets
      rw [hmeets level] at hfirst
      cases hfirst
    | error p =>
      obtain ⟨k, f⟩ := p
      rw [hread] at hmeets
      obtain ⟨hbefore', hfirst'⟩ := hmeets
      obtain hlt | rfl | hgt := Nat.lt_trichotomy k level
      · rw [hbefore k hlt] at hfirst'
        cases hfirst'
      · rw [hfirst, Option.some_inj] at hfirst'
        rw [hfirst']
      · rw [hbefore' level hgt] at hfirst
        cases hfirst

end

end RestOperations.Yaml.Node
