import Mathlib.Data.List.Forall2
import Mathlib.Tactic.Lemma
import RestOperations.Fault

/-!
Results and faults of computations. What goes wrong in a computation of two parts goes wrong in one
of them, where the second one is only looked at for results of the first. A computation is contained
if nothing goes wrong in it but what callers are told as a fault of the call.
-/

namespace RestOperations

section Results

variable {ε δ α β : Type}

@[simp] lemma isOk_map (r : Except ε α) (g : α → β) : (r.map g).isOk = r.isOk := by
  cases r <;> rfl

@[simp] lemma isOk_mapError (r : Except ε α) (g : ε → δ) : (r.mapError g).isOk = r.isOk := by
  cases r <;> rfl

@[simp] lemma ok_bind (a : α) (next : α → Except ε β) : Except.ok a >>= next = next a := rfl

@[simp] lemma error_bind (e : ε) (next : α → Except ε β) :
    Except.error e >>= next = .error e := rfl

lemma bind_eq_ok {r : Except ε α} {next : α → Except ε β} {b : β} :
    r >>= next = .ok b ↔ ∃ a, r = .ok a ∧ next a = .ok b := by
  cases r <;> simp

lemma bind_eq_error {r : Except ε α} {next : α → Except ε β} {e : ε} :
    r >>= next = .error e ↔ r = .error e ∨ ∃ a, r = .ok a ∧ next a = .error e := by
  cases r <;> simp

lemma isOk_iff {r : Except ε α} : r.isOk = true ↔ ∃ a, r = .ok a := by
  cases r <;> simp [Except.isOk, Except.toBool]

instance decidableExistsOk {r : Except ε α} {P : α → Prop} [DecidablePred P] :
    Decidable (∃ a, r = .ok a ∧ P a) :=
  match r with
  | .ok a => decidable_of_iff (P a) (by simp)
  | .error _ => isFalse (by simp)

@[simp] lemma mapError_ok (a : α) (g : ε → δ) : (Except.ok a).mapError g = .ok a := rfl

@[simp] lemma mapError_error (e : ε) (g : ε → δ) :
    (Except.error e : Except ε α).mapError g = .error (g e) := rfl

lemma map_eq_ok {r : Except ε α} {g : α → β} {b : β} :
    r.map g = .ok b ↔ ∃ a, r = .ok a ∧ g a = b := by
  cases r <;> simp [Except.map]

lemma mapError_eq_ok {r : Except ε α} {g : ε → δ} {a : α} :
    r.mapError g = .ok a ↔ r = .ok a := by
  cases r <;> simp

lemma map_eq_error {r : Except ε α} {g : α → β} {e : ε} : r.map g = .error e ↔ r = .error e := by
  cases r <;> simp [Except.map]

lemma mapError_eq_error {r : Except ε α} {g : ε → δ} {e : δ} :
    r.mapError g = .error e ↔ ∃ e', r = .error e' ∧ g e' = e := by
  cases r <;> simp

/-- Going through a list yields the results for its members, one after the other. -/
lemma mapM_eq_ok {f : α → Except ε β} {xs : List α} {ys : List β} :
    xs.mapM f = .ok ys ↔ List.Forall₂ (fun x y => f x = .ok y) xs ys := by
  induction xs generalizing ys with
  | nil => simp [pure, Except.pure, eq_comm]
  | cons x xs ih =>
    rw [List.mapM_cons, bind_eq_ok]
    constructor
    · rintro ⟨y, hy, h⟩
      obtain ⟨ys, hys, ⟨⟩⟩ := bind_eq_ok.mp h
      exact .cons hy (ih.mp hys)
    · rintro (_ | ⟨hy, hys⟩)
      exact ⟨_, hy, bind_eq_ok.mpr ⟨_, ih.mpr hys, rfl⟩⟩

section Pieces

/-! A list goes through `f` piece by piece: each member yields what `g` makes of it. -/

variable {f : List α → Except ε (List β)} {g : α → Except ε (List β)}

/-- What a list comes to, wherever it is cut. -/
lemma append_of_cons (hnil : f [] = .ok [])
    (hcons : ∀ x xs, f (x :: xs) = g x >>= fun here => (f xs).map (here ++ ·)) (xs ys : List α) :
    f (xs ++ ys) = f xs >>= fun front => (f ys).map (front ++ ·) := by
  induction xs with
  | nil =>
    rw [List.nil_append, hnil]
    cases f ys <;> rfl
  | cons x xs ih =>
    rw [List.cons_append, hcons, ih, hcons]
    cases g x <;> cases f xs <;> cases f ys <;> simp [Except.map]

/-- What a list comes to around one of its members, which yields one piece for sure. -/
lemma around_of_cons {γ : Type} {r : Except ε γ} {view : γ → β} (hnil : f [] = .ok [])
    (hcons : ∀ x xs, f (x :: xs) = g x >>= fun here => (f xs).map (here ++ ·)) {x : α}
    (hx : g x = r.map fun c => [view c]) (xs ys : List α) :
    f (xs ++ x :: ys) = f xs >>= fun front => r >>= fun c =>
      (f ys).map fun back => front ++ view c :: back := by
  rw [append_of_cons hnil hcons, hcons, hx]
  cases f xs <;> cases r <;> cases f ys <;> rfl

end Pieces

lemma mapM_congr {f g : α → Except ε β} {xs : List α} (h : ∀ x ∈ xs, f x = g x) :
    xs.mapM f = xs.mapM g := by
  induction xs with
  | nil => rfl
  | cons x xs ih =>
    rw [List.mapM_cons, List.mapM_cons, h x List.mem_cons_self,
      ih fun y hy => h y (List.mem_cons_of_mem _ hy)]

/-- Each member of one list has its match in the other. -/
lemma forall₂_mem_left {R : α → β → Prop} {xs : List α} {ys : List β} {x : α}
    (h : List.Forall₂ R xs ys) (hx : x ∈ xs) : ∃ y ∈ ys, R x y := by
  induction h with
  | nil => cases hx
  | cons hr _ ih =>
    obtain rfl | hx := List.mem_cons.mp hx
    · exact ⟨_, List.mem_cons_self, hr⟩
    · obtain ⟨y, hy, hr⟩ := ih hx
      exact ⟨y, List.mem_cons_of_mem _ hy, hr⟩

lemma forall₂_mem_right {R : α → β → Prop} {xs : List α} {ys : List β} {y : β}
    (h : List.Forall₂ R xs ys) (hy : y ∈ ys) : ∃ x ∈ xs, R x y :=
  forall₂_mem_left h.flip hy

end Results

/-! ### Faults -/

/-- Whatever goes wrong is one of these faults. -/
def FaultsIn {α : Type} (P : Fault → Prop) (r : Except Fault α) : Prop := ∀ f, r = .error f → P f

section FaultsIn

variable {P : Fault → Prop} {α β : Type}

@[simp] lemma faultsIn_ok (a : α) : FaultsIn P (.ok a) := by simp [FaultsIn]

@[simp] lemma faultsIn_error (f : Fault) : FaultsIn P (.error f : Except Fault α) ↔ P f := by
  simp [FaultsIn]

lemma faultsIn_bind (r : Except Fault α) (next : α → Except Fault β) :
    FaultsIn P (r >>= next) ↔ FaultsIn P r ∧ ∀ a, r = .ok a → FaultsIn P (next a) := by
  cases r <;> simp [bind, Except.bind]

lemma faultsIn_map (r : Except Fault α) (g : α → β) : FaultsIn P (r.map g) ↔ FaultsIn P r := by
  simp only [FaultsIn, map_eq_error]

lemma faultsIn_mapError {ε : Type} {g : ε → Fault} (hg : ∀ e, P (g e)) (r : Except ε α) :
    FaultsIn P (r.mapError g) := by
  intro f hf
  obtain ⟨e, -, rfl⟩ := mapError_eq_error.mp hf
  exact hg e

/-- Both parts keep to the faults. -/
lemma FaultsIn.bind {r : Except Fault α} {next : α → Except Fault β} (hr : FaultsIn P r)
    (hnext : ∀ a, FaultsIn P (next a)) : FaultsIn P (r >>= next) :=
  (faultsIn_bind r next).mpr ⟨hr, fun a _ => hnext a⟩

end FaultsIn

/-! ### Containment -/

/-- Nothing goes wrong but what is a fault of the call. -/
def Contained {α : Type} (r : Except Fault α) : Prop := FaultsIn (fun f => f.isBinding = true) r

variable {α β : Type}

@[simp] lemma contained_ok (a : α) : Contained (.ok a) := faultsIn_ok a

@[simp] lemma contained_error (f : Fault) :
    Contained (.error f : Except Fault α) ↔ f.isBinding = true :=
  faultsIn_error f

instance (r : Except Fault α) : Decidable (Contained r) :=
  match r with
  | .ok a => isTrue (contained_ok a)
  | .error f => decidable_of_iff (f.isBinding = true) (contained_error f).symm

lemma contained_bind (r : Except Fault α) (next : α → Except Fault β) :
    Contained (r >>= next) ↔ Contained r ∧ ∀ a, r = .ok a → Contained (next a) :=
  faultsIn_bind r next

/-- The second part is as good for one result as for another. -/
lemma contained_bind_of_forall {r : Except Fault α} {next : α → Except Fault β} {P : Prop}
    (h : ∀ a, Contained (next a) ↔ P) :
    Contained (r >>= next) ↔ Contained r ∧ (r.isOk = true → P) := by
  cases r with
  | error f => simp [Except.isOk, Except.toBool]
  | ok a => simp [h, Except.isOk, Except.toBool]

/-- Where only success is contained, what is made of it counts only then. -/
lemma contained_bind_of_isOk {r : Except Fault α} {next : α → Except Fault β} {P : Prop}
    (hr : Contained r ↔ r.isOk = true) (h : ∀ a, Contained (next a) ↔ P) :
    Contained (r >>= next) ↔ r.isOk = true ∧ P := by
  rw [contained_bind_of_forall h, hr]
  exact and_congr_right fun hok => forall_prop_of_true hok

lemma contained_bind_ok (r : Except Fault α) (g : α → β) :
    Contained (r >>= fun a => .ok (g a)) ↔ Contained r := by
  rw [contained_bind]
  exact and_iff_left fun _ _ => contained_ok _

lemma contained_map (r : Except Fault α) (g : α → β) : Contained (r.map g) ↔ Contained r :=
  faultsIn_map r g

/-- Where no fault is one of the call, containment is success. -/
lemma contained_mapError {ε : Type} {g : ε → Fault} (hg : ∀ e, (g e).isBinding = false)
    (r : Except ε α) : Contained (r.mapError g) ↔ r.isOk = true := by
  cases r <;> simp [hg, Except.isOk, Except.toBool]

/-- Something is a fault of the call if it is contained, and goes wrong. -/
lemma exists_binding_iff {r : Except Fault α} :
    (∃ f, r = .error f ∧ f.isBinding = true) ↔ Contained r ∧ ¬ ∃ a, r = .ok a := by
  cases r <;> simp

end RestOperations
