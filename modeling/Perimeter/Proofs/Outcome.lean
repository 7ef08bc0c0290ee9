import Mathlib.Data.List.Forall2

/-!
Computations that can fail, taken apart step by step.
-/

namespace Perimeter.Outcome

variable {ε α β : Type}

theorem bind_eq_ok {x : Except ε α} {f : α → Except ε β} {b : β} :
    (x >>= f) = .ok b ↔ ∃ a, x = .ok a ∧ f a = .ok b := by
  cases x with
  | error e =>
    constructor
    · intro impossible
      cases impossible
    · rintro ⟨_, impossible, _⟩
      cases impossible
  | ok a =>
    constructor
    · intro next
      exact ⟨a, rfl, next⟩
    · rintro ⟨_, same, next⟩
      cases same
      exact next

theorem bind_eq_error {x : Except ε α} {f : α → Except ε β} {e : ε} :
    (x >>= f) = .error e ↔ x = .error e ∨ ∃ a, x = .ok a ∧ f a = .error e := by
  cases x with
  | error e' =>
    constructor
    · intro same
      cases same
      exact .inl rfl
    · rintro (same | ⟨_, impossible, _⟩)
      · cases same
        rfl
      · cases impossible
  | ok a =>
    constructor
    · intro next
      exact .inr ⟨a, rfl, next⟩
    · rintro (impossible | ⟨_, same, next⟩)
      · cases impossible
      · cases same
        exact next

theorem exists_ok_iff {x : Except ε α} : (∃ a, x = .ok a) ↔ ∀ e, x ≠ .error e := by
  cases x with
  | error e => simp
  | ok a => simp

theorem exists_ok_of_isOk {x : Except ε α} (success : x.isOk = true) : ∃ a, x = .ok a := by
  cases x with
  | error e => cases success
  | ok a => exact ⟨a, rfl⟩

theorem map_eq_ok {x : Except ε α} {f : α → β} {b : β} :
    x.map f = .ok b ↔ ∃ a, x = .ok a ∧ f a = b := by
  cases x with
  | error e => simp [Except.map]
  | ok a => simp [Except.map]

theorem map_eq_error {x : Except ε α} {f : α → β} {e : ε} : x.map f = .error e ↔ x = .error e := by
  cases x with
  | error e => simp [Except.map]
  | ok a => simp [Except.map]

/-- What follows a computation matters only for the values that it gives. -/
theorem bind_congr {x : Except ε α} {f g : α → Except ε β} (same : ∀ a, x = .ok a → f a = g a) :
    (x >>= f) = (x >>= g) := by
  cases x with
  | error e => rfl
  | ok a => exact same a rfl

/-- A traversal succeeds with the results of its elements, and only if all of them succeed. -/
theorem mapM_eq_ok {f : α → Except ε β} {xs : List α} {ys : List β} :
    xs.mapM f = .ok ys ↔ List.Forall₂ (fun x y => f x = .ok y) xs ys := by
  induction xs generalizing ys with
  | nil =>
    rw [List.mapM_nil, List.forall₂_nil_left_iff]
    constructor
    · intro same
      cases same
      rfl
    · rintro rfl
      rfl
  | cons x xs ih =>
    rw [List.mapM_cons, bind_eq_ok, List.forall₂_cons_left_iff]
    constructor
    · rintro ⟨y, here, rest⟩
      obtain ⟨zs, later, same⟩ := bind_eq_ok.mp rest
      cases same
      exact ⟨y, zs, here, ih.mp later, rfl⟩
    · rintro ⟨y, zs, here, later, rfl⟩
      exact ⟨y, here, bind_eq_ok.mpr ⟨zs, ih.mpr later, rfl⟩⟩

/-- A traversal of what stands for a list, where each element is computed from the one it stands for. -/
theorem mapM_map_eq {γ δ : Type} {f : γ → Except ε δ} {g : α → γ} {h : α → Except ε β} {k : β → δ}
    (each : ∀ x, f (g x) = (h x).map k) (xs : List α) :
    (xs.map g).mapM f = (xs.mapM h).map (List.map k) := by
  induction xs with
  | nil => rfl
  | cons x xs ih =>
    rw [List.map_cons, List.mapM_cons, List.mapM_cons, each, ih]
    cases h x with
    | error e => rfl
    | ok y =>
      cases xs.mapM h with
      | error e => rfl
      | ok ys => rfl

/-- A traversal fails at the first element that does. -/
theorem split_of_mapM_eq_error {f : α → Except ε β} {xs : List α} {e : ε}
    (failed : xs.mapM f = .error e) : ∃ before x after, xs = before ++ x :: after ∧
      (∀ y ∈ before, ∃ z, f y = .ok z) ∧ f x = .error e := by
  induction xs with
  | nil => cases failed
  | cons x xs ih =>
    rw [List.mapM_cons, bind_eq_error] at failed
    rcases failed with here | ⟨y, passed, rest⟩
    · exact ⟨[], x, xs, rfl, List.forall_mem_nil _, here⟩
    · rcases bind_eq_error.mp rest with later | ⟨_, _, impossible⟩
      · obtain ⟨before, z, after, rfl, earlier, there⟩ := ih later
        exact ⟨x :: before, z, after, rfl, List.forall_mem_cons.mpr ⟨⟨y, passed⟩, earlier⟩, there⟩
      · cases impossible

theorem of_mapM_eq_error {f : α → Except ε β} {xs : List α} {e : ε} (failed : xs.mapM f = .error e) :
    ∃ x ∈ xs, f x = .error e := by
  obtain ⟨before, x, after, rfl, _, wrong⟩ := split_of_mapM_eq_error failed
  exact ⟨x, List.mem_append_right _ (List.mem_cons_self ..), wrong⟩

theorem mem_of_mapM {f : α → Except ε β} {xs : List α} {ys : List β} (made : xs.mapM f = .ok ys)
    (y : β) : y ∈ ys ↔ ∃ x ∈ xs, f x = .ok y := by
  have paired := mapM_eq_ok.mp made
  clear made
  induction paired with
  | nil => simp
  | @cons x z xs ys here _ ih =>
    have same : f x = .ok y ↔ y = z := by
      rw [here, Except.ok.injEq]
      exact eq_comm
    rw [List.mem_cons, List.exists_mem_cons_iff, same]
    exact or_congr_right ih

theorem exists_of_mapM {f : α → Except ε β} {xs : List α} {ys : List β} (made : xs.mapM f = .ok ys)
    {x : α} (member : x ∈ xs) : ∃ y ∈ ys, f x = .ok y := by
  have paired := mapM_eq_ok.mp made
  clear made
  induction paired with
  | nil => cases member
  | @cons z y xs ys here _ ih =>
    rcases List.mem_cons.mp member with rfl | later
    · exact ⟨y, List.mem_cons_self .., here⟩
    · obtain ⟨w, listed, found⟩ := ih later
      exact ⟨w, List.mem_cons_of_mem _ listed, found⟩

theorem exists_mapM {f : α → Except ε β} {xs : List α} (each : ∀ x ∈ xs, ∃ y, f x = .ok y) :
    ∃ ys, xs.mapM f = .ok ys := by
  refine exists_ok_iff.mpr fun e failed => ?_
  obtain ⟨x, member, wrong⟩ := of_mapM_eq_error failed
  obtain ⟨y, found⟩ := each x member
  cases wrong.symm.trans found

theorem eq_nil_of_mapM {f : α → Except ε β} {xs : List α} {ys : List β} (made : xs.mapM f = .ok ys) :
    ys = [] ↔ xs = [] := by
  have paired := mapM_eq_ok.mp made
  cases paired with
  | nil => exact ⟨fun _ => rfl, fun _ => rfl⟩
  | cons _ _ => simp

theorem mapError_eq_ok {ε' : Type} {x : Except ε α} {f : ε → ε'} {a : α} :
    x.mapError f = .ok a ↔ x = .ok a := by
  cases x with
  | error e => simp [Except.mapError]
  | ok a => simp [Except.mapError]

theorem mapError_eq_error {ε' : Type} {x : Except ε α} {f : ε → ε'} {e : ε'} :
    x.mapError f = .error e ↔ ∃ cause, x = .error cause ∧ f cause = e := by
  cases x with
  | error cause => simp [Except.mapError]
  | ok a => simp [Except.mapError]

theorem mapError_map {ε' : Type} (x : Except ε α) (f : ε → ε') (g : α → β) :
    (x.map g).mapError f = (x.mapError f).map g := by
  cases x with
  | error e => rfl
  | ok a => rfl

end Perimeter.Outcome
