import Mathlib.Data.List.Forall2

/-!
# Steps that may fail

How a computation with several steps has come to its end: a success is one of every step, a failure is
one of the first step that fails. Where there is a step for every item of a list, either every item has a
result (`forall₂_of_mapM`) or one of them is the failure (`mapM_cases`).
-/

namespace Diagnosis

variable {ε ε' α β : Type}

/-- Two steps succeed if both do, the second on what the first gives. -/
lemma bind_eq_ok_iff {x : Except ε α} {f : α → Except ε β} {b : β} :
    x >>= f = .ok b ↔ ∃ a, x = .ok a ∧ f a = .ok b := by
  cases x <;> simp [bind, Except.bind]

/-- Two steps fail if the first does, or if the second does on what the first gives. -/
lemma bind_eq_error_iff {x : Except ε α} {f : α → Except ε β} {e : ε} :
    x >>= f = .error e ↔ x = .error e ∨ ∃ a, x = .ok a ∧ f a = .error e := by
  cases x <;> simp [bind, Except.bind]

/-- Telling a failure in other words leaves successes as they are. -/
lemma mapError_eq_ok_iff {g : ε → ε'} {x : Except ε α} {a : α} :
    x.mapError g = .ok a ↔ x = .ok a := by
  cases x <;> simp [Except.mapError]

/-- A failure told in other words comes from one that is told so. -/
lemma mapError_eq_error_iff {g : ε → ε'} {x : Except ε α} {e' : ε'} :
    x.mapError g = .error e' ↔ ∃ e, x = .error e ∧ g e = e' := by
  cases x <;> simp [Except.mapError]

/-! ## A step for every item -/

/-- Items are all read, or one of them is not. -/
lemma mapM_cases (f : α → Except ε β) (xs : List α) :
    (∃ ys, xs.mapM f = .ok ys ∧ ∀ x ∈ xs, ∃ y, f x = .ok y) ∨
      ∃ x ∈ xs, ∃ e, f x = .error e ∧ xs.mapM f = .error e := by
  induction xs with
  | nil => exact .inl ⟨[], rfl, List.forall_mem_nil _⟩
  | cons x xs ih =>
    rw [List.mapM_cons]
    cases hx : f x with
    | error e => exact .inr ⟨x, List.mem_cons_self, e, hx, rfl⟩
    | ok y =>
      obtain ⟨ys, hys, hall⟩ | ⟨x', hmem, e, hx', he⟩ := ih
      · rw [hys]
        exact .inl ⟨y :: ys, rfl, List.forall_mem_cons.mpr ⟨⟨y, hx⟩, hall⟩⟩
      · rw [he]
        exact .inr ⟨x', List.mem_cons_of_mem x hmem, e, hx', rfl⟩

/-- What reading item by item gives. -/
lemma forall₂_of_mapM {f : α → Except ε β} {xs : List α} {ys : List β} (h : xs.mapM f = .ok ys) :
    List.Forall₂ (fun x y => f x = .ok y) xs ys := by
  induction xs generalizing ys with
  | nil =>
    obtain rfl := Except.ok.inj h
    exact .nil
  | cons x xs ih =>
    rw [List.mapM_cons] at h
    obtain ⟨y, hx, h⟩ := bind_eq_ok_iff.mp h
    obtain ⟨rest, hxs, h⟩ := bind_eq_ok_iff.mp h
    obtain rfl := Except.ok.inj h
    exact .cons hx (ih hxs)

/-- The results of the first step and of the others, one behind the other. -/
lemma flatten_mapM_cons (f : α → Except ε (List β)) (x : α) (xs : List α) :
    (do
      let ys ← (x :: xs).mapM f
      return ys.flatten) = do
    let front ← f x
    let back ← (do
      let ys ← xs.mapM f
      return ys.flatten)
    return front ++ back := by
  rw [List.mapM_cons]
  cases f x with
  | error e => rfl
  | ok front => cases xs.mapM f <;> rfl

/-- A list of lookups finds something if each of them does. -/
lemma mapM_eq_some {f : α → Option β} {g : α → β} {as : List α}
    (h : ∀ a ∈ as, f a = some (g a)) : as.mapM f = some (as.map g) := by
  induction as with
  | nil => rfl
  | cons a as ih =>
    rw [List.forall_mem_cons] at h
    rw [List.mapM_cons, h.1, ih h.2]
    rfl

end Diagnosis
