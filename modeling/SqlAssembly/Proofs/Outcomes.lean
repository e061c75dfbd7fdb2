/-!
# Outcomes of lists

What reading or making all items of a list comes to. The list fails if and only if one of its items
does, and then with the error of such an item; if none does, what each item keeps is kept by the
list.
-/

namespace SqlAssembly.Outcome

variable {ε α β γ : Type}

theorem map_error_iff {x : Except ε α} {f : α → β} :
    (∃ e, x.map f = .error e) ↔ ∃ e, x = .error e := by
  cases x <;> simp [Except.map]

theorem eq_of_map_ok {x : Except ε α} {f : α → β} {b : β} (h : x.map f = .ok b) :
    ∃ a, x = .ok a ∧ f a = b := by
  cases x with
  | error e => cases h
  | ok a =>
      cases h
      exact ⟨a, rfl, rfl⟩

/-- Two steps fail if one of them does, when the second does not depend on the first. -/
theorem bind_error_iff {x : Except ε α} {f : α → Except ε β} {later : Prop}
    (second : ∀ a, (∃ e, f a = .error e) ↔ later) :
    (∃ e, x >>= f = .error e) ↔ (∃ e, x = .error e) ∨ later := by
  cases x with
  | error e => simp [bind, Except.bind]
  | ok a => simpa [bind, Except.bind] using second a

/-- The first item and the others, each with its own outcome. -/
theorem mapM_cons_eq (f : α → Except ε β) (x : α) (xs : List α) :
    (x :: xs).mapM f = (f x).bind fun y => (xs.mapM f).map (y :: ·) := by
  rw [List.mapM_cons]
  rfl

theorem mapM_error_iff {f : α → Except ε β} {xs : List α} :
    (∃ e, xs.mapM f = .error e) ↔ ∃ x ∈ xs, ∃ e, f x = .error e := by
  induction xs with
  | nil => simp [pure, Except.pure]
  | cons x xs ih =>
      rw [mapM_cons_eq]
      refine (bind_error_iff fun y => map_error_iff.trans ih).trans ?_
      simp only [List.mem_cons, exists_eq_or_imp]

theorem exists_of_mapM_error {f : α → Except ε β} {xs : List α} {e : ε}
    (refused : xs.mapM f = .error e) : ∃ x ∈ xs, f x = .error e := by
  induction xs with
  | nil => cases refused
  | cons x xs ih =>
      rw [mapM_cons_eq] at refused
      cases first : f x with
      | error e' =>
          rw [first] at refused
          cases refused
          exact ⟨x, List.mem_cons_self, first⟩
      | ok y =>
          cases others : xs.mapM f with
          | error e' =>
              rw [first, others] at refused
              cases refused
              obtain ⟨x', mem, error⟩ := ih others
              exact ⟨x', List.mem_cons_of_mem x mem, error⟩
          | ok ys =>
              rw [first, others] at refused
              cases refused

/-- One cause is the answer if an item fails for it and none for another. -/
theorem mapM_eq_error {f : α → Except ε β} {cause : ε} {xs : List α}
    (each : ∀ x ∈ xs, ∀ e, f x = .error e → e = cause) (refused : ∃ x ∈ xs, f x = .error cause) :
    xs.mapM f = .error cause := by
  obtain ⟨x, hx, error⟩ := refused
  obtain ⟨e, whole⟩ := mapM_error_iff.mpr ⟨x, hx, cause, error⟩
  obtain ⟨y, hy, fault⟩ := exists_of_mapM_error whole
  rw [whole, each y hy e fault]

theorem map_eq_of_mapM {f : α → Except ε β} {g : α → γ} {g' : β → γ}
    (each : ∀ {x y}, f x = .ok y → g' y = g x) {xs : List α} {ys : List β}
    (made : xs.mapM f = .ok ys) : ys.map g' = xs.map g := by
  induction xs generalizing ys with
  | nil =>
      cases made
      rfl
  | cons x xs ih =>
      rw [mapM_cons_eq] at made
      cases first : f x with
      | error e =>
          rw [first] at made
          cases made
      | ok y =>
          rw [first] at made
          obtain ⟨zs, others, rfl⟩ := eq_of_map_ok made
          rw [List.map_cons, List.map_cons, each first, ih others]

/-- Forgetting the errors before or after makes no difference. -/
theorem mapM_toOption (f : α → Except ε β) (xs : List α) :
    xs.mapM (fun x => (f x).toOption) = (xs.mapM f).toOption := by
  induction xs with
  | nil => rfl
  | cons x xs ih =>
      rw [List.mapM_cons, ih, mapM_cons_eq]
      cases f x with
      | error e => rfl
      | ok y => cases xs.mapM f <;> rfl

end SqlAssembly.Outcome
