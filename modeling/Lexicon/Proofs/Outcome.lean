import Lexicon.Text.CodePoint

/-!
# Operations in sequence

An operation that may be refused is a sequence of steps, and it goes well
exactly if each of them does. `bind_eq_ok` takes such a sequence apart where it
went well, `bind_eq_error` where one of its steps was refused.
-/

namespace Lexicon

variable {ε α β : Type} {x : Except ε α} {f : α → Except ε β}

theorem bind_eq_ok {b : β} :
    (x >>= f) = .ok b ↔ ∃ a, x = .ok a ∧ f a = .ok b := by
  cases x <;> simp [bind, Except.bind]

theorem bind_eq_error {e : ε} :
    (x >>= f) = .error e
      ↔ x = .error e ∨ ∃ a, x = .ok a ∧ f a = .error e := by
  cases x <;> simp [bind, Except.bind]

@[simp] theorem throw_ne_ok {e : ε} {b : β} :
    (throw e : Except ε β) ≠ .ok b := by
  intro h
  exact absurd (show Except.error e = Except.ok b from h) (by simp)

@[simp] theorem throw_bind_ne_ok {e : ε} {b : β} :
    ((throw e : Except ε α) >>= f) ≠ .ok b := by
  intro h
  exact absurd (show Except.error e = Except.ok b from h) (by simp)

@[simp] theorem throw_eq_error {e e' : ε} :
    (throw e : Except ε β) = .error e' ↔ e = e' :=
  ⟨Except.error.inj, congrArg Except.error⟩

@[simp] theorem throw_bind_eq_error {e e' : ε} :
    ((throw e : Except ε α) >>= f) = .error e' ↔ e = e' :=
  ⟨Except.error.inj, congrArg Except.error⟩

@[simp] theorem pure_ne_error {e : ε} {b : β} :
    (pure b : Except ε β) ≠ .error e := by
  intro h
  exact absurd (show Except.ok b = Except.error e from h) (by simp)

@[simp] theorem map_eq_ok {g : α → β} {b : β} :
    x.map g = .ok b ↔ ∃ a, x = .ok a ∧ g a = b := by
  cases x <;> simp [Except.map]

@[simp] theorem mapError_eq_ok {ε' : Type} {g : ε → ε'} {a : α} :
    x.mapError g = .ok a ↔ x = .ok a := by
  cases x with
  | error e => exact iff_of_false (fun h => nomatch h) (fun h => nomatch h)
  | ok b => exact ⟨fun h => congrArg _ (Except.ok.inj h), fun h =>
      congrArg _ (Except.ok.inj h)⟩

@[simp] theorem bind_unit_eq_ok {x : Except ε Unit} {f : Unit → Except ε β} {b : β} :
    (x >>= f) = .ok b ↔ x = .ok () ∧ f () = .ok b := by
  cases x <;> simp [bind, Except.bind]

@[simp] theorem forM_eq_ok {f : α → Except ε Unit} {xs : List α} :
    xs.forM f = .ok () ↔ ∀ x ∈ xs, f x = .ok () := by
  induction xs with
  | nil => exact iff_of_true rfl (by simp)
  | cons x xs ih =>
    show (f x >>= fun _ => xs.forM f) = .ok () ↔ _
    rw [bind_unit_eq_ok, List.forall_mem_cons, ih]

/-- One step for each of many is refused as one of the steps is. -/
theorem exists_of_forM_eq_error {f : α → Except ε Unit} {xs : List α} {e : ε}
    (h : xs.forM f = .error e) : ∃ x ∈ xs, f x = .error e := by
  induction xs with
  | nil => exact absurd h pure_ne_error
  | cons x xs ih =>
    obtain h | ⟨-, -, h⟩ :=
      bind_eq_error.1 (show (f x >>= fun _ => xs.forM f) = .error e from h)
    · exact ⟨x, List.mem_cons_self, h⟩
    · obtain ⟨y, hy, he⟩ := ih h
      exact ⟨y, List.mem_cons_of_mem _ hy, he⟩

end Lexicon
