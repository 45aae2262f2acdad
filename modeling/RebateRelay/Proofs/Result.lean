/-!
# Results of a chain of steps

A chain of steps that can fail succeeds when each of its steps does. These lemmas take a success
apart into those of the steps.
-/

namespace RebateRelay

variable {ε ε' β γ : Type}

theorem exists_eq_ok {x : Except ε β} (h : x.isOk = true) : ∃ b, x = .ok b := by
  cases x with
  | error e => cases h
  | ok b => exact ⟨b, rfl⟩

theorem eq_ok_of_toOption {x : Except ε β} {b : β} (h : x.toOption = some b) : x = .ok b := by
  cases x with
  | error e => cases h
  | ok c => exact congrArg Except.ok (Option.some.inj h)

@[simp] theorem mapError_error (e : ε) (f : ε → ε') :
    (Except.error e : Except ε β).mapError f = .error (f e) := rfl

@[simp] theorem mapError_ok (b : β) (f : ε → ε') :
    (Except.ok b : Except ε β).mapError f = .ok b := rfl

theorem mapError_eq_ok {x : Except ε β} {f : ε → ε'} {b : β} :
    x.mapError f = .ok b ↔ x = .ok b := by
  cases x <;> simp

theorem mapError_eq_error {x : Except ε β} {f : ε → ε'} {e' : ε'} :
    x.mapError f = .error e' ↔ ∃ e, x = .error e ∧ f e = e' := by
  cases x <;> simp

theorem map_eq_ok {x : Except ε β} {f : β → γ} {c : γ} :
    x.map f = .ok c ↔ ∃ b, x = .ok b ∧ f b = c := by
  cases x <;> simp [Except.map]

theorem map_eq_error {x : Except ε β} {f : β → γ} {e : ε} :
    x.map f = .error e ↔ x = .error e := by
  cases x <;> simp [Except.map]

theorem bind_eq_ok {x : Except ε β} {f : β → Except ε γ} {c : γ} :
    (x >>= f) = .ok c ↔ ∃ b, x = .ok b ∧ f b = .ok c := by
  cases x <;> simp [bind, Except.bind]

/-- A chain of steps fails where one of them does. -/
theorem bind_eq_error {x : Except ε β} {f : β → Except ε γ} {e : ε} :
    (x >>= f) = .error e ↔ x = .error e ∨ ∃ b, x = .ok b ∧ f b = .error e := by
  cases x <;> simp [bind, Except.bind]

/-- A chain with a check goes on when the check is passed. -/
theorem check_eq_ok {failed : Prop} [Decidable failed] {e : ε} {f : PUnit → Except ε γ} {c : γ} :
    (if failed then throw e >>= f else f ⟨⟩) = .ok c ↔ ¬failed ∧ f ⟨⟩ = .ok c := by
  split
  case isTrue failed =>
    exact ⟨(nomatch ·), fun passed => absurd failed passed.1⟩
  case isFalse passed =>
    exact ⟨fun h => ⟨passed, h⟩, And.right⟩

theorem check_eq_error {failed : Prop} [Decidable failed] {e e' : ε} {f : PUnit → Except ε γ} :
    (if failed then throw e >>= f else f ⟨⟩) = .error e' ↔
      failed ∧ e = e' ∨ ¬failed ∧ f ⟨⟩ = .error e' := by
  split
  case isTrue failed =>
    have thrown : (throw e >>= f : Except ε γ) = .error e := rfl
    simp [thrown, failed]
  case isFalse passed => simp [passed]

/-! ## Two chains side by side -/

/-- Two steps end alike: with the same error, or with results that are related. -/
inductive Alike (R : β → γ → Prop) : Except ε β → Except ε γ → Prop where
  | error (e : ε) : Alike R (.error e) (.error e)
  | ok {b : β} {c : γ} (related : R b c) : Alike R (.ok b) (.ok c)

namespace Alike

variable {β' γ' : Type} {R : β → γ → Prop} {S : β' → γ' → Prop}

theorem error_or_ok {x : Except ε β} {y : Except ε γ} (alike : Alike R x y) :
    (∃ e, x = .error e ∧ y = .error e) ∨ ∃ b c, x = .ok b ∧ y = .ok c ∧ R b c := by
  cases alike with
  | error e => exact Or.inl ⟨e, rfl, rfl⟩
  | ok related => exact Or.inr ⟨_, _, rfl, rfl, related⟩

theorem bind {x : Except ε β} {y : Except ε γ} {f : β → Except ε β'} {g : γ → Except ε γ'}
    (first : Alike R x y) (next : ∀ b c, R b c → Alike S (f b) (g c)) :
    Alike S (x >>= f) (y >>= g) := by
  cases first with
  | error e => exact .error e
  | ok related => exact next _ _ related

/-- Behind one and the same step. -/
theorem bind_same {x y : Except ε β} {f : β → Except ε β'} {g : β → Except ε γ'} (same : x = y)
    (next : ∀ b, Alike S (f b) (g b)) : Alike S (x >>= f) (y >>= g) := by
  subst same
  cases x with
  | error e => exact .error e
  | ok b => exact next b

/-- Behind one and the same check. -/
theorem check {failed : Prop} [Decidable failed] {e : ε} {f : PUnit → Except ε β}
    {g : PUnit → Except ε γ} (next : Alike R (f ⟨⟩) (g ⟨⟩)) :
    Alike R (if failed then throw e >>= f else f ⟨⟩) (if failed then throw e >>= g else g ⟨⟩) := by
  split
  case isTrue => exact .error e
  case isFalse => exact next

end Alike

end RebateRelay
