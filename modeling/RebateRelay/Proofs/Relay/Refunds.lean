import Mathlib.Tactic.Linarith
import RebateRelay.Proofs.Relay.Grants

/-!
# What is left of an attempt that is cancelled

An attempt to take a token that has not got it when shutdown is signalled is cancelled then. If it
has reserved a token, the token is put back: once, and into the bucket as the others have left it
meanwhile.

Putting back is not undoing. While a token is reserved the bucket is one short, so that it fills up
later, and what is put back may accrue where the bucket would have been full. In exact numbers, the
others find no less than if the attempt had never been made, and just as much if there are none.
-/

namespace RebateRelay

namespace Limiter

section

variable {α : Type} [Reckoning α] {l : Limiter α} {b : Bucket α} {now t : Instant}

/-- An attempt from its beginning to its end, with what others do to the bucket meanwhile: the
bucket, the outcome, and when it was known. -/
def acquire (l : Limiter α) (signal : Signal) (b : Bucket α) (now : Instant)
    (others : Bucket α → Bucket α) : Bucket α × Except RelayError Unit × Instant :=
  let (b, attempt) := l.attempt b now signal
  l.finish (others b) now signal attempt

/-- When an attempt gets its token that begins at a moment. -/
def due (l : Limiter α) (b : Bucket α) (now : Instant) : Instant :=
  if (l.reserve b now).2 = .zero then now else now.alarm (l.reserve b now).2

end

/-- What others do to a bucket. -/
inductive Use where
  /-- A token is taken. -/
  | take (now : Instant)
  /-- A token is put back. -/
  | putBack

/-- The bucket after others have used it. -/
def use (l : Limiter ℚ) (b : Bucket ℚ) : Use → Bucket ℚ
  | .take now => (l.reserve b now).1
  | .putBack => l.refund b

/-- Tokens are taken one after the other, no earlier than one moment and no later than another. -/
def InOrder : Instant → Instant → List Use → Prop
  | first, last, [] => first ≤ last
  | first, last, .take now :: uses => first ≤ now ∧ InOrder now last uses
  | first, last, .putBack :: uses => InOrder first last uses

section

variable {l : Limiter ℚ} {x y : Bucket ℚ} {now first last u : Instant}

/-- A token that is put back is there from then on, unless the bucket is full. -/
theorem accrued_refund (positive : 0 ≤ l.rate) (b : Bucket ℚ) (u : Instant) :
    l.accrued (l.refund b) u = min (l.accrued b u + 1) l.burst := by
  have gain : 0 ≤ (u.since b.counted).seconds * l.rate :=
    mul_nonneg (Duration.seconds_nonneg _) positive
  rw [accrued_eq, accrued_eq, tokens_refund, counted_refund]
  generalize (u.since b.counted).seconds * l.rate = accrued at gain
  calc min (min (b.tokens + 1) l.burst + accrued) l.burst
      = min (min (b.tokens + 1 + accrued) (l.burst + accrued)) l.burst := by rw [min_add_add_right]
    _ = min (b.tokens + 1 + accrued) (min (l.burst + accrued) l.burst) := min_assoc _ _ _
    _ = min (b.tokens + accrued + 1) l.burst := by
        rw [min_eq_right (by linarith : l.burst ≤ l.burst + accrued), add_right_comm]
    _ = min (min (b.tokens + accrued + 1) (l.burst + 1)) l.burst := by
        rw [min_assoc, min_eq_right (by linarith : l.burst ≤ l.burst + 1)]
    _ = min (min (b.tokens + accrued) l.burst + 1) l.burst := by rw [min_add_add_right]

theorem accrued_reserve (l : Limiter ℚ) (b : Bucket ℚ) (now u : Instant) :
    l.accrued (l.reserve b now).1 u =
      min (l.accrued b now - 1 + (u.since now).seconds * l.rate) l.burst := by
  rw [accrued_eq, tokens_reserve, ← accrued_eq, counted_reserve]

/-- One bucket is at most one token short of another, from a moment on. -/
structure OneShort (l : Limiter ℚ) (x y : Bucket ℚ) (clock : Instant) : Prop where
  counted : y.counted ≤ clock
  short : ∀ u, clock ≤ u → l.accrued y u ≤ l.accrued x u + 1

/-- What others do alike to both buckets keeps the difference. -/
theorem OneShort.after (h : OneShort l x y first) (positive : 0 ≤ l.rate) {which : Use}
    {uses : List Use} (inOrder : InOrder first last (which :: uses)) :
    ∃ next, OneShort l (l.use x which) (l.use y which) next ∧ InOrder next last uses := by
  cases which with
  | take now =>
      obtain ⟨order, inOrder⟩ := inOrder
      refine ⟨now, ⟨Nat.le_refl _, fun u later => ?_⟩, inOrder⟩
      have short := h.short now order
      simp only [use]
      rw [accrued_reserve, accrued_reserve, ← min_add_add_right]
      apply min_le_min
      · linarith
      · linarith
  | putBack =>
      refine ⟨first, ⟨h.counted, fun u later => ?_⟩, inOrder⟩
      have short := h.short u later
      simp only [use]
      rw [accrued_refund positive, accrued_refund positive, ← min_add_add_right]
      apply min_le_min
      · linarith
      · linarith

theorem OneShort.run (h : OneShort l x y first) (positive : 0 ≤ l.rate) {uses : List Use}
    (inOrder : InOrder first last uses) :
    ∃ next ≤ last, OneShort l (uses.foldl (use l) x) (uses.foldl (use l) y) next := by
  induction uses generalizing x y first with
  | nil => exact ⟨first, inOrder, h⟩
  | cons which uses ih =>
      obtain ⟨next, short, inOrder⟩ := h.after positive inOrder
      exact ih short inOrder

end

end Limiter

end RebateRelay
