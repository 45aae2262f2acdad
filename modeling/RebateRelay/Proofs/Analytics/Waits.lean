import RebateRelay.Proofs.Analytics.Backoff
import RebateRelay.Proofs.Time.DoubleSeconds

/-!
# How long the waits are

Waits grow by a factor and are cut at the longest that the policy names. They are reckoned in
doubles, and still they do not pass it but by the rounding of numbers of that size, which for waits
of up to a day is less than a nanosecond. Jitter comes after the cut. A sample above a half makes
the wait longer, by up to the part that the policy names, so the longest wait of a policy is no
bound on a wait with jitter.
-/

namespace RebateRelay

open Number

namespace BackoffPolicy

variable {p : BackoffPolicy}

/-! ## Numbers from zero to one -/

/-- A number cut to the range from zero to one; in place of one that is not finite stands
another. -/
def cut (x : Float) (other : ℚ) : ℚ :=
  (Binary64.ofFloat? x).elim other fun parts => max 0 (min parts.value 1)

section

variable {x y : Float} {other : ℚ}

theorem cut_nonneg (nonneg : 0 ≤ other) : 0 ≤ cut x other := by
  unfold cut
  cases Binary64.ofFloat? x with
  | none => exact nonneg
  | some parts => exact le_max_left _ _

theorem cut_le_one (unit : other ≤ 1) : cut x other ≤ 1 := by
  unfold cut
  cases Binary64.ofFloat? x with
  | none => exact unit
  | some parts => exact max_le zero_le_one (min_le_right _ _)

theorem denotes_clampUnit {parts : Binary64} (taken : Binary64.ofFloat? x = some parts) :
    Denotes (clampUnit x) (max 0 (min parts.value 1)) := by
  unfold clampUnit
  split_ifs with below large
  · rw [max_eq_left ((min_le_left _ _).trans (value_nonpos taken below))]
    exact denotes_zero
  · have denotes := denotes_value taken below
    rw [denotes_one.lt_iff denotes] at large
    rw [min_eq_right large.le, max_eq_right zero_le_one]
    exact denotes_one
  · have denotes := denotes_value taken below
    rw [denotes_one.lt_iff denotes, not_lt] at large
    rwa [min_eq_left large, max_eq_right denotes.nonneg]

theorem denotes_cut (denotes : Denotes y other) :
    Denotes (if x.isFinite then clampUnit x else y) (cut x other) := by
  unfold cut
  rw [← isSome_ofFloat?]
  cases taken : Binary64.ofFloat? x with
  | none => simpa using denotes
  | some parts => exact denotes_clampUnit taken

end

/-- The part of a wait by which jitter may change it. -/
def spread (p : BackoffPolicy) : ℚ := cut p.randomization 0

/-- The waits of a steady policy have no part that jitter may change. -/
theorem IsSteady.spread_eq_zero (steady : p.IsSteady) : p.spread = 0 := by
  unfold spread cut
  cases taken : Binary64.ofFloat? p.randomization with
  | none => rfl
  | some parts =>
      have finite := isSome_ofFloat? p.randomization
      rw [taken] at finite
      have above := steady finite.symm
      refine max_eq_left ((min_le_left _ _).trans ?_)
      by_cases below : p.randomization < 0
      · exact value_nonpos taken below
      · rw [denotes_zero.lt_iff (denotes_value taken below)] at above
        exact not_lt.mp above

/-- The number from zero to one that a sample counts as. -/
def draw (sample : Float) : ℚ := cut sample (1 / 2)

/-- The part of a wait by which a sample lengthens it, or below zero shortens it. -/
def shift (p : BackoffPolicy) (sample : Float) : ℚ := p.spread * (2 * draw sample - 1)

theorem abs_shift_le (p : BackoffPolicy) (sample : Float) : |p.shift sample| ≤ p.spread := by
  have part : 0 ≤ p.spread := cut_nonneg le_rfl
  have least : 0 ≤ draw sample := cut_nonneg (by norm_num)
  have most : draw sample ≤ 1 := cut_le_one (by norm_num)
  rw [shift, abs_mul, abs_of_nonneg part]
  exact mul_le_of_le_one_right part (abs_le.mpr ⟨by linarith, by linarith⟩)

theorem shift_nonpos {sample : Float} (none : p.IsSteady ∨ draw sample ≤ 1 / 2) :
    p.shift sample ≤ 0 := by
  rcases none with steady | least
  · rw [shift, steady.spread_eq_zero, zero_mul]
  · exact mul_nonpos_of_nonneg_of_nonpos (cut_nonneg le_rfl) (by linarith)

/-! ## What jitter picks -/

/-- Each of the five steps by which jitter picks a wait is rounded. -/
theorem exists_denotes_picked {base part sample : Float} {b r s : ℚ} (small : b ≤ 2 ^ 90)
    (denotes : Denotes base b) (denotes' : Denotes part r) (denotes'' : Denotes sample s)
    (unit : r ≤ 1) (unit' : s ≤ 1) :
    ∃ q, Denotes ((base - base * part) + sample * 2 * (base * part)) q ∧
      |q - b * (1 + r * (2 * s - 1))| ≤ 12 * b / 2 ^ 53 + 8 * halfLeast := by
  have nonneg := denotes.nonneg
  have least := denotes''.nonneg
  have positive := halfLeast_pos
  have tiny := halfLeast_le
  -- The part that may be changed is not more than the wait, so what is left is not below zero.
  have part_nonneg := mul_nonneg nonneg denotes'.nonneg
  have part_le : b * r ≤ b := mul_le_of_le_one_right nonneg unit
  obtain ⟨d, rounds, delta⟩ := denotes.mul denotes' (by linarith)
  have delta_le : d ≤ b := rounds.le_of_le denotes.isDouble part_le
  have delta_near := rounds.abs_sub_le part_nonneg
  obtain ⟨u, rounds, lower⟩ := denotes.sub delta delta_le (by linarith)
  have lower_nonneg := lower.nonneg
  have lower_near := abs_le.mp (rounds.abs_sub_le (by linarith))
  -- Of twice that part the sample gives back a share.
  have two : Denotes 2 2 := denotes_ofNat (by decide)
  obtain ⟨t, rounds, doubled⟩ := denotes''.mul two (by linarith)
  have doubled_le : t ≤ 2 := rounds.le_of_le two.isDouble (by linarith)
  have doubled_near := rounds.abs_sub_le (by linarith)
  have product_nonneg := mul_nonneg doubled.nonneg delta.nonneg
  have product_le := mul_le_mul_of_nonneg_right doubled_le delta.nonneg
  have product_near : |t * d - s * 2 * (b * r)| ≤ 3 / 2 ^ 53 * b + 2 * (b / 2 ^ 53 + halfLeast) :=
    abs_mul_sub_mul_le (doubled_near.trans (by linarith)) (delta_near.trans (by linarith))
      ((abs_of_nonneg delta.nonneg).trans_le delta_le) (abs_le.mpr ⟨by linarith, by linarith⟩)
  obtain ⟨w, rounds, width⟩ := doubled.mul delta (by linarith)
  have width_nonneg := width.nonneg
  have width_near := abs_le.mp (rounds.abs_sub_le product_nonneg)
  obtain ⟨q, rounds, picked⟩ := lower.add width (by linarith)
  have picked_near := abs_le.mp (rounds.abs_sub_le (by linarith))
  have delta_near := abs_le.mp delta_near
  have product_near := abs_le.mp product_near
  exact ⟨q, picked, abs_le.mpr ⟨by linarith, by linarith⟩⟩

/-- The wait in seconds is rounded before, and the change by jitter does not make more of it than
twice as much. -/
theorem abs_sub_seconds_le {q b c s : ℚ} (nonneg : 0 ≤ s) (part : |c| ≤ 1)
    (base : |b - s| ≤ (3 * s + 1) / 2 ^ 53)
    (picked : |q - b * (1 + c)| ≤ 12 * b / 2 ^ 53 + 8 * halfLeast) :
    |q - (1 + c) * s| ≤ (20 * s + 4) / 2 ^ 53 := by
  have change : |b * (1 + c) - s * (1 + c)| ≤ (3 * s + 1) / 2 ^ 53 * 2 + s * 0 := by
    obtain ⟨low, high⟩ := abs_le.mp part
    refine abs_mul_sub_mul_le base (by simp) ?_ (abs_of_nonneg nonneg).le
    exact abs_le.mpr ⟨by linarith, by linarith⟩
  have change := abs_le.mp change
  have base := abs_le.mp base
  have picked := abs_le.mp picked
  have tiny := halfLeast_le
  exact abs_le.mpr ⟨by linarith, by linarith⟩

/-- Jitter lengthens a wait by no more than the sample tells, and by rounding. -/
theorem nanos_jitter_le {wait : Duration} (long : shortest ≤ wait)
    (small : wait.seconds ≤ 2 ^ 66) (sample : Float) :
    ((p.jitter wait sample).nanos : ℚ) ≤
      (1 + max 0 (p.shift sample)) * wait.nanos + (wait.nanos / 2 ^ 48 + 5 / 8) := by
  have nonneg := wait.seconds_nonneg
  have unchanged : (wait.nanos : ℚ) ≤
      (1 + max 0 (p.shift sample)) * wait.nanos + (wait.nanos / 2 ^ 48 + 5 / 8) := by
    have longer : 0 ≤ max 0 (p.shift sample) * wait.nanos := by positivity
    have rounding : (0 : ℚ) ≤ wait.nanos / 2 ^ 48 := by positivity
    linarith
  have long : (shortest.nanos : ℚ) ≤ wait.nanos := Nat.cast_le.mpr long
  rw [jitter, Duration.nanos_max, Nat.cast_max]
  refine max_le ?_ (long.trans unchanged)
  obtain ⟨b, base, near⟩ := Duration.exists_denotes_toSeconds small
  have limit : b ≤ 2 ^ 90 := by linarith [(abs_le.mp near).2]
  have part : Denotes _ p.spread := denotes_cut denotes_zero
  have sampled : Denotes _ (draw sample) := denotes_cut denotes_half
  have unit : p.spread ≤ 1 := cut_le_one zero_le_one
  have unit' : draw sample ≤ 1 := cut_le_one (by norm_num)
  obtain ⟨q, picked, near'⟩ := exists_denotes_picked limit base part sampled unit unit'
  have change := (p.abs_shift_le sample).trans unit
  have near := abs_le.mp (abs_sub_seconds_le nonneg change near near')
  have least := mul_le_mul_of_nonneg_right (le_max_right 0 (p.shift sample)) nonneg
  refine Duration.nanos_getD_ofSeconds?_le unchanged fun q' picked' => ?_
  rw [picked'.unique picked, wait.nanos_eq]
  norm_num [Duration.nanosPerSecond]
  linarith

/-! ## Waits before jitter -/

/-- The longest wait of a policy, or the shortest of all policies where that is longer. -/
def ceiling (p : BackoffPolicy) : Duration := p.longest.max shortest

theorem le_of_denotes_lesser {x y : Float} {a b : ℚ} (denotes : Denotes (lesser x y) a)
    (denotes' : Denotes y b) : a ≤ b := by
  unfold lesser at denotes
  split at denotes
  case isTrue => exact (denotes.unique denotes').le
  case isFalse least =>
    rw [denotes'.lt_iff denotes] at least
    exact not_lt.mp least

/-- Whatever the last wait was, the next is cut at the longest, but for rounding. -/
theorem nanos_next_le (small : p.longest.seconds ≤ 2 ^ 66) (current : Duration) :
    ((p.next current).nanos : ℚ) ≤ p.ceiling.nanos + (p.ceiling.nanos / 2 ^ 51 + 3 / 4) := by
  have longest_le : (p.longest.nanos : ℚ) ≤ p.ceiling.nanos := by
    rw [ceiling, Duration.nanos_max, Nat.cast_max]
    exact le_max_left _ _
  have shortest_le : (shortest.nanos : ℚ) ≤ p.ceiling.nanos := by
    rw [ceiling, Duration.nanos_max, Nat.cast_max]
    exact le_max_right _ _
  have rounding : (0 : ℚ) ≤ p.ceiling.nanos / 2 ^ 51 := by positivity
  rw [next, Duration.nanos_max, Nat.cast_max]
  refine max_le ?_ (by linarith)
  obtain ⟨b, denotes, near⟩ := Duration.exists_denotes_toSeconds small
  have near := abs_le.mp near
  refine Duration.nanos_getD_ofSeconds?_le (by linarith) fun q denotes' => ?_
  have least := le_of_denotes_lesser denotes' denotes
  rw [p.longest.nanos_eq] at longest_le
  norm_num [Duration.nanosPerSecond] at longest_le ⊢
  linarith

/-- How long the poller waits after so many waits, before jitter. -/
def interval (p : BackoffPolicy) (n : ℕ) : Duration := p.next^[n] p.first

theorem shortest_le_interval (p : BackoffPolicy) (n : ℕ) : shortest ≤ p.interval n := by
  cases n with
  | zero => exact p.shortest_le_first
  | succ n =>
      rw [interval, Function.iterate_succ_apply']
      exact p.shortest_le_next _

theorem nanos_first_le (p : BackoffPolicy) : p.first.nanos ≤ p.ceiling.nanos := by
  simp only [first, ceiling, Duration.nanos_max, Duration.nanos_min]
  omega

theorem nanos_interval_le (small : p.longest.seconds ≤ 2 ^ 66) (n : ℕ) :
    ((p.interval n).nanos : ℚ) ≤ p.ceiling.nanos + (p.ceiling.nanos / 2 ^ 51 + 3 / 4) := by
  cases n with
  | zero =>
      have first : (p.first.nanos : ℚ) ≤ p.ceiling.nanos := Nat.cast_le.mpr p.nanos_first_le
      have rounding : (0 : ℚ) ≤ p.ceiling.nanos / 2 ^ 51 + 3 / 4 := by positivity
      exact first.trans (le_add_of_nonneg_right rounding)
  | succ n =>
      rw [interval, Function.iterate_succ_apply']
      exact nanos_next_le small _

/-! ## Bounds on waits -/

theorem seconds_longest_le (within : p.longest ≤ .longest) : p.longest.seconds ≤ 2 ^ 66 := by
  have few : p.longest.nanos ≤ 2 ^ 64 * Duration.nanosPerSecond := within.trans (Nat.sub_le _ _)
  exact (Duration.seconds_le_of_nanos_le few).trans (by norm_num)

/-- Waits are so short that they may be reckoned in doubles. -/
theorem seconds_interval_le (within : p.longest ≤ .longest) (n : ℕ) :
    (p.interval n).seconds ≤ 2 ^ 66 := by
  have few : p.longest.nanos ≤ 2 ^ 64 * Duration.nanosPerSecond := within.trans (Nat.sub_le _ _)
  have most : p.ceiling.nanos ≤ 2 ^ 64 * Duration.nanosPerSecond := by
    rw [ceiling, Duration.nanos_max]
    exact max_le few (by decide)
  have most : p.ceiling.seconds ≤ (2 ^ 64 : ℕ) := Duration.seconds_le_of_nanos_le most
  have bound := nanos_interval_le (seconds_longest_le within) n
  rw [Duration.nanos_eq, p.ceiling.nanos_eq] at bound
  norm_num [Duration.nanosPerSecond] at bound most ⊢
  linarith

/-- Waits are bounded by the longest, but for what jitter adds to it: no more than the part that the
policy names, and nothing if it names none or the sample is at most a half. The rest is rounding,
which up to a day is less than a nanosecond. -/
theorem waits_bounded_but_for_jitter (p : BackoffPolicy) (within : p.longest ≤ .longest) (n : ℕ)
    (sample : Float) :
    let wait := p.jitter (p.interval n) sample
    let longer := max 0 (p.shift sample)
    shortest ≤ wait ∧ longer ≤ p.spread ∧
      (wait.nanos : ℚ) ≤ (1 + longer) * p.ceiling.nanos + (p.ceiling.nanos / 2 ^ 47 + 3) ∧
      (p.ceiling ≤ .ofSeconds 86400 →
        p.interval n ≤ p.ceiling ∧ (wait.nanos : ℚ) < (1 + longer) * p.ceiling.nanos + 1 ∧
          (p.IsSteady ∨ draw sample ≤ 1 / 2 → wait ≤ p.ceiling)) := by
  intro wait longer
  have part : 0 ≤ p.spread := cut_nonneg le_rfl
  have unit : p.spread ≤ 1 := cut_le_one zero_le_one
  have nonneg : 0 ≤ longer := le_max_left _ _
  have least : longer ≤ p.spread := max_le part (abs_le.mp (p.abs_shift_le sample)).2
  have cut := nanos_interval_le (seconds_longest_le within) n
  have jittered : (wait.nanos : ℚ) ≤ _ :=
    nanos_jitter_le (p.shortest_le_interval n) (seconds_interval_le within n) sample
  refine ⟨p.shortest_le_jitter _ _, least, ?_, fun day => ?_⟩
  · have scaled := mul_le_mul_of_nonneg_left cut (show 0 ≤ 1 + longer by linarith)
    have rounding : (0 : ℚ) ≤ p.ceiling.nanos / 2 ^ 51 + 3 / 4 := by positivity
    have doubled := mul_le_of_le_one_left rounding (least.trans unit)
    linarith
  · have few : p.ceiling.nanos ≤ 86400000000000 := day
    have few : (p.ceiling.nanos : ℚ) ≤ 86400000000000 := by exact_mod_cast few
    have exact : (p.interval n).nanos ≤ p.ceiling.nanos := by
      have below : ((p.interval n).nanos : ℚ) < p.ceiling.nanos + 1 := by linarith
      exact Nat.le_of_lt_succ (by exact_mod_cast below)
    have exact' : ((p.interval n).nanos : ℚ) ≤ p.ceiling.nanos := Nat.cast_le.mpr exact
    have scaled := mul_le_mul_of_nonneg_left exact' (show 0 ≤ 1 + longer by linarith)
    have bound : (wait.nanos : ℚ) < (1 + longer) * p.ceiling.nanos + 1 := by linarith
    refine ⟨exact, bound, fun none => ?_⟩
    have none : longer = 0 := max_eq_left (shift_nonpos none)
    rw [none, add_zero, one_mul] at bound
    exact Nat.le_of_lt_succ (by exact_mod_cast bound)

/-- The policy that is in effect unless another is named. -/
theorem waits_bounded_but_for_jitter_of_default :
    let p : BackoffPolicy := { }
    p.longest ≤ .longest ∧ p.interval 2 = .ofSeconds 60 ∧
      shortest ≤ p.jitter (p.interval 2) 0.75 ∧ p.jitter (p.interval 2) 0.25 ≤ p.ceiling := by
  intro p
  have within : p.longest ≤ .longest := by decide
  have least : draw 0.25 ≤ 1 / 2 := by
    have taken : Binary64.ofFloat? 0.25 = some ⟨false, 2 ^ 52, -54⟩ := by decide +kernel
    norm_num [draw, cut, taken, Binary64.value]
  obtain ⟨low, -, -, -⟩ := waits_bounded_but_for_jitter p within 2 0.75
  obtain ⟨-, -, -, up_to_a_day⟩ := waits_bounded_but_for_jitter p within 2 0.25
  exact ⟨within, by decide +kernel, low, (up_to_a_day (by decide)).2.2 (Or.inr least)⟩

/-- The longest wait of a policy is no bound on its waits: the third wait of the policy by default
is its longest, a minute, and jitter makes it a quarter longer. -/
theorem wait_gt_longest :
    ¬∀ (p : BackoffPolicy) (n : ℕ) (sample : Float), 0 ≤ sample → sample < 1 →
      shortest ≤ p.jitter (p.interval n) sample ∧
        p.jitter (p.interval n) sample ≤ p.longest.max shortest := by
  intro bounded
  have longer : ¬(({ } : BackoffPolicy).jitter (interval { } 2) 0.75 ≤
      ({ } : BackoffPolicy).longest.max shortest) := by
    decide +kernel
  exact longer (bounded { } 2 0.75 (by decide +kernel) (by decide +kernel)).2

end BackoffPolicy

end RebateRelay
