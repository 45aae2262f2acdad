import Mathlib.Data.Finset.Card
import Mathlib.Data.Finset.Max
import Mathlib.Order.Interval.Finset.Nat
import RebateRelay.Proofs.Time.Seconds
import RebateRelay.Relay.Limiter

/-!
# How fast tokens are granted

Takers come for tokens at any moments. A taker that finds no token waits, and while it waits it may
give up and put its token back. The bucket is reckoned in rational numbers here, so that nothing but
the waits is rounded, each of them to the nearest nanosecond. A wait may end late, but not early.

How many tokens have been granted at a moment is bounded by what the bucket held at first and what
has accrued since, whoever gave up meanwhile. If nobody did, the same is true of any window of time,
except that the first of its grants may have come late and the last one in time.

The argument is by amortization. The tokens that are left, with those that were taken and not put
back, are no more than there can have been so far. A taker is due when its token has accrued, so
that when it is granted, those that came before it are paid for.
-/

namespace RebateRelay

open Number

/-- Exact reckoning. -/
instance : Reckoning ℚ where
  zero := 0
  one := 1
  add := (· + ·)
  sub := (· - ·)
  mul := (· * ·)
  div := (· / ·)
  le a b := decide (a ≤ b)
  seconds := Duration.seconds
  toWait x := (Duration.nearest x).min .longest

namespace Limiter

variable {l : Limiter ℚ} {b : Bucket ℚ} {now : Instant}

theorem accrued_eq : l.accrued b now =
    min (b.tokens + (now.since b.counted).seconds * l.rate) l.burst := by
  simp only [accrued, lesser, Reckoning.le, Reckoning.add, Reckoning.mul, Reckoning.seconds,
    decide_eq_true_eq, min_def]

theorem tokens_reserve (l : Limiter ℚ) (b : Bucket ℚ) (now : Instant) : (l.reserve b now).1.tokens =
    min (b.tokens + (now.since b.counted).seconds * l.rate) l.burst - 1 := by
  rw [← accrued_eq]
  rfl

@[simp] theorem counted_reserve : (l.reserve b now).1.counted = now := rfl

theorem tokens_refund : (l.refund b).tokens = min (b.tokens + 1) l.burst := by
  simp only [refund, lesser, Reckoning.le, Reckoning.add, Reckoning.one, decide_eq_true_eq, min_def]

@[simp] theorem counted_refund : (l.refund b).counted = b.counted := rfl

/-- The wait for a token is a duration. -/
def Fits (l : Limiter ℚ) (b : Bucket ℚ) (now : Instant) : Prop :=
  Duration.nearest (-(l.reserve b now).1.tokens / l.rate) ≤ .longest

/-- A wait is what it takes until missing tokens have accrued, to the nearest nanosecond. -/
structure Waits (l : Limiter ℚ) (left : ℚ) (wait : Duration) : Prop where
  enough : -left ≤ l.rate * (wait.seconds + Duration.nano.seconds / 2)
  needed : 0 ≤ left ∧ wait = .zero ∨
    left < 0 ∧ l.rate * wait.seconds ≤ -left + l.rate * (Duration.nano.seconds / 2)

theorem wait_reserve (l : Limiter ℚ) (b : Bucket ℚ) (now : Instant) :
    (l.reserve b now).2 = if 0 ≤ (l.reserve b now).1.tokens then .zero
      else (Duration.nearest (-(l.reserve b now).1.tokens / l.rate)).min .longest := by
  simp only [reserve, Reckoning.le, Reckoning.zero, Reckoning.sub, Reckoning.div, Reckoning.toWait,
    decide_eq_true_eq, zero_sub]

theorem waits_reserve (positive : 0 < l.rate) (fits : l.Fits b now) :
    l.Waits (l.reserve b now).1.tokens (l.reserve b now).2 := by
  have wait := l.wait_reserve b now
  unfold Fits at fits
  generalize (l.reserve b now).1.tokens = left at wait fits ⊢
  rw [wait]
  have tick : 0 ≤ Duration.nano.seconds := Duration.nano.seconds_nonneg
  split
  case isTrue enough =>
    refine ⟨?_, Or.inl ⟨enough, rfl⟩⟩
    rw [Duration.seconds_zero]
    nlinarith
  case isFalse short =>
    rw [not_le] at short
    rw [Duration.min, if_pos fits]
    have missing : 0 ≤ -left / l.rate := div_nonneg (by linarith) positive.le
    have rounded := abs_le.mp (Duration.abs_seconds_nearest_sub_le missing)
    have exact' : l.rate * (-left / l.rate) = -left := mul_div_cancel₀ _ positive.ne'
    constructor
    · nlinarith
    · exact Or.inr ⟨short, by nlinarith⟩

end Limiter

/-- One who came for a token. -/
structure Taker where
  came : Instant
  /-- The tokens that were left then. -/
  left : ℚ
  wait : Duration

/-- When the wait of a taker is over. -/
def Taker.due (k : Taker) : Instant := k.came.after k.wait

/-- What has come of a taker. -/
inductive Fate where
  /-- It waits. -/
  | waiting
  /-- It got its token. -/
  | granted (moment : Instant)
  /-- It gave up. -/
  | gone
  deriving DecidableEq

/-- A token was granted no earlier than one moment and no later than another. -/
def Fate.IsWithin (first last : Instant) (fate : Fate) : Prop :=
  ∃ moment, fate = .granted moment ∧ first ≤ moment ∧ moment ≤ last

instance (first last : Instant) : DecidablePred (Fate.IsWithin first last)
  | .granted moment =>
    decidable_of_iff (first ≤ moment ∧ moment ≤ last) (by simp [Fate.IsWithin])
  | .waiting | .gone => isFalse (by simp [Fate.IsWithin])

/-- A bucket and those who came for its tokens, in order. -/
structure Line where
  bucket : Bucket ℚ
  takers : List Taker := []
  fates : ℕ → Fate := fun _ => .waiting

namespace Line

/-- What happens at a bucket. -/
inductive Move where
  /-- Someone comes for a token. -/
  | come (now : Instant)
  /-- The wait of the taker at a place is over. -/
  | wake (place : ℕ) (now : Instant)
  /-- The taker at a place gives up. -/
  | leave (place : ℕ) (now : Instant)

/-- The taker at a place has not got its token yet, and has not given up. -/
def IsWaiting (line : Line) (place : ℕ) : Prop :=
  place < line.takers.length ∧ line.fates place = .waiting

instance (line : Line) (place : ℕ) : Decidable (line.IsWaiting place) :=
  inferInstanceAs (Decidable (_ ∧ _))

/-- The line after a move. -/
def after (l : Limiter ℚ) (line : Line) : Move → Line
  | .come now =>
    let (bucket, wait) := l.reserve line.bucket now
    { bucket
      takers := line.takers ++ [⟨now, bucket.tokens, wait⟩]
      fates := Function.update line.fates line.takers.length
        (if wait = .zero then .granted now else .waiting) }
  | .wake place now =>
    if line.IsWaiting place then
      { line with fates := Function.update line.fates place (.granted now) }
    else line
  | .leave place _ =>
    if line.IsWaiting place then
      { line with
        bucket := l.refund line.bucket
        fates := Function.update line.fates place .gone }
    else line

theorem after_come (l : Limiter ℚ) (line : Line) (now : Instant) :
    line.after l (.come now) =
      { bucket := (l.reserve line.bucket now).1
        takers := line.takers ++
          [⟨now, (l.reserve line.bucket now).1.tokens, (l.reserve line.bucket now).2⟩]
        fates := Function.update line.fates line.takers.length
          (if (l.reserve line.bucket now).2 = .zero then .granted now else .waiting) } := rfl

/-- The line after moves, one after the other. -/
def run (l : Limiter ℚ) (line : Line) (moves : List Move) : Line := moves.foldl (after l) line

/-- The moment of a move. -/
def Move.now : Move → Instant
  | .come now | .wake _ now | .leave _ now => now

/-- A move comes at its time: not before the one before it, and a wait is over when the token is due
or at most so much later. A wait that begins is a duration. -/
def Move.Fits (l : Limiter ℚ) (late : Duration) (line : Line) (clock : Instant) (move : Move) :
    Prop :=
  clock ≤ move.now ∧
    match move with
    | .come now => l.Fits line.bucket now
    | .wake place now => line.IsWaiting place → ∀ k, line.takers[place]? = some k →
      k.due ≤ now ∧ now ≤ k.due.after late
    | .leave .. => True

/-- Moves come at their times. -/
def InTime (l : Limiter ℚ) (late : Duration) : Line → Instant → List Move → Prop
  | _, _, [] => True
  | line, clock, move :: moves =>
    move.Fits l late line clock ∧ InTime l late (line.after l move) move.now moves

/-- The places of takers who got their tokens no earlier than one moment and no later than
another. -/
def grants (line : Line) (first last : Instant) : Finset ℕ :=
  (Finset.range line.takers.length).filter fun place => (line.fates place).IsWithin first last

/-- Those of the first takers who have not given up. -/
def staying (line : Line) (n : ℕ) : Finset ℕ :=
  (Finset.range n).filter fun place => line.fates place ≠ .gone

/-- The line at a full bucket. -/
def start (l : Limiter ℚ) (began : Instant) : Line where
  bucket := l.full began

/-- What holds of a line at any moment. -/
structure Sound (l : Limiter ℚ) (late : Duration) (began clock : Instant) (line : Line) : Prop where
  since : began ≤ line.bucket.counted
  counted : line.bucket.counted ≤ clock
  /-- What is left and what was taken is no more than there can have been. -/
  tokens : line.bucket.tokens + (line.staying line.takers.length).card ≤
    l.burst + l.rate * (line.bucket.counted.seconds - began.seconds)
  waits : ∀ k ∈ line.takers, l.Waits k.left k.wait ∧ k.left ≤ l.burst - 1
  /-- When a taker is due, those who came before it and stayed are paid for. -/
  due : ∀ place k, line.takers[place]? = some k → ((line.staying (place + 1)).card : ℚ) ≤
    l.burst + l.rate * (k.due.seconds + Duration.nano.seconds / 2 - began.seconds)
  waiting : ∀ place k, line.takers[place]? = some k → line.fates place = .waiting → k.wait ≠ .zero
  granted : ∀ place k moment, line.takers[place]? = some k →
    line.fates place = .granted moment →
    k.due ≤ moment ∧ moment ≤ k.due.after late ∧ (k.wait = .zero → moment = k.due)

section

variable {l : Limiter ℚ} {late : Duration} {began clock : Instant} {line line' : Line}

/-- A place in a list with one more taker is a place of the list or the last one. -/
theorem cases_of_getElem?_concat {takers : List Taker} {new k : Taker} {place : ℕ}
    (inside : (takers ++ [new])[place]? = some k) :
    place < takers.length ∧ takers[place]? = some k ∨ place = takers.length ∧ k = new := by
  rcases Nat.lt_trichotomy place takers.length with small | rfl | large
  · exact Or.inl ⟨small, (List.getElem?_append_left small).symm.trans inside⟩
  · exact Or.inr ⟨rfl, by simpa [eq_comm] using inside⟩
  · rw [List.getElem?_eq_none (by simpa [Nat.add_one_le_iff] using large)] at inside
    cases inside

theorem mem_staying {n place : ℕ} :
    place ∈ line.staying n ↔ place < n ∧ line.fates place ≠ .gone := by
  simp [staying]

theorem staying_congr {n : ℕ}
    (same : ∀ place < n, line'.fates place = .gone ↔ line.fates place = .gone) :
    line'.staying n = line.staying n :=
  Finset.filter_congr fun place inside => not_congr (same place (Finset.mem_range.mp inside))

/-- A taker who gives up counts no longer. -/
theorem staying_of_gone {n place : ℕ}
    (fates : line'.fates = Function.update line.fates place .gone) :
    line'.staying n = (line.staying n).erase place := by
  ext other
  rw [Finset.mem_erase, mem_staying, mem_staying, fates]
  by_cases same : other = place
  · simp [same]
  · simp [same]

/-- A taker who comes counts. -/
theorem card_staying_succ {n : ℕ} {fate : Fate} (stays : fate ≠ .gone)
    (fates : line'.fates = Function.update line.fates n fate) :
    (line'.staying (n + 1)).card = (line.staying n).card + 1 := by
  have grown : line'.staying (n + 1) = insert n (line.staying n) := by
    ext other
    rw [Finset.mem_insert, mem_staying, mem_staying, fates]
    by_cases same : other = n
    · simp [same, stays]
    · simp only [same, ne_eq, not_false_eq_true, Function.update_of_ne, false_or]
      exact and_congr_left fun _ => by omega
  have new : n ∉ line.staying n := fun inside => n.lt_irrefl (mem_staying.mp inside).1
  rw [grown, Finset.card_insert_of_notMem new]

theorem Sound.start (l : Limiter ℚ) (late : Duration) (began : Instant) :
    Sound l late began began (start l began) where
  since := Nat.le_refl _
  counted := Nat.le_refl _
  tokens := by simp [Line.start, Limiter.full, staying]
  waits _ inside := nomatch inside
  due place k inside := nomatch inside
  waiting place k inside := nomatch inside
  granted place k moment inside := nomatch inside

namespace Sound

theorem later (h : Sound l late began clock line) {now : Instant} (order : clock ≤ now) :
    Sound l late began now line :=
  { h with counted := Nat.le_trans h.counted order }

/-- One more taker has come, and the bucket is as it left it. -/
theorem concat (h : Sound l late began clock line) {now : Instant}
    (order : clock ≤ now) {b : Bucket ℚ} {wait : Duration} (counted : b.counted = now)
    (waits : l.Waits b.tokens wait) (room : b.tokens ≤ l.burst - 1)
    (sum : b.tokens + ((line.staying line.takers.length).card + 1) ≤
      l.burst + l.rate * (now.seconds - began.seconds)) :
    Sound l late began now ⟨b, line.takers ++ [⟨now, b.tokens, wait⟩],
      Function.update line.fates line.takers.length
        (if wait = .zero then .granted now else .waiting)⟩ := by
  subst counted
  generalize got : (if wait = .zero then Fate.granted b.counted else .waiting) = fate
  have stays : fate ≠ .gone := by
    rw [← got]
    split <;> simp
  let line' : Line := ⟨b, line.takers ++ [⟨b.counted, b.tokens, wait⟩],
    Function.update line.fates line.takers.length fate⟩
  have count : (line'.staying (line.takers.length + 1)).card =
      (line.staying line.takers.length).card + 1 := card_staying_succ stays rfl
  have before {n : ℕ} (small : n ≤ line.takers.length) : line'.staying n = line.staying n :=
    staying_congr fun place inside => by
      rw [show line'.fates place = _ from Function.update_of_ne (by omega) _ _]
  have fate_eq {place : ℕ} (small : place < line.takers.length) :
      line'.fates place = line.fates place := Function.update_of_ne (by omega) _ _
  have last : line'.fates line.takers.length = fate := Function.update_self _ _ _
  have length : line'.takers.length = line.takers.length + 1 := List.length_append
  change Sound l late began b.counted line'
  refine ⟨Nat.le_trans h.since (Nat.le_trans h.counted order), Nat.le_refl _, ?tokens, ?waits, ?due,
    ?waiting, ?granted⟩
  case tokens =>
    rw [length, count]
    exact_mod_cast sum
  case waits =>
    intro k inside
    rcases List.mem_append.mp inside with inside | inside
    · exact h.waits k inside
    · cases List.mem_singleton.mp inside
      exact ⟨waits, room⟩
  case due =>
    intro place k inside
    rcases cases_of_getElem?_concat inside with ⟨small, old⟩ | ⟨rfl, rfl⟩
    · rw [before small]
      exact h.due place k old
    · rw [count, Taker.due, Instant.seconds_after]
      have enough := waits.enough
      push_cast
      linarith
  case waiting =>
    intro place k inside still
    rcases cases_of_getElem?_concat inside with ⟨small, old⟩ | ⟨rfl, rfl⟩
    · exact h.waiting place k old ((fate_eq small).symm.trans still)
    · rintro rfl
      rw [if_pos rfl] at got
      cases got.trans (last.symm.trans still)
  case granted =>
    intro place k moment inside granted
    rcases cases_of_getElem?_concat inside with ⟨small, old⟩ | ⟨rfl, rfl⟩
    · exact h.granted place k moment old ((fate_eq small).symm.trans granted)
    · have atOnce := got.trans (last.symm.trans granted)
      split at atOnce
      case isFalse => cases atOnce
      case isTrue none =>
        cases atOnce
        subst none
        exact ⟨Nat.le_refl _, Nat.le_add_right _ _, fun _ => rfl⟩

/-- A taker comes. -/
theorem come (h : Sound l late began clock line) (positive : 0 < l.rate) {now : Instant}
    (order : clock ≤ now) (fits : l.Fits line.bucket now) :
    Sound l late began now (line.after l (.come now)) := by
  have left := l.tokens_reserve line.bucket now
  have passed : line.bucket.counted ≤ now := Nat.le_trans h.counted order
  rw [Instant.seconds_since passed] at left
  have most := min_le_left
    (line.bucket.tokens + (now.seconds - line.bucket.counted.seconds) * l.rate) l.burst
  have full := min_le_right
    (line.bucket.tokens + (now.seconds - line.bucket.counted.seconds) * l.rate) l.burst
  have tokens := h.tokens
  rw [after_come]
  exact h.concat order rfl (Limiter.waits_reserve positive fits) (by linarith)
    (by linarith)

/-- A taker gets its token. -/
theorem wake (h : Sound l late began clock line) {place : ℕ} {now : Instant} (order : clock ≤ now)
    (due : line.IsWaiting place → ∀ k, line.takers[place]? = some k →
      k.due ≤ now ∧ now ≤ k.due.after late) :
    Sound l late began now (line.after l (.wake place now)) := by
  simp only [after]
  split
  case isFalse => exact h.later order
  case isTrue waiting =>
    let line' : Line := { line with fates := Function.update line.fates place (.granted now) }
    have fate_eq {other : ℕ} (different : other ≠ place) : line'.fates other = line.fates other :=
      Function.update_of_ne different _ _
    have fate : line'.fates place = .granted now := Function.update_self _ _ _
    have staying (n : ℕ) : line'.staying n = line.staying n := by
      refine staying_congr fun other _ => ?_
      by_cases same : other = place
      · simp [same, fate, waiting.2]
      · rw [fate_eq same]
    change Sound l late began now line'
    refine ⟨h.since, Nat.le_trans h.counted order, ?tokens, h.waits, ?due, ?waiting, ?granted⟩
    case tokens =>
      rw [staying]
      exact h.tokens
    case due =>
      intro other k inside
      rw [staying]
      exact h.due other k inside
    case waiting =>
      intro other k inside still
      by_cases same : other = place
      · cases fate.symm.trans (same ▸ still)
      · exact h.waiting other k inside ((fate_eq same).symm.trans still)
    case granted =>
      intro other k moment inside granted
      by_cases same : other = place
      · subst same
        cases fate.symm.trans granted
        obtain ⟨early, late⟩ := due waiting k inside
        exact ⟨early, late, fun none => absurd none (h.waiting other k inside waiting.2)⟩
      · exact h.granted other k moment inside ((fate_eq same).symm.trans granted)

/-- A taker gives up. -/
theorem leave (h : Sound l late began clock line) {place : ℕ} {now : Instant}
    (order : clock ≤ now) : Sound l late began now (line.after l (.leave place now)) := by
  simp only [after]
  split
  case isFalse => exact h.later order
  case isTrue waiting =>
    let line' : Line :=
      ⟨l.refund line.bucket, line.takers, Function.update line.fates place .gone⟩
    have staying (n : ℕ) : line'.staying n = (line.staying n).erase place := staying_of_gone rfl
    have one : (line'.staying line.takers.length).card + 1 =
        (line.staying line.takers.length).card := by
      rw [staying]
      exact Finset.card_erase_add_one (mem_staying.mpr ⟨waiting.1, by simp [waiting.2]⟩)
    have others {other : ℕ} {fate : Fate} (stays : fate ≠ .gone)
        (after : line'.fates other = fate) : line.fates other = fate := by
      by_cases same : other = place
      · rw [same] at after
        exact absurd (after.symm.trans (Function.update_self _ _ _)) stays
      · exact (Function.update_of_ne same _ _).symm.trans after
    change Sound l late began now line'
    refine ⟨h.since, Nat.le_trans h.counted order, ?tokens, h.waits, ?due, ?waiting, ?granted⟩
    case tokens =>
      have tokens := h.tokens
      have put := min_le_left (line.bucket.tokens + 1) l.burst
      rw [← l.tokens_refund] at put
      rw [← one] at tokens
      push_cast at tokens
      change (l.refund line.bucket).tokens + ((line'.staying line.takers.length).card : ℚ) ≤
        l.burst + l.rate * (line.bucket.counted.seconds - began.seconds)
      linarith
    case due =>
      intro other k inside
      rw [staying]
      exact (Nat.cast_le.mpr Finset.card_erase_le).trans (h.due other k inside)
    case waiting =>
      exact fun other k inside still => h.waiting other k inside (others (by simp) still)
    case granted =>
      exact fun other k moment inside got => h.granted other k moment inside (others (by simp) got)

theorem after (h : Sound l late began clock line) (positive : 0 < l.rate) {move : Move}
    (fits : move.Fits l late line clock) : Sound l late began move.now (line.after l move) := by
  obtain ⟨order, fits⟩ := fits
  cases move with
  | come now => exact h.come positive order fits
  | wake place now => exact h.wake order fits
  | leave place now => exact h.leave order

theorem run (h : Sound l late began clock line) (positive : 0 < l.rate) {moves : List Move}
    (inTime : InTime l late line clock moves) :
    ∃ clock', Sound l late began clock' (line.run l moves) := by
  induction moves generalizing clock line with
  | nil => exact ⟨clock, h⟩
  | cons move moves ih => exact ih (h.after positive inTime.1) inTime.2

end Sound

theorem mem_grants {first last : Instant} {place : ℕ} :
    place ∈ line.grants first last ↔
      place < line.takers.length ∧ (line.fates place).IsWithin first last := by
  unfold grants
  rw [Finset.mem_filter, Finset.mem_range]

theorem exists_of_mem_grants {first last : Instant} {place : ℕ}
    (got : place ∈ line.grants first last) : ∃ k moment, line.takers[place]? = some k ∧
      line.fates place = .granted moment ∧ first ≤ moment ∧ moment ≤ last := by
  obtain ⟨small, moment, granted⟩ := mem_grants.mp got
  exact ⟨line.takers[place], moment, List.getElem?_eq_getElem small, granted⟩

/-- The taker who came last of those who were granted their tokens was due in time, and those before
it were paid for when it was due. -/
theorem Sound.card_grants_le (h : Sound l late began clock line) (positive : 0 < l.rate)
    (burst : 0 ≤ l.burst) (t : Duration) :
    ((line.grants .zero (began.after t)).card : ℚ) ≤
      l.burst + l.rate * (t.seconds + Duration.nano.seconds / 2) := by
  rcases (line.grants .zero (began.after t)).eq_empty_or_nonempty with none | some
  · have := t.seconds_nonneg
    have := Duration.nano.seconds_nonneg
    rw [none, Finset.card_empty]
    positivity
  · obtain ⟨place, last, most⟩ := Finset.exists_max_image _ id some
    obtain ⟨k, moment, inside, granted, -, early⟩ := exists_of_mem_grants last
    have among : line.grants .zero (began.after t) ⊆ line.staying (place + 1) := by
      intro other got
      obtain ⟨-, moment', -, granted', -⟩ := exists_of_mem_grants got
      exact mem_staying.mpr ⟨Nat.lt_succ_of_le (most other got), by simp [granted']⟩
    have due := Instant.seconds_le (Nat.le_trans (h.granted place k moment inside granted).1 early)
    rw [Instant.seconds_after] at due
    calc ((line.grants .zero (began.after t)).card : ℚ)
        ≤ (line.staying (place + 1)).card := by exact_mod_cast Finset.card_le_card among
      _ ≤ l.burst + l.rate * (k.due.seconds + Duration.nano.seconds / 2 - began.seconds) :=
          h.due place k inside
      _ ≤ l.burst + l.rate * (t.seconds + Duration.nano.seconds / 2) := by
          gcongr
          linarith

/-- What holds of a line that nobody has left: from taker to taker, no more tokens have accrued than
the rate allows. -/
structure Steady (l : Limiter ℚ) (line : Line) : Prop where
  ahead : ∀ (place : ℕ) (k : Taker), line.takers[place]? = some k →
    line.bucket.tokens + line.takers.length ≤
      k.left + (place + 1) + l.rate * (line.bucket.counted.seconds - k.came.seconds)
  pairs : ∀ (place place' : ℕ) (k k' : Taker), place ≤ place' → line.takers[place]? = some k →
    line.takers[place']? = some k' →
    k'.left + place' ≤ k.left + place + l.rate * (k'.came.seconds - k.came.seconds)

theorem Steady.start (l : Limiter ℚ) (began : Instant) : Steady l (start l began) where
  ahead _ _ inside := nomatch inside
  pairs _ _ _ _ _ inside := nomatch inside

theorem Steady.come (s : Steady l line) {now : Instant} (order : line.bucket.counted ≤ now) :
    Steady l (line.after l (.come now)) := by
  have left := l.tokens_reserve line.bucket now
  rw [Instant.seconds_since order] at left
  have most := min_le_left
    (line.bucket.tokens + (now.seconds - line.bucket.counted.seconds) * l.rate) l.burst
  rw [after_come]
  generalize bucket : (l.reserve line.bucket now).1 = b at left ⊢
  have counted : b.counted = now := by rw [← bucket]; rfl
  subst counted
  generalize (l.reserve line.bucket b.counted).2 = wait
  constructor
  · intro place k inside
    dsimp only
    rw [List.length_append, List.length_singleton]
    push_cast
    rcases cases_of_getElem?_concat inside with ⟨-, old⟩ | ⟨rfl, rfl⟩
    · have := s.ahead place k old
      linarith
    · simp
  · intro place place' k k' order' inside inside'
    rcases cases_of_getElem?_concat inside' with ⟨small, old'⟩ | ⟨rfl, rfl⟩
    · rcases cases_of_getElem?_concat inside with ⟨-, old⟩ | ⟨rfl, rfl⟩
      · exact s.pairs place place' k k' order' old old'
      · omega
    · rcases cases_of_getElem?_concat inside with ⟨-, old⟩ | ⟨rfl, rfl⟩
      · have := s.ahead place k old
        dsimp only
        linarith
      · simp

theorem Steady.run (s : Steady l line) (h : Sound l late began clock line) (positive : 0 < l.rate)
    {moves : List Move} (inTime : InTime l late line clock moves)
    (stay : ∀ place now, .leave place now ∉ moves) : Steady l (line.run l moves) := by
  induction moves generalizing clock line with
  | nil => exact s
  | cons move moves ih =>
      refine ih ?_ (h.after positive inTime.1) inTime.2 fun place now inside =>
        stay place now (List.mem_cons_of_mem _ inside)
      cases move with
      | come now => exact s.come (Nat.le_trans h.counted inTime.1.1)
      | wake place now =>
          simp only [after]
          split
          · exact ⟨s.ahead, s.pairs⟩
          · exact s
      | leave place now => exact absurd List.mem_cons_self (stay place now)

/-- Between two grants of a window, the tokens have accrued from when the first taker was due until
the last one was. -/
theorem Steady.card_grants_le (s : Steady l line) (h : Sound l late began clock line)
    (positive : 0 < l.rate) (burst : 1 ≤ l.burst) (first : Instant) (t : Duration) :
    ((line.grants first (first.after t)).card : ℚ) ≤
      l.burst + l.rate * (t.seconds + late.seconds + Duration.nano.seconds) := by
  have := t.seconds_nonneg
  have := late.seconds_nonneg
  have := Duration.nano.seconds_nonneg
  rcases (line.grants first (first.after t)).eq_empty_or_nonempty with none | some
  · rw [none, Finset.card_empty]
    positivity
  · obtain ⟨i, least, lower⟩ := Finset.exists_min_image _ id some
    obtain ⟨j, greatest, upper⟩ := Finset.exists_max_image _ id some
    obtain ⟨k, moment, inside, granted, after, -⟩ := exists_of_mem_grants least
    obtain ⟨k', moment', inside', granted', -, before⟩ := exists_of_mem_grants greatest
    have order : i ≤ j := lower j greatest
    have count : (line.grants first (first.after t)).card ≤ j + 1 - i := by
      rw [← Nat.card_Icc]
      exact Finset.card_le_card fun place got =>
        Finset.mem_Icc.mpr ⟨lower place got, upper place got⟩
    have span : ((line.grants first (first.after t)).card : ℚ) ≤ j - i + 1 := by
      have whole : (line.grants first (first.after t)).card + i ≤ j + 1 := by omega
      have whole' : ((line.grants first (first.after t)).card : ℚ) + i ≤ j + 1 := by
        exact_mod_cast whole
      linarith
    have pair := s.pairs i j k k' order inside inside'
    have enough := (h.waits k' (List.mem_of_getElem? inside')).1.enough
    obtain ⟨waits, room⟩ := h.waits k (List.mem_of_getElem? inside)
    obtain ⟨-, punctual, atOnce⟩ := h.granted i k moment inside granted
    have due' : k'.due.seconds ≤ first.seconds + t.seconds := by
      rw [← Instant.seconds_after]
      exact Instant.seconds_le (Nat.le_trans (h.granted j k' moment' inside' granted').1 before)
    rw [Taker.due, Instant.seconds_after] at due'
    have due'' := mul_le_mul_of_nonneg_left due' positive.le
    have since := mul_le_mul_of_nonneg_left (Instant.seconds_le after) positive.le
    have spare := mul_nonneg positive.le late.seconds_nonneg
    have tick := mul_nonneg positive.le Duration.nano.seconds_nonneg
    rcases waits.needed with ⟨-, none⟩ | ⟨-, needed⟩
    · have came : moment.seconds = k.came.seconds := by
        rw [atOnce none, Taker.due, Instant.seconds_after, none, Duration.seconds_zero, add_zero]
      rw [came] at since
      linarith
    · have punctual' := mul_le_mul_of_nonneg_left (Instant.seconds_le punctual) positive.le
      rw [Taker.due, Instant.seconds_after, Instant.seconds_after] at punctual'
      linarith

end

end Line

end RebateRelay
