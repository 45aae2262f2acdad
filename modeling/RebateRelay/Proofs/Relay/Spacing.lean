import RebateRelay.Proofs.Relay.BatchEffect
import RebateRelay.Proofs.Relay.Grants

/-!
# How fast payments are submitted

The batches of a till take their tokens one after the other, so that they form a line of their own:
each attempt to take a token is that of a taker, and its end is the end of the taker's wait. Every
submission has had a token. Hence submissions keep to the rate, however many batches they are made
in and whatever else happens to the till.
-/

namespace RebateRelay

namespace Exchange

/-- A payment is handed to the submitter. -/
def isSubmission : Exchange → Bool
  | submit .. => true
  | _ => false

/-- A token has been taken. -/
def isGrant : Exchange → Bool
  | token _ granted => granted
  | _ => false

end Exchange

namespace Line

variable {clock now : Instant} {line line' : Line} {place : ℕ}

/-- Grants stay. -/
theorem grants_subset (order : clock ≤ now) (length : line.takers.length ≤ line'.takers.length)
    (fates : ∀ place ∈ line.grants .zero clock, line'.fates place = line.fates place) :
    line.grants .zero clock ⊆ line'.grants .zero now := by
  intro place got
  obtain ⟨small, moment, granted, early, late⟩ := mem_grants.mp got
  exact mem_grants.mpr ⟨Nat.lt_of_lt_of_le small length, moment, (fates place got).trans granted,
    early, Nat.le_trans late order⟩

/-- One more grant is one more. -/
theorem card_grants_lt (order : clock ≤ now) (length : line.takers.length ≤ line'.takers.length)
    (fates : ∀ place ∈ line.grants .zero clock, line'.fates place = line.fates place)
    (inside : place < line'.takers.length) (granted : line'.fates place = .granted now)
    (new : place ∉ line.grants .zero clock) :
    (line.grants .zero clock).card < (line'.grants .zero now).card := by
  have got : place ∈ line'.grants .zero now :=
    mem_grants.mpr ⟨inside, now, granted, Nat.zero_le _, Nat.le_refl _⟩
  exact Finset.card_lt_card ((Finset.ssubset_iff_of_subset
    (grants_subset order length fates)).mpr ⟨place, got, new⟩)

theorem fates_update (new : place ∉ line.grants .zero clock) (fate : Fate) :
    ∀ other ∈ line.grants .zero clock,
      Function.update line.fates place fate other = line.fates other := by
  intro other got
  refine Function.update_of_ne ?_ _ _
  rintro rfl
  exact new got

/-- A taker that finds a token has it at once. -/
theorem card_grants_come (l : Limiter ℚ) (line : Line) (order : clock ≤ now) :
    (line.grants .zero clock).card + (if (l.reserve line.bucket now).2 = .zero then 1 else 0) ≤
      ((line.after l (.come now)).grants .zero now).card := by
  have new : line.takers.length ∉ line.grants .zero clock :=
    fun got => Nat.lt_irrefl _ (mem_grants.mp got).1
  rw [after_come]
  split
  case isTrue none =>
    exact card_grants_lt order (by simp) (fates_update new _) (by simp)
      (Function.update_self _ _ _) new
  case isFalse => exact Finset.card_le_card (grants_subset order (by simp) (fates_update new _))

/-- A taker that finds no token waits. -/
theorem isWaiting_come {l : Limiter ℚ} (long : (l.reserve line.bucket now).2 ≠ .zero) :
    (line.after l (.come now)).IsWaiting line.takers.length ∧
      (line.after l (.come now)).takers[line.takers.length]? =
        some ⟨(line.after l (.come now)).bucket.counted, (l.reserve line.bucket now).1.tokens,
          (l.reserve line.bucket now).2⟩ := by
  rw [after_come]
  refine ⟨⟨by simp, ?_⟩, by simp⟩
  exact (Function.update_self _ _ _).trans (if_neg long)

theorem IsWaiting.not_mem_grants (waiting : line.IsWaiting place) (clock : Instant) :
    place ∉ line.grants .zero clock := by
  intro got
  obtain ⟨-, moment, granted, -⟩ := mem_grants.mp got
  cases waiting.2.symm.trans granted

/-- The end of a wait is a grant. -/
theorem card_grants_wake (l : Limiter ℚ) (order : clock ≤ now) (waiting : line.IsWaiting place) :
    (line.grants .zero clock).card < ((line.after l (.wake place now)).grants .zero now).card := by
  rw [Line.after, if_pos waiting]
  exact card_grants_lt order (Nat.le_refl _) (fates_update (waiting.not_mem_grants clock) _)
    waiting.1 (Function.update_self _ _ _) (waiting.not_mem_grants clock)

/-- A taker that gives up takes no grant with it. -/
theorem card_grants_leave (l : Limiter ℚ) (order : clock ≤ now) (waiting : line.IsWaiting place) :
    (line.grants .zero clock).card ≤ ((line.after l (.leave place now)).grants .zero now).card := by
  rw [Line.after, if_pos waiting]
  exact Finset.card_le_card
    (grants_subset order (Nat.le_refl _) (fates_update (waiting.not_mem_grants clock) _))

theorem card_grants_mono (order : clock ≤ now) :
    (line.grants .zero clock).card ≤ (line.grants .zero now).card :=
  Finset.card_le_card (grants_subset order (Nat.le_refl _) fun _ _ => rfl)

end Line

namespace Batch

variable {α : Type} {m : Paymaster α} {l l' : Ledger} {b b' : Batch} {input : Input}
variable {exchanges : List Exchange} {course : Course}

/-- A submission comes with a token. -/
theorem Goes.countP_isSubmission_le (goes : Goes m l b input exchanges l' course) :
    exchanges.countP Exchange.isSubmission ≤ exchanges.countP Exchange.isGrant := by
  cases goes <;> simp [Exchange.isSubmission, Exchange.isGrant]

/-- A batch waits if it has just begun to, or because nothing has happened. -/
theorem Goes.cases_of_waiting (goes : Goes m l b input exchanges l' course)
    (running : course.batch? = some b') {wait : Duration} (waiting : b'.phase = .waiting wait) :
    b.phase = .reserving ∧ input = .token ∨ ¬b.Awaits input ∧ b' = b := by
  have no_next {summary : BatchSummary} : (next summary b.rest).1.batch? ≠ some b' := by
    intro running
    cases rest : b.rest with
    | nil =>
        rw [rest] at running
        cases running
    | cons r rest =>
        rw [rest] at running
        cases running
        cases waiting
  cases goes with
  | waits _ phase => exact Or.inl ⟨phase, rfl⟩
  | submits | accepted =>
      cases running
      cases waiting
  | cancels => cases running
  | simulates | rejects | refused | enters | leaves => exact absurd running no_next
  | ignores other =>
      cases running
      exact Or.inr ⟨other, rfl⟩

/-- When its token is there, a batch does not wait. -/
theorem phase_of_granted (taking : b.IsTaking) (running : (b.granted m).1.batch? = some b')
    (wait : Duration) : b'.phase ≠ .waiting wait := by
  intro waiting
  -- Whatever the batch is told, this is how it goes on.
  have goes := goes_granted m .empty .cancelled taking
  rcases goes.cases_of_waiting running waiting with ⟨-, token⟩ | ⟨other, -⟩
  · cases token
  · rcases taking with phase | ⟨_, phase⟩ <;> simp [Awaits, phase] at other

end Batch

namespace Till

/-- A move comes at its time: not before the last one, and a wait for a token is over when the token
is due or at most so much later. A wait that begins is a duration. -/
def Fits (m : Paymaster ℚ) (late : Duration) (till : Till ℚ) (clock : Instant) : Move → Prop
  | .proceed now input => clock ≤ now ∧ ∀ b, till.batch = some b →
    match b.phase, input with
    | .reserving, .token => m.limiter.Fits till.bucket now
    | .waiting wait, .woken =>
      till.bucket.counted.after wait ≤ now ∧ now ≤ (till.bucket.counted.after wait).after late
    | _, _ => True
  | _ => True

@[simp] theorem follow_bucket {α : Type} (till : Till α) (c : Batch.Course × List Event) :
    (till.follow c).till.bucket = till.bucket := by
  obtain ⟨_ | _, _⟩ := c <;> rfl

@[simp] theorem enter_bucket {α : Type} (till : Till α) (b : Batch) (payment : Payment)
    (nonce : UInt64) (fault : Option StoreError) :
    (till.enter b payment nonce fault).till.bucket = till.bucket := by
  unfold enter
  cases fault with
  | some e => exact follow_bucket ..
  | none => cases till.ledger.markPaid b.record.hash nonce <;> exact follow_bucket ..

/-- What is handed to the submitter is no token. -/
@[simp] theorem countP_isGrant_handed (before after : Option Batch) :
    (handed before after).countP Exchange.isGrant = 0 := by
  unfold handed
  cases before.bind Batch.submission? with
  | some payment => rfl
  | none =>
      cases after with
      | none => rfl
      | some b => cases b.submission? <;> simp [Exchange.isGrant]

/-- What the clock shows after a move. -/
def Move.clock (before : Instant) : Move → Instant
  | .proceed now _ => now
  | _ => before

end Till

namespace Trace

/-- Moves come at their times. -/
def InTime (m : Paymaster ℚ) (late : Duration) : Trace ℚ → Instant → List Till.Move → Prop
  | _, _, [] => True
  | t, clock, move :: moves =>
    t.till.Fits m late clock move ∧ InTime m late (t.after m move) (move.clock clock) moves

/-- What holds of the batches of a till as takers at a bucket: the taker who came last waits while
the running batch does, and every token that was taken has been granted. -/
structure Paced (l : Limiter ℚ) (late : Duration) (began clock : Instant) (t : Trace ℚ)
    (line : Line) : Prop where
  sound : Line.Sound l late began clock line
  bucket : t.till.bucket = line.bucket
  waiting : ∀ b wait, t.till.batch = some b → b.phase = .waiting wait →
    ∃ place left, line.IsWaiting place ∧
      line.takers[place]? = some ⟨line.bucket.counted, left, wait⟩
  grants : t.exchanges.countP Exchange.isGrant ≤ (line.grants .zero clock).card
  submissions : t.exchanges.countP Exchange.isSubmission ≤ t.exchanges.countP Exchange.isGrant

namespace Paced

variable {m : Paymaster ℚ} {l : Limiter ℚ} {late : Duration} {began clock now : Instant}
variable {t : Trace ℚ} {line line' : Line} {b : Batch} {input : Batch.Input}

/-- A step of the running batch, with what it comes to in the line. -/
theorem proceed (h : Paced l late began clock t line) (running : t.till.batch = some b)
    (sound : Line.Sound l late began now line')
    (bucket : (t.till.step m now input).till.bucket = line'.bucket)
    (waiting : ∀ b' wait, (t.till.step m now input).till.batch = some b' →
      b'.phase = .waiting wait → ∃ place left, line'.IsWaiting place ∧
        line'.takers[place]? = some ⟨line'.bucket.counted, left, wait⟩)
    (grants : (line.grants .zero clock).card +
        (t.till.heard m now input).countP Exchange.isGrant ≤ (line'.grants .zero now).card) :
    Paced l late began now (t.after m (.proceed now input)) line' := by
  obtain ⟨course, goes, -⟩ := Till.goes_step m now running input
  have one := goes.countP_isSubmission_le
  refine ⟨sound, bucket, waiting, ?grants, ?submissions⟩
  case grants =>
    have before := h.grants
    simp only [Trace.after, Till.exchanged, List.countP_append, Till.countP_isGrant_handed]
    omega
  case submissions =>
    have before := h.submissions
    simp only [Trace.after, List.countP_append]
    omega

/-- Only a batch that comes for a token may wait afterwards. -/
theorem proceed_of_ne_token (h : Paced l late began clock t line) (running : t.till.batch = some b)
    (awaited : b.Awaits input) (other : input ≠ .token)
    (sound : Line.Sound l late began now line')
    (bucket : (t.till.step m now input).till.bucket = line'.bucket)
    (grants : (line.grants .zero clock).card +
        (t.till.heard m now input).countP Exchange.isGrant ≤ (line'.grants .zero now).card) :
    Paced l late began now (t.after m (.proceed now input)) line' := by
  obtain ⟨course, goes, batch, -⟩ := Till.goes_step m now running input
  refine h.proceed running sound bucket (fun b' wait running' waiting => ?_) grants
  rcases goes.cases_of_waiting (batch.symm.trans running') waiting with ⟨-, token⟩ | ⟨ignored, -⟩
  · exact absurd token other
  · exact absurd awaited ignored

theorem after_proceed (h : Paced l late began clock t line) (limiter : m.limiter = l)
    (positive : 0 < l.rate) (running : t.till.batch = some b)
    (fits : t.till.Fits m late clock (.proceed now input)) :
    ∃ line', Paced l late began now (t.after m (.proceed now input)) line' := by
  obtain ⟨order, fits⟩ := fits
  replace fits := fits b running
  rw [limiter, h.bucket] at fits
  have later := h.sound.later order
  by_cases awaited : b.Awaits input
  case neg =>
    obtain ⟨unchanged, nothing⟩ := t.till.step_of_not_awaits m now running awaited
    have quiet : t.till.heard m now input = [] := (List.append_eq_nil_iff.mp nothing).1
    refine ⟨line, h.proceed running later ?_ ?_ ?_⟩
    · rw [unchanged, h.bucket]
    · rw [unchanged]
      exact h.waiting
    · rw [quiet]
      exact Line.card_grants_mono order
  obtain ⟨summary, record, rest, phase⟩ := b
  cases phase <;> cases input <;> simp only [Batch.Awaits] at awaited fits
  case reserving.token =>
    refine ⟨line.after l (.come now), h.proceed running (h.sound.come positive order fits) ?_ ?_ ?_⟩
    · rw [Line.after_come, ← h.bucket, ← limiter]
      simp only [Till.step, running, Till.takeToken]
      split <;> simp
    · intro b' wait running' waiting
      simp only [Till.step, running, Till.takeToken, limiter, h.bucket] at running'
      split at running'
      case isTrue =>
        rw [Till.follow_batch] at running'
        exact absurd waiting (Batch.phase_of_granted (Or.inl rfl) running' wait)
      case isFalse long =>
        cases running'
        cases waiting
        exact ⟨_, _, Line.isWaiting_come long⟩
    · have came := Line.card_grants_come l line order
      simp only [Till.heard, running, limiter, h.bucket]
      split at came <;> rename_i there <;> simpa [there, Exchange.isGrant] using came
  case waiting.woken wait =>
    obtain ⟨place, left, waits, taker⟩ := h.waiting _ wait running rfl
    have sound : Line.Sound l late began now (line.after l (.wake place now)) := by
      refine h.sound.wake order fun _ k inside => ?_
      cases Option.some.inj (taker.symm.trans inside)
      exact fits
    refine ⟨_, h.proceed_of_ne_token running trivial (by simp) sound ?_ ?_⟩
    · rw [Line.after, if_pos waits]
      simp [Till.step, running, h.bucket]
    · simp only [Till.heard, running]
      exact Nat.succ_le_of_lt (Line.card_grants_wake l order waits)
  case waiting.cancelled wait =>
    obtain ⟨place, left, waits, taker⟩ := h.waiting _ wait running rfl
    have sound : Line.Sound l late began now (line.after l (.leave place now)) :=
      h.sound.leave order
    refine ⟨_, h.proceed_of_ne_token running trivial (by simp) sound ?_ ?_⟩
    · rw [Line.after, if_pos waits]
      simp [Till.step, running, h.bucket, limiter]
    · simpa [Till.heard, running, Exchange.isGrant] using Line.card_grants_leave l order waits
  case reserving.cancelled | submitting.submitted | marking.mark =>
    refine ⟨line, h.proceed_of_ne_token running trivial (by simp) later ?_ ?_⟩
    · simp [Till.step, running, h.bucket]
    · simpa [Till.heard, running, Exchange.isGrant] using Line.card_grants_mono order

/-- Time passes. -/
theorem later (h : Paced l late began clock t line) (order : clock ≤ now) :
    Paced l late began now t line :=
  { h with
    sound := h.sound.later order
    grants := Nat.le_trans h.grants (Line.card_grants_mono order) }

/-- A batch that is due takes no token yet. -/
theorem after_start (h : Paced l late began clock t line) (fault : Option StoreError) :
    Paced l late began clock (t.after m (.start fault)) line := by
  cases batch : t.till.batch with
  | some b => rwa [after_start_of_running batch]
  | none =>
      cases fault with
      | some e =>
          have till : (t.after m (.start (some e))).till = t.till :=
            till_after_start_of_fault batch e
          exact ⟨h.sound, till ▸ h.bucket, till ▸ h.waiting, h.grants, h.submissions⟩
      | none =>
          have till := till_after_start_of_idle (m := m) batch
          refine ⟨h.sound, by rw [till, Till.follow_bucket, h.bucket], fun b wait running => ?_,
            h.grants, h.submissions⟩
          rw [till, Till.follow_batch] at running
          intro waiting
          unfold Batch.begin at running
          cases unpaid : t.till.ledger.unpaid with
          | nil =>
              rw [unpaid] at running
              cases running
          | cons r rest =>
              rw [unpaid] at running
              cases running
              cases waiting

theorem after (h : Paced l late began clock t line) (limiter : m.limiter = l)
    (positive : 0 < l.rate) {move : Till.Move} (fits : t.till.Fits m late clock move) :
    ∃ line', Paced l late began (move.clock clock) (t.after m move) line' := by
  cases move with
  | start fault => exact ⟨line, h.after_start fault⟩
  | insert records fault =>
      cases fault with
      | some e => exact ⟨line, h⟩
      | none => exact ⟨line, h.sound, h.bucket, h.waiting, h.grants, h.submissions⟩
  | proceed now input =>
      cases batch : t.till.batch with
      | none =>
          rw [after_proceed_of_idle batch]
          exact ⟨line, h.later fits.1⟩
      | some b => exact h.after_proceed limiter positive batch fits

theorem run (h : Paced l late began clock t line) (limiter : m.limiter = l) (positive : 0 < l.rate)
    {moves : List Till.Move} (inTime : t.InTime m late clock moves) :
    ∃ line', Paced l late began (moves.foldl Till.Move.clock clock) (t.run m moves) line' := by
  induction moves generalizing clock t line with
  | nil => exact ⟨line, h⟩
  | cons move moves ih =>
      obtain ⟨line', h'⟩ := h.after limiter positive inTime.1
      exact ih h' inTime.2

end Paced

theorem paced_ofHistory (operations : List Ledger.Operation) (l : Limiter ℚ) (late : Duration)
    (began : Instant) :
    Paced l late began began (ofHistory operations (l.full began)) (.start l began) where
  sound := .start l late began
  bucket := rfl
  waiting _ _ running := nomatch running
  grants := Nat.zero_le _
  submissions := Nat.le_refl _

end Trace

namespace Line

/-- Tokens are granted at the rate of the limiter, once the bucket was full. Whoever comes whenever,
and whoever gives up while waiting, the grants up to a moment are no more than a full bucket and
what has accrued since the start. As long as nobody gives up, this holds of every window of time,
apart from the time by which waits may end late; where waits end in time, there is no such time. The
nanosecond is that to which waits are rounded.

Hence so many submissions take so long, in whatever batches they are made: each has had a token. -/
theorem grants_keep_to_rate (l : Limiter ℚ) (positive : 0 < l.rate) (burst : 1 ≤ l.burst)
    (late : Duration) (began : Instant) :
    (∀ moves, InTime l late (start l began) began moves →
      let line := (start l began).run l moves
      (∀ t : Duration, ((line.grants .zero (began.after t)).card : ℚ) ≤
        l.burst + l.rate * (t.seconds + Duration.nano.seconds)) ∧
      ((∀ place now, .leave place now ∉ moves) → ∀ (first : Instant) (t : Duration),
        ((line.grants first (first.after t)).card : ℚ) ≤
          l.burst + l.rate * (t.seconds + late.seconds + Duration.nano.seconds))) ∧
    ∀ (m : Paymaster ℚ) (operations : List Ledger.Operation) (moves : List Till.Move),
      let start := Trace.ofHistory operations (l.full began)
      m.limiter = l → start.InTime m late began moves →
      let submissions := (start.run m moves).exchanges.countP Exchange.isSubmission
      let elapsed := (moves.foldl Till.Move.clock began).since began
      ((submissions : ℚ) - l.burst) / l.rate ≤ elapsed.seconds + Duration.nano.seconds := by
  have tick := Duration.nano.seconds_nonneg
  have some : 0 ≤ l.burst := zero_le_one.trans burst
  constructor
  · intro moves inTime line
    obtain ⟨clock, sound⟩ := (Sound.start l late began).run positive inTime
    refine ⟨fun t => (sound.card_grants_le positive some t).trans ?_, fun stay first t => ?_⟩
    · gcongr
      linarith
    · have steady := (Steady.start l began).run (.start l late began) positive inTime stay
      exact steady.card_grants_le sound positive burst first t
  · intro m operations moves start limiter inTime submissions elapsed
    obtain ⟨line, paced⟩ :=
      (Trace.paced_ofHistory operations l late began).run limiter positive inTime
    have order : began ≤ moves.foldl Till.Move.clock began :=
      Nat.le_trans paced.sound.since paced.sound.counted
    have now : began.after elapsed = moves.foldl Till.Move.clock began :=
      congrArg Instant.mk (Nat.add_sub_cancel' order)
    have granted := paced.sound.card_grants_le positive some elapsed
    rw [now] at granted
    have submitted : (submissions : ℚ) ≤
        (line.grants .zero (moves.foldl Till.Move.clock began)).card := by
      exact_mod_cast Nat.le_trans paced.submissions paced.grants
    have half := mul_nonneg positive.le tick
    rw [div_le_iff₀ positive]
    linarith

/-- Two tokens a second, from a bucket that holds one. Two takers come at once, and so do two
records; the alarm that ends the wait of the second one goes off in time. -/
theorem grants_keep_to_rate_of_two :
    let l : Limiter ℚ := ⟨2, 1⟩
    let half := Instant.zero.alarm (.ofMillis 500)
    let takers : List Move := [.come .zero, .come .zero, .wake 1 half]
    let m : Paymaster ℚ := { Paymaster.sample with limiter := l }
    let records := [Record.sample "0x01" 1000, Record.sample "0x02" 1000]
    let start := Trace.ofHistory [.insert records] (l.full .zero)
    let moves : List Till.Move := [.start none, .proceed .zero .token,
      .proceed .zero (.submitted (.error (.submit "refused"))), .proceed .zero .token,
      .proceed half .woken]
    InTime l .zero (Line.start l .zero) .zero takers ∧ start.InTime m .zero .zero moves ∧
    ((((Line.start l .zero).run l takers).grants .zero half).card : ℚ) ≤
      1 + 2 * (1 / 2 + Duration.nano.seconds) ∧
    (start.run m moves).exchanges.countP Exchange.isSubmission = 2 ∧
    (2 - 1 : ℚ) / 2 ≤ (half.since .zero).seconds + Duration.nano.seconds := by
  intro l half takers m records start moves
  have unpaid : (Ledger.empty.run [.insert records]).unpaid = records := by
    have stored : (Ledger.empty.run [.insert records]).records.toList = records :=
      (Ledger.indexed_empty.insert _).2
    rw [Ledger.unpaid, stored]
    exact List.mergeSort_of_pairwise (by decide +kernel)
  have first : (l.reserve (l.full .zero) .zero).2 = .zero := by decide +kernel
  have second : (l.reserve (l.reserve (l.full .zero) .zero).1 .zero).2 = .ofMillis 500 := by
    decide +kernel
  have fits : l.Fits (l.full .zero) .zero := by
    unfold Limiter.Fits
    decide +kernel
  have fits' : l.Fits (l.reserve (l.full .zero) .zero).1 .zero := by
    unfold Limiter.Fits
    decide +kernel
  have inTime : InTime l .zero (Line.start l .zero) .zero takers := by
    refine ⟨⟨Nat.le_refl _, fits⟩, ⟨Nat.le_refl _, fits'⟩, ⟨Nat.zero_le _, fun _ k inside => ?_⟩,
      trivial⟩
    rw [after_come, after_come] at inside
    simp [Line.start, second] at inside
    subst inside
    decide
  have ordered (hash : String) : ∃ payment, m.order (.sample hash 1000) = .ok (.pay payment) := by
    obtain ⟨payment, ordered⟩ := Paymaster.exists_order_sample
    obtain ⟨payout, client, recipient, calculated, served, parsed, -⟩ :=
      Paymaster.prepared_of_order ordered
    exact ⟨_, Paymaster.order_of_prepared rfl calculated served parsed⟩
  obtain ⟨payment, ordered'⟩ := ordered "0x01"
  obtain ⟨payment', ordered''⟩ := ordered "0x02"
  have apart : Duration.ofMillis 500 ≠ .zero := by decide
  have due : (Instant.zero.after (.ofMillis 500)) = half := by decide
  have limiter : m.limiter = l := rfl
  have inTime' : start.InTime m .zero .zero moves := by
    simp [Trace.InTime, Till.Fits, moves, start, Trace.ofHistory, Trace.after, Till.start, unpaid,
      records, Batch.begin, Till.step, Till.takeToken, first, second, Batch.granted, ordered',
      limiter, Batch.submitted, Batch.fail, Batch.next, Till.follow, Till.Move.clock, apart, fits,
      fits']
    decide
  have submitted : (start.run m moves).exchanges.countP Exchange.isSubmission = 2 := by
    simp [Trace.run, moves, start, Trace.ofHistory, Trace.after, Till.start, unpaid, records,
      Batch.begin, Till.step, Till.takeToken, first, second, Batch.granted, ordered', ordered'',
      limiter, Batch.submitted, Batch.fail, Batch.next, Till.follow, apart, Till.exchanged,
      Till.heard, Till.handed, Batch.submission?]
    rfl
  obtain ⟨grants, submissions⟩ :=
    grants_keep_to_rate l (by decide +kernel) (by decide +kernel) .zero .zero
  have granted := (grants takers inTime).1 (.ofMillis 500)
  have spaced := submissions m [.insert records] moves limiter inTime'
  rw [due] at granted
  rw [submitted] at spaced
  have millis : (Duration.ofMillis 500).seconds = 1 / 2 := by
    norm_num [Duration.seconds, Duration.ofMillis, Duration.nanosPerSecond]
  refine ⟨inTime, inTime', ?_, submitted, ?_⟩
  · rw [millis] at granted
    exact granted
  · exact spaced

end Line

end RebateRelay
