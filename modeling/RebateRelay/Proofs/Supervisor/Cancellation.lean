import RebateRelay.Proofs.Analytics.Interruption
import RebateRelay.Proofs.Relay.BatchEffect
import RebateRelay.Proofs.Relay.Refunds
import RebateRelay.Proofs.Relay.WindingUp
import RebateRelay.Proofs.Supervisor.FanIn

/-!
# What shutdown cuts short, and what it leaves whole

Shutdown may be signalled at any moment: while a poll dispatches, asks or waits, while a token is
waited for, while a payment is under way. Polls and attempts to take a token end at once. A batch
does not: the payment that is under way is seen through, and only then does the batch end.

Here the relay loop makes its batches beside everything else that happens to the tasks, and a batch
that is running sees the signal if it has been given. The relay comes to its end only when all its
tasks have ended, and the relay loop ends only between two batches, so that nothing which the
submitter has taken is left without the attempt to enter it.
-/

namespace RebateRelay

namespace Supervision

variable {s : Supervision}

/-- The relay loop is busy with a batch. -/
def IsRelaying (s : Supervision) : Prop :=
  (s.loops .relay).phase = .busy ∧ .loop .relay ∉ s.tasks

/-- The move is one that the relay loop makes by itself. -/
def Move.isOwn : Move → Bool
  | .finish (.loop .relay) _ | .tick .relay _ | .batch _ => true
  | _ => false

theorem IsRelaying.finish (h : s.IsRelaying) {task : Task} (other : task ≠ .loop .relay)
    (how : TaskEnd) : (s.finish task how).IsRelaying := by
  obtain ⟨busy, absent⟩ := h
  unfold Supervision.finish
  split
  · exact ⟨busy, absent⟩
  · refine ⟨busy, ?_⟩
    simpa [tasks, other.symm] using absent

/-- What the intake loop does is nothing to the relay loop. -/
theorem IsRelaying.advance_intake (h : s.IsRelaying) (input : Loop.Input) :
    (s.advance .intake input).IsRelaying := by
  obtain ⟨busy, absent⟩ := h
  have same (l : Loop) : Function.update s.loops .intake l .relay = s.loops .relay :=
    Function.update_of_ne (by decide) _ _
  obtain ⟨-, nothing⟩ | ⟨-, l, -, ⟨-, goes⟩ | ⟨-, returns⟩⟩ := s.advance_cases .intake input
  · rw [nothing]
    exact ⟨busy, absent⟩
  · rw [goes]
    exact ⟨(congrArg Loop.phase (same l)).trans busy, absent⟩
  · rw [returns]
    refine ⟨(congrArg Loop.phase (same l)).trans busy, ?_⟩
    simpa [tasks] using absent

/-- The relay loop is busy after a step that leaves it so. -/
theorem isRelaying_advance (absent : .loop .relay ∉ s.tasks) {input : Loop.Input}
    (busy : ((s.loops .relay).step input).phase = .busy) :
    (s.advance .relay input).IsRelaying := by
  obtain ⟨present, -⟩ | ⟨-, l, step, ⟨-, goes⟩ | ⟨ended, -⟩⟩ := s.advance_cases .relay input
  · exact absurd present absent
  · rw [goes]
    refine ⟨?_, absent⟩
    show (Function.update s.loops .relay l .relay).phase = .busy
    rw [Function.update_self, step, busy]
  · rw [step, busy] at ended
    cases ended

/-- A loop that is busy does not see shutdown. -/
theorem IsRelaying.heed (h : s.IsRelaying) : (s.advance .relay .shutdown).IsRelaying := by
  obtain ⟨busy, absent⟩ := h
  apply isRelaying_advance absent
  simp [Loop.step, busy]

/-- A tick makes an idle relay loop busy. -/
theorem isRelaying_tick (idle : (s.loops .relay).phase = .idle) (absent : .loop .relay ∉ s.tasks)
    (now : Instant) : (s.after (.tick .relay now)).IsRelaying := by
  apply isRelaying_advance absent
  simp [Loop.step, idle]

/-- While the relay loop is busy, nothing else takes it from its batch. -/
theorem IsRelaying.after (h : s.IsRelaying) {move : Move} (other : move.isOwn = false) :
    (s.after move).IsRelaying := by
  cases move with
  | finish task how =>
      apply h.finish
      rintro rfl
      cases other
  | tick kind now =>
      cases kind with
      | intake => exact h.advance_intake _
      | relay => cases other
  | heed kind =>
      simp only [Supervision.after]
      split
      · cases kind with
        | intake => exact h.advance_intake _
        | relay => exact h.heed
      · exact h
  | pass bridge rfq => exact h.advance_intake _
  | batch result => cases other
  | signal => exact h
  | notice =>
      obtain ⟨busy, absent⟩ := h
      refine ⟨?_, ?_⟩
      · simp only [Supervision.after, notice]
        split <;> exact busy
      · simpa only [tasks, Supervision.after, ended_notice] using absent

theorem stopped_run (stopped : s.stopped = true) (moves : List Move) :
    (s.run moves).stopped = true := by
  induction moves generalizing s with
  | nil => exact stopped
  | cons move moves ih => exact ih (stopped_after move stopped)

end Supervision

/-- The relay with what has been seen of the batches of its relay loop. -/
structure Relay (α : Type) where
  supervision : Supervision
  trace : Trace α

namespace Relay

open Exchange

/-- What happens to the relay. -/
inductive Move where
  /-- The relay loop sees a tick, and a batch is due; a fault means that the unpaid records cannot be
  read. -/
  | due (now : Instant) (fault : Option StoreError)
  /-- The running batch makes its next step. If it has handed over a payment, this is what the
  submitter answers; if it has one to enter, a fault means that the store refuses. -/
  | turn (now : Instant) (reply : Except ChainError UInt64) (fault : Option StoreError)
  /-- Records are inserted; a fault means that the store refuses. -/
  | insert (records : List Record) (fault : Option StoreError)
  /-- Anything happens to the tasks that the relay loop does not do by itself. -/
  | other (move : Supervision.Move)

/-- The running batch makes a step. -/
def Move.isTurn : Move → Bool
  | turn .. => true
  | _ => false

variable {α : Type}

/-- The relay at its start, over a store with a history. -/
def start (ingestPeriod relayPeriod : Duration) (now : Instant)
    (operations : List Ledger.Operation) (bucket : Bucket α) : Relay α where
  supervision := .start ingestPeriod relayPeriod now
  trace := .ofHistory operations bucket

/-- What holds of the relay at any moment. -/
structure Sound (r : Relay α) : Prop where
  supervised : ∃ done, r.supervision.Sound done
  /-- While a batch is running, the relay loop is busy with it. -/
  busy : r.trace.till.batch.isSome = true → r.supervision.IsRelaying
  attended : Attended r.trace.till.batch r.trace.exchanges

/-- Before any batch there is nothing to hold. -/
theorem Sound.start {ingestPeriod relayPeriod : Duration} {now : Instant}
    {operations : List Ledger.Operation} {bucket : Bucket α} :
    (start ingestPeriod relayPeriod now operations bucket).Sound where
  supervised := ⟨[], Supervision.Sound.start⟩
  busy running := nomatch running
  attended := .nil

variable [Reckoning α]

/-- Something happens to the batches, and the relay loop takes in the result of one that is over. -/
def follow (m : Paymaster α) (r : Relay α) (move : Till.Move) : Relay α :=
  let trace := r.trace.after m move
  ⟨r.supervision.run ((trace.results.drop r.trace.results.length).map .batch), trace⟩

/-- The relay after a move. -/
def after (m : Paymaster α) (r : Relay α) : Move → Relay α
  | .due now fault =>
    if (r.supervision.loops .relay).phase = .idle ∧ .loop .relay ∉ r.supervision.tasks then
      { r with supervision := r.supervision.after (.tick .relay now) }.follow m (.start fault)
    else r
  | .turn now reply fault =>
    match r.trace.till.batch with
    | some b => r.follow m (.proceed now (b.hears r.supervision.stopped reply fault))
    | none => r
  | .insert records fault => r.follow m (.insert records fault)
  | .other move => if move.isOwn then r else { r with supervision := r.supervision.after move }

/-- The relay after moves, one after the other. -/
def run (m : Paymaster α) (r : Relay α) (moves : List Move) : Relay α := moves.foldl (after m) r

section

variable {m : Paymaster α} {r : Relay α}

theorem run_cons (m : Paymaster α) (r : Relay α) (move : Move) (moves : List Move) :
    r.run m (move :: moves) = (r.after m move).run m moves := rfl

theorem run_append (m : Paymaster α) (r : Relay α) (moves moves' : List Move) :
    r.run m (moves ++ moves') = (r.run m moves).run m moves' := List.foldl_append

/-- What is over is taken in as a result. -/
theorem follow_eq {move : Till.Move} {new : List (Except RelayError BatchSummary)}
    (results : (r.trace.after m move).results = r.trace.results ++ new) :
    r.follow m move = ⟨r.supervision.run (new.map .batch), r.trace.after m move⟩ := by
  rw [follow, results, List.drop_left]

/-- A batch that is over leaves no batch, and one that goes on leaves the relay loop busy. -/
theorem busy_follow {move : Till.Move} {course : Batch.Course}
    (batch : (r.trace.after m move).till.batch = course.batch?)
    (results : (r.trace.after m move).results = r.trace.results ++ course.result?.toList)
    (busy : r.supervision.IsRelaying)
    (running : (r.follow m move).trace.till.batch.isSome = true) :
    (r.follow m move).supervision.IsRelaying := by
  rw [follow_eq results] at running ⊢
  obtain b | result := course
  · exact busy
  · rw [batch] at running
    cases running

theorem Sound.follow (h : r.Sound) {move : Till.Move} {course : Batch.Course}
    (batch : (r.trace.after m move).till.batch = course.batch?)
    (results : (r.trace.after m move).results = r.trace.results ++ course.result?.toList)
    (busy : r.supervision.IsRelaying)
    (attended : Attended course.batch? (r.trace.after m move).exchanges) :
    (r.follow m move).Sound where
  supervised := by
    obtain ⟨done, sound⟩ := h.supervised
    exact ⟨_, sound.run _⟩
  busy := busy_follow batch results busy
  attended := batch ▸ attended

theorem Sound.after (h : r.Sound) (m : Paymaster α) (move : Move) : (r.after m move).Sound := by
  obtain ⟨done, sound⟩ := h.supervised
  cases move with
  | due now fault =>
      simp only [Relay.after]
      split
      case isFalse => exact h
      case isTrue ready =>
        obtain ⟨idle, absent⟩ := ready
        -- An idle loop has no batch.
        have none : r.trace.till.batch = none := by
          rw [← Option.not_isSome_iff_eq_none]
          intro running
          rw [(h.busy running).1] at idle
          cases idle
        obtain ⟨same, course, batch, results, -, begins⟩ := Trace.start_cases m none fault
        have busy := Supervision.isRelaying_tick idle absent now
        let ticked : Relay α := { r with supervision := r.supervision.after (.tick .relay now) }
        have before : ticked.Sound := ⟨⟨_, sound.after (.tick .relay now)⟩, fun _ => busy, h.attended⟩
        exact before.follow batch results busy (same ▸ begins (none ▸ h.attended))
  | turn now reply fault =>
      simp only [Relay.after]
      split
      case h_1 b running =>
        obtain ⟨ys, l, course, goes, exchanges, batch, results⟩ :=
          Trace.proceed_cases m running now (b.hears r.supervision.stopped reply fault)
        have busy := h.busy (by simp [running])
        exact h.follow batch results busy (exchanges ▸ (running ▸ h.attended).goes goes)
      case h_2 => exact h
  | insert records fault =>
      have results : (r.trace.after m (.insert records fault)).results = r.trace.results ++ [] := by
        cases fault <;> simp [Trace.after]
      rw [Relay.after, follow_eq results]
      cases fault with
      | none => exact ⟨⟨done, sound⟩, h.busy, h.attended⟩
      | some e => exact ⟨⟨done, sound⟩, h.busy, h.attended⟩
  | other move =>
      simp only [Relay.after]
      split
      case isTrue => exact h
      case isFalse other =>
        refine ⟨⟨_, sound.after move⟩, fun running => ?_, h.attended⟩
        exact (h.busy running).after (Bool.eq_false_iff.mpr other)

theorem Sound.run (h : r.Sound) (m : Paymaster α) (moves : List Move) : (r.run m moves).Sound := by
  induction moves generalizing r with
  | nil => exact h
  | cons move moves ih => exact ih (h.after m move)

theorem stopped_after (stopped : r.supervision.stopped = true) (move : Move) :
    (r.after m move).supervision.stopped = true := by
  cases move with
  | due now fault =>
      simp only [Relay.after]
      split
      · exact Supervision.stopped_run (Supervision.stopped_after (.tick .relay now) stopped) _
      · exact stopped
  | turn now reply fault =>
      simp only [Relay.after]
      split
      · exact Supervision.stopped_run stopped _
      · exact stopped
  | insert records fault => exact Supervision.stopped_run stopped _
  | other move =>
      simp only [Relay.after]
      split
      · exact stopped
      · exact Supervision.stopped_after move stopped

theorem calms_after (m : Paymaster α) (stopped : r.supervision.stopped = true) (move : Move) :
    r.trace.Calms (r.after m move).trace move.isTurn := by
  cases move with
  | due now fault =>
      simp only [Relay.after]
      split
      case isFalse => exact .stays rfl rfl rfl nofun
      case isTrue =>
        cases batch : r.trace.till.batch with
        | some b =>
            have same : r.trace.after m (.start fault) = r.trace :=
              Trace.after_start_of_running batch fault
            exact .stays (congrArg (·.till.batch) same) (congrArg (·.exchanges) same)
              (congrArg (·.results) same) nofun
        | none =>
            obtain ⟨same, course, next, results, closed, -⟩ := Trace.start_cases m batch fault
            exact .begins batch (next ▸ closed) same ⟨_, results.symm⟩
  | turn now reply fault =>
      simp only [Relay.after]
      split
      case h_1 b running =>
        rw [stopped]
        obtain ⟨ys, course, closes, exchanges, batch, results⟩ :=
          Trace.closes_cases m running now reply fault
        exact .closes b ys course running closes exchanges batch results
      case h_2 none => exact .stays rfl rfl rfl fun _ => none
  | insert records fault =>
      cases fault with
      | none => exact .stays rfl rfl rfl nofun
      | some e => exact .stays rfl rfl rfl nofun
  | other move =>
      simp only [Relay.after]
      split
      · exact .stays rfl rfl rfl nofun
      · exact .stays rfl rfl rfl nofun

/-- After the signal, whatever happens, what is running is wound up. -/
theorem winds_run (m : Paymaster α) (stopped : r.supervision.stopped = true) (moves : List Move) :
    ∃ xs, (r.run m moves).trace.exchanges = r.trace.exchanges ++ xs ∧
      Winds r.trace.till.batch xs (r.run m moves).trace.till.batch := by
  induction moves generalizing r with
  | nil => exact ⟨[], (List.append_nil _).symm, .refl _⟩
  | cons move moves ih =>
      obtain ⟨ys, exchanges, winds⟩ := (calms_after m stopped move).winds
      obtain ⟨zs, exchanges', winds'⟩ := ih (stopped_after stopped move)
      refine ⟨ys ++ zs, ?_, winds.trans winds'⟩
      rw [run_cons, exchanges', exchanges, List.append_assoc]

theorem results_run (m : Paymaster α) (stopped : r.supervision.stopped = true) (moves : List Move) :
    r.trace.results <+: (r.run m moves).trace.results := by
  induction moves generalizing r with
  | nil => exact List.prefix_rfl
  | cons move moves ih =>
      exact (calms_after m stopped move).results.trans (ih (stopped_after stopped move))

/-- A batch that is running when shutdown is signalled is over after a few turns. -/
theorem ends_run (m : Paymaster α) (stopped : r.supervision.stopped = true) {b : Batch}
    (running : r.trace.till.batch = some b) (moves : List Move) :
    (∃ b', (r.run m moves).trace.till.batch = some b' ∧
      b'.stepsLeft + moves.countP Move.isTurn ≤ b.stepsLeft) ∨
      ∃ result, r.trace.results ++ [result] <+: (r.run m moves).trace.results ∧
        b.EndsWith result ∧ Batch.openRecord? (r.run m moves).trace.till.batch = none := by
  induction moves generalizing r b with
  | nil => exact Or.inl ⟨b, running, Nat.le_refl _⟩
  | cons move moves ih =>
      have stopped' := stopped_after (m := m) stopped move
      rw [run_cons]
      rcases (calms_after m stopped move).ends running with
        ⟨next, batch, results, fewer, mono⟩ | ⟨result, batch, results, endsWith⟩
      · rcases ih stopped' batch with ⟨b', still, left⟩ | ⟨result, there, endsWith, closed⟩
        · refine Or.inl ⟨b', still, ?_⟩
          have turn : (move :: moves).countP Move.isTurn =
              moves.countP Move.isTurn + move.isTurn.toNat := by
            rw [List.countP_cons]
            cases move.isTurn <;> rfl
          omega
        · exact Or.inr ⟨result, results ▸ there, mono result endsWith, closed⟩
      · refine Or.inr ⟨result, results ▸ results_run m stopped' moves, endsWith, ?_⟩
        obtain ⟨_, _, winds⟩ := winds_run m stopped' moves
        rw [Option.eq_none_iff_forall_ne_some]
        intro record isOpen
        have before := winds.kept record isOpen
        rw [batch] at before
        cases before

/-- A batch that is running when shutdown is signalled has come to its end after three turns. Then
nothing is being paid, and nothing that was taken is left. -/
theorem Sound.ends (h : r.Sound) (m : Paymaster α) (stopped : r.supervision.stopped = true)
    {b : Batch} (running : r.trace.till.batch = some b) {moves : List Move}
    (turns : 3 ≤ moves.countP Move.isTurn) :
    AllEntered (r.run m moves).trace.exchanges ∧
      ∃ result, r.trace.results ++ [result] <+: (r.run m moves).trace.results ∧
        b.EndsWith result := by
  rcases ends_run m stopped running moves with ⟨b', -, left⟩ | ⟨result, there, ends, closed⟩
  · have most := b.stepsLeft_le
    have some := b'.stepsLeft_pos
    omega
  · exact ⟨(h.run m moves).attended.allEntered closed, result, there, ends⟩

end

end Relay

end RebateRelay
