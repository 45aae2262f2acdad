import RebateRelay.Proofs.Ingest.InTurn
import RebateRelay.Proofs.Supervisor.Slots
import RebateRelay.Proofs.Supervisor.Stages

/-!
# Rounds by the clock

Here the relay has a clock. Passes and batches are made step by step, and the clock runs on between
their steps in whatever way, so that each of them may last as long as it likes, for a moment or for
many periods. While a loop waits, the clock runs no further than to its tick and a lag beyond it:
that is how late a tick may be seen. With no lag at all a tick is seen at the moment it comes or,
if a round is under way then, at the moment that round ends.

What the loops do is what they do elsewhere: the batches are those of the till, the cycles of the
passes are those of the intake, both on one ledger, and shutdown and the ends of tasks may come at
any time. The rounds are only put down. What comes of them is that no slot has two rounds of one
loop, and that a loop finds its last round over, with all that was begun in it, before it begins
another.
-/

namespace RebateRelay

namespace Instant

theorem earlier_le_left (a b : Instant) : a.earlier b ≤ a := by
  unfold earlier
  split
  case isTrue => exact Nat.le_refl _
  case isFalse after => exact (Nat.not_le.mp after).le

theorem earlier_le_right (a b : Instant) : a.earlier b ≤ b := by
  unfold earlier
  split
  case isTrue before => exact before
  case isFalse => exact Nat.le_refl _

theorem later_eq_or (a b : Instant) : a.later b = a ∨ a.later b = b := by
  unfold later
  split
  · exact Or.inr rfl
  · exact Or.inl rfl

theorem le_later_left (a b : Instant) : a ≤ a.later b := by
  unfold later
  split
  case isTrue before => exact before
  case isFalse => exact Nat.le_refl _

theorem le_later_right (a b : Instant) : b ≤ a.later b := by
  unfold later
  split
  case isTrue => exact Nat.le_refl _
  case isFalse after => exact (Nat.not_le.mp after).le

end Instant

/-- A batch that is due while none is running is not skipped. -/
theorem Till.batchSkipped_notMem_start {α : Type} (m : Paymaster α) {till : Till α}
    (none : till.batch = none) (fault : Option StoreError) :
    .batchSkipped ∉ (till.start m fault).events := by
  cases fault with
  | some e => simp [start, none]
  | none =>
      simp only [start, none, Batch.begin]
      cases till.ledger.unpaid <;> simp [follow]

namespace Ingestion

variable {rules : IngestRules} {s : Ingestion} {place : Nat} {now : Instant} {input : Cycle.Input}

/-- The results of the last two cycles, once both are over. -/
def passResults? (s : Ingestion) :
    Option (Except RelayError IngestSummary × Except RelayError IngestSummary) :=
  match s.cycles.reverse with
  | rfq :: bridge :: _ => bridge.result?.bind fun b => rfq.result?.map (b, ·)
  | _ => none

/-- All cycles but the last two are over. -/
def OnlyLastPass (s : Ingestion) : Prop :=
  ∀ place cycle, place + 2 < s.cycles.length → s.cycles[place]? = some cycle →
    cycle.result?.isSome = true

theorem OnlyLastPass.isIdle (h : s.OnlyLastPass) {results}
    (finished : s.passResults? = some results) : s.IsIdle := by
  unfold passResults? at finished
  split at finished
  case h_2 => cases finished
  case h_1 rfq bridge earlier cycles =>
    obtain ⟨b, bridgeEnded, finished⟩ := Option.bind_eq_some_iff.mp finished
    obtain ⟨r, rfqEnded, -⟩ := Option.map_eq_some_iff.mp finished
    rw [List.reverse_eq_iff, List.reverse_cons, List.reverse_cons, List.append_assoc] at cycles
    rw [IsIdle, cycles, List.forall_mem_append]
    constructor
    · intro cycle made
      obtain ⟨place, at_place⟩ := List.mem_iff_getElem?.mp made
      have inside := (List.getElem?_eq_some_iff.mp at_place).1
      refine h place cycle ?_ ?_
      · simpa [cycles] using inside
      · rw [cycles, List.getElem?_append_left inside, at_place]
    · simp [bridgeEnded, rfqEnded]

/-- A step of a cycle begins none. -/
theorem map_kind_go (rules : IngestRules) (s : Ingestion) (place : Nat) (now : Instant)
    (input : Cycle.Input) :
    (s.after rules (.go place now input)).cycles.map Cycle.kind = s.cycles.map Cycle.kind := by
  cases at_place : s.cycles[place]? with
  | none => rw [after_go_of_none rules at_place]
  | some cycle =>
      obtain ⟨completed, parked, phase, step⟩ := steps_go rules at_place now input
      obtain ⟨inside, same⟩ := List.getElem?_eq_some_iff.mp at_place
      rw [step.cycles, List.map_set]
      have inside' : place < (s.cycles.map Cycle.kind).length := by rwa [List.length_map]
      have kind : (s.cycles.map Cycle.kind)[place] = cycle.kind := by rw [List.getElem_map, same]
      exact kind ▸ List.set_getElem_self _

theorem OnlyLastPass.go (h : s.OnlyLastPass) (place : Nat) (now : Instant) (input : Cycle.Input) :
    (s.after rules (.go place now input)).OnlyLastPass := by
  cases at_place : s.cycles[place]? with
  | none => rwa [after_go_of_none rules at_place]
  | some cycle =>
      obtain ⟨completed, parked, phase, step⟩ := steps_go rules at_place now input
      by_cases finished : cycle.result?.isSome = true
      · rwa [step.eq_of_over finished]
      · intro place' cycle' before there
        rw [step.cycles, List.length_set] at before
        have different : place ≠ place' := by
          rintro rfl
          exact finished (h place cycle before at_place)
        rw [step.cycles, List.getElem?_set_ne different] at there
        exact h place' cycle' before there

/-- A pass begins when all cycles are over. -/
theorem OnlyLastPass.of_isIdle (idle : s.IsIdle) (rules : IngestRules) :
    (s.run rules [.start .bridge, .start .rfq]).OnlyLastPass := by
  intro place cycle before there
  have cycles : (s.run rules [.start .bridge, .start .rfq]).cycles =
      s.cycles ++ [.start .bridge, .start .rfq] := by
    simp [run, after]
  rw [cycles] at before there
  rw [List.getElem?_append_left (by simpa using before)] at there
  exact idle cycle (List.mem_of_getElem? there)

end Ingestion

namespace Relay

open Supervision

variable {α : Type} {r : Relay α}

/-- The relay with the ledger as it is now. -/
def hold (r : Relay α) (ledger : Ledger) : Relay α :=
  { r with trace := { r.trace with till := { r.trace.till with ledger } } }

theorem Sound.hold (h : r.Sound) (ledger : Ledger) : (r.hold ledger).Sound :=
  ⟨h.supervised, h.busy, h.attended⟩

variable [Reckoning α]

/-- A relay loop that waits sees a tick, and takes in the result of its batch if that is over at
once. -/
theorem supervision_due (m : Paymaster α) (idle : r.supervision.stage .relay = .idle)
    (now : Instant) (fault : Option StoreError) :
    ∃ results : List (Except RelayError BatchSummary),
      (r.after m (.due now fault)).supervision =
        (r.supervision.after (.tick .relay now)).run (results.map .batch) := by
  simp only [after, if_pos (stage_eq_idle_iff.mp idle)]
  exact ⟨_, rfl⟩

theorem supervision_turn (m : Paymaster α) (r : Relay α) (now : Instant)
    (reply : Except ChainError UInt64) (fault : Option StoreError) :
    ∃ results : List (Except RelayError BatchSummary),
      (r.after m (.turn now reply fault)).supervision = r.supervision.run (results.map .batch) := by
  simp only [after]
  split
  · exact ⟨_, rfl⟩
  · exact ⟨[], rfl⟩

theorem beginsNone_other (m : Paymaster α) (r : Relay α) {kind : LoopKind} {move : Supervision.Move}
    (noTick : move.begins kind = false) :
    BeginsNone kind r.supervision (r.after m (.other move)).supervision := by
  simp only [after]
  split
  · exact .refl _ _
  · exact beginsNone_after _ noTick

theorem goesOn_other (m : Paymaster α) (r : Relay α) {kind : LoopKind} {move : Supervision.Move}
    (noTick : move.begins kind = false) (noEnd : move.concludes kind = false) :
    GoesOn kind r.supervision (r.after m (.other move)).supervision := by
  simp only [after]
  split
  · exact .refl _ _
  · exact goesOn_after _ noTick noEnd

end Relay

/-- The periods of the two loops. -/
structure Periods where
  ingest : Duration
  relay : Duration
  deriving DecidableEq, Repr

namespace Periods

/-- The period of a loop. -/
def of (p : Periods) : LoopKind → Duration
  | .intake => p.ingest
  | .relay => p.relay

/-- The first tick of a loop. -/
def first (p : Periods) : LoopKind → Instant
  | .intake => .zero
  | .relay => Instant.zero.after p.relay

theorem dvd_first (p : Periods) (kind : LoopKind) :
    (p.of kind).nanos ∣ (p.first kind).nanos := by
  cases kind with
  | intake => exact Nat.dvd_zero _
  | relay => simp [first, of, Instant.after, Instant.zero]

end Periods

/-- The relay under a clock, with the rounds that its loops have begun. -/
structure Timetable (α : Type) where
  relay : Relay α
  ingestion : Ingestion
  now : Instant
  rounds : LoopKind → List Round

namespace Timetable

open Supervision

/-- What happens under the clock. -/
inductive Move where
  /-- Time passes. -/
  | elapse (d : Duration)
  /-- The intake loop sees a tick, if there is one, and begins a pass: a cycle of each kind. -/
  | ingest
  /-- The cycle at a place makes a step. -/
  | cycle (place : Nat) (input : Cycle.Input)
  /-- The intake loop finds both cycles of its pass over, if they are. -/
  | conclude
  /-- The relay loop sees a tick, if there is one, and a batch is due; a fault means that the unpaid
  records cannot be read. -/
  | pay (fault : Option StoreError)
  /-- The running batch makes its next step. -/
  | turn (reply : Except ChainError UInt64) (fault : Option StoreError)
  /-- Anything else happens to the tasks: shutdown is signalled or seen, a task ends, or the watch
  takes note of an end. -/
  | other (move : Supervision.Move)

variable {α : Type}

/-- What a loop is doing. -/
def stage (t : Timetable α) (kind : LoopKind) : Loop.Phase := t.relay.supervision.stage kind

/-- The ticks of a loop. -/
def ticker (t : Timetable α) (kind : LoopKind) : Ticker := (t.relay.supervision.loops kind).ticker

/-- When a loop that waits sees its next tick. -/
def due (t : Timetable α) (kind : LoopKind) : Instant :=
  (t.ticker kind).seen (lastEnd (t.rounds kind))

/-- A loop waits, and its tick has come. -/
def IsDue (t : Timetable α) (kind : LoopKind) : Prop := t.stage kind = .idle ∧ t.due kind ≤ t.now

instance (t : Timetable α) (kind : LoopKind) : Decidable (t.IsDue kind) :=
  inferInstanceAs (Decidable (_ ∧ _))

/-- How far the clock may run for the sake of a loop. -/
def limit (lag : Duration) (t : Timetable α) (kind : LoopKind) (reached : Instant) : Instant :=
  if t.stage kind = .idle then reached.earlier ((t.due kind).after lag) else reached

/-- How far the clock runs when there is so much time. -/
def reach (lag : Duration) (t : Timetable α) (d : Duration) : Instant :=
  (t.limit lag .intake (t.limit lag .relay (t.now.after d))).later t.now

/-- A loop begins a round. -/
def opened (t : Timetable α) (kind : LoopKind) : LoopKind → List Round :=
  Function.update t.rounds kind (t.rounds kind ++ [⟨t.now, none⟩])

/-- The cycle at a place makes a step on the ledger as it is now. -/
def work (rules : IngestRules) (t : Timetable α) (place : Nat) (input : Cycle.Input) :
    Timetable α :=
  let ledger := t.relay.trace.till.ledger
  let shared := { t.ingestion with intake := { t.ingestion.intake with ledger } }
  let ingestion := shared.after rules (.go place t.now input)
  { t with ingestion, relay := t.relay.hold ingestion.intake.ledger }

/-- The rounds of the loops that are not busy are over now. -/
def settle (t : Timetable α) : Timetable α :=
  { t with
    rounds := fun kind =>
      if t.stage kind = .busy then t.rounds kind else (t.rounds kind).map (Round.close t.now) }

/-- The relay at its start, over a store with a history. -/
def start (p : Periods) (operations : List Ledger.Operation) (bucket : Bucket α) :
    Timetable α where
  relay := .start p.ingest p.relay .zero operations bucket
  ingestion := .into (.run .empty operations)
  now := .zero
  rounds _ := []

section

variable {p : Periods} {lag period : Duration} {first : Instant} {t t' : Timetable α}
variable {kind : LoopKind}

theorem opened_self (t : Timetable α) (kind : LoopKind) :
    t.opened kind kind = t.rounds kind ++ [⟨t.now, none⟩] := Function.update_self _ _ _

theorem opened_of_ne (t : Timetable α) {kind other : LoopKind} (different : other ≠ kind) :
    t.opened kind other = t.rounds other := Function.update_of_ne different _ _

theorem limit_le (lag : Duration) (t : Timetable α) (kind : LoopKind) (reached : Instant) :
    t.limit lag kind reached ≤ reached := by
  unfold limit
  split
  · exact Instant.earlier_le_left _ _
  · exact Nat.le_refl _

theorem limit_le_due (idle : t.stage kind = .idle) (reached : Instant) :
    t.limit lag kind reached ≤ (t.due kind).after lag := by
  rw [limit, if_pos idle]
  exact Instant.earlier_le_right _ _

theorem le_reach (lag : Duration) (t : Timetable α) (d : Duration) : t.now ≤ t.reach lag d :=
  Instant.le_later_right _ _

/-- While a loop waits, the clock does not run beyond its tick and the lag. -/
theorem reach_le (d : Duration) (idle : t.stage kind = .idle) :
    t.reach lag d = t.now ∨ t.reach lag d ≤ (t.due kind).after lag := by
  have bound : t.limit lag .intake (t.limit lag .relay (t.now.after d)) ≤
      (t.due kind).after lag := by
    cases kind with
    | intake => exact limit_le_due idle _
    | relay => exact Nat.le_trans (limit_le lag t .intake _) (limit_le_due idle _)
  unfold reach
  rcases Instant.later_eq_or _ t.now with later | later
  · exact Or.inr (later ▸ bound)
  · exact Or.inl later

/-- What a move can be to a loop and its rounds, before ends are put down. -/
inductive Goes (lag : Duration) (kind : LoopKind) (t t' : Timetable α) : Prop
  /-- Nothing is begun. If time passes, a loop that waits does not miss its tick. -/
  | rests (later : t.now ≤ t'.now)
    (inTime : t.stage kind = .idle → t'.now = t.now ∨ t'.now ≤ (t.due kind).after lag)
    (beginsNone : BeginsNone kind t.relay.supervision t'.relay.supervision)
    (rounds : t'.rounds kind = t.rounds kind)
  /-- A tick is seen, and a round is begun. -/
  | begins (isDue : t.IsDue kind) (now : t'.now = t.now)
    (ticker : t'.ticker kind = (t.ticker kind).tick t.now)
    (rounds : t'.rounds kind = t.rounds kind ++ [⟨t.now, none⟩])

/-- In no time nothing is begun. -/
theorem Goes.atOnce (now : t'.now = t.now)
    (beginsNone : BeginsNone kind t.relay.supervision t'.relay.supervision)
    (rounds : t'.rounds kind = t.rounds kind) : Goes lag kind t t' :=
  .rests (now ▸ Nat.le_refl _) (fun _ => .inl now) beginsNone rounds

theorem Goes.refl (lag : Duration) (kind : LoopKind) (t : Timetable α) : Goes lag kind t t :=
  .atOnce rfl (.refl _ _) rfl

/-- What holds of a loop and its rounds at any moment. -/
structure Keeps (lag : Duration) (kind : LoopKind) (period : Duration) (first : Instant)
    (t : Timetable α) : Prop where
  onGrid : OnGrid period lag first t.now (t.ticker kind).next (t.rounds kind)
  period : (t.ticker kind).period = period
  /-- A loop that is not busy has ended its rounds. -/
  ended : t.stage kind ≠ .busy → ∀ r ∈ t.rounds kind, r.ended.isSome = true
  /-- A loop that is busy is so with its last round. -/
  underWay : t.stage kind = .busy → ∃ r, (t.rounds kind).getLast? = some r ∧ r.ended = none
  /-- A loop that waits has not missed its tick. -/
  inTime : t.stage kind = .idle → t.now ≤ (t.due kind).after lag

theorem stage_settle (t : Timetable α) (kind : LoopKind) : t.settle.stage kind = t.stage kind := rfl

theorem rounds_settle_of_busy (busy : t.stage kind = .busy) :
    t.settle.rounds kind = t.rounds kind := if_pos busy

theorem rounds_settle (free : t.stage kind ≠ .busy) :
    t.settle.rounds kind = (t.rounds kind).map (Round.close t.now) := if_neg free

/-- A loop that has just ended a round is not late. -/
theorem le_due_of_lastEnd (justEnded : lastEnd (t.rounds kind) = t.now) : t.now ≤ t.due kind := by
  rw [due, Ticker.seen, justEnded]
  exact Instant.le_later_right _ _

namespace Keeps

variable (h : t.Keeps lag kind period first)
include h

/-- The rounds stay on the grid, whatever becomes of them. -/
theorem onGrid_of_goes (long : Ticker.tolerance < period) (grid : period.nanos ∣ first.nanos)
    (goes : Goes lag kind t t') :
    OnGrid period lag first t'.now (t'.ticker kind).next (t'.rounds kind) := by
  cases goes with
  | rests later inTime beginsNone rounds =>
      have same : t'.ticker kind = t.ticker kind := beginsNone.ticker
      rw [rounds, same]
      exact h.onGrid.elapse later
  | begins isDue now ticker rounds =>
      obtain ⟨idle, due⟩ := isDue
      have seen : (t.ticker kind).next ≤ t.now := Nat.le_trans (Instant.le_later_left _ _) due
      have next : (t'.ticker kind).next = ⟨(t.now.nanos / period.nanos + 1) * period.nanos⟩ := by
        have on := h.onGrid.dvd_next grid
        rw [← h.period] at long on
        rw [ticker, Ticker.next_tick long on seen, h.period]
      rw [rounds, now, next]
      exact h.onGrid.begin (h.ended (Loop.Phase.ne_busy_of_idle idle)) (Nat.zero_lt_of_lt long) seen
        (h.inTime idle)

/-- A loop that is found waiting has not missed its tick: it had waited before, or its last round is
over just now. -/
theorem inTime_of_goes (goes : Goes lag kind t t') (idle : t'.stage kind = .idle) :
    t'.now ≤ (t'.settle.due kind).after lag := by
  have settled : t'.settle.rounds kind = (t'.rounds kind).map (Round.close t'.now) :=
    rounds_settle (Loop.Phase.ne_busy_of_idle idle)
  have justEnded {r : Round} (last : (t'.rounds kind).getLast? = some r)
      (underWay : r.ended = none) : t'.now ≤ (t'.settle.due kind).after lag := by
    have ended : lastEnd (t'.settle.rounds kind) = t'.settle.now := by
      rw [settled, lastEnd_close last underWay]
      rfl
    exact Nat.le_trans (le_due_of_lastEnd (t := t'.settle) ended) (Instant.le_after _ lag)
  cases goes with
  | begins isDue now ticker rounds =>
      rw [rounds] at justEnded
      exact justEnded List.getLast?_concat rfl
  | rests later inTime beginsNone rounds =>
      rcases beginsNone.idle_or_busy idle with before | busy
      · have due : t'.settle.due kind = t.due kind := by
          have same : t'.settle.ticker kind = t.ticker kind := beginsNone.ticker
          have finished := h.ended (Loop.Phase.ne_busy_of_idle before)
          rw [Timetable.due, Timetable.due, same, settled, rounds, map_close_of_ended finished]
        rw [due]
        rcases inTime before with now | now
        · exact now ▸ h.inTime before
        · exact now
      · obtain ⟨r, last, underWay⟩ := h.underWay busy
        exact justEnded (rounds ▸ last) underWay

/-- What holds of a loop is kept by whatever a move is to it. -/
theorem settle (long : Ticker.tolerance < period) (grid : period.nanos ∣ first.nanos)
    (goes : Goes lag kind t t') : t'.settle.Keeps lag kind period first := by
  have onGrid := h.onGrid_of_goes long grid goes
  refine ⟨?onGrid, ?period, ?ended, ?underWay, ?inTime⟩
  case onGrid =>
    by_cases busy : t'.stage kind = .busy
    · rw [rounds_settle_of_busy busy]
      exact onGrid
    · rw [rounds_settle busy]
      exact onGrid.close
  case period =>
    cases goes with
    | rests _ _ beginsNone => exact (congrArg Ticker.period beginsNone.ticker).trans h.period
    | begins _ _ ticker =>
        exact (congrArg Ticker.period ticker).trans ((Ticker.period_tick _ _).trans h.period)
  case ended =>
    intro free
    rw [stage_settle] at free
    rw [rounds_settle free]
    intro r made
    obtain ⟨r', -, rfl⟩ := List.mem_map.mp made
    rfl
  case underWay =>
    intro busy
    rw [stage_settle] at busy
    rw [rounds_settle_of_busy busy]
    cases goes with
    | rests _ _ beginsNone rounds => exact rounds ▸ h.underWay (beginsNone.busy_of_busy busy)
    | begins _ _ _ rounds =>
        rw [rounds, List.getLast?_concat]
        exact ⟨_, rfl, rfl⟩
  case inTime => exact h.inTime_of_goes goes

end Keeps

/-- What holds of the passes at any moment: each one is a cycle of each kind, and all of them are
over when the intake loop waits. -/
structure Passes (ingestion : Ingestion) (stage : Loop.Phase) (rounds : List Round) : Prop where
  kinds : ingestion.cycles.map Cycle.kind = rounds.flatMap fun _ => [.bridge, .rfq]
  onlyLastPass : ingestion.OnlyLastPass
  idle : stage = .idle → ingestion.IsIdle

theorem Passes.settle (h : Passes t.ingestion (t.stage .intake) (t.rounds .intake)) :
    Passes t.settle.ingestion (t.settle.stage .intake) (t.settle.rounds .intake) := by
  refine ⟨h.kinds.trans ?_, h.onlyLastPass, h.idle⟩
  by_cases busy : t.stage .intake = .busy
  · rw [rounds_settle_of_busy busy]
  · rw [rounds_settle busy, List.flatMap_map]

/-- What holds at any moment. -/
structure Sound (p : Periods) (lag : Duration) (t : Timetable α) : Prop where
  relay : t.relay.Sound
  keeps : ∀ kind, t.Keeps lag kind (p.of kind) (p.first kind)
  passes : Passes t.ingestion (t.stage .intake) (t.rounds .intake)

theorem Sound.start {p : Periods} {operations : List Ledger.Operation} {bucket : Bucket α} :
    (start p operations bucket).Sound p lag where
  relay := .start
  keeps kind := by
    have waits : (Timetable.start p operations bucket).stage kind = .idle := by cases kind <;> rfl
    refine ⟨?onGrid, ?period, nofun, ?underWay, fun _ => Nat.zero_le _⟩
    case onGrid => cases kind <;> exact .nil
    case period => cases kind <;> rfl
    case underWay => exact fun busy => absurd busy (Loop.Phase.ne_busy_of_idle waits)
  passes := by
    refine ⟨rfl, ?onlyLastPass, ?idle⟩
    case onlyLastPass => exact fun place cycle before => absurd before (Nat.not_lt_zero _)
    case idle =>
      intro _ cycle made
      cases made

end

variable [Reckoning α]

/-- One move. What cannot be made then changes nothing. -/
def step (m : Paymaster α) (rules : IngestRules) (lag : Duration) (t : Timetable α) :
    Move → Timetable α
  | .elapse d => { t with now := t.reach lag d }
  | .ingest =>
    if t.IsDue .intake then
      { t with
        relay := t.relay.after m (.other (.tick .intake t.now))
        ingestion := t.ingestion.run rules [.start .bridge, .start .rfq]
        rounds := t.opened .intake }
    else t
  | .cycle place input => if t.stage .intake = .busy then t.work rules place input else t
  | .conclude =>
    match t.ingestion.passResults? with
    | some (bridge, rfq) => { t with relay := t.relay.after m (.other (.pass bridge rfq)) }
    | none => t
  | .pay fault =>
    if t.IsDue .relay then
      { t with
        relay := t.relay.after m (.due t.now fault)
        rounds := t.opened .relay }
    else t
  | .turn reply fault => { t with relay := t.relay.after m (.turn t.now reply fault) }
  | .other move => if move.isRound then t else { t with relay := t.relay.after m (.other move) }

/-- The relay after a move: what a round has come to is put down at once. -/
def after (m : Paymaster α) (rules : IngestRules) (lag : Duration) (t : Timetable α) (move : Move) :
    Timetable α := (t.step m rules lag move).settle

/-- The relay after moves, one after the other. -/
def run (m : Paymaster α) (rules : IngestRules) (lag : Duration) (t : Timetable α)
    (moves : List Move) : Timetable α := moves.foldl (after m rules lag) t

section

variable {m : Paymaster α} {rules : IngestRules} {p : Periods} {lag : Duration} {t : Timetable α}

theorem goes_step (m : Paymaster α) (rules : IngestRules) (lag : Duration) (t : Timetable α)
    (move : Move) (kind : LoopKind) : Goes lag kind t (t.step m rules lag move) := by
  cases move with
  | elapse d => exact .rests (le_reach lag t d) (reach_le d) (.refl _ _) rfl
  | ingest =>
      simp only [step]
      split
      case isFalse => exact .refl lag kind t
      case isTrue isDue =>
        cases kind with
        | intake => exact .begins isDue rfl (tick_of_idle isDue.1 t.now).2 (opened_self t .intake)
        | relay =>
            have other : LoopKind.relay ≠ .intake := by decide
            exact .atOnce rfl (t.relay.beginsNone_other m rfl) (opened_of_ne t other)
  | cycle place input =>
      simp only [step]
      split
      · exact .atOnce rfl (.refl _ _) rfl
      · exact .refl lag kind t
  | conclude =>
      simp only [step]
      split
      · exact .atOnce rfl (t.relay.beginsNone_other m rfl) rfl
      · exact .refl lag kind t
  | pay fault =>
      simp only [step]
      split
      case isFalse => exact .refl lag kind t
      case isTrue isDue =>
        obtain ⟨results, supervision⟩ := Relay.supervision_due m isDue.1 t.now fault
        have batches (kind : LoopKind) :
            BeginsNone kind (t.relay.supervision.after (.tick .relay t.now))
              (t.relay.after m (.due t.now fault)).supervision :=
          supervision ▸ beginsNone_run_batch _ kind results
        cases kind with
        | intake =>
            have other : LoopKind.intake ≠ .relay := by decide
            exact .atOnce rfl ((beginsNone_after _ rfl).trans (batches .intake))
              (opened_of_ne t other)
        | relay =>
            exact .begins isDue rfl ((batches .relay).ticker.trans (tick_of_idle isDue.1 t.now).2)
              (opened_self t .relay)
  | turn reply fault =>
      obtain ⟨results, supervision⟩ := Relay.supervision_turn m t.relay t.now reply fault
      exact .atOnce rfl (supervision ▸ beginsNone_run_batch _ kind results) rfl
  | other move =>
      simp only [step]
      split
      case isTrue => exact .refl lag kind t
      case isFalse other =>
        have noTick := (Move.no_round (Bool.eq_false_iff.mpr other) kind).1
        exact .atOnce rfl (t.relay.beginsNone_other m noTick) rfl

theorem relay_step (sound : t.relay.Sound) (move : Move) :
    (t.step m rules lag move).relay.Sound := by
  cases move with
  | elapse d => exact sound
  | ingest =>
      simp only [step]
      split
      · exact sound.after m (.other (.tick .intake t.now))
      · exact sound
  | cycle place input =>
      simp only [step]
      split
      · exact sound.hold _
      · exact sound
  | conclude =>
      simp only [step]
      split
      · exact sound.after m (.other (.pass _ _))
      · exact sound
  | pay fault =>
      simp only [step]
      split
      · exact sound.after m (.due t.now fault)
      · exact sound
  | turn reply fault => exact sound.after m (.turn t.now reply fault)
  | other move =>
      simp only [step]
      split
      · exact sound
      · exact sound.after m (.other move)

theorem passes_step (h : Passes t.ingestion (t.stage .intake) (t.rounds .intake)) (move : Move) :
    let t' := t.step m rules lag move
    Passes t'.ingestion (t'.stage .intake) (t'.rounds .intake) := by
  intro t'
  have goesOn {relay : Relay α} (goesOn : GoesOn .intake t.relay.supervision relay.supervision) :
      Passes t.ingestion (relay.supervision.stage .intake) (t.rounds .intake) :=
    ⟨h.kinds, h.onlyLastPass, fun idle => h.idle (goesOn.idle_of_idle idle)⟩
  cases move with
  | elapse d => exact h
  | ingest =>
      simp only [t', step]
      split
      case isFalse => exact h
      case isTrue isDue =>
        have idle := h.idle isDue.1
        refine ⟨?kinds, .of_isIdle idle rules, fun waits => ?busy⟩
        case kinds =>
          dsimp only
          rw [opened_self, List.flatMap_append, ← h.kinds]
          simp [Ingestion.run, Ingestion.after, Cycle.start]
        case busy =>
          have busy := (tick_of_idle isDue.1 t.now).1
          exact absurd busy (Loop.Phase.ne_busy_of_idle waits)
  | cycle place input =>
      simp only [t', step]
      split
      case isFalse => exact h
      case isTrue busy =>
        refine ⟨?kinds, ?onlyLastPass, fun idle => absurd busy (Loop.Phase.ne_busy_of_idle idle)⟩
        case kinds => exact (Ingestion.map_kind_go rules _ place t.now input).trans h.kinds
        case onlyLastPass =>
          have before := h.onlyLastPass
          exact Ingestion.OnlyLastPass.go (by exact before) place t.now input
  | conclude =>
      simp only [t', step]
      split
      case h_1 bridge rfq finished =>
        exact ⟨h.kinds, h.onlyLastPass, fun _ => h.onlyLastPass.isIdle finished⟩
      case h_2 => exact h
  | pay fault =>
      simp only [t', step]
      split
      case isFalse => exact h
      case isTrue isDue =>
        obtain ⟨results, supervision⟩ := Relay.supervision_due m isDue.1 t.now fault
        have other : LoopKind.intake ≠ .relay := by decide
        dsimp only
        rw [opened_of_ne t other]
        exact goesOn (supervision ▸ (goesOn_after _ rfl rfl).trans (goesOn_run_batch _ results))
  | turn reply fault =>
      obtain ⟨results, supervision⟩ := Relay.supervision_turn m t.relay t.now reply fault
      exact goesOn (supervision ▸ goesOn_run_batch _ results)
  | other move =>
      simp only [t', step]
      split
      case isTrue => exact h
      case isFalse other =>
        obtain ⟨noTick, noEnd⟩ := Move.no_round (Bool.eq_false_iff.mpr other) .intake
        exact goesOn (t.relay.goesOn_other m noTick noEnd)

theorem Sound.after (long : ∀ kind, Ticker.tolerance < p.of kind) (h : t.Sound p lag)
    (move : Move) : (t.after m rules lag move).Sound p lag where
  relay := relay_step h.relay move
  keeps kind :=
    (h.keeps kind).settle (long kind) (p.dvd_first kind) (goes_step m rules lag t move kind)
  passes := (passes_step h.passes move).settle

theorem Sound.run (long : ∀ kind, Ticker.tolerance < p.of kind) (h : t.Sound p lag)
    (moves : List Move) : (t.run m rules lag moves).Sound p lag := by
  induction moves generalizing t with
  | nil => exact h
  | cons move moves ih => exact ih (h.after long move)

end

/-- What the rounds of the loops keep to in a run that starts at zero, however long passes and
batches last and however the clock runs on between their steps, provided that the periods are longer
than what a tick may be late without being missed.

The first round of a loop comes at its first tick, which for the intake loop is the start and for
the relay loop comes one period later. Each round follows the one before: that one has ended, and
the slot in which it had begun is over; and unless the loop ends, the round begins as soon as this
is so, but for the lag with which ticks are seen. Hence no slot has two rounds of one loop. When a
batch is running the last round of the relay loop is under way, and when that loop waits no batch is
running for which the next one would be skipped. Each pass is one cycle of each kind, and both are
over when the intake loop waits for its next tick. -/
theorem one_round_a_slot (m : Paymaster α) (rules : IngestRules) (p : Periods) (lag : Duration)
    (long : ∀ kind, Ticker.tolerance < p.of kind) (operations : List Ledger.Operation)
    (bucket : Bucket α) (moves : List Move) :
    let t := (start p operations bucket).run m rules lag moves
    (∀ kind,
      let period := p.of kind
      (∀ r, (t.rounds kind).head? = some r →
        p.first kind ≤ r.begun ∧ r.begun ≤ (p.first kind).after lag) ∧
      (t.rounds kind).IsChain (Round.Follows period lag) ∧
      (∀ k, ((t.rounds kind).countP fun r => k * period.nanos ≤ r.begun.nanos ∧
        r.begun.nanos < (k + 1) * period.nanos) ≤ 1) ∧
      (t.stage kind = .idle →
        (∀ r ∈ t.rounds kind, r.ended.isSome = true) ∧
        t.now ≤ (((t.rounds kind).getLast?.elim (p.first kind) (Round.nextTick period)).later
          (lastEnd (t.rounds kind))).after lag)) ∧
    (∀ r ∈ t.rounds .relay, p.relay.nanos ≤ r.begun.nanos) ∧
    (t.relay.trace.till.batch.isSome = true →
      ∃ r, (t.rounds .relay).getLast? = some r ∧ r.ended = none) ∧
    (t.stage .relay = .idle →
      ∀ fault, .batchSkipped ∉ (t.relay.trace.till.start m fault).events) ∧
    t.ingestion.cycles.map Cycle.kind = (t.rounds .intake).flatMap (fun _ => [.bridge, .rfq]) ∧
    (t.stage .intake = .idle → t.ingestion.IsIdle) := by
  intro t
  have sound : t.Sound p lag := Sound.start.run long moves
  refine ⟨fun kind => ?loops, ?relay, ?batch, ?skipped, sound.passes.kinds, sound.passes.idle⟩
  case loops =>
    have keeps := sound.keeps kind
    refine ⟨keeps.onGrid.first, keeps.onGrid.chain, ?slots, fun idle => ⟨?ended, ?inTime⟩⟩
    case slots => exact keeps.onGrid.countP_le_one (Nat.zero_lt_of_lt (long kind))
    case ended => exact keeps.ended (Loop.Phase.ne_busy_of_idle idle)
    case inTime => exact keeps.onGrid.next ▸ keeps.inTime idle
  case relay =>
    intro r made
    have least := (sound.keeps .relay).onGrid.first_le_begun made
    simpa [Periods.first, Instant.zero, Instant.after, Instant.le_def] using least
  case batch =>
    intro running
    exact (sound.keeps .relay).underWay (sound.relay.busy running).stage_eq
  case skipped =>
    intro idle fault
    refine Till.batchSkipped_notMem_start m ?_ fault
    rw [← Option.not_isSome_iff_eq_none]
    intro running
    exact Loop.Phase.ne_busy_of_idle idle (sound.relay.busy running).stage_eq

/-- A pass lasts for two periods and a half, while batches are over at once. The next pass begins
when it is over and is a short one, and the one after that is on the grid again. -/
theorem one_round_a_slot_of_long_pass :
    let p : Periods := ⟨.ofSeconds 2, .ofSeconds 1⟩
    let rules : IngestRules := ⟨{}, ⟨0, 0⟩, 2⟩
    let fault : Option StoreError := some (.corruptRow "select" "outage")
    let refused : Cycle.Input := .poll (.executed (.error (.malformed "no object")))
    let fail (place : Nat) : List Move := [.cycle place (.store none), .cycle place refused]
    let second : List Move := [.elapse (.ofSeconds 1), .pay fault]
    let moves := [.ingest] ++ (List.replicate 5 second).flatten ++ fail 0 ++ fail 1 ++
      [.conclude, .ingest] ++ fail 2 ++ fail 3 ++ [.conclude, .elapse (.ofSeconds 60), .ingest]
    let m := Paymaster.sample
    let t := (start p [] (m.limiter.full .zero)).run m rules .zero moves
    (∀ kind, Ticker.tolerance < p.of kind) ∧
    (t.rounds .intake).map (fun r => r.begun.millis) = [0, 5000, 6000] ∧
    (t.rounds .relay).map (fun r => r.begun.millis) = [1000, 2000, 3000, 4000, 5000] ∧
    (t.rounds .intake).IsChain (Round.Follows p.ingest .zero) ∧
    t.ingestion.cycles.map Cycle.kind = [.bridge, .rfq, .bridge, .rfq, .bridge, .rfq] := by
  intro p rules fault refused fail second moves m t
  have long (kind : LoopKind) : Ticker.tolerance < p.of kind := by cases kind <;> decide
  obtain ⟨loops, -, -, -, kinds, -⟩ :=
    one_round_a_slot m rules p .zero long [] (m.limiter.full .zero) moves
  have chain := (loops .intake).2.1
  refine ⟨long, ?passes, ?batches, chain, ?cycles⟩
  case passes => decide +kernel
  case batches => decide +kernel
  case cycles =>
    refine kinds.trans ?_
    decide +kernel

end Timetable

end RebateRelay
