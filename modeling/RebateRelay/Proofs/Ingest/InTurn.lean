import RebateRelay.Proofs.Ingest.Retention
import RebateRelay.Proofs.Result

/-!
# Cycles one after the other

When a cycle begins only after the others are over, the store and the queue together are one list:
that of all records which have been delivered, each hash with the record that came first. A refused
insert only moves records from the front part of that list to the back part, and a flush moves them
back. So it does not matter which inserts were refused, and what has come in before adds nothing.

The list is followed through a cycle with the records in its charge behind it: a step of a cycle
changes the sum of the two only by what its poll delivers.
-/

namespace RebateRelay

open Record

theorem Record.length_firsts (records : List Record) :
    (firsts records).length = (hashes records).toFinset.card := by
  have added := Requeue.length_add [] records
  rw [Requeue.add_nil_left] at added
  simpa using added

/-- Within its bound a queue keeps everything. -/
theorem Requeue.keep_of_length_le {capacity : Nat} {queue : List Record}
    (fits : queue.length ≤ capacity) : keep capacity queue = queue := by
  rw [keep, excess, Nat.sub_eq_zero_of_le fits, List.drop_zero]

namespace Intake

/-- The records that have come in: the stored ones, and behind them those in the queue whose hashes
are not stored. -/
def records (intake : Intake) : List Record :=
  let stored := intake.ledger.records.toList
  stored ++ intake.queue.filter fun r => r.hash ∉ hashes stored

theorem records_eq_add {intake : Intake} (distinct : (hashes intake.queue).Nodup) :
    intake.records = Requeue.add intake.ledger.records.toList intake.queue := by
  rw [Requeue.add_eq, firsts_of_nodup distinct, records]

theorem records_of_empty {intake : Intake} (empty : intake.queue = []) :
    intake.records = intake.ledger.records.toList := by
  rw [records, empty]
  exact List.append_nil _

end Intake

namespace Cycle

variable {rules : IngestRules} {kind : QueryKind} {now : Instant} {intake intake' : Intake}
variable {phase phase' : Phase} {input : Input} {completed : List CompletedExecution}
variable {parked : List (List Record)}

/-- The cycle has stored what was kept for later, and has not parked anything since. -/
def Phase.HasFlushed : Phase → Prop
  | .flushing | .ended (.error _) => False
  | .polling .. | .storing .. | .parking .. | .ended (.ok _) => True

theorem charge_of_result {cycle : Cycle} (finished : cycle.result?.isSome = true) :
    cycle.phase.charge rules = [] := by
  obtain ⟨result, ended⟩ := Option.isSome_iff_exists.mp finished
  rw [phase_of_result ended]
  rfl

namespace Goes

variable (goes : Goes rules kind now intake phase input completed parked phase' intake')
include goes

/-- A cycle that is over does nothing. -/
theorem of_ended {result : Except RelayError IngestSummary} (ended : phase = .ended result) :
    completed = [] ∧ parked = [] ∧ phase' = phase ∧ intake' = intake := by
  cases goes with
  | ignores => exact ⟨rfl, rfl, rfl, rfl⟩
  | _ => cases ended

/-- From its flush to its end, a cycle on its own leaves the queue empty unless it parks. -/
theorem emptied (h : phase.HasFlushed → intake.queue = []) (flushed : phase'.HasFlushed) :
    intake'.queue = [] := by
  cases goes with
  | flushes => rfl
  | keeps | fails | parks => exact flushed.elim
  | polls | completes | refuses | stores => exact h trivial
  | ignores => exact h flushed

/-- The records that have come in, and those in the charge of the cycle behind them, stay what they
are but for what the poll delivers. -/
theorem records_add_charge (indexed : intake.ledger.Indexed)
    (distinct : (hashes intake.queue).Nodup) (emptied : phase.HasFlushed → intake.queue = [])
    (fits : (firsts (phase.charge rules)).length ≤ rules.capacity) :
    Requeue.add intake'.records (phase'.charge rules) =
      Requeue.add (Requeue.add intake.records (phase.charge rules))
        (completed.flatMap (Cycle.records rules)) := by
  have distinct' := goes.distinct distinct
  cases goes with
  | flushes fault retried =>
      rw [Intake.records_of_empty rfl, Intake.records_eq_add distinct, (indexed.insert _).2]
      rfl
  | keeps | polls | fails | refuses | ignores => rfl
  | completes retried poll input c =>
      simp [Phase.charge]
  | stores retried inserted c =>
      have empty : intake.queue = [] := emptied trivial
      rw [Intake.records_of_empty empty, Intake.records_of_empty (by exact empty)]
      exact (indexed.insert _).2
  | parks records e =>
      have empty : intake.queue = [] := emptied trivial
      -- Nothing was parked before, and the bound is wide enough for all.
      have kept : Requeue.keep rules.capacity (Requeue.add intake.queue records) =
          firsts records := by
        rw [empty, Requeue.add_nil_left]
        exact Requeue.keep_of_length_le fits
      rw [Intake.records_eq_add distinct', Intake.records_of_empty empty, kept]
      simp only [Phase.charge, List.flatMap_nil, Requeue.add_nil]
      rw [Requeue.add_eq, Requeue.add_eq, firsts_of_nodup (nodup_firsts records)]

end Goes

end Cycle

namespace Ingestion

variable {rules : IngestRules} {l : Ledger} {done moves : List Move} {s s' : Ingestion}
variable {place : Nat} {now : Instant} {input : Cycle.Input} {cycle : Cycle} {phase : Cycle.Phase}
variable {completed : List CompletedExecution} {parked : List (List Record)}

/-- The records of all rows that the polls have delivered, in order. -/
def arrivals (rules : IngestRules) (s : Ingestion) : List Record :=
  s.deliveries.flatMap fun d => Cycle.records rules d.job

/-- The cycles so far are over. -/
def IsIdle (s : Ingestion) : Prop := ∀ cycle ∈ s.cycles, cycle.result?.isSome = true

instance : Decidable s.IsIdle := inferInstanceAs (Decidable (∀ _ ∈ s.cycles, _))

/-- Each of the moves that begin a cycle finds the cycles before it over. -/
def InTurn (rules : IngestRules) : Ingestion → List Move → Prop
  | _, [] => True
  | s, .start kind :: moves => s.IsIdle ∧ InTurn rules (s.after rules (.start kind)) moves
  | s, .go place now input :: moves => InTurn rules (s.after rules (.go place now input)) moves

/-- Whether cycles take turns can be seen by making the moves. -/
instance decidableInTurn (rules : IngestRules) :
    ∀ s moves, Decidable (InTurn rules s moves)
  | _, [] => .isTrue trivial
  | s, .start kind :: moves =>
    have := decidableInTurn rules (s.after rules (.start kind)) moves
    inferInstanceAs (Decidable (s.IsIdle ∧ InTurn rules (s.after rules (.start kind)) moves))
  | s, .go place now input :: moves =>
    decidableInTurn rules (s.after rules (.go place now input)) moves

/-- No delivery has more hashes than the queue has room for. -/
def Fits (rules : IngestRules) (s : Ingestion) : Prop :=
  ∀ d ∈ s.deliveries, (hashes (Cycle.records rules d.job)).toFinset.card ≤ rules.capacity

instance (rules : IngestRules) : Decidable (s.Fits rules) :=
  inferInstanceAs (Decidable (∀ d ∈ s.deliveries, _ ≤ _))

/-- The records in the charge of the last cycle. -/
def charge (rules : IngestRules) (s : Ingestion) : List Record :=
  s.cycles.getLast?.elim [] fun cycle => cycle.phase.charge rules

/-- What is so while cycles take turns: only the last one may be under way, and what has come in,
with what that one has in its charge, is the first record of each hash that has been delivered. -/
structure Ordered (rules : IngestRules) (s : Ingestion) : Prop where
  finished : ∀ cycle ∈ s.cycles.dropLast, cycle.result?.isSome = true
  emptied : ∀ cycle, s.cycles.getLast? = some cycle → cycle.phase.HasFlushed → s.intake.queue = []
  accounts : Requeue.add s.intake.records (s.charge rules) = firsts (s.arrivals rules)

theorem charge_of_isIdle (idle : s.IsIdle) : s.charge rules = [] := by
  unfold charge
  cases last : s.cycles.getLast? with
  | none => rfl
  | some cycle => exact Cycle.charge_of_result (idle cycle (List.mem_of_getLast? last))

theorem Ordered.records_eq (h : s.Ordered rules) (idle : s.IsIdle) :
    s.intake.records = firsts (s.arrivals rules) := by
  rw [← h.accounts, charge_of_isIdle idle, Requeue.add_nil]

theorem ordered_into (rules : IngestRules) : (into .empty).Ordered rules where
  finished := by simp [into]
  emptied := by simp [into]
  accounts := by
    have nothing : (into .empty).intake.queue = [] := rfl
    rw [Intake.records_of_empty nothing]
    rfl

theorem Ordered.after_start (h : s.Ordered rules) (idle : s.IsIdle) (kind : QueryKind) :
    (s.after rules (.start kind)).Ordered rules where
  finished := by
    simp only [after, List.dropLast_concat]
    exact idle
  emptied cycle last flushed := by
    simp only [after, List.getLast?_concat, Option.some.injEq] at last
    rw [← last] at flushed
    exact flushed.elim
  accounts := by
    have nothing : (s.after rules (.start kind)).charge rules = [] := by
      simp [charge, after, Cycle.start, Cycle.Phase.charge]
    rw [nothing]
    exact h.records_eq idle

/-- What a cycle has in its charge is what a poll has delivered, or nothing. -/
theorem Explains.length_firsts_le (h : s.Explains rules place phase) (fits : s.Fits rules) :
    (firsts (phase.charge rules)).length ≤ rules.capacity := by
  rw [length_firsts]
  cases phase with
  | storing retried completed =>
      obtain ⟨d, seen, _, rfl⟩ := h
      exact fits d seen
  | parking records e =>
      obtain ⟨d, seen, _, rfl⟩ := h
      exact fits d seen
  | _ => exact Nat.zero_le _

/-- A cycle that is not over is the last one. -/
theorem Ordered.eq_concat (h : s.Ordered rules) (at_place : s.cycles[place]? = some cycle)
    (pending : ¬cycle.result?.isSome = true) :
    s.cycles = s.cycles.dropLast ++ [cycle] ∧ place = s.cycles.dropLast.length := by
  obtain ⟨inside, rfl⟩ := List.getElem?_eq_some_iff.mp at_place
  have last : place = s.cycles.length - 1 := by
    by_contra before
    refine pending (h.finished _ ?_)
    rw [← List.getElem_dropLast (by rw [List.length_dropLast]; omega)]
    exact List.getElem_mem _
  subst last
  refine ⟨?_, List.length_dropLast.symm⟩
  rw [List.getElem_length_sub_one_eq_getLast, List.dropLast_append_getLast]

/-- A step of a cycle that is over changes nothing. -/
theorem Steps.eq_of_over (step : Steps rules place now input cycle completed parked phase s s')
    (finished : cycle.result?.isSome = true) : s' = s := by
  obtain ⟨result, ended⟩ := Option.isSome_iff_exists.mp finished
  obtain ⟨rfl, rfl, rfl, same⟩ := step.goes.of_ended (Cycle.phase_of_result ended)
  obtain ⟨inside, at_place⟩ := List.getElem?_eq_some_iff.mp step.at_place
  have cycles := step.cycles
  have deliveries := step.deliveries
  have parked := step.parked
  rw [← at_place, List.set_getElem_self] at cycles
  rw [List.map_nil, List.append_nil] at deliveries
  rw [List.append_nil] at parked
  cases s
  cases s'
  simp_all

theorem Ordered.after_steps (h : s.Ordered rules) (retains : Retains rules l done s)
    (fits : s.Fits rules)
    (step : Steps rules place now input cycle completed parked phase s s') :
    s'.Ordered rules := by
  by_cases finished : cycle.result?.isSome = true
  case pos => rwa [step.eq_of_over finished]
  obtain ⟨concat, last⟩ := h.eq_concat step.at_place finished
  have cycles : s'.cycles = s.cycles.dropLast ++ [⟨cycle.kind, phase⟩] := by
    rw [step.cycles, last, concat]
    simp
  have before : s.charge rules = cycle.phase.charge rules := by
    rw [charge, concat, List.getLast?_concat]
    rfl
  have after : s'.charge rules = phase.charge rules := by
    rw [charge, cycles, List.getLast?_concat]
    rfl
  have emptied : cycle.phase.HasFlushed → s.intake.queue = [] :=
    h.emptied cycle (by rw [concat, List.getLast?_concat])
  have room : (firsts (cycle.phase.charge rules)).length ≤ rules.capacity :=
    (retains.explains place cycle step.at_place).length_firsts_le fits
  refine ⟨?_, ?_, ?_⟩
  · rw [cycles, List.dropLast_concat]
    exact h.finished
  · intro cycle' at_end flushed
    rw [cycles, List.getLast?_concat, Option.some.injEq] at at_end
    rw [← at_end] at flushed
    exact step.goes.emptied emptied flushed
  · have delivered : s'.arrivals rules =
        s.arrivals rules ++ completed.flatMap (Cycle.records rules) := by
      simp [arrivals, step.deliveries, List.flatMap_append, List.flatMap_map]
    rw [after, step.goes.records_add_charge retains.indexed retains.distinct emptied room, ← before,
      h.accounts, delivered, ← Requeue.add_nil_left, ← Requeue.add_nil_left, Requeue.add_append]

theorem Fits.of_run (fits : (s.run rules moves).Fits rules) : s.Fits rules :=
  fun d seen => fits d ((prefix_deliveries_run rules s moves).subset seen)

theorem Ordered.run (h : s.Ordered rules) (retains : Retains rules l done s)
    (inTurn : InTurn rules s moves) (fits : (s.run rules moves).Fits rules) :
    (s.run rules moves).Ordered rules := by
  induction moves generalizing done s with
  | nil => exact h
  | cons move moves ih =>
      cases move with
      | start kind => exact ih (h.after_start inTurn.1 kind) (retains.after _) inTurn.2 fits
      | go place now input =>
          refine ih ?_ (retains.after _) inTurn fits
          cases at_place : s.cycles[place]? with
          | none => rwa [after_go_of_none rules at_place]
          | some cycle =>
              obtain ⟨completed, parked, phase, step⟩ := steps_go rules at_place now input
              exact h.after_steps retains fits.of_run step

theorem InTurn.of_append {later : List Move} (inTurn : InTurn rules s (moves ++ later)) :
    InTurn rules s moves := by
  induction moves generalizing s with
  | nil => trivial
  | cons move moves ih =>
      cases move with
      | start kind => exact ⟨inTurn.1, ih inTurn.2⟩
      | go place now input => exact ih (s := s.after rules (.go place now input)) inTurn

theorem ordered_run (inTurn : InTurn rules (into .empty) moves)
    (fits : ((into .empty).run rules moves).Fits rules) :
    ((into .empty).run rules moves).Ordered rules :=
  (ordered_into rules).run (retains_into rules Ledger.indexed_empty) inTurn fits

/-- What comes of cycles that take turns, into a store that starts out empty and whose inserts may
fail at any call, when no delivery has more hashes than the queue has room for. Whenever no cycle is
under way, the stored records and behind them the queued ones whose hashes are not stored are all
records that were delivered so far, without those whose hashes had come before. After a cycle that
ends with success the queue is empty and the store is that list. Deliveries without new hashes add
nothing. It is the deliveries alone that decide which record a hash gets, and not the inserts that
failed. And no record is ever there without a time after the cutoff. -/
theorem records_eq_firsts_of_arrivals (rules : IngestRules) (moves : List Move)
    (inTurn : InTurn rules (into .empty) moves)
    (fits : ((into .empty).run rules moves).Fits rules) :
    let s := (into .empty).run rules moves
    (s.IsIdle → s.intake.records = firsts (s.arrivals rules)) ∧
    (∀ cycle summary, s.cycles.getLast? = some cycle → cycle.result? = some (.ok summary) →
      s.intake.queue = [] ∧ s.intake.ledger.records.toList = firsts (s.arrivals rules)) ∧
    (∀ earlier later, moves = earlier ++ later →
      let t := (into .empty).run rules earlier
      t.IsIdle → s.IsIdle → (∀ r ∈ s.arrivals rules, r.hash ∈ hashes (t.arrivals rules)) →
        s.intake.records = t.intake.records) ∧
    (∀ moves', InTurn rules (into .empty) moves' →
      let t := (into .empty).run rules moves'
      t.deliveries.map Delivery.job = s.deliveries.map Delivery.job → t.IsIdle → s.IsIdle →
        t.intake.records = s.intake.records) ∧
    ∀ r, r ∈ s.intake.ledger.records.toList ∨ r ∈ s.intake.queue → rules.cutoff < r.blockTime := by
  intro s
  have ordered : s.Ordered rules := ordered_run inTurn fits
  refine ⟨ordered.records_eq, ?last_ok, ?again, ?same_jobs, ?times⟩
  case last_ok =>
    intro cycle summary last ended
    have empty : s.intake.queue = [] := by
      refine ordered.emptied cycle last ?_
      rw [Cycle.phase_of_result ended]
      trivial
    have nothing : s.charge rules = [] := by
      rw [charge, last]
      exact Cycle.charge_of_result (by rw [ended]; rfl)
    refine ⟨empty, ?_⟩
    rw [← ordered.accounts, nothing, Intake.records_of_empty empty, Requeue.add_nil]
  case again =>
    rintro earlier later rfl t idle idle' known
    have split : s = t.run rules later := List.foldl_append
    have wide : (t.run rules later).Fits rules := split.symm ▸ (show s.Fits rules from fits)
    have before : t.Ordered rules := ordered_run inTurn.of_append wide.of_run
    obtain ⟨more, arrived⟩ : t.deliveries <+: (t.run rules later).deliveries :=
      prefix_deliveries_run rules t later
    have arrivals : s.arrivals rules =
        t.arrivals rules ++ more.flatMap fun d => Cycle.records rules d.job := by
      rw [split, Ingestion.arrivals, ← arrived, List.flatMap_append]
      rfl
    rw [ordered.records_eq idle', before.records_eq idle, arrivals]
    refine firsts_append_of_known fun r inside => known r ?_
    rw [arrivals]
    exact List.mem_append_right _ inside
  case same_jobs =>
    intro moves' inTurn' t jobs idle idle'
    have fits' : t.Fits rules := by
      intro d seen
      have job : d.job ∈ s.deliveries.map Delivery.job := jobs ▸ List.mem_map_of_mem seen
      obtain ⟨d', seen', same⟩ := List.mem_map.mp job
      exact same ▸ fits d' seen'
    have arrivals : t.arrivals rules = s.arrivals rules := by
      have jobwise (s : Ingestion) : s.arrivals rules =
          (s.deliveries.map Delivery.job).flatMap (Cycle.records rules) := by
        rw [Ingestion.arrivals, List.flatMap_map]
      rw [jobwise, jobwise, jobs]
    rw [ordered.records_eq idle', (ordered_run inTurn' fits').records_eq idle, arrivals]
  case times =>
    intro r there
    have retains : Retains rules .empty moves s :=
      (retains_into rules Ledger.indexed_empty).run moves
    obtain stored | ⟨d, -, eligible⟩ := retains.origin r there
    · exact absurd stored List.not_mem_nil
    · obtain ⟨row, -, t, -, later, rfl⟩ := mem_normalize.mp eligible
      exact later

/-- An insert and then a flush are refused, and two hashes come again. -/
theorem records_eq_firsts_of_arrivals_of_outage :
    let rules : IngestRules := ⟨{}, ⟨0, 0⟩, 2⟩
    let row (hash : String) : Row :=
      ⟨"0xaa", 1, 1, 1, some ⟨1706788800, 0⟩, "ARB", hash, "SynapseBridge", "USDC", 1⟩
    let fault : StoreError := .corruptRow "insert" "outage"
    let polls (place : Nat) (id : String) (rows : List Row) : List Move := [
      .go place .zero (.poll (.executed (.ok id))),
      .go place .zero (.poll (.fetched (.ok ⟨⟨.completed, {}⟩, rows, {}⟩) 0))]
    let moves := [.start .bridge, .go 0 .zero (.store none)] ++
      polls 0 "first" [row "0x01", row "0x02", row "0x01"] ++
      [.go 0 .zero (.store (some fault)), .go 0 .zero .park, .start .rfq,
        .go 1 .zero (.store (some fault)), .start .rfq, .go 2 .zero (.store none)] ++
      polls 2 "second" [row "0x02", row "0x03"] ++ [.go 2 .zero (.store none)]
    let s := (into .empty).run rules moves
    InTurn rules (into .empty) moves ∧ s.Fits rules ∧ s.intake.queue = [] ∧
      s.intake.ledger.records.toList.map (fun r => (r.hash, r.executionId)) =
        [("0x01", "first"), ("0x02", "first"), ("0x03", "second")] := by
  intro rules row fault polls moves s
  have inTurn : InTurn rules (into .empty) moves := by decide +kernel
  have fits : s.Fits rules := by decide +kernel
  obtain ⟨result, succeeds⟩ : ∃ result, (s.cycles.getLast?.bind Cycle.result?).bind
      Except.toOption = some result := Option.isSome_iff_exists.mp (by decide +kernel)
  obtain ⟨result, finished, ok⟩ := Option.bind_eq_some_iff.mp succeeds
  obtain ⟨cycle, last, ended⟩ := Option.bind_eq_some_iff.mp finished
  rw [eq_ok_of_toOption ok] at ended
  obtain ⟨-, success, -⟩ := records_eq_firsts_of_arrivals rules moves inTurn fits
  obtain ⟨empty, stored⟩ := success cycle _ last ended
  refine ⟨inTurn, fits, ?_, ?_⟩
  · rw [empty]
  · rw [stored]
    decide +kernel

end Ingestion

end RebateRelay
