import Mathlib.Data.List.DropRight
import RebateRelay.Proofs.Ingest.InTurn

/-!
# What the queue keeps

The records kept for later are looked at as one list: those in the queue and behind them the ones
that are being parked, each hash with the record that came first. Parking keeps the latest of this
list, as many as there is room for. A flush takes the whole queue or nothing of it: when the store
refuses, the cycle is over before it has polled, and when the store takes the records, the cycle
reports how many they were, whatever other cycles do until it ends.
-/

namespace RebateRelay

open Record

namespace Requeue

variable {queue : List Record}

/-- Added to a queue, records come to the first of each hash in the queue and behind it. -/
theorem add_eq_firsts (distinct : (hashes queue).Nodup) (records : List Record) :
    add queue records = firsts (queue ++ records) := by
  rw [← add_nil_left (queue ++ records), add_append, add_nil_left, firsts_of_nodup distinct]

/-- What stays within a bound is the end of the queue. -/
theorem keep_eq_rtake (capacity : Nat) (queue : List Record) :
    keep capacity queue = queue.rtake (min capacity queue.length) := by
  rw [keep, excess, List.rtake]
  congr 1
  omega

end Requeue

namespace Cycle

variable {rules : IngestRules} {kind : QueryKind} {now : Instant} {intake intake' : Intake}
variable {phase phase' : Phase} {input : Input} {completed : List CompletedExecution}
variable {parked : List (List Record)}

/-- The cycle has stored so many records ahead of its rows, and says so when it succeeds. -/
def Phase.Counts (retried : Nat) : Phase → Prop
  | .flushing => False
  | .polling n _ | .storing n _ => n = retried
  | .parking .. | .ended (.error _) => True
  | .ended (.ok summary) => summary.retried = retried

/-- A cycle does not forget how many records it has stored ahead of its rows. -/
theorem Goes.counts {retried : Nat}
    (goes : Goes rules kind now intake phase input completed parked phase' intake')
    (h : phase.Counts retried) : phase'.Counts retried := by
  cases goes with
  | flushes | keeps => exact h.elim
  | polls | completes | stores | ignores => exact h
  | fails | refuses | parks => trivial

theorem flush_of_refused (kind : QueryKind) (pending : intake.queue ≠ []) (e : StoreError) :
    (flush kind intake (some e)).1 = .ended (.error (.store e)) ∧
      (flush kind intake (some e)).2.1 = intake := by
  obtain ⟨ledger, queue⟩ := intake
  cases queue with
  | nil => exact absurd rfl pending
  | cons r queue => exact ⟨rfl, rfl⟩

theorem flush_of_taken (kind : QueryKind) {fault : Option StoreError}
    (taken : intake.queue = [] ∨ fault = none) :
    (flush kind intake fault).1 = .polling intake.queue.length (.start kind) ∧
      (flush kind intake fault).2.1 = ⟨(intake.ledger.insert intake.queue).1, []⟩ := by
  obtain ⟨ledger, queue⟩ := intake
  cases queue with
  | nil => exact ⟨rfl, rfl⟩
  | cons r queue =>
      obtain rfl := taken.resolve_left (List.cons_ne_nil r queue)
      exact ⟨rfl, rfl⟩

end Cycle

namespace Ingestion

variable {rules : IngestRules} {s : Ingestion} {place : Nat} {cycle : Cycle}

/-- A step of the cycle at a place, by its phase and what it hears of. -/
theorem after_go_of_some (rules : IngestRules) (at_place : s.cycles[place]? = some cycle)
    (now : Instant) (input : Cycle.Input) :
    (s.after rules (.go place now input)).intake =
        (cycle.phase.step rules cycle.kind now s.intake input).2.1 ∧
      (s.after rules (.go place now input)).cycles[place]? =
        some ⟨cycle.kind, (cycle.phase.step rules cycle.kind now s.intake input).1⟩ := by
  have inside := (List.getElem?_eq_some_iff.mp at_place).1
  simp only [after, at_place]
  exact ⟨rfl, List.getElem?_set_self inside⟩

section Preserved

variable {P : Cycle.Phase → Prop}
variable (preserved : ∀ {kind now intake phase input completed parked phase' intake'},
  Cycle.Goes rules kind now intake phase input completed parked phase' intake' → P phase → P phase')
include preserved

theorem exists_of_after (at_place : s.cycles[place]? = some cycle) (holds : P cycle.phase)
    (move : Move) :
    ∃ phase, (s.after rules move).cycles[place]? = some ⟨cycle.kind, phase⟩ ∧ P phase := by
  have inside := (List.getElem?_eq_some_iff.mp at_place).1
  cases move with
  | start kind =>
      exact ⟨cycle.phase, (List.getElem?_append_left inside).trans at_place, holds⟩
  | go other now input =>
      cases at_other : s.cycles[other]? with
      | none =>
          rw [after_go_of_none rules at_other]
          exact ⟨cycle.phase, at_place, holds⟩
      | some cycle' =>
          obtain ⟨completed, parked, phase, step⟩ := steps_go rules at_other now input
          by_cases same : other = place
          · obtain rfl : cycle' = cycle :=
              Option.some.inj ((same ▸ at_other.symm).trans at_place)
            refine ⟨phase, ?_, preserved step.goes holds⟩
            rw [step.cycles, same, List.getElem?_set_self inside]
          · refine ⟨cycle.phase, ?_, holds⟩
            rw [step.cycles, List.getElem?_set_ne same, at_place]

/-- What every step of a cycle preserves stays so of the cycle at a place, whatever the others
do. -/
theorem exists_of_run (at_place : s.cycles[place]? = some cycle) (holds : P cycle.phase)
    (moves : List Move) :
    ∃ phase, (s.run rules moves).cycles[place]? = some ⟨cycle.kind, phase⟩ ∧ P phase := by
  induction moves generalizing s cycle with
  | nil => exact ⟨cycle.phase, at_place, holds⟩
  | cons move moves ih =>
      obtain ⟨phase, at_place', holds'⟩ := exists_of_after preserved at_place holds move
      have rest := ih at_place' holds'
      exact rest

end Preserved

/-- What becomes of the records kept for later. Parking leaves the last of those in the queue and
of the new ones behind them, each hash with the record that came first, as many as the queue has
room for, and reports the ones in front that had to go; so nothing goes while there is room, and
what was in the queue keeps its place ahead of the new records and its version. A flush that is
refused leaves the queue as it was and ends the cycle, which was at its first step and does not come
to poll. Any other flush empties the queue into the store, and from then on the cycle counts the
former queue as retried. -/
theorem latest_parked_and_all_flushed (rules : IngestRules) (s : Ingestion)
    (distinct : (hashes s.intake.queue).Nodup) :
    let queue := s.intake.queue
    (∀ capacity records,
      let all := firsts (queue ++ records)
      Requeue.park capacity queue records =
        (all.rtake (min capacity all.length),
          (all.take (all.length - capacity)).map fun r =>
            .recordDropped r.hash r.executionId capacity) ∧
      queue <+: all ∧ (all.length ≤ capacity → (Requeue.park capacity queue records).1 = all)) ∧
    (∀ place kind records e, s.cycles[place]? = some ⟨kind, .parking records e⟩ → ∀ now,
      (s.after rules (.go place now .park)).intake =
        ⟨s.intake.ledger, (Requeue.park rules.capacity queue records).1⟩) ∧
    ∀ place kind, s.cycles[place]? = some ⟨kind, .flushing⟩ → ∀ now,
      (queue ≠ [] → ∀ e,
        let s' := s.after rules (.go place now (.store (some e)))
        s'.intake = s.intake ∧
        ∀ moves, (s'.run rules moves).cycles[place]? = some ⟨kind, .ended (.error (.store e))⟩) ∧
      ∀ fault, queue = [] ∨ fault = none →
        let s' := s.after rules (.go place now (.store fault))
        s'.intake = ⟨(s.intake.ledger.insert queue).1, []⟩ ∧
        s'.cycles[place]? = some ⟨kind, .polling queue.length (.start kind)⟩ ∧
        ∀ moves cycle summary, (s'.run rules moves).cycles[place]? = some cycle →
          cycle.result? = some (.ok summary) → summary.retried = queue.length := by
  intro queue
  refine ⟨?parks, ?parking, fun place kind at_place now => ⟨?refused, ?taken⟩⟩
  case parks =>
    intro capacity records all
    have added : Requeue.add queue records = all := Requeue.add_eq_firsts distinct records
    have parked : Requeue.park capacity queue records =
        (all.rtake (min capacity all.length),
          (all.take (all.length - capacity)).map fun r =>
            .recordDropped r.hash r.executionId capacity) := by
      rw [Requeue.park, added, Requeue.keep_eq_rtake]
      rfl
    refine ⟨parked, added ▸ Requeue.prefix_add queue records, fun fits => ?_⟩
    rw [parked, Nat.min_eq_right fits, List.rtake, Nat.sub_self, List.drop_zero]
  case parking =>
    intro place kind records e at_place now
    exact (after_go_of_some rules at_place now .park).1
  case refused =>
    intro pending e s'
    obtain ⟨shared, reached⟩ := after_go_of_some rules at_place now (.store (some e))
    obtain ⟨ended, unchanged⟩ := Cycle.flush_of_refused kind pending e
    rw [Cycle.Phase.step, ended] at reached
    refine ⟨shared.trans unchanged, fun moves => ?_⟩
    obtain ⟨phase, at_place', stays⟩ := exists_of_run
      (P := fun phase => phase = .ended (.error (.store e)))
      (fun goes stays => (goes.of_ended stays).2.2.1.trans stays) reached rfl moves
    rw [at_place', stays]
  case taken =>
    intro fault taken s'
    obtain ⟨shared, reached⟩ := after_go_of_some rules at_place now (.store fault)
    obtain ⟨polling, emptied⟩ := Cycle.flush_of_taken kind taken
    rw [Cycle.Phase.step, polling] at reached
    refine ⟨shared.trans emptied, reached, fun moves cycle summary at_place' ended => ?_⟩
    obtain ⟨phase, at_place'', counts⟩ := exists_of_run
      (P := Cycle.Phase.Counts queue.length) (fun goes => goes.counts) reached rfl moves
    obtain rfl := Option.some.inj (at_place''.symm.trans at_place')
    rwa [show phase = .ended (.ok summary) from Cycle.phase_of_result ended] at counts

/-- A queue of two, with room for three: one hash comes again, one comes twice, and one comes after
its record has lost its place. -/
theorem latest_parked_and_all_flushed_of_full_queue :
    let s : Ingestion := { intake := { queue := [.sample "0x01" 1, .sample "0x02" 2] } }
    let records : List Record := [
      .sample "0x02" 9, .sample "0x03" 3, .sample "0x04" 4, .sample "0x03" 8, .sample "0x01" 7]
    (hashes s.intake.queue).Nodup ∧
      (Requeue.park 3 s.intake.queue records).1 =
        [.sample "0x02" 2, .sample "0x03" 3, .sample "0x04" 4] := by
  intro s records
  have distinct : (hashes s.intake.queue).Nodup := by decide
  obtain ⟨parks, _⟩ := latest_parked_and_all_flushed ⟨{}, ⟨0, 0⟩, 3⟩ s distinct
  obtain ⟨parked, _⟩ := parks 3 records
  exact ⟨distinct, by rw [parked]; rfl⟩

end Ingestion

end RebateRelay
