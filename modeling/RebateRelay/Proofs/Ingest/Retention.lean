import RebateRelay.Proofs.Ingest.Interleaving
import RebateRelay.Proofs.Ledger.History

/-!
# Nothing is lost on the way in

A row that has been delivered is stored in the end, unless the queue overflows. Between its
delivery and its storing the record is with its cycle, or in the queue, and a flush that comes in
between moves it from there into the store. What a cycle has taken charge of it gives up only to
the store or to the queue; hence a cycle that is over leaves nothing behind.

What counts as delivered is settled by the service and the poll, and not by the cycle: each answer
to a poll that its job is completed is a delivery, and there are no others.
-/

namespace RebateRelay

open Record

namespace Cycle

variable {rules : IngestRules} {kind : QueryKind} {now : Instant} {intake intake' : Intake}
variable {phase phase' : Phase} {input : Input} {completed : List CompletedExecution}
variable {parked : List (List Record)}

/-- The records that a cycle has in its charge. -/
def Phase.charge (rules : IngestRules) : Phase → List Record
  | .storing _ completed => records rules completed
  | .parking records _ => records
  | _ => []

theorem phase_of_result {cycle : Cycle} {result : Except RelayError IngestSummary}
    (ended : cycle.result? = some result) : cycle.phase = .ended result := by
  unfold result? at ended
  split at ended
  · rename_i phase
    rw [phase, Option.some.inj ended]
  · cases ended

namespace Goes

variable (goes : Goes rules kind now intake phase input completed parked phase' intake')
include goes

theorem indexed (h : intake.ledger.Indexed) : intake'.ledger.Indexed := by
  cases goes with
  | flushes => exact (h.insert _).1
  | stores => exact (h.insert _).1
  | _ => exact h

theorem distinct (h : (hashes intake.queue).Nodup) : (hashes intake'.queue).Nodup := by
  cases goes with
  | flushes => exact List.nodup_nil
  | parks records e => exact Requeue.nodup_keep (Requeue.nodup_add h records)
  | _ => exact h

theorem bounded (h : intake.queue.length ≤ rules.capacity) :
    intake'.queue.length ≤ rules.capacity := by
  cases goes with
  | flushes => exact Nat.zero_le _
  | parks records e => exact Requeue.length_keep _ _ ▸ Nat.min_le_left _ _
  | _ => exact h

/-- What is stored stays stored. -/
theorem stored (h : intake.ledger.Indexed) {hash : String}
    (stored : hash ∈ hashes intake.ledger.records.toList) :
    hash ∈ hashes intake'.ledger.records.toList := by
  cases goes with
  | flushes =>
      rw [(h.insert _).2]
      exact Requeue.mem_hashes_add.mpr (Or.inl stored)
  | stores =>
      rw [(h.insert _).2]
      exact Requeue.mem_hashes_add.mpr (Or.inl stored)
  | _ => exact stored

/-- What is in the queue stays there, is stored, or makes room. -/
theorem queued (h : intake.ledger.Indexed) {hash : String} (queued : hash ∈ hashes intake.queue) :
    hash ∈ hashes intake'.ledger.records.toList ∨ hash ∈ hashes intake'.queue ∨
      ∃ all ∈ parked, hash ∈ hashes (Requeue.dropped rules.capacity all) := by
  cases goes with
  | flushes =>
      rw [(h.insert _).2]
      exact Or.inl (Requeue.mem_hashes_add.mpr (Or.inr queued))
  | parks records e =>
      have filled : hash ∈ hashes (Requeue.add intake.queue records) :=
        Requeue.mem_hashes_add.mpr (Or.inl queued)
      rcases Requeue.mem_hashes_keep_or_dropped filled with kept | gone
      · exact Or.inr (Or.inl kept)
      · exact Or.inr (Or.inr ⟨_, List.mem_cons_self, gone⟩)
  | _ => exact Or.inr (Or.inl queued)

/-- Nothing comes into the store or into the queue but what was in one of them or in the charge of
the cycle. -/
theorem mem_of_mem (h : intake.ledger.Indexed) {r : Record}
    (there : r ∈ intake'.ledger.records.toList ∨ r ∈ intake'.queue) :
    r ∈ intake.ledger.records.toList ∨ r ∈ intake.queue ∨ r ∈ phase.charge rules := by
  cases goes with
  | flushes =>
      rcases there with stored | queued
      · rw [(h.insert _).2] at stored
        exact (Requeue.mem_add stored).imp_right Or.inl
      · cases queued
  | stores retried inserted completed =>
      rcases there with stored | queued
      · rw [(h.insert _).2] at stored
        exact (Requeue.mem_add stored).imp_right Or.inr
      · exact Or.inr (Or.inl queued)
  | parks records e =>
      rcases there with stored | queued
      · exact Or.inl stored
      · exact Or.inr (Requeue.mem_add (List.mem_of_mem_drop queued))
  | _ => exact there.imp_right Or.inl

end Goes

end Cycle

namespace Ingestion

variable {rules : IngestRules} {l : Ledger} {done : List Move} {s s' : Ingestion}
variable {d : Delivery} {place : Nat} {phase : Cycle.Phase}

/-- A record with the hash is stored. -/
def Stores (s : Ingestion) (hash : String) : Prop :=
  hash ∈ hashes s.intake.ledger.records.toList

/-- After so many parkings a record with the hash has made room, in a queue that had grown beyond
its bound. -/
def Evicts (rules : IngestRules) (s : Ingestion) (parkings : Nat) (hash : String) : Prop :=
  ∃ all ∈ s.parked.drop parkings, rules.capacity < all.length ∧
    hash ∈ hashes (Requeue.dropped rules.capacity all)

/-- A record with the hash is stored or queued, or it has made room after so many parkings. -/
def Holds (rules : IngestRules) (s : Ingestion) (parkings : Nat) (hash : String) : Prop :=
  s.Stores hash ∨ hash ∈ hashes s.intake.queue ∨ s.Evicts rules parkings hash

/-- What has become of the records of a delivery, by the phase of its cycle. -/
def Keeps (rules : IngestRules) (s : Ingestion) (d : Delivery) : Cycle.Phase → Prop
  | .flushing | .polling .. => False
  | .storing _ completed => completed = d.job
  | .parking records _ => records = Cycle.records rules d.job
  | .ended (.ok _) => ∀ hash ∈ hashes (Cycle.records rules d.job), s.Stores hash
  | .ended (.error _) => ∀ hash ∈ hashes (Cycle.records rules d.job), s.Holds rules d.parkings hash

/-- What the phase of the cycle at a place says of what its poll has delivered. -/
def Explains (rules : IngestRules) (s : Ingestion) (place : Nat) : Cycle.Phase → Prop
  | .flushing | .ended (.error _) => True
  | .polling _ poll => poll.result? = none
  | .storing _ completed => ∃ d ∈ s.deliveries, d.place = place ∧ completed = d.job
  | .parking records _ =>
    ∃ d ∈ s.deliveries, d.place = place ∧ records = Cycle.records rules d.job
  | .ended (.ok summary) =>
    ∃ d ∈ s.deliveries, d.place = place ∧ summary.executionId = d.job.execution.id

/-- The service has answered, in one of the moves, that the job is completed, with these rows. -/
def Answers (done : List Move) (d : Delivery) : Prop :=
  d.job.execution.state = .completed ∧ ∃ now results sample,
    .go d.place now (.poll (.fetched (.ok results) sample)) ∈ done ∧
      results.status.state = .completed ∧ results.rows = d.job.rows

/-- Whatever is stored, held or delivered stays so. -/
structure Extends (rules : IngestRules) (s s' : Ingestion) : Prop where
  stores : ∀ hash, s.Stores hash → s'.Stores hash
  holds : ∀ parkings ≤ s.parked.length, ∀ hash,
    s.Holds rules parkings hash → s'.Holds rules parkings hash
  deliveries : ∀ d ∈ s.deliveries, d ∈ s'.deliveries

theorem Keeps.mono (h : s.Keeps rules d phase) (more : s.Extends rules s')
    (past : d.parkings ≤ s.parked.length) : s'.Keeps rules d phase := by
  rcases phase with _ | _ | _ | _ | result
  · exact h
  · exact h
  · exact h
  · exact h
  · cases result with
    | ok summary => exact fun hash eligible => more.stores hash (h hash eligible)
    | error e => exact fun hash eligible => more.holds _ past hash (h hash eligible)

theorem Explains.mono (h : s.Explains rules place phase) (more : s.Extends rules s') :
    s'.Explains rules place phase := by
  rcases phase with _ | _ | _ | _ | result
  · trivial
  · exact h
  · exact h.imp fun d => And.imp_left (more.deliveries d)
  · exact h.imp fun d => And.imp_left (more.deliveries d)
  · cases result with
    | ok summary => exact h.imp fun d => And.imp_left (more.deliveries d)
    | error e => trivial

/-- What holds of an ingestion into a store after moves. -/
structure Retains (rules : IngestRules) (l : Ledger) (done : List Move) (s : Ingestion) : Prop where
  indexed : s.intake.ledger.Indexed
  distinct : (hashes s.intake.queue).Nodup
  bounded : s.intake.queue.length ≤ rules.capacity
  /-- Every record that has come in is of a delivery. -/
  origin : ∀ r, r ∈ s.intake.ledger.records.toList ∨ r ∈ s.intake.queue →
    r ∈ l.records.toList ∨ ∃ d ∈ s.deliveries, r ∈ Cycle.records rules d.job
  answers : ∀ d ∈ s.deliveries, Answers done d ∧ d.parkings ≤ s.parked.length
  explains : ∀ place cycle, s.cycles[place]? = some cycle → s.Explains rules place cycle.phase
  keeps : ∀ d ∈ s.deliveries,
    ∃ cycle, s.cycles[d.place]? = some cycle ∧ s.Keeps rules d cycle.phase

/-- An answer that came before a move came before or in it. -/
theorem Answers.append (h : Answers done d) (moves : List Move) : Answers (done ++ moves) d := by
  obtain ⟨state, now, results, sample, made, reported, rows⟩ := h
  exact ⟨state, now, results, sample, List.mem_append_left _ made, reported, rows⟩

/-- The records that a cycle has in its charge are of a delivery. -/
theorem Explains.of_charge (h : s.Explains rules place phase) {r : Record}
    (charged : r ∈ phase.charge rules) :
    ∃ d ∈ s.deliveries, r ∈ Cycle.records rules d.job := by
  cases phase with
  | storing retried completed =>
      obtain ⟨d, seen, _, rfl⟩ := h
      exact ⟨d, seen, charged⟩
  | parking records e =>
      obtain ⟨d, seen, _, rfl⟩ := h
      exact ⟨d, seen, charged⟩
  | _ => cases charged

namespace Retains

section Steps

variable {cycle : Cycle} {now : Instant} {input : Cycle.Input} {phase' : Cycle.Phase}
variable {completed : List CompletedExecution} {parked : List (List Record)}
variable (h : Retains rules l done s)
variable (step : Steps rules place now input cycle completed parked phase' s s')
include h step

theorem extends_of_steps : s.Extends rules s' where
  stores hash := step.goes.stored h.indexed
  holds parkings past hash held := by
    have parkings_after : s'.parked.drop parkings = s.parked.drop parkings ++ parked := by
      rw [step.parked, List.drop_append_of_le_length past]
    rw [Holds, Evicts, parkings_after]
    rcases held with stored | queued | ⟨all, before, full, gone⟩
    · exact Or.inl (step.goes.stored h.indexed stored)
    · refine (step.goes.queued h.indexed queued).imp_right (Or.imp_right ?_)
      rintro ⟨all, now, gone⟩
      exact ⟨all, List.mem_append_right _ now, Requeue.lt_length_of_mem_dropped gone, gone⟩
    · exact Or.inr (Or.inr ⟨all, List.mem_append_left _ before, full, gone⟩)
  deliveries d before := step.deliveries ▸ List.mem_append_left _ before

/-- The phase that follows says what is so. -/
theorem explains_of_steps : s'.Explains rules place phase' := by
  have explained := h.explains place cycle step.at_place
  have more := h.extends_of_steps step
  have goes := step.goes
  have delivered := step.deliveries
  generalize cycle.phase = phase at goes explained
  generalize s'.intake = intake' at goes
  cases goes with
  | flushes => rfl
  | keeps | fails | parks => trivial
  | polls retried poll input pending => exact pending
  | completes retried poll input completed result =>
      rw [Explains, delivered]
      exact ⟨_, List.mem_append_right _ List.mem_cons_self, rfl, rfl⟩
  | stores retried inserted completed =>
      obtain ⟨d, seen, same, rfl⟩ := explained
      exact ⟨d, more.deliveries d seen, same, rfl⟩
  | refuses retried completed e =>
      obtain ⟨d, seen, same, rfl⟩ := explained
      exact ⟨d, more.deliveries d seen, same, rfl⟩
  | ignores => exact explained.mono more

/-- What the cycle had charge of it keeps, or it is stored, or it is parked. -/
theorem keeps_of_steps (past : d.parkings ≤ s.parked.length)
    (kept : s.Keeps rules d cycle.phase) : s'.Keeps rules d phase' := by
  have more := h.extends_of_steps step
  have goes := step.goes
  have filled := step.parked
  generalize cycle.phase = phase at goes kept
  generalize shared : s'.intake = intake' at goes
  cases goes with
  | flushes | keeps | polls | completes | fails => exact kept.elim
  | stores retried inserted completed =>
      obtain rfl : completed = d.job := kept
      intro hash eligible
      rw [Stores, shared, (h.indexed.insert _).2]
      exact Requeue.mem_hashes_add.mpr (Or.inr eligible)
  | refuses retried completed e =>
      obtain rfl : completed = d.job := kept
      rfl
  | parks records e =>
      obtain rfl : records = Cycle.records rules d.job := kept
      intro hash eligible
      have added : hash ∈ hashes (Requeue.add s.intake.queue (Cycle.records rules d.job)) :=
        Requeue.mem_hashes_add.mpr (Or.inr eligible)
      rw [Holds, Evicts, shared, filled, List.drop_append_of_le_length past]
      rcases Requeue.mem_hashes_keep_or_dropped added with kept | gone
      · exact Or.inr (Or.inl kept)
      · refine Or.inr (Or.inr ⟨_, List.mem_append_right _ List.mem_cons_self, ?_, gone⟩)
        exact Requeue.lt_length_of_mem_dropped gone
  | ignores => exact kept.mono more past

/-- A poll that completes in a step has been answered in it, and its cycle has charge of its
records. -/
theorem answers_of_steps {c : CompletedExecution} (completes : c ∈ completed) :
    let d : Delivery := ⟨place, s.parked.length, c⟩
    Answers (done ++ [.go place now input]) d ∧ s'.Keeps rules d phase' := by
  have explained := h.explains place cycle step.at_place
  have goes := step.goes
  generalize cycle.phase = phase at goes explained
  generalize s'.intake = intake' at goes
  cases goes with
  | completes retried poll input completed result =>
      obtain rfl := List.mem_singleton.mp completes
      obtain ⟨progress, results, sample, -, rfl, reported, rfl⟩ :=
        (Poll.step_completed_iff explained).mp result
      refine ⟨⟨reported, now, results, sample, ?_, reported, rfl⟩, rfl⟩
      exact List.mem_append_right _ List.mem_cons_self
  | _ => cases completes

theorem after_steps : Retains rules l (done ++ [.go place now input]) s' where
  indexed := step.goes.indexed h.indexed
  distinct := step.goes.distinct h.distinct
  bounded := step.goes.bounded h.bounded
  origin r there := by
    have before : r ∈ l.records.toList ∨ ∃ d ∈ s.deliveries, r ∈ Cycle.records rules d.job := by
      rcases step.goes.mem_of_mem h.indexed there with stored | queued | charged
      · exact h.origin r (Or.inl stored)
      · exact h.origin r (Or.inr queued)
      · exact Or.inr ((h.explains place cycle step.at_place).of_charge charged)
    exact before.imp_right fun ⟨d, seen, eligible⟩ =>
      ⟨d, (h.extends_of_steps step).deliveries d seen, eligible⟩
  answers d seen := by
    have longer : s.parked.length ≤ s'.parked.length := by
      rw [step.parked, List.length_append]
      exact Nat.le_add_right _ _
    rcases step.mem_deliveries seen with before | ⟨c, completes, rfl⟩
    · exact ⟨(h.answers d before).1.append _, Nat.le_trans (h.answers d before).2 longer⟩
    · exact ⟨(h.answers_of_steps step completes).1, longer⟩
  explains other cycle' at_other := by
    rw [step.cycles, List.getElem?_set] at at_other
    split at at_other
    · rename_i same
      split at at_other
      · cases at_other
        exact same ▸ h.explains_of_steps step
      · cases at_other
    · exact (h.explains other cycle' at_other).mono (h.extends_of_steps step)
  keeps d seen := by
    have inside := (List.getElem?_eq_some_iff.mp step.at_place).1
    have moved : s'.cycles[place]? = some ⟨cycle.kind, phase'⟩ := by
      rw [step.cycles, List.getElem?_set_self inside]
    rcases step.mem_deliveries seen with before | ⟨c, completes, rfl⟩
    · obtain ⟨cycle', at_other, kept⟩ := h.keeps d before
      have past := (h.answers d before).2
      by_cases same : place = d.place
      · obtain rfl : cycle' = cycle :=
          Option.some.inj ((same ▸ at_other.symm).trans step.at_place)
        exact ⟨_, same ▸ moved, h.keeps_of_steps step past kept⟩
      · refine ⟨cycle', ?_, kept.mono (h.extends_of_steps step) past⟩
        rw [step.cycles, List.getElem?_set_ne same, at_other]
    · exact ⟨_, moved, (h.answers_of_steps step completes).2⟩

end Steps

/-- One more cycle changes nothing for the others. -/
theorem after_start (h : Retains rules l done s) (kind : QueryKind) :
    Retains rules l (done ++ [.start kind]) (s.after rules (.start kind)) where
  indexed := h.indexed
  distinct := h.distinct
  bounded := h.bounded
  origin := h.origin
  answers d seen := (h.answers d seen).imp_left (·.append _)
  explains place cycle at_place := by
    rw [Ingestion.after, List.getElem?_append] at at_place
    split at at_place
    · exact h.explains place cycle at_place
    · have new : cycle = .start kind := List.mem_singleton.mp (List.mem_of_getElem? at_place)
      rw [new]
      trivial
  keeps d seen := by
    obtain ⟨cycle, at_place, kept⟩ := h.keeps d seen
    have inside := (List.getElem?_eq_some_iff.mp at_place).1
    exact ⟨cycle, (List.getElem?_append_left inside).trans at_place, kept⟩

theorem after (h : Retains rules l done s) (move : Move) :
    Retains rules l (done ++ [move]) (s.after rules move) := by
  cases move with
  | start kind => exact h.after_start kind
  | go place now input =>
      cases at_place : s.cycles[place]? with
      | none =>
          rw [after_go_of_none rules at_place]
          exact { h with answers := fun d seen => (h.answers d seen).imp_left (·.append _) }
      | some cycle =>
          obtain ⟨completed, parked, phase', step⟩ := steps_go rules at_place now input
          exact h.after_steps step

theorem run (h : Retains rules l done s) (moves : List Move) :
    Retains rules l (done ++ moves) (s.run rules moves) := by
  induction moves generalizing done s with
  | nil => rwa [List.append_nil]
  | cons move moves ih =>
      rw [run_cons, List.append_cons]
      exact ih (h.after move)

theorem keeps_of_result (h : Retains rules l done s) (seen : d ∈ s.deliveries) {cycle : Cycle}
    (at_place : s.cycles[d.place]? = some cycle) {result : Except RelayError IngestSummary}
    (ended : cycle.result? = some result) : s.Keeps rules d (.ended result) := by
  obtain ⟨cycle', at_place', kept⟩ := h.keeps d seen
  obtain rfl : cycle' = cycle := Option.some.inj (at_place'.symm.trans at_place)
  rwa [Cycle.phase_of_result ended] at kept

end Retains

/-- Before any cycle there is nothing to keep. -/
theorem retains_into (rules : IngestRules) (indexed : l.Indexed) :
    Retains rules l [] (into l) where
  indexed := indexed
  distinct := List.nodup_nil
  bounded := Nat.zero_le _
  origin r there := Or.inl (there.resolve_right (by simp [into]))
  answers d seen := by cases seen
  explains place cycle at_place := by cases at_place
  keeps d seen := by cases seen

/-- A row with a time after the cutoff has a record among those of its job. -/
theorem hash_mem_records {c : CompletedExecution} {row : Row} (delivered : row ∈ c.rows)
    {t : Timestamp} (timed : row.blockTime = some t) (later : rules.cutoff < t) :
    row.hash ∈ hashes (Cycle.records rules c) :=
  mem_hashes.mpr ⟨_, mem_normalize.mpr ⟨row, delivered, t, timed, later, rfl⟩, rfl⟩

/-- What holds of any number of cycles that take in rows side by side, with whatever failures of
the store. The queue has no hash twice and keeps within its bound. Every record that has come in
is of a row that a completed job has delivered, with a time after the cutoff. When a cycle is
over, each such row of its delivery has a record with its hash in the store or in the queue,
unless one has made room since, in a queue that had grown beyond the bound. And when a cycle is
over with success, each such row is stored. -/
theorem nothing_lost_or_invented (rules : IngestRules) (operations : List Ledger.Operation)
    (moves : List Move) :
    let l := Ledger.empty.run operations
    let s := (into l).run rules moves
    (hashes s.intake.queue).Nodup ∧ s.intake.queue.length ≤ rules.capacity ∧
    (∀ r, r ∈ s.intake.ledger.records.toList ∨ r ∈ s.intake.queue →
      r ∈ l.records.toList ∨ ∃ d ∈ s.deliveries, Answers moves d ∧
        ∃ row ∈ d.job.rows, ∃ t, row.blockTime = some t ∧ rules.cutoff < t ∧
          r = row.record t d.job.execution.id) ∧
    (∀ before place now results sample later,
      moves = before ++ .go place now (.poll (.fetched (.ok results) sample)) :: later →
      let asked := (into l).run rules before
      ∀ progress, asked.Asks place progress → results.status.state = .completed →
        ⟨place, asked.parked.length, progress.execution.observe results.status, results.rows,
          results.metadata, progress.attempts⟩ ∈ s.deliveries) ∧
    (∀ d ∈ s.deliveries, ∀ cycle result, s.cycles[d.place]? = some cycle →
      cycle.result? = some result →
      ∀ row ∈ d.job.rows, ∀ t, row.blockTime = some t → rules.cutoff < t →
        s.Stores row.hash ∨ row.hash ∈ hashes s.intake.queue ∨
          s.Evicts rules d.parkings row.hash) ∧
    ∀ place cycle summary, s.cycles[place]? = some cycle → cycle.result? = some (.ok summary) →
      (∃ d ∈ s.deliveries, d.place = place ∧ summary.executionId = d.job.execution.id) ∧
      ∀ d ∈ s.deliveries, d.place = place →
        ∀ row ∈ d.job.rows, ∀ t, row.blockTime = some t → rules.cutoff < t →
          s.Stores row.hash := by
  intro l s
  have retains : Retains rules l moves s :=
    (retains_into rules (Ledger.indexed_run operations)).run moves
  refine ⟨retains.distinct, retains.bounded, ?origin, ?delivered, ?held, ?stored⟩
  case origin =>
    intro r there
    refine (retains.origin r there).imp_right ?_
    rintro ⟨d, seen, eligible⟩
    exact ⟨d, seen, (retains.answers d seen).1, mem_normalize.mp eligible⟩
  case delivered =>
    rintro before place now results sample later rfl asked progress asks reported
    have split : s = (asked.after rules
        (.go place now (.poll (.fetched (.ok results) sample)))).run rules later :=
      List.foldl_append
    rw [split]
    refine (prefix_deliveries_run rules _ later).subset ?_
    exact asks.mem_deliveries rules now reported sample
  case held =>
    intro d seen cycle result at_place ended row delivered t timed later
    have kept := retains.keeps_of_result seen at_place ended
    have eligible := hash_mem_records delivered timed later
    cases result with
    | ok summary => exact Or.inl (kept row.hash eligible)
    | error e => exact kept row.hash eligible
  case stored =>
    intro place cycle summary at_place ended
    have explained := retains.explains place cycle at_place
    rw [Cycle.phase_of_result ended] at explained
    refine ⟨explained, ?_⟩
    rintro d seen rfl row delivered t timed later
    exact retains.keeps_of_result seen at_place ended row.hash
      (hash_mem_records delivered timed later)

/-- Two rows come in while the store refuses them, and the queue has room for one: the other makes
room. -/
theorem nothing_lost_or_invented_of_refused_insert :
    let rules : IngestRules := ⟨{}, ⟨0, 0⟩, 1⟩
    let row (hash : String) : Row :=
      ⟨"0xaa", 1, 1, 1, some ⟨1706788800, 0⟩, "ARB", hash, "SynapseBridge", "USDC", 1⟩
    let fault : StoreError := .corruptRow "0x01" "no address"
    let moves : List Move := [.start .bridge, .go 0 .zero (.store none),
      .go 0 .zero (.poll (.executed (.ok "01HQEXEC"))),
      .go 0 .zero (.poll (.fetched (.ok ⟨⟨.completed, {}⟩, [row "0x01", row "0x02"], {}⟩) 0)),
      .go 0 .zero (.store (some fault)), .go 0 .zero .park]
    let s := (into .empty).run rules moves
    s.intake.ledger.records.toList = [] ∧ hashes s.intake.queue = ["0x02"] ∧
      ∃ d ∈ s.deliveries, d.job.rows = [row "0x01", row "0x02"] ∧
        s.Evicts rules d.parkings "0x01" := by
  intro rules row fault moves s
  have unstored : s.intake.ledger.records.toList = [] := by decide +kernel
  have queued : hashes s.intake.queue = ["0x02"] := by decide +kernel
  obtain ⟨result, finished⟩ : ∃ result, s.cycles[0]?.bind Cycle.result? = some result :=
    Option.isSome_iff_exists.mp (by decide +kernel)
  obtain ⟨cycle, at_place, ended⟩ := Option.bind_eq_some_iff.mp finished
  obtain ⟨-, -, -, delivered, held, -⟩ := nothing_lost_or_invented rules [] moves
  have seen := delivered (moves.take 3) 0 .zero _ 0 (moves.drop 4) rfl _
    ⟨.bridge, 0, _, rfl, rfl⟩ rfl
  refine ⟨unstored, queued, _, seen, rfl, ?_⟩
  have somewhere := held _ seen cycle result at_place ended (row "0x01") List.mem_cons_self
    ⟨1706788800, 0⟩ rfl (by decide)
  rcases somewhere with
    (stored : s.Stores "0x01") | (waiting : "0x01" ∈ hashes s.intake.queue) | gone
  · rw [Stores, unstored] at stored
    cases stored
  · rw [queued] at waiting
    exact absurd waiting (by decide)
  · exact gone

end Ingestion

end RebateRelay
