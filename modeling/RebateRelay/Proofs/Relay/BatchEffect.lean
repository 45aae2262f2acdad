import RebateRelay.Proofs.Relay.Turns

/-!
# What a batch does

A batch is followed from the moment it is due until it is over. Other batches may be due
meanwhile, and are skipped; records may come in. At every moment the batch has come to some
record, the turns of those in front of it are over, and these turns account for the ledger and for
all that was exchanged.

The batch does end if it keeps being answered: each answer that it awaits leaves it fewer steps.
-/

namespace RebateRelay

open Record

namespace Batch

variable {α : Type} {m : Paymaster α} {l l' : Ledger} {b : Batch} {input : Input}
variable {exchanges : List Exchange} {course : Course}

/-- The steps that a batch has left at most: four for each record. -/
def remaining (b : Batch) : Nat :=
  4 * b.rest.length + match b.phase with
    | .reserving => 4
    | .waiting _ => 3
    | .submitting _ => 2
    | .marking .. => 1

/-- The steps that are left at most. -/
def Course.remaining : Course → Nat
  | .running b => b.remaining
  | .over _ => 0

end Batch

/-- The steps that the running batch has left at most. -/
def Till.remaining {α : Type} (till : Till α) : Nat := (till.batch.map Batch.remaining).getD 0

namespace Paymaster

/-- A paymaster that pays 25 basis points for transfers of USDC to Arbitrum. -/
def sample : Paymaster Float where
  rates := RateTable.empty.insert 42161 "SynapseBridge" "USDC" 25
  clients := (Chain.Clients.ofList [(42161, "http://localhost:8545")]).factory
  limiter := .ofRate 1 5
  chainId := 42161
  token := .zero
  dryRun := false

theorem exists_order_sample :
    ∃ payment, sample.order (.sample "0x02" 1000) = .ok (.pay payment) := by
  obtain ⟨payout, calculated⟩ : ∃ payout,
      Payout.calculate (.sample "0x02" 1000) sample.rates = .ok payout :=
    exists_eq_ok (by decide +kernel)
  obtain ⟨client, served⟩ : ∃ client, sample.clients.client sample.chainId = .ok client :=
    exists_eq_ok (by decide +kernel)
  obtain ⟨recipient, parsed⟩ : ∃ recipient,
      Chain.parseAddress (Record.sample "0x02" 1000).address = .ok recipient :=
    exists_eq_ok (by decide +kernel)
  exact ⟨_, order_of_prepared rfl calculated served parsed⟩

end Paymaster

namespace Trace

variable {α : Type} {m : Paymaster α} {l : Ledger} {t : Trace α}
variable {done : List Till.Move} {turns : List Turn}

/-- How far a batch over given records has come, when the turns that are over are given. -/
inductive Stage (m : Paymaster α) (records : List Record) (turns : List Turn) (t : Trace α) : Prop
  /-- It is at a record, and the turns of those in front of it are over. -/
  | running (b : Batch) (current : List Exchange) (batch : t.till.batch = some b)
    (queue : records = turns.map Turn.record ++ b.record :: b.rest)
    (figures : b.summary = Turn.summary m records.length turns)
    (exchanged : b.HasExchanged m current)
    (exchanges : t.exchanges = turns.flatMap (Turn.exchanges m) ++ current)
    (results : t.results = [])
  /-- The turns of all records are over. -/
  | complete (batch : t.till.batch = none) (queue : records = turns.map Turn.record)
    (exchanges : t.exchanges = turns.flatMap (Turn.exchanges m))
    (results : t.results = [.ok (Turn.summary m records.length turns)])
  /-- It was cancelled at a record that did not get its token. -/
  | cancelled (r : Record) (rest : List Record) (batch : t.till.batch = none)
    (queue : records = turns.map Turn.record ++ r :: rest)
    (exchanges : t.exchanges = turns.flatMap (Turn.exchanges m) ++ [.token r false])
    (results : t.results = [.error .cancelled])

/-- What holds of a batch over the unpaid records of a ledger after moves: the ledger is the one
with which it began, with what was inserted and with the payments of the turns that are over; a
payment that was not entered is one that the store was made to refuse. -/
structure Relays (m : Paymaster α) (l : Ledger) (done : List Till.Move) (turns : List Turn)
    (t : Trace α) : Prop where
  backs : (l.run (done.flatMap Till.Move.operations)).Backs l.unpaid
  ledger : t.till.ledger =
    (l.run (done.flatMap Till.Move.operations)).settle (Turn.payments m turns)
  faults : ∀ turn ∈ turns, ∀ e, turn.fault = some e →
    ∃ now, .proceed now (.mark (some e)) ∈ done
  stage : t.Stage m l.unpaid turns

/-- After a turn comes the next one, or the end of the batch. -/
theorem Stage.of_next {records rest : List Record}
    (queue : records = turns.map Turn.record ++ rest)
    (exchanges : t.exchanges = turns.flatMap (Turn.exchanges m))
    (batch : t.till.batch = (Batch.next (Turn.summary m records.length turns) rest).1.batch?)
    (results : t.results =
      (Batch.next (Turn.summary m records.length turns) rest).1.result?.toList) :
    t.Stage m records turns := by
  cases rest with
  | nil => exact .complete batch (by rw [queue, List.append_nil]) exchanges results
  | cons r rest =>
      exact .running _ [] batch queue rfl rfl (by rw [exchanges, List.append_nil]) results

/-- The stage of a batch does not depend on the ledger. -/
theorem Stage.with_ledger {records : List Record} (h : t.Stage m records turns) (l : Ledger) :
    Stage m records turns { t with till := { t.till with ledger := l } } := by
  cases h with
  | running b current batch queue figures exchanged exchanges results =>
      exact .running b current batch queue figures exchanged exchanges results
  | complete batch queue exchanges results => exact .complete batch queue exchanges results
  | cancelled r rest batch queue exchanges results =>
      exact .cancelled r rest batch queue exchanges results

/-- A batch that is complete has counted each record as paid or as failed. -/
theorem Stage.figures {records : List Record} (h : t.Stage m records turns) {summary : BatchSummary}
    (complete : t.results = [.ok summary]) :
    summary.pending = records.length ∧ summary.pending = summary.paid + summary.failed ∧
      summary.simulated = 0 ∧ summary.skipped = false := by
  cases h with
  | running _ _ _ _ _ _ _ results | cancelled _ _ _ _ _ results =>
      rw [results] at complete
      cases complete
  | complete _ queue _ results =>
      rw [results] at complete
      cases complete
      refine ⟨rfl, ?_, rfl, rfl⟩
      rw [Turn.paid_add_failed, ← List.length_map Turn.record, ← queue]
      rfl

namespace Relays

/-- The records that had their turns are the first ones of the queue at the beginning. -/
theorem turned (h : Relays m l done turns t) : (turns.map Turn.record).Sublist l.unpaid := by
  cases h.stage with
  | running b current batch queue => exact queue ▸ List.sublist_append_left _ _
  | complete batch queue => exact queue ▸ List.Sublist.refl _
  | cancelled r rest batch queue => exact queue ▸ List.sublist_append_left _ _

/-- Every record of the batch is one of its queue at the beginning, and is stored since. -/
theorem stored (h : Relays m l done turns t) {hash : String} {nonce : UInt64}
    (paid : Turn.payments m turns hash = some nonce) :
    hash ∈ hashes (l.run (done.flatMap Till.Move.operations)).records.toList := by
  obtain ⟨r, inside, rfl⟩ := mem_hashes.mp (Turn.mem_of_payments m paid)
  exact (h.backs.owed r (h.turned.subset inside)).mem_hashes

/-- The records whose turns are not over are owed. -/
theorem backs_rest (h : Relays m l done turns t) {rest : List Record}
    (queue : l.unpaid = turns.map Turn.record ++ rest) : t.till.ledger.Backs rest := by
  have distinct := h.backs.distinct
  rw [queue, hashes_append, List.nodup_append] at distinct
  rw [h.ledger]
  refine (h.backs.sublist (queue ▸ List.sublist_append_right _ _)).settle fun r inside => ?_
  exact Turn.payments_eq_none m fun paid =>
    distinct.2.2 _ paid _ (hash_mem_hashes inside) rfl

/-- A turn pays no record that was paid in a turn before. -/
theorem payments_eq_none (h : Relays m l done turns t) {turn : Turn} {rest : List Record}
    (queue : l.unpaid = turns.map Turn.record ++ turn.record :: rest) {hash : String}
    {nonce : UInt64} (paid : turn.payment m hash = some nonce) :
    Turn.payments m turns hash = none := by
  have distinct := h.backs.distinct
  rw [queue, hashes_append, List.nodup_append] at distinct
  rw [Turn.mem_of_payment m paid]
  refine Turn.payments_eq_none m fun before => ?_
  exact distinct.2.2 _ before _ List.mem_cons_self rfl

/-- Moves that add nothing to the store leave what was said of a batch as it is. -/
theorem after_quiet (h : Relays m l done turns t) {move : Till.Move}
    (quiet : move.operations = []) : Relays m l (done ++ [move]) turns t := by
  have same : (done ++ [move]).flatMap Till.Move.operations =
      done.flatMap Till.Move.operations := by simp [quiet]
  refine ⟨same ▸ h.backs, same ▸ h.ledger, fun turn inside e refused => ?_, h.stage⟩
  obtain ⟨now, made⟩ := h.faults turn inside e refused
  exact ⟨now, List.mem_append_left _ made⟩

/-- Records come in behind the back of the batch. -/
theorem after_insert (h : Relays m l done turns t) (records : List Record) :
    Relays m l (done ++ [.insert records none]) turns
      { t with till := { t.till with ledger := (t.till.ledger.insert records).1 } } := by
  have more : l.run ((done ++ [Till.Move.insert records none]).flatMap Till.Move.operations) =
      ((l.run (done.flatMap Till.Move.operations)).insert records).1 := by
    rw [List.flatMap_append, Ledger.run_append]
    rfl
  refine ⟨more ▸ h.backs.insert records, ?_, fun turn inside e refused => ?_, h.stage.with_ledger _⟩
  · rw [more, h.ledger]
    exact h.backs.indexed.insert_settle (fun hash nonce paid => h.stored paid) records
  · obtain ⟨now, made⟩ := h.faults turn inside e refused
    exact ⟨now, List.mem_append_left _ made⟩

/-- A step of the batch goes on with a turn, ends it, or cancels the batch. -/
theorem after_leads (h : Relays m l done turns t) {b : Batch} {current : List Exchange}
    (queue : l.unpaid = turns.map Turn.record ++ b.record :: b.rest)
    (figures : b.summary = Turn.summary m l.unpaid.length turns)
    (exchanges : t.exchanges = turns.flatMap (Turn.exchanges m) ++ current)
    (results : t.results = []) {now : Instant} {input : Batch.Input} {new : List Exchange}
    {course : Batch.Course} {till' : Till α}
    (leads : Batch.Leads m t.till.ledger b input (current ++ new) till'.ledger course)
    (batch' : till'.batch = course.batch?) :
    ∃ turns', Relays m l (done ++ [.proceed now input]) turns'
      ⟨till', t.exchanges ++ new, t.results ++ course.result?.toList⟩ := by
  have quiet : Relays m l (done ++ [.proceed now input]) turns t := h.after_quiet rfl
  generalize after : till'.ledger = l' at leads
  cases leads with
  | on b' record rest summary exchanged =>
      refine ⟨turns, quiet.backs, after.trans quiet.ledger, quiet.faults, ?_⟩
      refine .running b' (current ++ new) batch' ?_ (summary.trans figures) exchanged ?_ ?_
      · rw [record, rest, queue]
      · rw [exchanges, List.append_assoc]
      · rw [results]
        rfl
  | ends turn record exchanged fault =>
      rw [← record] at queue
      refine ⟨turns ++ [turn], quiet.backs, ?_, ?_, ?_⟩
      · rw [after, quiet.ledger,
          Ledger.settle_settle _ fun hash nonce paid => h.payments_eq_none queue paid]
        exact congrArg _ (funext fun hash => (Turn.payments_concat m turns turn hash).symm)
      · intro other inside e refused
        rcases List.mem_append.mp inside with inside | inside
        · exact quiet.faults other inside e refused
        · rw [List.mem_singleton.mp inside] at refused
          exact ⟨now, List.mem_append_right _ (by simp [fault e refused])⟩
      · have queue' : l.unpaid = (turns ++ [turn]).map Turn.record ++ b.rest := by
          rw [queue, List.map_append, List.append_assoc]
          rfl
        refine .of_next queue' ?_ ?_ ?_
        · rw [exchanges, List.append_assoc, exchanged]
          simp
        · rw [← Turn.count_summary, ← figures]
          exact batch'
        · rw [← Turn.count_summary, ← figures, results]
          rfl
  | cancelled exchanged =>
      refine ⟨turns, quiet.backs, after.trans quiet.ledger, quiet.faults, ?_⟩
      refine .cancelled b.record b.rest batch' queue ?_ ?_
      · rw [exchanges, List.append_assoc, exchanged]
      · rw [results]
        rfl

end Relays

variable [Reckoning α]

/-- Each of the moves is made while a batch is running. -/
def Lasts (m : Paymaster α) : Trace α → List Till.Move → Prop
  | _, [] => True
  | t, move :: moves => t.till.batch.isSome = true ∧ Lasts m (t.after m move) moves

/-- While the batch is running, every move keeps what was said of it. -/
theorem Relays.after (h : Relays m l done turns t) (paying : m.dryRun = false)
    (lasts : t.till.batch.isSome = true) (move : Till.Move) :
    ∃ turns', Relays m l (done ++ [move]) turns' (t.after m move) := by
  cases h.stage with
  | complete batch => simp [batch] at lasts
  | cancelled r rest batch => simp [batch] at lasts
  | running b current batch queue figures exchanged exchanges results =>
      cases move with
      | start fault =>
          rw [after_start_of_running batch]
          exact ⟨turns, h.after_quiet rfl⟩
      | insert records fault =>
          cases fault with
          | some e => exact ⟨turns, h.after_quiet rfl⟩
          | none => exact ⟨turns, h.after_insert records⟩
      | proceed now input =>
          obtain ⟨course, goes, next, result⟩ := Till.goes_step m now batch input
          have leads := goes.leads paying (h.backs_rest queue) exchanged
          simp only [Trace.after, result]
          exact h.after_leads queue figures exchanges results leads next

theorem Relays.run (h : Relays m l done turns t) (paying : m.dryRun = false)
    {moves : List Till.Move} (lasts : t.Lasts m moves) :
    ∃ turns', Relays m l (done ++ moves) turns' (t.run m moves) := by
  induction moves generalizing done turns t with
  | nil => exact ⟨turns, by rwa [List.append_nil]⟩
  | cons move moves ih =>
      obtain ⟨turns', h'⟩ := h.after paying lasts.1 move
      rw [run_cons, List.append_cons]
      exact ih h' lasts.2

/-- A batch begins with no turn over. -/
theorem relays_start (indexed : t.till.ledger.Indexed) (idle : t.till.batch = none)
    (exchanges : t.exchanges = []) (results : t.results = []) :
    Relays m t.till.ledger [] [] (t.after m (.start none)) := by
  have begins : (Batch.begin m.dryRun t.till.ledger.unpaid).1 =
      (Batch.next (Turn.summary m t.till.ledger.unpaid.length []) t.till.ledger.unpaid).1 := by
    unfold Batch.begin Batch.next
    cases t.till.ledger.unpaid <;> rfl
  have till := till_after_start_of_idle (m := m) idle
  refine ⟨indexed.backs_unpaid, ?_, by simp, ?_⟩
  · rw [till, Till.follow_ledger]
    exact (Ledger.settle_none _).symm
  · have queue : t.till.ledger.unpaid = [].map Turn.record ++ t.till.ledger.unpaid := rfl
    refine .of_next queue exchanges ?_ ?_
    · rw [till, Till.follow_batch, begins]
    · simp [Trace.after, Till.start, idle, results, begins]

end Trace

end RebateRelay
