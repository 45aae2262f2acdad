import RebateRelay.Proofs.Relay.Trace

/-!
# The queue of the running batch

A batch works from the unpaid records as they were when it began, while records come in behind its
back. What it can rely on all the same: the records whose turns are not over have different
hashes, and the ledger still owes each of them. Only the batch itself pays, and it pays the record
whose turn it is.
-/

namespace RebateRelay

open Record

namespace Ledger

/-- The records of a queue have different hashes, and each of them is owed. -/
structure Backs (l : Ledger) (queue : List Record) : Prop where
  indexed : l.Indexed
  distinct : (hashes queue).Nodup
  owed : ∀ r ∈ queue, l.Owes r.hash

/-- A hash is stored and nothing is owed for it. -/
def IsSettled (l : Ledger) (hash : String) : Prop :=
  hash ∈ hashes l.records.toList ∧ ¬ l.Owes hash

theorem Indexed.backs_nil {l : Ledger} (h : l.Indexed) : l.Backs [] := ⟨h, by simp, by simp⟩

theorem Indexed.backs_unpaid {l : Ledger} (h : l.Indexed) : l.Backs l.unpaid where
  indexed := h
  distinct := h.nodup_unpaid
  owed r unread := ⟨r, (mem_unpaid.mp unread).1, rfl, (mem_unpaid.mp unread).2⟩

namespace Backs

variable {l : Ledger} {queue : List Record} (h : l.Backs queue)
include h

theorem sublist {queue' : List Record} (sub : queue'.Sublist queue) : l.Backs queue' where
  indexed := h.indexed
  distinct := h.distinct.sublist (sub.map _)
  owed r inside := h.owed r (sub.subset inside)

/-- Records that come in leave a queue as it is. -/
theorem insert (records : List Record) : (l.insert records).1.Backs queue where
  indexed := (h.indexed.insert records).1
  distinct := h.distinct
  owed r inside := h.indexed.owes_insert records (h.owed r inside)

/-- Payments of other records leave a queue as it is. -/
theorem settle {payment : String → Option UInt64} (others : ∀ r ∈ queue, payment r.hash = none) :
    (l.settle payment).Backs queue where
  indexed := h.indexed.settle payment
  distinct := h.distinct
  owed r inside := owes_settle.mpr ⟨h.owed r inside, others r inside⟩

end Backs

/-- When the first record of a queue is paid, those behind it are still owed. -/
theorem Backs.pay {l : Ledger} {r : Record} {rest : List Record} (h : l.Backs (r :: rest))
    (nonce : UInt64) : (l.settle (onlyPayment r.hash nonce)).Backs rest := by
  have first : r.hash ∉ hashes rest := (List.nodup_cons.mp h.distinct).1
  refine (h.sublist (List.sublist_cons_self r rest)).settle fun s inside => if_neg fun same => ?_
  exact first (same ▸ hash_mem_hashes inside)

/-- Paying the first record of a queue succeeds. -/
theorem Backs.markPaid {l : Ledger} {r : Record} {rest : List Record} (h : l.Backs (r :: rest))
    (nonce : UInt64) :
    l.markPaid r.hash nonce = .ok (l.settle (onlyPayment r.hash nonce)) :=
  h.indexed.markPaid_of_owes (h.owed r List.mem_cons_self) nonce

theorem Owes.mem_hashes {l : Ledger} {hash : String} (owed : l.Owes hash) :
    hash ∈ hashes l.records.toList := by
  obtain ⟨r, stored, rfl, _⟩ := owed
  exact hash_mem_hashes stored

/-- What is settled stays settled when records come in, whatever they say under the same hash. -/
theorem IsSettled.insert {l : Ledger} (h : l.Indexed) {hash : String} (settled : l.IsSettled hash)
    (records : List Record) : (l.insert records).1.IsSettled hash := by
  obtain ⟨stored, not_owed⟩ := settled
  obtain ⟨indexed, added⟩ := h.insert records
  rw [IsSettled, added, Requeue.mem_hashes_add]
  refine ⟨Or.inl stored, ?_⟩
  rintro ⟨r, inside, same, unpaid⟩
  obtain ⟨s, before, rfl⟩ := Record.mem_hashes.mp stored
  have kept : s ∈ (l.insert records).1.records.toList := by
    rw [added]
    exact (Requeue.prefix_add _ _).subset before
  rw [List.inj_on_of_nodup_map indexed.nodup inside kept same] at unpaid
  exact not_owed ⟨s, before, rfl, unpaid⟩

theorem IsSettled.settle {l : Ledger} {hash : String} (settled : l.IsSettled hash)
    (payment : String → Option UInt64) : (l.settle payment).IsSettled hash := by
  rw [IsSettled, toList_records_settle, hashes_map_settle, owes_settle]
  exact ⟨settled.1, fun owed => settled.2 owed.1⟩

/-- A payment settles the hash it is entered for. -/
theorem Owes.isSettled_settle {l : Ledger} {hash : String} (owed : l.Owes hash) (nonce : UInt64) :
    (l.settle (onlyPayment hash nonce)).IsSettled hash := by
  rw [IsSettled, toList_records_settle, hashes_map_settle, owes_settle]
  exact ⟨owed.mem_hashes, fun still => by simp [onlyPayment] at still⟩

end Ledger

namespace Batch

variable {α : Type} {m : Paymaster α} {l l' : Ledger} {b : Batch} {input : Input}
variable {exchanges : List Exchange} {course : Course}

/-- A step of a batch leaves a queue whose records are owed. -/
theorem Goes.backs (goes : Goes m l b input exchanges l' course)
    (h : l.Backs (b.record :: b.rest)) : l'.Backs course.queue := by
  have behind : l.Backs b.rest := h.sublist (List.sublist_cons_self _ _)
  cases goes with
  | waits | submits | accepted | ignores => exact h
  | simulates | rejects | refused | leaves => rwa [queue_next]
  | cancels => exact h.indexed.backs_nil
  | enters payment nonce _ phase marked =>
      rw [h.markPaid nonce] at marked
      rw [queue_next, ← Except.ok.inj marked]
      exact h.pay nonce

/-- A step of a batch keeps what is settled. -/
theorem Goes.isSettled (goes : Goes m l b input exchanges l' course)
    (h : l.Backs (b.record :: b.rest)) {hash : String} (settled : l.IsSettled hash) :
    l'.IsSettled hash := by
  cases goes with
  | enters payment nonce _ phase marked =>
      rw [h.markPaid nonce] at marked
      rw [← Except.ok.inj marked]
      exact settled.settle _
  | _ => exact settled

end Batch

namespace Till

variable {α : Type}

theorem queue_of_running {till : Till α} {b : Batch} (running : till.batch = some b) :
    till.queue = b.record :: b.rest := by
  rw [queue, running]

theorem queue_of_batch {till : Till α} {course : Batch.Course}
    (batch : till.batch = course.batch?) : till.queue = course.queue := by
  rw [queue, batch]
  cases course <;> rfl

/-- Without a batch that is running, nothing goes on. -/
theorem step_of_idle [Reckoning α] (m : Paymaster α) (now : Instant) {till : Till α}
    (idle : till.batch = none) (input : Batch.Input) :
    till.step m now input = ⟨till, [], none⟩ ∧ till.exchanged m now input = [] := by
  have unchanged : till.step m now input = ⟨till, [], none⟩ := by rw [step, idle]
  exact ⟨unchanged, by simp [exchanged, heard, handed, unchanged, idle]⟩

end Till

namespace Trace

variable {α : Type} [Reckoning α] {m : Paymaster α} {t : Trace α}

theorem run_cons (m : Paymaster α) (t : Trace α) (move : Till.Move) (moves : List Till.Move) :
    t.run m (move :: moves) = (t.after m move).run m moves := rfl

/-- A batch that is due while another is running changes nothing. -/
theorem after_start_of_running {b : Batch} (running : t.till.batch = some b)
    (fault : Option StoreError) : t.after m (.start fault) = t := by
  simp [after, Till.start, running]

/-- A batch whose records cannot be read changes nothing. -/
theorem till_after_start_of_fault (idle : t.till.batch = none) (e : StoreError) :
    (t.after m (.start (some e))).till = t.till := by
  simp [after, Till.start, idle]

/-- A batch begins with the unpaid records. -/
theorem till_after_start_of_idle (idle : t.till.batch = none) :
    (t.after m (.start none)).till =
      (t.till.follow (Batch.begin m.dryRun t.till.ledger.unpaid)).till := by
  simp [after, Till.start, idle]

theorem after_proceed_of_idle (idle : t.till.batch = none) (now : Instant)
    (input : Batch.Input) : t.after m (.proceed now input) = t := by
  obtain ⟨unchanged, nothing⟩ := Till.step_of_idle m now idle input
  simp [after, unchanged, nothing]

end Trace

end RebateRelay
