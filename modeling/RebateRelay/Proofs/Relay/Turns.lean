import RebateRelay.Proofs.Relay.Queue
import RebateRelay.Proofs.Result

/-!
# The turns of a batch

A batch gives each unpaid record one turn, in the order of payment. What comes of a turn depends on
its record and on what is answered in it, and not on the turns before. Hence a batch is known by its
turns: they say what is exchanged, which payments the ledger gets, and the figures at the end.

A batch ends after the turn of its last record, or when it is cancelled before a turn. Either way
the ledger is the one from which it started, with the payments of its turns and with what was
inserted meanwhile.
-/

namespace RebateRelay

open Record

/-- The turn of a record in a batch, with the answers that are given if it comes to them. -/
structure Turn where
  record : Record
  /-- The submitter's answer. -/
  reply : Except ChainError UInt64
  /-- Why the store does not enter the payment. -/
  fault : Option StoreError

namespace Turn

variable {α : Type}

/-- The number of the payment if the record is paid: its payout can be worked out, the payout chain
has a client, its address can be read, the submitter takes the payment, and the store enters it. -/
def nonce? (m : Paymaster α) (t : Turn) : Option UInt64 :=
  match Payout.calculate t.record m.rates, m.clients.client m.chainId,
    Chain.parseAddress t.record.address, t.reply, t.fault with
  | .ok _, .ok _, .ok _, .ok nonce, none => some nonce
  | _, _, _, _, _ => none

/-- What the store answers when the payment is to be entered. -/
def entry (t : Turn) : Except StoreError Unit :=
  match t.fault with
  | some e => .error e
  | none => .ok ()

/-- What is exchanged in a turn. -/
def exchanges (m : Paymaster α) (t : Turn) : List Exchange :=
  match m.order t.record, t.reply with
  | .ok (.pay payment), .ok nonce =>
    [.token t.record true, .submit t.record payment, .answer t.record (.ok nonce),
      .entry t.record nonce t.entry]
  | .ok (.pay payment), .error e =>
    [.token t.record true, .submit t.record payment, .answer t.record (.error e)]
  | _, _ => [.token t.record true]

/-- The payment of a turn, by hash. -/
def payment (m : Paymaster α) (t : Turn) (hash : String) : Option UInt64 :=
  if hash = t.record.hash then t.nonce? m else none

/-- The payments of turns, by hash. -/
def payments (m : Paymaster α) (turns : List Turn) (hash : String) : Option UInt64 :=
  turns.findSome? fun t => t.payment m hash

/-- The figures of a batch after turns. -/
def summary (m : Paymaster α) (pending : Nat) (turns : List Turn) : BatchSummary where
  pending := pending
  paid := turns.countP fun t => (t.nonce? m).isSome
  failed := turns.countP fun t => (t.nonce? m).isNone

/-- The figures of a batch after one more turn. -/
def count (m : Paymaster α) (t : Turn) (s : BatchSummary) : BatchSummary :=
  match t.nonce? m with
  | some _ => { s with paid := s.paid + 1 }
  | none => { s with failed := s.failed + 1 }

variable (m : Paymaster α)

theorem payments_concat (turns : List Turn) (t : Turn) (hash : String) :
    payments m (turns ++ [t]) hash = (payments m turns hash).or (t.payment m hash) := by
  simp [payments, List.findSome?_append]

theorem mem_of_payment {t : Turn} {hash : String} {nonce : UInt64}
    (paid : t.payment m hash = some nonce) : hash = t.record.hash := by
  unfold payment at paid
  split at paid
  · assumption
  · cases paid

/-- Only records that had their turn are paid. -/
theorem mem_of_payments {turns : List Turn} {hash : String} {nonce : UInt64}
    (paid : payments m turns hash = some nonce) : hash ∈ hashes (turns.map record) := by
  obtain ⟨t, inside, paid⟩ := List.exists_of_findSome?_eq_some paid
  exact mem_of_payment m paid ▸ hash_mem_hashes (List.mem_map_of_mem inside)

theorem payments_eq_none {turns : List Turn} {hash : String}
    (absent : hash ∉ hashes (turns.map record)) : payments m turns hash = none := by
  by_contra paid
  obtain ⟨nonce, paid⟩ := Option.ne_none_iff_exists'.mp paid
  exact absent (mem_of_payments m paid)

theorem payment_of_some {t : Turn} {nonce : UInt64} (paid : t.nonce? m = some nonce) :
    t.payment m = Ledger.onlyPayment t.record.hash nonce := by
  funext hash
  simp only [payment, Ledger.onlyPayment, paid]

theorem payment_of_none {t : Turn} (failed : t.nonce? m = none) :
    t.payment m = fun _ => none := by
  funext hash
  simp only [payment, failed, ite_self]

theorem count_summary (pending : Nat) (turns : List Turn) (t : Turn) :
    t.count m (summary m pending turns) = summary m pending (turns ++ [t]) := by
  unfold count
  cases paid : t.nonce? m <;> simp [summary, paid]

/-- Every turn ends with a payment or with a failure. -/
theorem paid_add_failed (pending : Nat) (turns : List Turn) :
    (summary m pending turns).paid + (summary m pending turns).failed = turns.length := by
  have failed : (fun t : Turn => decide ¬(t.nonce? m).isSome = true) =
      fun t => (t.nonce? m).isNone := by
    funext t
    cases t.nonce? m <;> rfl
  rw [List.length_eq_countP_add_countP fun t : Turn => (t.nonce? m).isSome, failed, summary]

end Turn

namespace Paymaster

variable {α : Type} {m : Paymaster α} {r : Record}

/-- A payment is ordered when its three preparations succeed. -/
theorem order_of_prepared (paying : m.dryRun = false) {payout : Payout} {client : Chain.Client}
    {recipient : Chain.Address} (calculated : Payout.calculate r m.rates = .ok payout)
    (served : m.clients.client m.chainId = .ok client)
    (parsed : Chain.parseAddress r.address = .ok recipient) :
    m.order r = .ok (.pay ⟨r, payout, ⟨m.token, client⟩, recipient⟩) := by
  rw [order, mapError_eq_ok.mpr calculated, paying, mapError_eq_ok.mpr served,
    mapError_eq_ok.mpr parsed]
  rfl

/-- A payment is ordered only when its three preparations succeed, and it is made of them. -/
theorem prepared_of_order {payment : Payment} (order : m.order r = .ok (.pay payment)) :
    ∃ payout client recipient, Payout.calculate r m.rates = .ok payout ∧
      m.clients.client m.chainId = .ok client ∧ Chain.parseAddress r.address = .ok recipient ∧
      payment = ⟨r, payout, ⟨m.token, client⟩, recipient⟩ := by
  simp only [Paymaster.order, bind_eq_ok, mapError_eq_ok] at order
  obtain ⟨payout, calculated, order⟩ := order
  split at order
  · cases order
  · simp only [bind_eq_ok, mapError_eq_ok] at order
    obtain ⟨client, served, recipient, parsed, made⟩ := order
    cases made
    exact ⟨payout, client, recipient, calculated, served, parsed, rfl⟩

/-- Only a dry run simulates. -/
theorem order_ne_simulate (paying : m.dryRun = false) (payout : Payout) :
    m.order r ≠ .ok (.simulate payout) := by
  intro order
  simp only [Paymaster.order, paying, bind_eq_ok, mapError_eq_ok] at order
  obtain ⟨_, _, order⟩ := order
  simp only [Bool.false_eq_true, if_false, bind_eq_ok, mapError_eq_ok] at order
  obtain ⟨_, _, _, _, order⟩ := order
  cases order

end Paymaster

namespace Turn

variable {α : Type} {m : Paymaster α} {t : Turn}

/-- A turn that comes to a payment ends with it if the submitter takes it and the store enters it.
-/
theorem nonce?_of_pay {payment : Payment} (order : m.order t.record = .ok (.pay payment)) :
    t.nonce? m = match t.reply, t.fault with
      | .ok nonce, none => some nonce
      | _, _ => none := by
  obtain ⟨payout, client, recipient, calculated, served, parsed, -⟩ :=
    Paymaster.prepared_of_order order
  unfold nonce?
  rw [calculated, served, parsed]
  cases t.reply <;> cases t.fault <;> rfl

/-- A turn that does not come to a payment ends with none. -/
theorem nonce?_of_error (paying : m.dryRun = false) {e : RelayError}
    (order : m.order t.record = .error e) : t.nonce? m = none := by
  unfold nonce?
  split
  case h_1 calculated served parsed _ _ =>
    rw [Paymaster.order_of_prepared paying calculated served parsed] at order
    cases order
  case h_2 => rfl

end Turn

namespace Batch

variable {α : Type} {m : Paymaster α} {l l' : Ledger} {b : Batch} {input : Input}
variable {new : List Exchange} {course : Course}

/-- What has been exchanged so far in the turn of the current record. -/
def HasExchanged (m : Paymaster α) (b : Batch) (sofar : List Exchange) : Prop :=
  match b.phase with
  | .reserving | .waiting _ => sofar = []
  | .submitting payment =>
    m.order b.record = .ok (.pay payment) ∧
      sofar = [.token b.record true, .submit b.record payment]
  | .marking payment nonce =>
    m.order b.record = .ok (.pay payment) ∧
      sofar = [.token b.record true, .submit b.record payment, .answer b.record (.ok nonce)]

/-- How a step leads on: the turn goes on, or it is over, or the batch is cancelled before it. -/
inductive Leads (m : Paymaster α) (l : Ledger) (b : Batch) (input : Input)
    (exchanges : List Exchange) : Ledger → Course → Prop
  | on (b' : Batch) (record : b'.record = b.record) (rest : b'.rest = b.rest)
    (summary : b'.summary = b.summary) (exchanged : b'.HasExchanged m exchanges) :
    Leads m l b input exchanges l (.running b')
  | ends (t : Turn) (record : t.record = b.record) (exchanged : exchanges = t.exchanges m)
    (fault : ∀ e, t.fault = some e → input = .mark (some e)) :
    Leads m l b input exchanges (l.settle (t.payment m)) (next (t.count m b.summary) b.rest).1
  | cancelled (exchanged : exchanges = [.token b.record false]) :
    Leads m l b input exchanges l (.over (.error .cancelled))

theorem HasExchanged.of_isTaking {sofar : List Exchange} (exchanged : b.HasExchanged m sofar)
    (phase : b.IsTaking) : sofar = [] := by
  rcases phase with phase | ⟨wait, phase⟩ <;> simpa [HasExchanged, phase] using exchanged

/-- A turn that ends without a payment leads to the next one, and counts as a failure. -/
theorem Leads.failed {t : Turn} (record : t.record = b.record) {exchanges : List Exchange}
    (exchanged : exchanges = t.exchanges m)
    (fault : ∀ e, t.fault = some e → input = .mark (some e)) (unpaid : t.nonce? m = none) :
    Leads m l b input exchanges l
      (next { b.summary with failed := b.summary.failed + 1 } b.rest).1 := by
  have ends : Leads m l b input exchanges _ _ := .ends t record exchanged fault
  rwa [Turn.payment_of_none m unpaid, Ledger.settle_none, Turn.count, unpaid] at ends

theorem Goes.leads (goes : Goes m l b input new l' course) (paying : m.dryRun = false)
    (h : l.Backs (b.record :: b.rest)) {sofar : List Exchange}
    (exchanged : b.HasExchanged m sofar) : Leads m l b input (sofar ++ new) l' course := by
  cases goes with
  | waits wait phase =>
      refine .on _ rfl rfl rfl ?_
      rw [exchanged.of_isTaking (Or.inl phase)]
      rfl
  | submits payment phase order =>
      refine .on _ rfl rfl rfl ?_
      rw [exchanged.of_isTaking phase]
      exact ⟨order, rfl⟩
  | simulates payout phase order => exact absurd order (Paymaster.order_ne_simulate paying payout)
  | rejects e phase order =>
      rw [exchanged.of_isTaking phase]
      refine .failed (t := ⟨b.record, .ok 0, none⟩) rfl ?_ (by simp) ?_
      · simp [Turn.exchanges, order]
      · exact Turn.nonce?_of_error paying order
  | cancels phase =>
      rw [exchanged.of_isTaking phase]
      exact .cancelled rfl
  | accepted payment nonce phase =>
      simp only [HasExchanged, phase] at exchanged
      refine .on _ rfl rfl rfl ⟨exchanged.1, ?_⟩
      rw [exchanged.2]
      rfl
  | refused payment e phase =>
      simp only [HasExchanged, phase] at exchanged
      obtain ⟨order, rfl⟩ := exchanged
      refine .failed (t := ⟨b.record, .error e, none⟩) rfl ?_ (by simp) ?_
      · simp [Turn.exchanges, order]
      · exact Turn.nonce?_of_pay (t := ⟨b.record, .error e, none⟩) order
  | enters payment nonce _ phase marked =>
      simp only [HasExchanged, phase] at exchanged
      obtain ⟨order, rfl⟩ := exchanged
      let t : Turn := ⟨b.record, .ok nonce, none⟩
      have paid : t.nonce? m = some nonce := Turn.nonce?_of_pay (t := t) order
      have ends : Leads m l b (.mark none) _ _ _ := .ends t rfl rfl (by simp [t])
      rw [Turn.payment_of_some m paid, Turn.count, paid] at ends
      rw [h.markPaid nonce] at marked
      rw [← Except.ok.inj marked]
      simpa [Turn.exchanges, Turn.entry, order, t] using ends
  | leaves payment nonce fault e phase why =>
      simp only [HasExchanged, phase] at exchanged
      obtain ⟨order, rfl⟩ := exchanged
      -- The ledger owes the record, so the refusal has not come from there.
      rcases why with rfl | ⟨_, refused⟩
      · refine .failed (t := ⟨b.record, .ok nonce, some e⟩) rfl ?_ (by simp) ?_
        · simp [Turn.exchanges, Turn.entry, order]
        · exact Turn.nonce?_of_pay (t := ⟨b.record, .ok nonce, some e⟩) order
      · rw [h.markPaid nonce] at refused
        cases refused
  | ignores other =>
      rw [List.append_nil]
      exact .on b rfl rfl rfl exchanged

end Batch

end RebateRelay
