import RebateRelay.Proofs.Relay.BatchEffect

/-!
# Dry runs

A dry run goes through the records like any batch, and takes a token for each. It comes to no
payment: no client is looked up, nothing is submitted and nothing is entered, so that all it leaves
are its figures and what it reports.

What it reports says what a batch that pays would do with the same records at the same rates. A
record is submitted only if the dry run has worked out its payout, and then with that payout; a
record that fails in the dry run fails in the other batch too, in the same words.
-/

namespace RebateRelay

/-- The record of an exchange that belongs to a payment. -/
def Exchange.paying? : Exchange → Option Record
  | .token .. => none
  | .submit r _ | .answer r _ | .entry r .. => some r

/-- A payment is ordered for a record, and an exchange submits no other for it. -/
inductive Exchange.IsOrdered {α : Type} (m : Paymaster α) (x : Exchange) (r : Record) : Prop
  | intro (payment : Payment) (order : m.order r = .ok (.pay payment))
    (only : ∀ payment', x = .submit r payment' → payment' = payment)

namespace Paymaster

variable {α : Type} {m : Paymaster α} {r : Record}

/-- What there is to report about a record when its token is there, if nothing is submitted. -/
def report (m : Paymaster α) (r : Record) : List Event :=
  match m.order r with
  | .error e => [.paymentFailed r.hash e.stage e.message]
  | .ok (.simulate payout) =>
    [.paymentSimulated r.hash r.address payout.amount payout.rebateUsd.text payout.rebateBps]
  | .ok (.pay _) => []

/-- In a dry run the payout is all. -/
theorem order_of_dryRun (dry : m.dryRun = true) :
    m.order r = ((Payout.calculate r m.rates).mapError .rebate).map .simulate := by
  rw [order, dry]
  cases Payout.calculate r m.rates <;> rfl

theorem order_ne_pay (dry : m.dryRun = true) (payment : Payment) :
    m.order r ≠ .ok (.pay payment) := by
  rw [order_of_dryRun dry]
  cases Payout.calculate r m.rates <;> nofun

/-- No payout, no order: the reason is the same whether it is a dry run or not. -/
theorem order_of_calculate_error {e : RebateError}
    (failed : Payout.calculate r m.rates = .error e) : m.order r = .error (.rebate e) := by
  rw [order, failed]
  rfl

theorem report_of_dryRun (dry : m.dryRun = true) {payout : Payout}
    (calculated : Payout.calculate r m.rates = .ok payout) :
    m.report r = [.paymentSimulated r.hash r.address payout.amount payout.rebateUsd.text
      payout.rebateBps] := by
  rw [report, order_of_dryRun dry, calculated]
  rfl

theorem report_of_calculate_error {e : RebateError}
    (failed : Payout.calculate r m.rates = .error e) :
    m.report r =
      [.paymentFailed r.hash (RelayError.rebate e).stage (RelayError.rebate e).message] := by
  rw [report, order_of_calculate_error failed]

/-- A dry run that fails at a record has not worked out its payout. -/
theorem calculate_of_failed_mem_report (dry : m.dryRun = true) {hash stage message : String}
    (failed : .paymentFailed hash stage message ∈ m.report r) :
    r.hash = hash ∧ ∃ e, Payout.calculate r m.rates = .error e ∧
      (RelayError.rebate e).stage = stage ∧ (RelayError.rebate e).message = message := by
  cases calculated : Payout.calculate r m.rates with
  | ok payout => simp [report_of_dryRun dry calculated] at failed
  | error e =>
      rw [report_of_calculate_error calculated, List.mem_singleton] at failed
      cases failed
      exact ⟨rfl, e, rfl, rfl, rfl⟩

theorem order_with_clients (dry : m.dryRun = true) (clients : Chain.ClientFactory) :
    { m with clients }.order r = m.order r :=
  (order_of_dryRun (m := { m with clients }) dry).trans (order_of_dryRun dry).symm

end Paymaster

/-- In the figures of a dry run nothing is paid, and so many records are left. -/
def BatchSummary.IsDry (s : BatchSummary) (left : Nat) : Prop :=
  s.paid = 0 ∧ s.pending = s.simulated + s.failed + left

namespace Batch

variable {α : Type} {m : Paymaster α} {l l' : Ledger} {b : Batch} {input : Input}
variable {exchanges : List Exchange} {course : Course}

/-- How a dry run stands. It fails only if it is cancelled or if the records cannot be read. -/
def Course.IsDry : Course → Prop
  | .running b => b.IsTaking ∧ b.summary.IsDry (b.rest.length + 1)
  | .over (.ok summary) => summary.IsDry 0
  | .over (.error e) => e = .cancelled ∨ ∃ fault, e = .store fault

theorem isDry_next {summary : BatchSummary} {rest : List Record} (h : summary.IsDry rest.length) :
    (next summary rest).1.IsDry := by
  cases rest with
  | nil => exact h
  | cons r rest => exact ⟨Or.inl rfl, h⟩

theorem isDry_begin (dryRun : Bool) (records : List Record) : (begin dryRun records).1.IsDry := by
  cases records with
  | nil => exact ⟨rfl, rfl⟩
  | cons r rest => exact ⟨Or.inl rfl, rfl, (Nat.zero_add _).symm⟩

/-- A step of a dry run leads to a dry run, leaves the ledger and belongs to no payment. -/
theorem Goes.isDry (goes : Goes m l b input exchanges l' course) (dry : m.dryRun = true)
    (h : (Course.running b).IsDry) :
    course.IsDry ∧ l' = l ∧ ∀ x ∈ exchanges, x.paying? = none := by
  obtain ⟨taking, paid, left⟩ := h
  cases goes with
  | waits wait phase => exact ⟨⟨Or.inr ⟨wait, rfl⟩, paid, left⟩, rfl, List.forall_mem_nil _⟩
  | submits payment _ order => exact absurd order (m.order_ne_pay dry payment)
  | simulates =>
      refine ⟨isDry_next ⟨paid, ?_⟩, rfl, by simp [Exchange.paying?]⟩
      simp only [left]
      omega
  | rejects =>
      refine ⟨isDry_next ⟨paid, ?_⟩, rfl, by simp [Exchange.paying?]⟩
      simp only [left]
      omega
  | cancels => exact ⟨Or.inl rfl, rfl, by simp [Exchange.paying?]⟩
  | accepted _ _ phase | refused _ _ phase | enters _ _ _ phase | leaves _ _ _ _ phase =>
      rcases taking with other | ⟨_, other⟩ <;> cases phase.symm.trans other
  | ignores => exact ⟨⟨taking, paid, left⟩, rfl, List.forall_mem_nil _⟩

/-- A payment that is under way has been ordered. -/
def IsOrdered (m : Paymaster α) (b : Batch) : Prop :=
  match b.phase with
  | .reserving | .waiting _ => True
  | .submitting payment | .marking payment _ => m.order b.record = .ok (.pay payment)

/-- An exchange that belongs to a payment belongs to the one that has been ordered. -/
theorem Goes.order_of_paying (goes : Goes m l b input exchanges l' course)
    (ordered : b.IsOrdered m) {x : Exchange} (inside : x ∈ exchanges) {r : Record}
    (paying : x.paying? = some r) : r = b.record ∧ x.IsOrdered m r := by
  cases goes with
  | waits | ignores => cases inside
  | simulates | rejects | cancels =>
      rw [List.mem_singleton.mp inside] at paying
      cases paying
  | submits payment _ order =>
      rcases List.mem_pair.mp inside with rfl | rfl
      · cases paying
      · cases paying
        refine ⟨rfl, payment, order, fun payment' same => ?_⟩
        cases same
        rfl
  | accepted payment _ phase | refused payment _ phase | enters payment _ _ phase
  | leaves payment _ _ _ phase =>
      rw [IsOrdered, phase] at ordered
      obtain rfl := List.mem_singleton.mp inside
      cases paying
      exact ⟨rfl, payment, ordered, fun _ same => by cases same⟩

/-- What a step reports: nothing while the turn goes on; at its end what there is to report about
the record, or more if it came to a payment; or else that the batch was cancelled. -/
inductive Tells (m : Paymaster α) (b : Batch) : Course → List Event → Prop
  | on (b' : Batch) (record : b'.record = b.record) (rest : b'.rest = b.rest)
    (ordered : b'.IsOrdered m) : Tells m b (.running b') []
  | ends (summary : BatchSummary) (events : List Event)
    (told : events = m.report b.record ∨ ∃ payment, m.order b.record = .ok (.pay payment)) :
    Tells m b (next summary b.rest).1 (events ++ (next summary b.rest).2)
  | cancelled (paid remaining : Nat) :
    Tells m b (.over (.error .cancelled)) [.batchCancelled paid remaining]

theorem tells_fail {payment : Payment} (order : m.order b.record = .ok (.pay payment))
    (e : RelayError) : b.Tells m (b.fail e).1 (b.fail e).2 :=
  .ends _ [.paymentFailed b.record.hash e.stage e.message] (Or.inr ⟨payment, order⟩)

theorem tells_granted (b : Batch) : b.Tells m (b.granted m).1 (b.granted m).2 := by
  unfold granted
  cases order : m.order b.record with
  | error e => exact .ends _ [_] (Or.inl (by rw [Paymaster.report, order]))
  | ok o =>
      cases o with
      | simulate payout => exact .ends _ [_] (Or.inl (by rw [Paymaster.report, order]))
      | pay payment => exact .on _ rfl rfl order

end Batch

namespace Till

variable {α : Type}

@[simp] theorem follow_events (till : Till α) (c : Batch.Course × List Event) :
    (till.follow c).events = c.2 := by
  obtain ⟨_ | _, _⟩ := c <;> rfl

theorem tells_follow {m : Paymaster α} {b : Batch} (till : Till α) {c : Batch.Course × List Event}
    (tells : b.Tells m c.1 c.2) :
    ∃ course, (till.follow c).till.batch = course.batch? ∧
      (till.follow c).result = course.result? ∧ b.Tells m course (till.follow c).events :=
  ⟨c.1, till.follow_batch c, till.follow_result c, (till.follow_events c).symm ▸ tells⟩

theorem tells_enter {m : Paymaster α} (till : Till α) {b : Batch} {payment : Payment}
    (order : m.order b.record = .ok (.pay payment)) (nonce : UInt64) (fault : Option StoreError) :
    ∃ course, (till.enter b payment nonce fault).till.batch = course.batch? ∧
      (till.enter b payment nonce fault).result = course.result? ∧
      b.Tells m course (till.enter b payment nonce fault).events := by
  have left (e : StoreError) :
      b.Tells m (b.unmarked payment nonce e).1 (b.unmarked payment nonce e).2 :=
    .ends _ [_, _] (Or.inr ⟨payment, order⟩)
  unfold enter
  cases fault with
  | some e => exact tells_follow _ (left e)
  | none =>
      cases till.ledger.markPaid b.record.hash nonce with
      | error e => exact tells_follow _ (left e)
      | ok l => exact tells_follow _ (.ends _ [_] (Or.inr ⟨payment, order⟩))

variable [Reckoning α]

/-- What a running batch says in a step. -/
theorem tells_step (m : Paymaster α) (now : Instant) {till : Till α} {b : Batch}
    (running : till.batch = some b) (ordered : b.IsOrdered m) (input : Batch.Input) :
    ∃ course, (till.step m now input).till.batch = course.batch? ∧
      (till.step m now input).result = course.result? ∧
      b.Tells m course (till.step m now input).events := by
  by_cases awaited : b.Awaits input
  case neg =>
    rw [(till.step_of_not_awaits m now running awaited).1]
    exact ⟨.running b, running, rfl, .on b rfl rfl ordered⟩
  obtain ⟨summary, record, rest, phase⟩ := b
  simp only [step, running]
  cases phase <;> cases input <;> simp only [Batch.Awaits] at awaited
  case reserving.token =>
    dsimp only [takeToken]
    split
    · exact tells_follow _ (Batch.tells_granted _)
    · exact ⟨.running _, rfl, rfl, .on _ rfl rfl trivial⟩
  case reserving.cancelled => exact tells_follow _ (.cancelled ..)
  case waiting.woken => exact tells_follow _ (Batch.tells_granted _)
  case waiting.cancelled => exact tells_follow _ (.cancelled ..)
  case submitting.submitted payment reply =>
    cases reply with
    | error e => exact tells_follow _ (Batch.tells_fail ordered _)
    | ok nonce => exact tells_follow _ (.on _ rfl rfl ordered)
  case marking.mark payment nonce fault => exact tells_enter _ ordered nonce fault

/-- A dry run has no use for clients. -/
theorem step_with_clients {m : Paymaster α} (dry : m.dryRun = true) (clients : Chain.ClientFactory)
    (now : Instant) (till : Till α) (input : Batch.Input) :
    till.step { m with clients } now input = till.step m now input := by
  have granted (b : Batch) : b.granted { m with clients } = b.granted m := by
    rw [Batch.granted, Batch.granted, Paymaster.order_with_clients dry]
  simp only [step, takeToken, granted]

/-- What is reported in a move. -/
def reports (m : Paymaster α) (till : Till α) : Move → List Event
  | .start fault => (till.start m fault).events
  | .proceed now input => (till.step m now input).events
  | .insert .. => []

end Till

namespace Trace

variable {α : Type} {m : Paymaster α} {t t' : Trace α}
variable {records passed : List Record} {events new : List Event}

/-- What has been reported of a batch over given records, and exchanged for its payments, when the
turns of some of the records are over. -/
structure Reported (m : Paymaster α) (records passed : List Record) (events : List Event)
    (t : Trace α) : Prop where
  running : ∀ b, t.till.batch = some b →
    b.IsOrdered m ∧ records = passed ++ b.record :: b.rest ∧ t.results = []
  /-- A batch that has not been cancelled has come to the end of the records. -/
  complete : ∀ summary, .ok summary ∈ t.results → records = passed
  turned : passed ⊆ records
  told : ∀ r ∈ passed, m.report r ⊆ events
  failures : ∀ hash stage message, .paymentFailed hash stage message ∈ events →
    ∃ r ∈ records, .paymentFailed hash stage message ∈ m.report r ∨
      ∃ payment, m.order r = .ok (.pay payment)
  paying : ∀ x ∈ t.exchanges, ∀ r, x.paying? = some r → r ∈ records ∧ x.IsOrdered m r

namespace Reported

/-- What is reported besides does not matter. -/
theorem quiet (h : Reported m records passed events t)
    (others : ∀ hash stage message, .paymentFailed hash stage message ∉ new) :
    Reported m records passed (events ++ new) t where
  running := h.running
  complete := h.complete
  turned := h.turned
  told r inside := List.subset_append_of_subset_left _ (h.told r inside)
  failures hash stage message inside :=
    h.failures hash stage message ((List.mem_append.mp inside).resolve_right (others _ _ _))
  paying := h.paying

/-- A batch goes on. -/
theorem after_tells (h : Reported m records passed events t) {b : Batch}
    (running : t.till.batch = some b) {course : Batch.Course} (tells : b.Tells m course new)
    (batch : t'.till.batch = course.batch?) (results : t'.results = course.result?.toList)
    (paying : ∀ x ∈ t'.exchanges,
      x ∈ t.exchanges ∨ ∀ r, x.paying? = some r → r = b.record ∧ x.IsOrdered m r) :
    ∃ passed', Reported m records passed' (events ++ new) t' := by
  obtain ⟨-, queue, -⟩ := h.running b running
  have current : b.record ∈ records := by simp [queue]
  have paying' : ∀ x ∈ t'.exchanges, ∀ r, x.paying? = some r → r ∈ records ∧ x.IsOrdered m r := by
    intro x inside r pays
    rcases paying x inside with before | now
    · exact h.paying x before r pays
    · obtain ⟨rfl, ordered⟩ := now r pays
      exact ⟨current, ordered⟩
  cases tells with
  | on b' record rest ordered =>
      refine ⟨passed, ?_, ?_, h.turned, ?_, ?_, paying'⟩
      · rintro _ same
        cases batch.symm.trans same
        exact ⟨ordered, by rw [record, rest, queue], results⟩
      · simp [results, Batch.Course.result?]
      · simpa using h.told
      · simpa using h.failures
  | ends summary told why =>
      have report : m.report b.record ⊆ told := by
        rcases why with rfl | ⟨payment, order⟩
        · exact List.Subset.refl _
        · simp [Paymaster.report, order]
      have turned : passed ++ [b.record] ⊆ records := by simp [h.turned, current]
      have told' : ∀ r ∈ passed ++ [b.record],
          m.report r ⊆ events ++ (told ++ (Batch.next summary b.rest).2) := by
        intro r inside
        rcases List.mem_append.mp inside with before | last
        · exact List.subset_append_of_subset_left _ (h.told r before)
        · rw [List.mem_singleton.mp last]
          exact List.subset_append_of_subset_right _ (List.subset_append_of_subset_left _ report)
      have quiet : ∀ hash stage message,
          .paymentFailed hash stage message ∉ (Batch.next summary b.rest).2 := by
        cases b.rest <;> simp [Batch.next]
      have failures : ∀ hash stage message,
          .paymentFailed hash stage message ∈ events ++ (told ++ (Batch.next summary b.rest).2) →
          ∃ r ∈ records, .paymentFailed hash stage message ∈ m.report r ∨
            ∃ payment, m.order r = .ok (.pay payment) := by
        intro hash stage message inside
        simp only [List.mem_append, quiet, or_false] at inside
        rcases inside with before | now
        · exact h.failures hash stage message before
        · rcases why with rfl | ordered
          · exact ⟨b.record, current, Or.inl now⟩
          · exact ⟨b.record, current, Or.inr ordered⟩
      refine ⟨passed ++ [b.record], ?running, ?complete, turned, told', failures, paying'⟩
      case running =>
        intro b' running'
        rw [batch] at running'
        cases rest : b.rest with
        | nil => simp [rest, Batch.next, Batch.Course.batch?] at running'
        | cons r rest' =>
            rw [rest] at running' results
            cases running'
            exact ⟨trivial, by simp [queue, rest], results⟩
      case complete =>
        intro summary' finished
        rw [results] at finished
        cases rest : b.rest with
        | nil => rw [queue, rest]
        | cons r rest' => simp [rest, Batch.next, Batch.Course.result?] at finished
  | cancelled paid remaining =>
      refine ⟨passed, ?_, ?_, h.turned, ?_, ?_, paying'⟩
      · simp [batch, Batch.Course.batch?]
      · simp [results, Batch.Course.result?]
      · exact fun r inside => List.subset_append_of_subset_left _ (h.told r inside)
      · simpa using h.failures

variable [Reckoning α]

/-- A move while the batch is running. -/
theorem after (h : Reported m records passed events t) (lasts : t.till.batch.isSome = true)
    (move : Till.Move) :
    ∃ passed', Reported m records passed' (events ++ t.till.reports m move) (t.after m move) := by
  obtain ⟨b, running⟩ := Option.isSome_iff_exists.mp lasts
  obtain ⟨ordered, queue, results⟩ := h.running b running
  cases move with
  | start fault =>
      rw [after_start_of_running running]
      exact ⟨passed, h.quiet (by simp [Till.reports, Till.start, running])⟩
  | insert records' fault =>
      have same : Reported m records passed (events ++ []) t := h.quiet (by simp)
      cases fault with
      | some e => exact ⟨passed, same⟩
      | none => exact ⟨passed, { same with }⟩
  | proceed now input =>
      obtain ⟨course, batch, result, tells⟩ := Till.tells_step m now running ordered input
      obtain ⟨_, goes, -⟩ := Till.goes_step m now running input
      refine h.after_tells running tells batch ?_ fun x inside => ?_
      · simp [Trace.after, results, result]
      · exact (List.mem_append.mp inside).imp_right fun new r => goes.order_of_paying ordered new

end Reported

/-- What holds in dry runs: the ledger is given, the figures are those of dry runs, and nothing was
exchanged for a payment. -/
structure Harmless (l : Ledger) (t : Trace α) : Prop where
  ledger : t.till.ledger = l
  running : ∀ b, t.till.batch = some b → (Batch.Course.running b).IsDry
  results : ∀ result ∈ t.results, (Batch.Course.over result).IsDry
  exchanges : ∀ x ∈ t.exchanges, x.paying? = none

theorem Harmless.of_course {l : Ledger} (h : Harmless l t) (course : Batch.Course)
    (dry : course.IsDry) {till : Till α} (ledger : till.ledger = l)
    (batch : till.batch = course.batch?) (new : List Exchange)
    (nothing : ∀ x ∈ new, x.paying? = none) :
    Harmless l ⟨till, t.exchanges ++ new, t.results ++ course.result?.toList⟩ where
  ledger := ledger
  running b running := by
    cases course <;> cases batch.symm.trans running
    exact dry
  results result inside := by
    rcases List.mem_append.mp inside with before | now
    · exact h.results result before
    · cases course <;> cases Option.mem_toList.mp now
      exact dry
  exchanges x inside := (List.mem_append.mp inside).elim (h.exchanges x) (nothing x)

/-- A batch that pays leaves a record unpaid whose payout cannot be worked out. -/
theorem Relays.owes_of_calculate_error {l : Ledger} {done : List Till.Move} {turns : List Turn}
    (h : Relays m l done turns t) {r : Record} (inside : r ∈ l.unpaid) {e : RebateError}
    (failed : Payout.calculate r m.rates = .error e) : t.till.ledger.Owes r.hash := by
  rw [h.ledger, Ledger.owes_settle]
  refine ⟨h.backs.owed r inside, ?_⟩
  by_contra paid
  obtain ⟨nonce, paid⟩ := Option.ne_none_iff_exists'.mp paid
  obtain ⟨turn, turned, paid⟩ := List.exists_of_findSome?_eq_some paid
  have same : r = turn.record :=
    List.inj_on_of_nodup_map h.backs.distinct inside
      (h.turned.subset (List.mem_map_of_mem turned)) (Turn.mem_of_payment m paid)
  rw [Turn.payment, if_pos (congrArg (·.hash) same), Turn.nonce?, ← same, failed] at paid
  cases paid

theorem harmless_ofHistory (operations : List Ledger.Operation) (bucket : Bucket α) :
    Harmless (.run .empty operations) (ofHistory operations bucket) where
  ledger := rfl
  running _ running := nomatch running
  results _ inside := nomatch inside
  exchanges _ inside := nomatch inside

section

variable {payer : Paymaster α} {told told' : List Event} {passed' : List Record}

/-- What a batch exchanges for a payment is what a dry run works out. -/
theorem Reported.faithful (h : Reported m records passed told t)
    (h' : Reported payer records passed' told' t') (dry : m.dryRun = true)
    (rates : payer.rates = m.rates) {x : Exchange} (inside : x ∈ t'.exchanges) {r : Record}
    (pays : x.paying? = some r) :
    ∃ payout, Payout.calculate r m.rates = .ok payout ∧
      (∀ payment, x = .submit r payment → payment.payout = payout) ∧
      ∀ summary, .ok summary ∈ t.results →
        .paymentSimulated r.hash r.address payout.amount payout.rebateUsd.text payout.rebateBps ∈
          told := by
  obtain ⟨unpaid, payment, order, only⟩ := h'.paying x inside r pays
  obtain ⟨payout, client, recipient, calculated, -, -, made⟩ := Paymaster.prepared_of_order order
  rw [rates] at calculated
  refine ⟨payout, calculated, fun payment' same => ?_, fun summary complete => ?_⟩
  · rw [only payment' same, made]
  · refine h.told r (h.complete summary complete ▸ unpaid) ?_
    rw [Paymaster.report_of_dryRun dry calculated]
    exact List.mem_singleton_self _

/-- A record that fails in a dry run is one whose payout cannot be worked out. -/
theorem Reported.exists_calculate_error (h : Reported m records passed told t)
    (dry : m.dryRun = true) {hash stage message : String}
    (failed : .paymentFailed hash stage message ∈ told) :
    ∃ r ∈ records, r.hash = hash ∧ ∃ e, Payout.calculate r m.rates = .error e ∧
      (RelayError.rebate e).stage = stage ∧ (RelayError.rebate e).message = message := by
  obtain ⟨r, inside, failed | ⟨payment, order⟩⟩ := h.failures hash stage message failed
  · exact ⟨r, inside, Paymaster.calculate_of_failed_mem_report dry failed⟩
  · exact absurd order (m.order_ne_pay dry payment)

/-- Nothing is exchanged for the payment of a record whose payout cannot be worked out. -/
theorem Reported.hash_ne_of_calculate_error (h : Reported payer records passed told t)
    (distinct : (Record.hashes records).Nodup) {r : Record} (unpaid : r ∈ records) {e : RebateError}
    (failed : Payout.calculate r payer.rates = .error e) {x : Exchange} (inside : x ∈ t.exchanges)
    {r' : Record} (pays : x.paying? = some r') : r'.hash ≠ r.hash := by
  intro same
  obtain ⟨unpaid', payment, order, -⟩ := h.paying x inside r' pays
  rw [List.inj_on_of_nodup_map distinct unpaid' unpaid same,
    Paymaster.order_of_calculate_error failed] at order
  cases order

end

variable [Reckoning α]

/-- What is reported in moves, one after the other. -/
def reports (m : Paymaster α) : Trace α → List Till.Move → List Event
  | _, [] => []
  | t, move :: moves => t.till.reports m move ++ reports m (t.after m move) moves

theorem Reported.run (h : Reported m records passed events t) {moves : List Till.Move}
    (lasts : t.Lasts m moves) :
    ∃ passed', Reported m records passed' (events ++ t.reports m moves) (t.run m moves) := by
  induction moves generalizing passed events t with
  | nil => exact ⟨passed, by rwa [reports, List.append_nil]⟩
  | cons move moves ih =>
      obtain ⟨passed', h'⟩ := h.after lasts.1 move
      rw [reports, ← List.append_assoc, run_cons]
      exact ih h' lasts.2

/-- A batch begins with no turn over. -/
theorem reported_start (idle : t.till.batch = none) (exchanges : t.exchanges = [])
    (results : t.results = []) :
    Reported m t.till.ledger.unpaid [] (t.till.reports m (.start none))
      (t.after m (.start none)) := by
  have events : t.till.reports m (.start none) =
      (Batch.begin m.dryRun t.till.ledger.unpaid).2 := by
    simp [Till.reports, Till.start, idle]
  have batch : (t.after m (.start none)).till.batch =
      (Batch.begin m.dryRun t.till.ledger.unpaid).1.batch? := by
    rw [till_after_start_of_idle idle, Till.follow_batch]
  have results' : (t.after m (.start none)).results =
      (Batch.begin m.dryRun t.till.ledger.unpaid).1.result?.toList := by
    simp [Trace.after, Till.start, idle, results]
  have none : ∀ x, x ∉ (t.after m (.start none)).exchanges := by
    simp [Trace.after, exchanges]
  rw [events]
  cases unpaid : t.till.ledger.unpaid with
  | nil =>
      rw [unpaid] at batch
      refine ⟨fun b running => ?_, fun _ _ => rfl, List.nil_subset _, List.forall_mem_nil _,
        by simp [Batch.begin], fun x inside => absurd inside (none x)⟩
      cases batch.symm.trans running
  | cons r rest =>
      rw [unpaid] at batch results'
      refine ⟨fun b running => ?_, fun summary finished => ?_, List.nil_subset _,
        List.forall_mem_nil _, by simp [Batch.begin], fun x inside => absurd inside (none x)⟩
      · cases batch.symm.trans running
        exact ⟨trivial, rfl, results'⟩
      · rw [results'] at finished
        cases finished

theorem Harmless.after {l : Ledger} (h : Harmless l t) (dry : m.dryRun = true) (move : Till.Move) :
    Harmless (l.run move.operations) (t.after m move) := by
  cases move with
  | insert records fault =>
      cases fault with
      | some e => exact h
      | none => exact { h with ledger := congrArg (fun l => (Ledger.insert l records).1) h.ledger }
  | start fault =>
      cases batch : t.till.batch with
      | some b => rwa [after_start_of_running batch]
      | none =>
          change Harmless l _
          cases fault with
          | some e =>
              have refused := h.of_course (.over (.error (.store e))) (Or.inr ⟨e, rfl⟩) h.ledger
                batch [] (List.forall_mem_nil _)
              simpa [Trace.after, Till.start, batch, Batch.Course.result?] using refused
          | none =>
              have begun := h.of_course _ (Batch.isDry_begin m.dryRun t.till.ledger.unpaid)
                ((t.till.follow_ledger _).trans h.ledger) (t.till.follow_batch _) []
                  (List.forall_mem_nil _)
              simpa [Trace.after, Till.start, batch] using begun
  | proceed now input =>
      cases batch : t.till.batch with
      | none => rwa [after_proceed_of_idle batch]
      | some b =>
          obtain ⟨course, goes, next, result⟩ := Till.goes_step m now batch input
          obtain ⟨isDry, same, nothing⟩ := goes.isDry dry (h.running b batch)
          simp only [Trace.after, result]
          exact h.of_course course isDry (same.trans h.ledger) next _ nothing

theorem Harmless.run {l : Ledger} (h : Harmless l t) (dry : m.dryRun = true)
    (moves : List Till.Move) :
    Harmless (l.run (moves.flatMap Till.Move.operations)) (t.run m moves) := by
  induction moves generalizing l t with
  | nil => exact h
  | cons move moves ih =>
      rw [List.flatMap_cons, Ledger.run_append]
      exact ih (h.after dry move)

theorem after_with_clients (dry : m.dryRun = true) (clients : Chain.ClientFactory) (t : Trace α)
    (move : Till.Move) :
    t.after { m with clients } move = t.after m move ∧
      t.till.reports { m with clients } move = t.till.reports m move := by
  cases move with
  | start fault => exact ⟨rfl, rfl⟩
  | insert records fault => cases fault <;> exact ⟨rfl, rfl⟩
  | proceed now input =>
      have step := t.till.step_with_clients dry clients now input
      have heard : t.till.heard { m with clients } now input = t.till.heard m now input := rfl
      simp only [Trace.after, Till.reports, Till.exchanged, step, heard, and_self]

/-- A dry run takes its course, and is reported, whatever the clients are. -/
theorem run_with_clients (dry : m.dryRun = true) (clients : Chain.ClientFactory) (t : Trace α)
    (moves : List Till.Move) :
    t.run { m with clients } moves = t.run m moves ∧
      t.reports { m with clients } moves = t.reports m moves := by
  induction moves generalizing t with
  | nil => exact ⟨rfl, rfl⟩
  | cons move moves ih =>
      obtain ⟨after, now⟩ := t.after_with_clients dry clients move
      obtain ⟨run, later⟩ := ih (t.after m move)
      simp only [run_cons, reports, after, now, run, later, and_self]

/-- What a batch over the unpaid records of a ledger has reported. -/
theorem exists_reported (operations : List Ledger.Operation) (bucket : Bucket α)
    {moves : List Till.Move}
    (lasts : ((ofHistory operations bucket).after m (.start none)).Lasts m moves) :
    ∃ passed, Reported m (Ledger.run .empty operations).unpaid passed
      ((ofHistory operations bucket).reports m (.start none :: moves))
      ((ofHistory operations bucket).run m (.start none :: moves)) := by
  have start := reported_start (m := m) (t := ofHistory operations bucket) rfl rfl rfl
  rw [reports, run_cons]
  exact start.run lasts

/-- Dry runs are harmless: they exchange nothing for a payment, leave the ledger as insertions make
it, pay nothing and account for all records, and clients make no difference to them.

A dry run is faithful to a batch that pays from the same ledger at the same rates, whatever the
submitter and the store answer there and whatever else the two differ in. All that is exchanged
there for a payment concerns a record whose payout can be worked out; it is that payout that is
submitted, and the dry run, once it is complete, has reported it. Of a record that fails in the dry
run nothing is submitted there. It stays unpaid, and once that batch is complete it has reported the
record as failed in the same words. -/
theorem dry_run_harmless_and_faithful (m : Paymaster α) (dry : m.dryRun = true)
    (operations : List Ledger.Operation) (bucket : Bucket α) :
    let start := ofHistory operations bucket
    (∀ moves,
      let t := start.run m moves
      (∀ x ∈ t.exchanges, x.paying? = none) ∧
      t.till.ledger = .run .empty (operations ++ moves.flatMap Till.Move.operations) ∧
      (∀ result ∈ t.results,
        (∃ summary, result = .ok summary ∧ summary.paid = 0 ∧
          summary.pending = summary.simulated + summary.failed) ∨
        result = .error .cancelled ∨ ∃ fault, result = .error (.store fault)) ∧
      ∀ clients, start.run { m with clients } moves = t ∧
        start.reports { m with clients } moves = start.reports m moves) ∧
    ∀ (payer : Paymaster α) (bucket' : Bucket α) (moves moves' : List Till.Move),
      let start' := ofHistory operations bucket'
      payer.dryRun = false → payer.rates = m.rates →
      (start.after m (.start none)).Lasts m moves →
      (start'.after payer (.start none)).Lasts payer moves' →
      let told := start.reports m (.start none :: moves)
      let told' := start'.reports payer (.start none :: moves')
      let t := start.run m (.start none :: moves)
      let t' := start'.run payer (.start none :: moves')
      (∀ x ∈ t'.exchanges, ∀ r, x.paying? = some r → ∃ payout,
        Payout.calculate r m.rates = .ok payout ∧
        (∀ payment, x = .submit r payment → payment.payout = payout) ∧
        ∀ summary, .ok summary ∈ t.results →
          .paymentSimulated r.hash r.address payout.amount payout.rebateUsd.text payout.rebateBps ∈
            told) ∧
      ∀ hash stage message, .paymentFailed hash stage message ∈ told →
        (∀ x ∈ t'.exchanges, ∀ r, x.paying? = some r → r.hash ≠ hash) ∧
        t'.till.ledger.Owes hash ∧
        ∀ summary, .ok summary ∈ t'.results → .paymentFailed hash stage message ∈ told' := by
  refine ⟨fun moves => ?harmless, fun payer bucket' moves moves' => ?faithful⟩
  case harmless =>
    have harmless := (harmless_ofHistory operations bucket).run dry moves
    rw [← Ledger.run_append] at harmless
    refine ⟨harmless.exchanges, harmless.ledger, fun result inside => ?_,
      fun clients => run_with_clients dry clients _ moves⟩
    have isDry := harmless.results result inside
    cases result with
    | ok summary => exact Or.inl ⟨summary, rfl, isDry⟩
    | error e => exact Or.inr (isDry.imp (congrArg _) fun ⟨fault, same⟩ => ⟨fault, congrArg _ same⟩)
  case faithful =>
    intro start' paying rates lasts lasts' told told' t t'
    obtain ⟨passed, reported⟩ := exists_reported operations bucket lasts
    obtain ⟨passed', reported'⟩ := exists_reported operations bucket' lasts'
    refine ⟨fun x inside r => reported.faithful reported' dry rates inside,
      fun hash stage message failed => ?_⟩
    obtain ⟨r, unpaid, rfl, e, reason, rfl, rfl⟩ := reported.exists_calculate_error dry failed
    rw [← rates] at reason
    have distinct := (Ledger.indexed_run operations).nodup_unpaid
    have begun := relays_start (m := payer) (t := ofHistory operations bucket')
      (Ledger.indexed_run operations) rfl rfl rfl
    obtain ⟨turns, relays⟩ := begun.run paying lasts'
    refine ⟨fun x inside r' => reported'.hash_ne_of_calculate_error distinct unpaid reason inside,
      relays.owes_of_calculate_error unpaid reason, fun summary complete => ?_⟩
    have queue := reported'.complete summary complete
    refine reported'.told r (queue ▸ unpaid) ?_
    rw [Paymaster.report_of_calculate_error reason]
    exact List.mem_singleton_self _

/-- A record whose direction is not known and one that can be paid, in a dry run and in a batch
whose payment the submitter refuses. -/
theorem dry_run_harmless_and_faithful_of_bad_and_good :
    let payer := Paymaster.sample
    let m := { payer with dryRun := true }
    let bad : Record := { Record.sample "0x01" 1000 with direction := "SOL" }
    let good := Record.sample "0x02" 1000
    let start := ofHistory [.insert [bad, good]] (payer.limiter.full .zero)
    let moves : List Till.Move := [.proceed .zero .token, .proceed .zero .token]
    let moves' := moves ++ [.proceed .zero (.submitted (.error (.submit "refused")))]
    let told := start.reports m (.start none :: moves)
    let told' := start.reports payer (.start none :: moves')
    let reason : RelayError := .rebate (.unknownDirection "SOL")
    m.dryRun = true ∧ payer.dryRun = false ∧ payer.rates = m.rates ∧
    (start.after m (.start none)).Lasts m moves ∧
    (start.after payer (.start none)).Lasts payer moves' ∧
    (start.run m moves).till.ledger = .run .empty [.insert [bad, good]] ∧
    ∃ payment, .submit good payment ∈ (start.run payer (.start none :: moves')).exchanges ∧
      .paymentSimulated good.hash good.address payment.payout.amount payment.payout.rebateUsd.text
        payment.payout.rebateBps ∈ told ∧
      .paymentFailed bad.hash reason.stage reason.message ∈ told' := by
  intro payer m bad good start moves moves' told told' reason
  have unpaid : (Ledger.empty.run [.insert [bad, good]]).unpaid = [bad, good] := by
    have records : (Ledger.empty.run [.insert [bad, good]]).records.toList = [bad, good] :=
      (Ledger.indexed_empty.insert _).2
    rw [Ledger.unpaid, records]
    exact List.mergeSort_of_pairwise (by decide +kernel)
  have first : (payer.limiter.reserve (payer.limiter.full .zero) .zero).2 = .zero := by
    decide +kernel
  have second : (payer.limiter.reserve (payer.limiter.reserve (payer.limiter.full .zero) .zero).1
      .zero).2 = .zero := by
    decide +kernel
  have refused : payer.order bad = .error reason := by rfl
  have refused' : m.order bad = .error reason := by rfl
  obtain ⟨payment, ordered⟩ : ∃ payment, payer.order good = .ok (.pay payment) :=
    Paymaster.exists_order_sample
  obtain ⟨payout, -, -, calculated, -⟩ := Paymaster.prepared_of_order ordered
  have simulated : m.order good = .ok (.simulate payout) := by
    rw [Paymaster.order_of_dryRun rfl, calculated]
    rfl
  have lasts : (start.after m (.start none)).Lasts m moves := by
    simp [Lasts, moves, start, Trace.after, ofHistory, Till.start, unpaid, Batch.begin, Till.step,
      Till.takeToken, m, first, Batch.granted, refused', Batch.fail, Batch.next, Till.follow]
  have lasts' : (start.after payer (.start none)).Lasts payer moves' := by
    simp [Lasts, moves, moves', start, Trace.after, ofHistory, Till.start, unpaid, Batch.begin,
      Till.step, Till.takeToken, first, second, Batch.granted, refused, ordered, Batch.fail,
      Batch.next, Till.follow]
  obtain ⟨summary, complete⟩ :
      ∃ summary, .ok summary ∈ (start.run m (.start none :: moves)).results := by
    simp [Trace.run, moves, start, Trace.after, ofHistory, Till.start, unpaid, Batch.begin,
      Till.step, Till.takeToken, m, first, second, Batch.granted, refused', simulated, Batch.fail,
      Batch.next, Till.follow]
  obtain ⟨summary', complete'⟩ :
      ∃ summary, .ok summary ∈ (start.run payer (.start none :: moves')).results := by
    simp [Trace.run, moves, moves', start, Trace.after, ofHistory, Till.start, unpaid, Batch.begin,
      Till.step, Till.takeToken, first, second, Batch.granted, refused, ordered, Batch.fail,
      Batch.next, Batch.submitted, Till.follow]
  have submitted : .submit good payment ∈
      (start.run payer (.start none :: moves')).exchanges := by
    simp [Trace.run, moves, moves', start, Trace.after, ofHistory, Till.start, unpaid, Batch.begin,
      Till.step, Till.takeToken, first, second, Batch.granted, refused, ordered, Batch.fail,
      Batch.next, Batch.submitted, Till.follow, Till.exchanged, Till.heard, Till.handed,
      Batch.submission?]
  have failed : .paymentFailed bad.hash reason.stage reason.message ∈ told := by
    simp [told, reports, Till.reports, moves, start, Trace.after, ofHistory, Till.start, unpaid,
      Batch.begin, Till.step, Till.takeToken, m, first, second, Batch.granted, refused', simulated,
      Batch.fail, Batch.next, Till.follow]
  obtain ⟨harmless, faithful⟩ :=
    dry_run_harmless_and_faithful m rfl [.insert [bad, good]] (payer.limiter.full .zero)
  obtain ⟨pays, fails⟩ := faithful payer _ moves moves' rfl rfl lasts lasts'
  obtain ⟨payout, -, same, told⟩ := pays _ submitted good rfl
  obtain ⟨-, -, told'⟩ := fails _ _ _ failed
  rw [← same payment rfl] at told
  exact ⟨rfl, rfl, rfl, lasts, lasts', (harmless moves).2.1, payment, submitted,
    told summary complete, told' summary' complete'⟩

end Trace

end RebateRelay
