import RebateRelay.Proofs.Relay.Queue

/-!
# How often a rebate can be paid

A rebate is paid twice only if the ledger does not learn of the first payment. Along every trace
the payments that the submitter has taken for a hash are those that could not be entered, those
that were entered, and at most one that is being entered. The ledger enters a hash once, and from
then on it is settled: no batch has it in its queue again, and no payment for it is handed over.
-/

namespace RebateRelay

open Record

namespace Exchange

/-- A payment for a hash is handed to the submitter. -/
def submits (hash : String) : Exchange → Bool
  | submit record _ => record.hash == hash
  | _ => false

/-- The submitter has taken a payment for a hash. -/
def accepts (hash : String) : Exchange → Bool
  | answer record (.ok _) => record.hash == hash
  | _ => false

/-- The store has entered a payment for a hash. -/
def enters (hash : String) : Exchange → Bool
  | entry record _ (.ok _) => record.hash == hash
  | _ => false

/-- The store has failed to enter a payment for a hash. -/
def loses (hash : String) : Exchange → Bool
  | entry record _ (.error _) => record.hash == hash
  | _ => false

/-- The exchange is neither a payment taken nor an attempt to enter one. -/
def IsQuiet (x : Exchange) : Prop :=
  ∀ hash, x.accepts hash = false ∧ x.enters hash = false ∧ x.loses hash = false

@[simp] theorem isQuiet_token (r : Record) (granted : Bool) : (token r granted).IsQuiet :=
  fun _ => ⟨rfl, rfl, rfl⟩

@[simp] theorem isQuiet_submit (r : Record) (payment : Payment) : (submit r payment).IsQuiet :=
  fun _ => ⟨rfl, rfl, rfl⟩

@[simp] theorem isQuiet_refused (r : Record) (e : ChainError) :
    (answer r (.error e)).IsQuiet :=
  fun _ => ⟨rfl, rfl, rfl⟩

/-- How often a payment for a hash was taken and then could not be entered. -/
def lost (hash : String) (exchanges : List Exchange) : Nat :=
  (exchanges.zip exchanges.tail).countP fun pair => pair.1.accepts hash && pair.2.loses hash

theorem zip_tail_concat (xs : List Exchange) (x : Exchange) :
    (xs ++ [x]).zip (xs ++ [x]).tail = xs.zip xs.tail ++ (xs.getLast?.map (·, x)).toList := by
  induction xs with
  | nil => rfl
  | cons a xs ih =>
      cases xs with
      | nil => rfl
      | cons b xs =>
          simp only [List.cons_append, List.tail_cons, List.zip_cons_cons] at ih ⊢
          rw [ih, List.getLast?_cons_cons]

theorem lost_concat (hash : String) (xs : List Exchange) (x : Exchange) :
    lost hash (xs ++ [x]) =
      lost hash xs + (xs.getLast?.any (·.accepts hash) && x.loses hash).toNat := by
  rw [lost, zip_tail_concat, List.countP_append, lost]
  cases xs.getLast? with
  | none => rfl
  | some a => cases h : a.accepts hash && x.loses hash <;> simp [h]

theorem lost_append_of_quiet (hash : String) (xs : List Exchange) {ys : List Exchange}
    (quiet : ∀ y ∈ ys, y.IsQuiet) : lost hash (xs ++ ys) = lost hash xs := by
  induction ys generalizing xs with
  | nil => rw [List.append_nil]
  | cons y ys ih =>
      rw [List.forall_mem_cons] at quiet
      rw [List.append_cons, ih _ quiet.2, lost_concat, (quiet.1 hash).2.2, Bool.and_false,
        Bool.toNat_false, Nat.add_zero]

theorem lost_eq_zero {hash : String} {xs : List Exchange} (none : ∀ x ∈ xs, x.loses hash = false) :
    lost hash xs = 0 := by
  simp only [lost, List.countP_eq_zero]
  intro pair inside
  simp [none pair.2 (List.mem_of_mem_tail (List.of_mem_zip inside).2)]

theorem countP_of_quiet (hash : String) {ys : List Exchange} (quiet : ∀ y ∈ ys, y.IsQuiet) :
    ys.countP (accepts hash) = 0 ∧ ys.countP (enters hash) = 0 := by
  simp only [List.countP_eq_zero, Bool.not_eq_true]
  exact ⟨fun y inside => (quiet y inside hash).1, fun y inside => (quiet y inside hash).2.1⟩

/-- After a payment has been entered none is handed over for its hash. -/
def NotAgain (x y : Exchange) : Prop := ∀ hash, x.enters hash = true → y.submits hash = false

end Exchange

open Exchange

namespace Batch

variable {α : Type} {m : Paymaster α} {l l' : Ledger} {b : Batch} {input : Input}
variable {exchanges : List Exchange} {course : Course}

/-- The number of a payment that was taken and is being entered. -/
def marking? (b : Batch) : Option UInt64 :=
  match b.phase with
  | .marking _ nonce => some nonce
  | _ => none

theorem phase_of_next {summary : BatchSummary} {rest : List Record} {b : Batch}
    (running : (next summary rest).1.batch? = some b) : b.phase = .reserving := by
  cases rest <;> cases running
  rfl

theorem phase_of_begin {dryRun : Bool} {records : List Record} {b : Batch}
    (running : (begin dryRun records).1.batch? = some b) : b.phase = .reserving := by
  cases records <;> cases running
  rfl

/-- A payment for a hash was taken and is being entered. -/
def marks (batch : Option Batch) (hash : String) : Bool :=
  batch.any fun b => b.marking?.isSome && b.record.hash == hash

@[simp] theorem marks_next (summary : BatchSummary) (rest : List Record) (hash : String) :
    marks (next summary rest).1.batch? hash = false := by
  cases rest <;> rfl

@[simp] theorem marks_begin (dryRun : Bool) (records : List Record) (hash : String) :
    marks (begin dryRun records).1.batch? hash = false := by
  cases records <;> rfl

theorem marks_of_isTaking {b : Batch} (phase : b.IsTaking) (hash : String) :
    marks (some b) hash = false := by
  rcases phase with phase | ⟨wait, phase⟩ <;> simp [marks, marking?, phase]

theorem record_of_marks {batch : Option Batch} {hash : String} (marking : marks batch hash = true) :
    ∃ b, batch = some b ∧ b.record.hash = hash := by
  cases batch with
  | none => cases marking
  | some b => exact ⟨b, rfl, beq_iff_eq.mp (Bool.and_eq_true_iff.mp marking).2⟩

/-- What is handed over is owed. -/
theorem Goes.owes_of_submits (goes : Goes m l b input exchanges l' course)
    (h : l.Backs (b.record :: b.rest)) {hash : String} :
    ∀ y ∈ exchanges, y.submits hash = true → l.Owes hash := by
  cases goes with
  | submits payment phase order =>
      have owed := h.owed b.record List.mem_cons_self
      intro y inside submitted
      rcases List.mem_cons.mp inside with rfl | inside
      · cases submitted
      · rw [List.mem_singleton.mp inside] at submitted
        exact beq_iff_eq.mp submitted ▸ owed
  | _ => simp [Exchange.submits]

theorem Goes.pairwise_notAgain (goes : Goes m l b input exchanges l' course) :
    exchanges.Pairwise NotAgain := by
  cases goes <;> simp [NotAgain, Exchange.enters]

/-- A step enters one payment at most, and it settles a hash that was owed. -/
theorem Goes.enters_spec (goes : Goes m l b input exchanges l' course)
    (h : l.Backs (b.record :: b.rest)) (hash : String) :
    exchanges.countP (Exchange.enters hash) = 0 ∨
      exchanges.countP (Exchange.enters hash) = 1 ∧ l.Owes hash ∧ l'.IsSettled hash := by
  cases goes with
  | enters payment nonce _ phase marked =>
      by_cases same : b.record.hash = hash
      · have owed := h.owed b.record List.mem_cons_self
        rw [h.markPaid nonce] at marked
        rw [← Except.ok.inj marked, ← same]
        exact Or.inr ⟨by simp [Exchange.enters], owed, owed.isSettled_settle nonce⟩
      · exact Or.inl (by simp [Exchange.enters, same])
  | _ => exact Or.inl (by simp [Exchange.enters])

/-- A batch comes to enter a payment only by hearing that it was taken. -/
theorem Goes.marking_spec (goes : Goes m l b input exchanges l' course) {b' : Batch}
    (running : course.batch? = some b') {payment : Payment} {nonce : UInt64}
    (phase : b'.phase = .marking payment nonce) :
    exchanges = [.answer b'.record (.ok nonce)] ∨ exchanges = [] ∧ b' = b := by
  cases goes with
  | accepted payment' nonce' _ =>
      obtain rfl := Option.some.inj running
      cases phase
      exact Or.inl rfl
  | ignores other => exact Or.inr ⟨rfl, (Option.some.inj running).symm⟩
  | waits | submits =>
      obtain rfl := Option.some.inj running
      cases phase
  | cancels => cases running
  | simulates | rejects | refused | enters | leaves =>
      rw [phase_of_next running] at phase
      cases phase

/-- The payments taken for a hash are those that were lost, those that were entered, and the one
that is being entered. -/
def Balanced (batch : Option Batch) (hash : String) (xs : List Exchange) : Prop :=
  xs.countP (accepts hash) =
    lost hash xs + xs.countP (Exchange.enters hash) + (marks batch hash).toNat

theorem Balanced.append_of_quiet {before after : Option Batch} {hash : String}
    {xs ys : List Exchange} (h : Balanced before hash xs) (quiet : ∀ y ∈ ys, y.IsQuiet)
    (same : marks after hash = marks before hash) : Balanced after hash (xs ++ ys) := by
  obtain ⟨no_accepts, no_enters⟩ := countP_of_quiet hash quiet
  rw [Balanced, List.countP_append, List.countP_append, lost_append_of_quiet hash xs quiet,
    no_accepts, no_enters, same]
  exact h

/-- A step keeps the payments that were taken in balance. -/
theorem Goes.balanced (goes : Goes m l b input exchanges l' course) {xs : List Exchange}
    (last : ∀ payment nonce, b.phase = .marking payment nonce →
      xs.getLast? = some (.answer b.record (.ok nonce))) {hash : String}
    (before : Balanced (some b) hash xs) : Balanced course.batch? hash (xs ++ exchanges) := by
  cases goes with
  | waits wait phase =>
      refine before.append_of_quiet (by simp) ?_
      simp [marks, marking?, phase, Course.batch?]
  | submits payment phase order =>
      refine before.append_of_quiet (by simp) ?_
      rw [marks_of_isTaking phase]
      rfl
  | simulates payout phase order =>
      refine before.append_of_quiet (by simp) ?_
      rw [marks_of_isTaking phase, marks_next]
  | rejects e phase order =>
      refine before.append_of_quiet (by simp) ?_
      rw [marks_of_isTaking phase, marks_next]
  | cancels phase =>
      refine before.append_of_quiet (by simp) ?_
      rw [marks_of_isTaking phase]
      rfl
  | refused payment e phase =>
      refine before.append_of_quiet (by simp) ?_
      rw [marks_next]
      simp [marks, marking?, phase]
  | ignores other => exact before.append_of_quiet (by simp) rfl
  | accepted payment nonce phase =>
      -- The payment is taken, and is being entered from now on.
      have idle : marks (some b) hash = false := by simp [marks, marking?, phase]
      rw [Balanced, idle] at before
      rw [Balanced, lost_concat, List.countP_append, List.countP_append, before]
      cases same : b.record.hash == hash <;>
        simp [accepts, Exchange.enters, loses, marks, marking?, Course.batch?, same]
  | enters payment nonce _ phase marked =>
      have marking : marks (some b) hash = (b.record.hash == hash) := by
        simp [marks, marking?, phase]
      rw [Balanced, marking] at before
      rw [Balanced, lost_concat, List.countP_append, List.countP_append, before, marks_next]
      cases same : b.record.hash == hash <;>
        simp [accepts, Exchange.enters, loses, same]
      omega
  | leaves payment nonce fault e phase why =>
      -- What was heard last is that the submitter has taken this payment.
      have marking : marks (some b) hash = (b.record.hash == hash) := by
        simp [marks, marking?, phase]
      rw [Balanced, marking] at before
      rw [Balanced, lost_concat, last payment nonce phase, List.countP_append, List.countP_append,
        before, marks_next]
      cases same : b.record.hash == hash <;>
        simp [accepts, Exchange.enters, loses, same]
      omega

end Batch

namespace Till

variable {α : Type} {m : Paymaster α} {till : Till α} {exchanges : List Exchange}

/-- What holds of a till and of all that has been exchanged. The queue of the running batch is
owed; the payments taken are in balance; a payment is being entered right after it was taken; and
a hash is entered once, is settled then, and is not handed over again. -/
structure Accounted (till : Till α) (exchanges : List Exchange) : Prop where
  backs : till.ledger.Backs till.queue
  balance : ∀ hash, Batch.Balanced till.batch hash exchanges
  last : ∀ b payment nonce, till.batch = some b → b.phase = .marking payment nonce →
    exchanges.getLast? = some (.answer b.record (.ok nonce))
  settled : ∀ hash, 0 < exchanges.countP (Exchange.enters hash) → till.ledger.IsSettled hash
  once : ∀ hash, exchanges.countP (Exchange.enters hash) ≤ 1
  notAgain : exchanges.Pairwise NotAgain

/-- Before any batch there is nothing to account for. -/
theorem accounted_nil (indexed : till.ledger.Indexed) (idle : till.batch = none) :
    till.Accounted [] where
  backs := by
    rw [queue, idle]
    exact indexed.backs_nil
  balance hash := by simp [Batch.Balanced, lost, Batch.marks, idle]
  last := by simp [idle]
  settled := by simp
  once := by simp
  notAgain := .nil

theorem Accounted.backs_running (h : till.Accounted exchanges) {b : Batch}
    (running : till.batch = some b) : till.ledger.Backs (b.record :: b.rest) := by
  rw [← queue_of_running running]
  exact h.backs

/-- A step of the running batch keeps the account. -/
theorem Accounted.goes (h : till.Accounted exchanges) {b : Batch} (running : till.batch = some b)
    {input : Batch.Input} {new : List Exchange} {course : Batch.Course} {till' : Till α}
    (goes : Batch.Goes m till.ledger b input new till'.ledger course)
    (next : till'.batch = course.batch?) : till'.Accounted (exchanges ++ new) where
  backs := by
    rw [queue_of_batch next]
    exact goes.backs (h.backs_running running)
  balance hash := by
    rw [next]
    refine goes.balanced ?_ (running ▸ h.balance hash)
    intro payment nonce phase
    exact h.last b payment nonce running phase
  last b' payment nonce running' phase := by
    rw [next] at running'
    rcases goes.marking_spec running' phase with heard | ⟨nothing, same⟩
    · rw [heard]
      exact List.getLast?_concat
    · rw [nothing, List.append_nil]
      exact h.last b' payment nonce (same ▸ running) phase
  settled hash entered := by
    rw [List.countP_append] at entered
    rcases goes.enters_spec (h.backs_running running) hash with none | ⟨_, _, settled⟩
    · rw [none] at entered
      exact goes.isSettled (h.backs_running running) (h.settled hash entered)
    · exact settled
  once hash := by
    rw [List.countP_append]
    rcases goes.enters_spec (h.backs_running running) hash with none | ⟨one, owed, _⟩
    · rw [none]
      exact h.once hash
    · -- What is owed now has not been entered before.
      have first : exchanges.countP (Exchange.enters hash) = 0 := by
        by_contra entered
        exact (h.settled hash (Nat.pos_of_ne_zero entered)).2 owed
      omega
  notAgain := by
    rw [List.pairwise_append]
    refine ⟨h.notAgain, goes.pairwise_notAgain, ?_⟩
    intro x before y now hash entered
    by_contra submitted
    rw [Bool.not_eq_false] at submitted
    have settled := h.settled hash (List.countP_pos_iff.mpr ⟨x, before, entered⟩)
    exact settled.2 (goes.owes_of_submits (h.backs_running running) y now submitted)

/-- A batch that begins has taken no payment yet. -/
theorem Accounted.begin (h : till.Accounted exchanges) (idle : till.batch = none)
    (dryRun : Bool) : (till.follow (Batch.begin dryRun till.ledger.unpaid)).till.Accounted
      exchanges where
  backs := by
    rw [queue_of_batch (follow_batch _ _), Batch.queue_begin, follow_ledger]
    exact h.backs.indexed.backs_unpaid
  balance hash := by
    have before := h.balance hash
    rw [Batch.Balanced, idle] at before
    rwa [Batch.Balanced, follow_batch, Batch.marks_begin]
  last b payment nonce running phase := by
    rw [follow_batch] at running
    rw [Batch.phase_of_begin running] at phase
    cases phase
  settled hash entered := by
    rw [follow_ledger]
    exact h.settled hash entered
  once := h.once
  notAgain := h.notAgain

/-- Records that come in keep the account. -/
theorem Accounted.insert (h : till.Accounted exchanges) (records : List Record) :
    Accounted { till with ledger := (till.ledger.insert records).1 } exchanges where
  backs := h.backs.insert records
  balance := h.balance
  last := h.last
  settled hash entered := (h.settled hash entered).insert h.backs.indexed records
  once := h.once
  notAgain := h.notAgain

/-- The payments taken for a hash are those that were lost and one more at most. -/
theorem Accounted.accepts_le (h : till.Accounted exchanges) (hash : String) :
    exchanges.countP (accepts hash) ≤ 1 + lost hash exchanges := by
  have balance := h.balance hash
  rw [Batch.Balanced] at balance
  have once := h.once hash
  cases marking : Batch.marks till.batch hash with
  | false =>
      rw [marking, Bool.toNat_false] at balance
      omega
  | true =>
      -- A payment that is being entered is still owed, so none has been entered before it.
      obtain ⟨b, running, same⟩ := Batch.record_of_marks marking
      have owed : till.ledger.Owes hash :=
        same ▸ h.backs.owed b.record (by simp [queue_of_running running])
      have first : exchanges.countP (Exchange.enters hash) = 0 := by
        by_contra entered
        exact (h.settled hash (Nat.pos_of_ne_zero entered)).2 owed
      rw [marking, Bool.toNat_true, first] at balance
      omega

end Till

namespace Trace

variable {α : Type} [Reckoning α] {m : Paymaster α} {t : Trace α}

theorem accounted_after (h : t.till.Accounted t.exchanges) (move : Till.Move) :
    (t.after m move).till.Accounted (t.after m move).exchanges := by
  cases move with
  | start fault =>
      cases batch : t.till.batch with
      | some b => rwa [after_start_of_running batch]
      | none =>
          cases fault with
          | some e => rwa [till_after_start_of_fault batch]
          | none =>
              rw [till_after_start_of_idle batch]
              exact h.begin batch m.dryRun
  | proceed now input =>
      cases batch : t.till.batch with
      | none => rwa [after_proceed_of_idle batch]
      | some b =>
          obtain ⟨course, goes, next, _⟩ := Till.goes_step m now batch input
          exact h.goes batch goes next
  | insert records fault =>
      cases fault with
      | some e => exact h
      | none => exact h.insert records

theorem accounted_run (h : t.till.Accounted t.exchanges) (moves : List Till.Move) :
    (t.run m moves).till.Accounted (t.run m moves).exchanges := by
  induction moves generalizing t with
  | nil => exact h
  | cons move moves ih => exact ih (accounted_after h move)

/-- For each hash, the submitter takes at most one payment more than there are payments that it took
and the store then failed to enter. If the store enters them all it takes one payment at most. And
once a payment has been entered no other is handed over for its hash, whatever is inserted under
it. This holds along every trace of batches and inserts on a store with any history. -/
theorem accepts_le_one_add_lost (m : Paymaster α) (operations : List Ledger.Operation)
    (bucket : Bucket α) (moves : List Till.Move) :
    let exchanges := ((ofHistory operations bucket).run m moves).exchanges
    (∀ hash, exchanges.countP (accepts hash) ≤ 1 + lost hash exchanges) ∧
    ((∀ x ∈ exchanges, ∀ hash, x.loses hash = false) →
      ∀ hash, exchanges.countP (accepts hash) ≤ 1) ∧
    exchanges.Pairwise fun x y => ∀ hash, x.enters hash = true → y.submits hash = false := by
  intro exchanges
  have start : (ofHistory operations bucket).till.Accounted [] :=
    Till.accounted_nil (Ledger.indexed_run operations) rfl
  have account : ((ofHistory operations bucket).run m moves).till.Accounted exchanges :=
    accounted_run (t := ofHistory operations bucket) start moves
  refine ⟨account.accepts_le, ?_, account.notAgain⟩
  intro none_lost hash
  have bound := account.accepts_le hash
  rwa [lost_eq_zero fun x inside => none_lost x inside hash] at bound

end Trace

end RebateRelay
