import Mathlib.Data.List.Chain
import RebateRelay.Proofs.Relay.DoublePayment

/-!
# How a batch winds up

Once shutdown has been signalled, a running batch takes no token and hands nothing over. If its
record has been handed over already, it waits for the answer, enters a payment that was taken, and
is cancelled when the next record's turn comes. `Batch.Closes` lists the steps that are left then.

Whether or not shutdown has been signalled, a payment that was taken is entered next: nothing comes
between the answer of the submitter and the attempt to enter the payment.
-/

namespace RebateRelay

namespace Exchange

/-- A token is granted, or a payment is handed to the submitter. -/
def begins : Exchange → Bool
  | token _ granted => granted
  | submit .. => true
  | _ => false

/-- The submitter has answered. -/
def isAnswer : Exchange → Bool
  | answer .. => true
  | _ => false

/-- The store has been asked to enter a payment. -/
def isEntry : Exchange → Bool
  | entry .. => true
  | _ => false

/-- The record of a payment that was answered or entered. -/
def concluded? : Exchange → Option Record
  | answer record _ | entry record .. => some record
  | _ => none

/-- If the one is a payment that was taken, the other is the attempt to enter it. -/
def LeadsTo (x y : Exchange) : Prop :=
  ∀ r nonce, x = .answer r (.ok nonce) → ∃ result, y = .entry r nonce result

/-- Every payment that was taken is followed by the attempt to enter it. -/
def AllEntered (xs : List Exchange) : Prop :=
  ∀ before after r nonce, xs = before ++ .answer r (.ok nonce) :: after →
    ∃ result rest, after = .entry r nonce result :: rest

end Exchange

open Exchange

namespace Batch

/-- What a running batch hears of next, when the submitter answers and the store accepts or refuses
as given. The signal is seen by a batch that is about to take a token or waits for one. -/
def hears (stopped : Bool) (reply : Except ChainError UInt64) (fault : Option StoreError)
    (b : Batch) : Input :=
  match b.phase with
  | .reserving => if stopped then .cancelled else .token
  | .waiting _ => if stopped then .cancelled else .woken
  | .submitting _ => .submitted reply
  | .marking .. => .mark fault

/-- The payment of the current record has been handed over, and its turn is not over. -/
def IsOpen (b : Batch) : Prop :=
  match b.phase with
  | .submitting _ | .marking .. => True
  | _ => False

/-- The record whose payment has been handed over. -/
def openRecord? (batch : Option Batch) : Option Record :=
  batch.bind fun b =>
    match b.phase with
    | .submitting _ | .marking .. => some b.record
    | _ => none

/-- The answers that a batch waits for. -/
def answersLeft (batch : Option Batch) : Nat :=
  (batch.bind submission?).elim 0 fun _ => 1

/-- The payments that a batch may have to enter yet, if it takes no more tokens. -/
def entriesLeft (batch : Option Batch) : Nat := (openRecord? batch).elim 0 fun _ => 1

/-- The steps that a batch has left when shutdown has been signalled. -/
def stepsLeft (b : Batch) : Nat :=
  match b.phase with
  | .reserving | .waiting _ => 1
  | .marking .. => 2
  | .submitting _ => 3

theorem stepsLeft_le (b : Batch) : b.stepsLeft ≤ 3 := by
  unfold stepsLeft
  split <;> decide

theorem stepsLeft_pos (b : Batch) : 0 < b.stepsLeft := by
  unfold stepsLeft
  split <;> decide

/-- How a running batch goes on when shutdown has been signalled: what is exchanged, and the course
that it comes to. -/
inductive Closes (b : Batch) : List Exchange → Course → Prop
  /-- It takes no token. -/
  | cancels (taking : b.IsTaking) : Closes b [.token b.record false] (.over (.error .cancelled))
  /-- The submitter has taken the payment. -/
  | accepted (payment : Payment) (nonce : UInt64) (phase : b.phase = .submitting payment) :
    Closes b [.answer b.record (.ok nonce)] (.running { b with phase := .marking payment nonce })
  /-- The submitter has refused the payment. -/
  | refused (payment : Payment) (e : ChainError) (summary : BatchSummary)
    (phase : b.phase = .submitting payment) :
    Closes b [.answer b.record (.error e)] (next summary b.rest).1
  /-- The store has been asked to enter the payment. -/
  | entered (payment : Payment) (nonce : UInt64) (result : Except StoreError Unit)
    (summary : BatchSummary) (phase : b.phase = .marking payment nonce) :
    Closes b [.entry b.record nonce result] (next summary b.rest).1

section

variable {α : Type} {m : Paymaster α} {l l' : Ledger} {b : Batch} {xs : List Exchange}
variable {course : Course}

theorem isOpen_of_submitting {payment : Payment} (phase : b.phase = .submitting payment) :
    b.IsOpen := by
  simp only [IsOpen, phase]

theorem isOpen_of_marking {payment : Payment} {nonce : UInt64}
    (phase : b.phase = .marking payment nonce) : b.IsOpen := by
  simp only [IsOpen, phase]

/-- A batch that has handed over its record has its token already. -/
theorem IsOpen.not_isTaking (isOpen : b.IsOpen) : ¬b.IsTaking := by
  unfold IsOpen at isOpen
  rintro (phase | ⟨wait, phase⟩)
  · rw [phase] at isOpen
    exact isOpen
  · rw [phase] at isOpen
    exact isOpen

theorem IsOpen.openRecord?_eq (isOpen : b.IsOpen) : openRecord? (some b) = some b.record := by
  unfold IsOpen at isOpen
  cases phase : b.phase with
  | reserving | waiting =>
      rw [phase] at isOpen
      exact isOpen.elim
  | submitting | marking => simp only [openRecord?, Option.bind_some, phase]

theorem Goes.closes_of_submitted {reply : Except ChainError UInt64} {payment : Payment}
    (goes : Goes m l b (.submitted reply) xs l' course) (phase : b.phase = .submitting payment) :
    b.Closes xs course := by
  cases goes with
  | accepted payment nonce phase => exact .accepted payment nonce phase
  | refused payment e phase => exact .refused payment e _ phase
  | ignores other => simp [Awaits, phase] at other
  | submits _ taking | simulates _ taking | rejects _ taking =>
      exact absurd taking (isOpen_of_submitting phase).not_isTaking

theorem Goes.closes_of_mark {fault : Option StoreError} {payment : Payment} {nonce : UInt64}
    (goes : Goes m l b (.mark fault) xs l' course) (phase : b.phase = .marking payment nonce) :
    b.Closes xs course := by
  cases goes with
  | enters payment nonce _ phase => exact .entered payment nonce (.ok ()) _ phase
  | leaves payment nonce _ e phase => exact .entered payment nonce (.error e) _ phase
  | ignores other => simp [Awaits, phase] at other
  | submits _ taking | simulates _ taking | rejects _ taking =>
      exact absurd taking (isOpen_of_marking phase).not_isTaking

end

end Batch

namespace Till

variable {α : Type} [Reckoning α]

/-- Shutdown is seen before the token is there: the batch is over. -/
theorem step_cancelled (m : Paymaster α) (now : Instant) {till : Till α} {b : Batch}
    (running : till.batch = some b) (taking : b.IsTaking) :
    till.exchanged m now .cancelled = [.token b.record false] ∧
      (till.step m now .cancelled).till.batch = none ∧
      (till.step m now .cancelled).result = some (.error .cancelled) := by
  rcases taking with phase | ⟨wait, phase⟩
  · simp [exchanged, heard, step, running, phase, Batch.cancel, follow, handed]
  · simp [exchanged, heard, step, running, phase, Batch.cancel, follow, handed]

/-- When shutdown has been signalled, every step of a running batch is one of those that are left. -/
theorem closes_step (m : Paymaster α) (now : Instant) {till : Till α} {b : Batch}
    (running : till.batch = some b) (reply : Except ChainError UInt64)
    (fault : Option StoreError) :
    ∃ course, b.Closes (till.exchanged m now (b.hears true reply fault)) course ∧
      (till.step m now (b.hears true reply fault)).till.batch = course.batch? ∧
      (till.step m now (b.hears true reply fault)).result = course.result? := by
  have cancels (taking : b.IsTaking) (hears : b.hears true reply fault = .cancelled) :
      ∃ course, b.Closes (till.exchanged m now (b.hears true reply fault)) course ∧
        (till.step m now (b.hears true reply fault)).till.batch = course.batch? ∧
        (till.step m now (b.hears true reply fault)).result = course.result? := by
    obtain ⟨exchanged, batch, result⟩ := till.step_cancelled m now running taking
    rw [hears, exchanged, batch, result]
    exact ⟨_, .cancels taking, rfl, rfl⟩
  obtain ⟨course, goes, batch, result⟩ := goes_step m now running (b.hears true reply fault)
  cases phase : b.phase with
  | reserving => exact cancels (Or.inl phase) (by simp [Batch.hears, phase])
  | waiting wait => exact cancels (Or.inr ⟨wait, phase⟩) (by simp [Batch.hears, phase])
  | submitting payment =>
      have hears : b.hears true reply fault = .submitted reply := by simp [Batch.hears, phase]
      rw [hears] at goes batch result ⊢
      exact ⟨course, goes.closes_of_submitted phase, batch, result⟩
  | marking payment nonce =>
      have hears : b.hears true reply fault = .mark fault := by simp [Batch.hears, phase]
      rw [hears] at goes batch result ⊢
      exact ⟨course, goes.closes_of_mark phase, batch, result⟩

end Till

/-- What is exchanged from a moment on, after shutdown has been signalled: no token is granted and
nothing is handed over. What is answered and entered is about the record that the batch of that
moment had handed over, once each. -/
structure Winds (before : Option Batch) (xs : List Exchange) (after : Option Batch) : Prop where
  nothing_new : ∀ x ∈ xs, x.begins = false
  answers : xs.countP isAnswer + Batch.answersLeft after ≤ Batch.answersLeft before
  entries : xs.countP isEntry + Batch.entriesLeft after ≤ Batch.entriesLeft before
  own : ∀ x ∈ xs, ∀ r, x.concluded? = some r → Batch.openRecord? before = some r
  kept : ∀ r, Batch.openRecord? after = some r → Batch.openRecord? before = some r

namespace Winds

variable {before between after : Option Batch} {xs ys : List Exchange}

theorem refl (batch : Option Batch) : Winds batch [] batch where
  nothing_new _ inside := nomatch inside
  answers := Nat.le_of_eq (Nat.zero_add _)
  entries := Nat.le_of_eq (Nat.zero_add _)
  own _ inside := nomatch inside
  kept _ same := same

/-- A batch that is due has handed nothing over. -/
theorem of_closed (closed : Batch.openRecord? after = none) : Winds none [] after where
  nothing_new _ inside := nomatch inside
  answers := by
    have none : Batch.answersLeft after = 0 := by
      cases after with
      | none => rfl
      | some b => cases phase : b.phase <;> simp_all [Batch.openRecord?, Batch.answersLeft,
          Batch.submission?]
    simp [none]
  entries := by simp [Batch.entriesLeft, closed]
  own _ inside := nomatch inside
  kept r same := by
    rw [closed] at same
    cases same

theorem trans (h : Winds before xs between) (h' : Winds between ys after) :
    Winds before (xs ++ ys) after where
  nothing_new x inside := (List.mem_append.mp inside).elim (h.nothing_new x) (h'.nothing_new x)
  answers := by
    have first := h.answers
    have second := h'.answers
    rw [List.countP_append]
    omega
  entries := by
    have first := h.entries
    have second := h'.entries
    rw [List.countP_append]
    omega
  own x inside r about := by
    rcases List.mem_append.mp inside with inside | inside
    · exact h.own x inside r about
    · exact h.kept r (h'.own x inside r about)
  kept r same := h.kept r (h'.kept r same)

end Winds

namespace Batch

variable {b : Batch} {xs : List Exchange} {course : Course}

/-- Nothing is open when the next record's turn comes. -/
@[simp] theorem openRecord?_next (summary : BatchSummary) (rest : List Record) :
    openRecord? (next summary rest).1.batch? = none := by
  cases rest <;> rfl

@[simp] theorem answersLeft_next (summary : BatchSummary) (rest : List Record) :
    answersLeft (next summary rest).1.batch? = 0 := by
  cases rest <;> rfl

theorem answersLeft_of_submitting {payment : Payment} (phase : b.phase = .submitting payment) :
    answersLeft (some b) = 1 := by
  simp [answersLeft, submission?, phase]

theorem answersLeft_of_marking {payment : Payment} {nonce : UInt64}
    (phase : b.phase = .marking payment nonce) : answersLeft (some b) = 0 := by
  simp [answersLeft, submission?, phase]

/-- A step that is left winds the batch up. -/
theorem Closes.winds (closes : b.Closes xs course) : Winds (some b) xs course.batch? := by
  cases closes with
  | cancels taking =>
      constructor <;> simp [begins, isAnswer, isEntry, concluded?, Course.batch?, answersLeft,
        entriesLeft, openRecord?]
  | accepted payment nonce phase =>
      -- From now on the payment is being entered.
      have entering : openRecord? (some { b with phase := .marking payment nonce }) =
          some b.record := (isOpen_of_marking rfl).openRecord?_eq
      have answered : answersLeft (some { b with phase := .marking payment nonce }) = 0 :=
        answersLeft_of_marking rfl
      constructor <;> simp [begins, isAnswer, isEntry, concluded?, Course.batch?, entriesLeft,
        entering, answered, (isOpen_of_submitting phase).openRecord?_eq,
        answersLeft_of_submitting phase]
  | refused payment e summary phase =>
      constructor <;> simp [begins, isAnswer, isEntry, concluded?, entriesLeft,
        (isOpen_of_submitting phase).openRecord?_eq, answersLeft_of_submitting phase]
  | entered payment nonce result summary phase =>
      constructor <;> simp [begins, isAnswer, isEntry, concluded?, entriesLeft,
        (isOpen_of_marking phase).openRecord?_eq, answersLeft_of_marking phase]

/-- How a batch may end once shutdown has been signalled: it is cancelled, unless the record that it
had handed over then was the last one. -/
def EndsWith (b : Batch) (result : Except RelayError BatchSummary) : Prop :=
  result = .error .cancelled ∨ b.IsOpen ∧ b.rest = [] ∧ ∃ summary, result = .ok summary

/-- A step that is left brings the batch closer to its end, or is the last one. -/
theorem Closes.ends (closes : b.Closes xs course) :
    (∃ b', course = .running b' ∧ b'.stepsLeft < b.stepsLeft ∧
      ∀ result, b'.EndsWith result → b.EndsWith result) ∨
      ∃ result, course = .over result ∧ b.EndsWith result := by
  have follows (summary : BatchSummary) (isOpen : b.IsOpen) (steps : 1 < b.stepsLeft) :
      (∃ b', (next summary b.rest).1 = .running b' ∧ b'.stepsLeft < b.stepsLeft ∧
        ∀ result, b'.EndsWith result → b.EndsWith result) ∨
        ∃ result, (next summary b.rest).1 = .over result ∧ b.EndsWith result := by
    cases rest : b.rest with
    | nil => exact Or.inr ⟨_, rfl, Or.inr ⟨isOpen, rest, _, rfl⟩⟩
    | cons r rest =>
        refine Or.inl ⟨_, rfl, steps, ?_⟩
        rintro result (cancelled | ⟨never, -⟩)
        · exact Or.inl cancelled
        · cases never
  cases closes with
  | cancels taking => exact Or.inr ⟨_, rfl, Or.inl rfl⟩
  | accepted payment nonce phase =>
      refine Or.inl ⟨_, rfl, by simp [stepsLeft, phase], ?_⟩
      rintro result (cancelled | ⟨-, last, complete⟩)
      · exact Or.inl cancelled
      · exact Or.inr ⟨isOpen_of_submitting phase, last, complete⟩
  | refused payment e summary phase =>
      exact follows summary (isOpen_of_submitting phase) (by simp [stepsLeft, phase])
  | entered payment nonce result summary phase =>
      exact follows summary (isOpen_of_marking phase) (by simp [stepsLeft, phase])

end Batch

/-- What holds of a batch and of all that has been exchanged so far. A payment that was taken is
entered next, and nothing is being paid without a token. -/
structure Attended (batch : Option Batch) (xs : List Exchange) : Prop where
  chain : xs.IsChain LeadsTo
  /-- A payment that was taken last is being entered. -/
  last : ∀ r nonce, xs.getLast? = some (.answer r (.ok nonce)) →
    ∃ b payment, batch = some b ∧ b.record = r ∧ b.phase = .marking payment nonce
  /-- What is being paid has got its token and has been handed over. -/
  handed : ∀ r, Batch.openRecord? batch = some r →
    .token r true ∈ xs ∧ ∃ payment, .submit r payment ∈ xs

namespace Attended

variable {batch : Option Batch} {xs : List Exchange}

/-- Before any batch there is nothing to attend to. -/
theorem nil : Attended none [] where
  chain := .nil
  last _ _ inside := nomatch inside
  handed _ same := nomatch same

/-- A batch that begins has not been granted a token. -/
theorem begin (h : Attended none xs) (dryRun : Bool) (records : List Record) :
    Attended (Batch.begin dryRun records).1.batch? xs where
  chain := h.chain
  last r nonce taken := by
    obtain ⟨b, _, none, _⟩ := h.last r nonce taken
    cases none
  handed r same := by cases records <;> cases same

/-- If nothing is being paid, every payment that was taken has had its attempt to be entered. -/
theorem allEntered (h : Attended batch xs) (closed : Batch.openRecord? batch = none) :
    AllEntered xs := by
  intro before after r nonce taken
  cases after with
  | nil =>
      obtain ⟨b, payment, running, _, phase⟩ :=
        h.last r nonce (by rw [taken]; exact List.getLast?_concat)
      rw [running, (Batch.isOpen_of_marking phase).openRecord?_eq] at closed
      cases closed
  | cons y rest =>
      have chain := h.chain
      rw [taken, List.isChain_append_cons_cons] at chain
      obtain ⟨result, entered⟩ := chain.2.1 r nonce rfl
      exact ⟨result, rest, by rw [entered]⟩

section

variable {b : Batch} {ys : List Exchange} {course : Batch.Course}

/-- A batch that has no payment to enter has not heard last of one that was taken. -/
theorem not_taken (h : Attended (some b) xs) (idle : ∀ payment nonce, b.phase ≠ .marking payment nonce)
    (r : Record) (nonce : UInt64) : xs.getLast? ≠ some (.answer r (.ok nonce)) := by
  intro taken
  obtain ⟨b', payment, same, _, phase⟩ := h.last r nonce taken
  cases same
  exact idle payment nonce phase

/-- A batch that has no payment to enter may go on with anything. -/
theorem append (h : Attended (some b) xs) (idle : ∀ payment nonce, b.phase ≠ .marking payment nonce)
    (chain : ys.IsChain LeadsTo)
    (last : ∀ r nonce, ys.getLast? = some (.answer r (.ok nonce)) →
      ∃ b' payment, course.batch? = some b' ∧ b'.record = r ∧ b'.phase = .marking payment nonce)
    (handed : ∀ r, Batch.openRecord? course.batch? = some r →
      Batch.openRecord? (some b) = some r ∨ .token r true ∈ ys ∧ ∃ payment, .submit r payment ∈ ys) :
    Attended course.batch? (xs ++ ys) := by
  constructor
  · apply h.chain.append chain
    rintro x before y - r nonce rfl
    exact absurd before (h.not_taken idle r nonce)
  · intro r nonce taken
    rw [List.getLast?_append, Option.or_eq_some_iff] at taken
    rcases taken with now | ⟨-, before⟩
    · exact last r nonce now
    · exact absurd before (h.not_taken idle r nonce)
  · intro r same
    rcases handed r same with before | ⟨token, payment, submitted⟩
    · obtain ⟨token, payment, submitted⟩ := h.handed r before
      exact ⟨List.mem_append_left _ token, payment, List.mem_append_left _ submitted⟩
    · exact ⟨List.mem_append_right _ token, payment, List.mem_append_right _ submitted⟩

/-- A payment that is being entered is entered. -/
theorem append_entry (h : Attended (some b) xs) {payment : Payment} {nonce : UInt64}
    (phase : b.phase = .marking payment nonce) (result : Except StoreError Unit)
    (summary : BatchSummary) (rest : List Record) :
    Attended (Batch.next summary rest).1.batch? (xs ++ [.entry b.record nonce result]) where
  chain := by
    apply h.chain.append (List.isChain_singleton _)
    rintro x before y now r nonce' rfl
    obtain ⟨b', payment', same, record, phase'⟩ := h.last r nonce' before
    cases same
    cases phase.symm.trans phase'
    rw [List.head?_cons, Option.mem_some] at now
    exact ⟨result, by rw [← now, record]⟩
  last r nonce' taken := by
    rw [List.getLast?_concat] at taken
    cases taken
  handed r same := by
    rw [Batch.openRecord?_next] at same
    cases same

variable {α : Type} {m : Paymaster α} {l l' : Ledger} {input : Batch.Input}

/-- Every step of a batch attends to what was taken. -/
theorem goes (h : Attended (some b) xs) (goes : Batch.Goes m l b input ys l' course) :
    Attended course.batch? (xs ++ ys) := by
  have idle_of_isTaking (taking : b.IsTaking) (payment : Payment) (nonce : UInt64) :
      b.phase ≠ .marking payment nonce :=
    fun phase => (Batch.isOpen_of_marking phase).not_isTaking taking
  cases goes with
  | waits wait phase =>
      exact h.append (idle_of_isTaking (Or.inl phase)) .nil (by simp) nofun
  | submits payment taking order =>
      apply h.append (idle_of_isTaking taking) (by simp [LeadsTo]) (by simp)
      intro r same
      cases same
      exact Or.inr ⟨by simp, payment, by simp⟩
  | simulates payout taking order =>
      exact h.append (idle_of_isTaking taking) (List.isChain_singleton _) (by simp) (by simp)
  | rejects e taking order =>
      exact h.append (idle_of_isTaking taking) (List.isChain_singleton _) (by simp) (by simp)
  | cancels taking =>
      exact h.append (idle_of_isTaking taking) (List.isChain_singleton _) (by simp) nofun
  | accepted payment nonce phase =>
      apply h.append (by simp [phase]) (List.isChain_singleton _)
      · intro r nonce' taken
        cases taken
        exact ⟨_, payment, rfl, rfl, rfl⟩
      · intro r same
        cases same
        exact Or.inl ((Batch.isOpen_of_submitting phase).openRecord?_eq)
  | refused payment e phase =>
      exact h.append (by simp [phase]) (List.isChain_singleton _) (by simp) (by simp)
  | enters payment nonce _ phase marked => exact h.append_entry phase _ _ _
  | leaves payment nonce fault e phase why => exact h.append_entry phase _ _ _
  | ignores other => rwa [List.append_nil]

end

end Attended

namespace Trace

variable {α : Type}

/-- What may become of the batches once shutdown has been signalled, if something happens that is the
turn of the running batch or is not. -/
inductive Calms (t t' : Trace α) (isTurn : Bool) : Prop
  /-- It does nothing to them; a running batch does not pass its turn. -/
  | stays (batch : t'.till.batch = t.till.batch) (exchanges : t'.exchanges = t.exchanges)
    (results : t'.results = t.results) (turn : isTurn = true → t.till.batch = none)
  /-- A batch is due while none is running. -/
  | begins (idle : t.till.batch = none) (closed : Batch.openRecord? t'.till.batch = none)
    (exchanges : t'.exchanges = t.exchanges) (results : t.results <+: t'.results)
  /-- The running batch makes one of the steps that are left. -/
  | closes (b : Batch) (ys : List Exchange) (course : Batch.Course)
    (running : t.till.batch = some b) (closes : b.Closes ys course)
    (exchanges : t'.exchanges = t.exchanges ++ ys) (batch : t'.till.batch = course.batch?)
    (results : t'.results = t.results ++ course.result?.toList)

namespace Calms

variable {t t' : Trace α} {isTurn : Bool}

theorem winds (h : Calms t t' isTurn) :
    ∃ ys, t'.exchanges = t.exchanges ++ ys ∧ Winds t.till.batch ys t'.till.batch := by
  cases h with
  | stays batch exchanges =>
      refine ⟨[], by rw [exchanges, List.append_nil], ?_⟩
      rw [batch]
      exact .refl _
  | begins idle closed exchanges =>
      refine ⟨[], by rw [exchanges, List.append_nil], ?_⟩
      rw [idle]
      exact .of_closed closed
  | closes b ys course running closes exchanges batch =>
      refine ⟨ys, exchanges, ?_⟩
      rw [running, batch]
      exact closes.winds

theorem results (h : Calms t t' isTurn) : t.results <+: t'.results := by
  cases h with
  | stays _ _ results => exact results ▸ List.prefix_rfl
  | begins _ _ _ results => exact results
  | closes _ _ _ _ _ _ _ results => exact ⟨_, results.symm⟩

/-- With each of its turns a running batch comes closer to its end. -/
theorem ends (h : Calms t t' isTurn) {b : Batch} (running : t.till.batch = some b) :
    (∃ b', t'.till.batch = some b' ∧ t'.results = t.results ∧
      b'.stepsLeft + isTurn.toNat ≤ b.stepsLeft ∧
      ∀ result, b'.EndsWith result → b.EndsWith result) ∨
      ∃ result, t'.till.batch = none ∧ t'.results = t.results ++ [result] ∧ b.EndsWith result := by
  cases h with
  | stays batch _ results turn =>
      have other : isTurn = false := by
        rw [Bool.eq_false_iff]
        intro isTurn
        rw [turn isTurn] at running
        cases running
      exact Or.inl ⟨b, batch.trans running, results, by simp [other], fun _ => id⟩
  | begins idle =>
      rw [idle] at running
      cases running
  | closes b' ys course running' closes _ batch results =>
      cases running.symm.trans running'
      rcases closes.ends with ⟨next, rfl, fewer, mono⟩ | ⟨result, rfl, endsWith⟩
      · refine Or.inl ⟨next, batch, results.trans (List.append_nil _), ?_, mono⟩
        have turn := Bool.toNat_le isTurn
        omega
      · exact Or.inr ⟨result, batch, results, endsWith⟩

end Calms

variable [Reckoning α]

/-- How a batch is due, if none is running: it begins or is over at once, and nothing is
exchanged. -/
theorem start_cases (m : Paymaster α) {t : Trace α} (idle : t.till.batch = none)
    (fault : Option StoreError) :
    (t.after m (.start fault)).exchanges = t.exchanges ∧ ∃ course : Batch.Course,
      (t.after m (.start fault)).till.batch = course.batch? ∧
      (t.after m (.start fault)).results = t.results ++ course.result?.toList ∧
      Batch.openRecord? course.batch? = none ∧
      (Attended none t.exchanges → Attended course.batch? t.exchanges) := by
  refine ⟨rfl, ?_⟩
  cases fault with
  | some e =>
      refine ⟨.over (.error (.store e)), ?_, ?_, rfl, id⟩
      · rw [Trace.till_after_start_of_fault idle]
        exact idle
      · simp [Trace.after, Till.start, idle, Batch.Course.result?]
  | none =>
      refine ⟨(Batch.begin m.dryRun t.till.ledger.unpaid).1, ?_, ?_, ?_, fun h => h.begin _ _⟩
      · rw [Trace.till_after_start_of_idle idle, Till.follow_batch]
      · simp [Trace.after, Till.start, idle]
      · cases t.till.ledger.unpaid <;> rfl

/-- A running batch goes on as its course says. -/
theorem proceed_cases (m : Paymaster α) {t : Trace α} {b : Batch} (running : t.till.batch = some b)
    (now : Instant) (input : Batch.Input) :
    ∃ (ys : List Exchange) (l : Ledger) (course : Batch.Course),
      Batch.Goes m t.till.ledger b input ys l course ∧
      (t.after m (.proceed now input)).exchanges = t.exchanges ++ ys ∧
      (t.after m (.proceed now input)).till.batch = course.batch? ∧
      (t.after m (.proceed now input)).results = t.results ++ course.result?.toList := by
  obtain ⟨course, goes, batch, result⟩ := Till.goes_step m now running input
  exact ⟨_, _, course, goes, rfl, batch, by rw [Trace.after, result]⟩

/-- When shutdown has been signalled, a running batch makes one of the steps that are left. -/
theorem closes_cases (m : Paymaster α) {t : Trace α} {b : Batch} (running : t.till.batch = some b)
    (now : Instant) (reply : Except ChainError UInt64) (fault : Option StoreError) :
    ∃ (ys : List Exchange) (course : Batch.Course), b.Closes ys course ∧
      (t.after m (.proceed now (b.hears true reply fault))).exchanges = t.exchanges ++ ys ∧
      (t.after m (.proceed now (b.hears true reply fault))).till.batch = course.batch? ∧
      (t.after m (.proceed now (b.hears true reply fault))).results =
        t.results ++ course.result?.toList := by
  obtain ⟨course, closes, batch, result⟩ := Till.closes_step m now running reply fault
  exact ⟨_, course, closes, rfl, batch, by rw [Trace.after, result]⟩

end Trace

end RebateRelay
