import Mathlib.Algebra.Group.Nat.Defs
import RebateRelay.Ledger.StoredRow
import RebateRelay.Proofs.Chain.Wire
import RebateRelay.Proofs.Ledger.History
import RebateRelay.Proofs.Result

/-!
# Which sequence numbers can be stored

The submitter gives out numbers of 64 bits without a sign, and any of them can come back. The ledger
in memory takes them all. The column of the database has a sign, so half of them fit it: those are
stored and read back as they are, and the database then does what the ledger in memory does. The
other half is refused before the database is asked, with the number in the text of the failure.
-/

namespace RebateRelay

namespace StoredRow

/-! ## One number -/

section Column

variable {hash : String} {nonce : UInt64}

/-- How a sequence number that does not fit is reported. -/
def tooLarge (hash : String) (nonce : UInt64) : StoreError :=
  .corruptRow hash ("nonce " ++ toString nonce ++ " exceeds BIGINT")

theorem writeNonce_of_lt (small : nonce.toNat < nonceBound) :
    writeNonce hash nonce = .ok nonce.toInt64 := if_pos small

theorem writeNonce_of_le (large : nonceBound ≤ nonce.toNat) :
    writeNonce hash nonce = .error (tooLarge hash nonce) := if_neg (Nat.not_lt.mpr large)

/-- A number that fits stands in its column as it is, without a sign. -/
theorem toInt_toInt64 (small : nonce.toNat < nonceBound) : nonce.toInt64.toInt = nonce.toNat := by
  apply BitVec.toInt_eq_toNat_of_lt
  have twice : 2 * nonce.toNat < UInt64.size := by
    unfold nonceBound at small
    have bits : UInt64.size = 2 ^ 64 := rfl
    omega
  exact twice

theorem readNonce_toInt64 (small : nonce.toNat < nonceBound) :
    readNonce hash (some nonce.toInt64) = .ok (some nonce) := by
  have unsigned : ¬nonce.toInt64 < 0 := by
    rw [Int64.lt_iff_toInt_lt, toInt_toInt64 small]
    exact Int.not_lt.mpr (Int.natCast_nonneg nonce.toNat)
  simp only [readNonce, if_neg unsigned]
  rfl

end Column

/-! ## One row -/

section Row

variable {row : StoredRow} {r : Record} {hash : String} {nonce : UInt64}

/-- The row with its payment entered. -/
def paid (row : StoredRow) (column : Int64) : StoredRow :=
  { row with rebated := true, nonce := some column }

/-- A row is unpaid and has a hash. -/
def isOwed (hash : String) (row : StoredRow) : Bool := row.hash == hash && !row.rebated

/-- The row with a payment entered if it is owed. -/
def enter (hash : String) (column : Int64) (row : StoredRow) : StoredRow :=
  if row.isOwed hash then row.paid column else row

theorem toRecord_of_rebated (small : nonce.toNat < nonceBound) (rebated : row.rebated = true)
    (numbered : row.nonce = some nonce.toInt64) :
    row.toRecord = .ok ⟨row.toTransfer, true, some nonce⟩ := by
  simp [toRecord, numbered, readNonce_toInt64 small, rebated, bind, Except.bind, pure, Except.pure]

/-- A row and its record agree but for the form of the number. -/
theorem of_toRecord (read : row.toRecord = .ok r) :
    r.toTransfer = row.toTransfer ∧ r.rebated = row.rebated := by
  simp only [toRecord, bind_eq_ok] at read
  obtain ⟨nonce, -, read⟩ := read
  rw [check_eq_ok] at read
  cases read.2
  exact ⟨rfl, rfl⟩

theorem isOwed_iff (read : row.toRecord = .ok r) :
    row.isOwed hash = true ↔ r.hash = hash ∧ r.isUnpaid = true := by
  obtain ⟨transfer, rebated⟩ := of_toRecord read
  simp [isOwed, Record.isUnpaid, transfer, rebated]

theorem toRecord_paid (read : row.toRecord = .ok r) (small : nonce.toNat < nonceBound) :
    (row.paid nonce.toInt64).toRecord = .ok (r.paid nonce) := by
  rw [toRecord_of_rebated small rfl rfl, Record.paid, (of_toRecord read).1]
  rfl

end Row

/-! ## All rows -/

/-- The database answers, and it does what the statement says: each unpaid row of the hash is paid
and counted. -/
structure CarriesOut (statement : PaymentStatement) : Prop where
  answer : ∀ rows hash column, statement rows hash column =
    .ok (rows.map (enter hash column), rows.countP (isOwed hash))

/-- The rows of the database read as records. -/
def Mirrors : List StoredRow → List Record → Prop :=
  List.Forall₂ fun row r => row.toRecord = .ok r

section Mirrors

variable {rows : List StoredRow} {records : List Record} {l : Ledger}
variable {hash : String} {nonce : UInt64}

theorem Mirrors.exists_isOwed_iff (h : Mirrors rows records) :
    (∃ row ∈ rows, row.isOwed hash = true) ↔
      ∃ r ∈ records, r.hash = hash ∧ r.isUnpaid = true := by
  induction h with
  | nil => simp
  | cons read _ ih => simp only [List.exists_mem_cons_iff, isOwed_iff read, ih]

/-- A row is changed exactly when a rebate is owed. -/
theorem Mirrors.countP_eq_zero_iff (h : Mirrors rows l.records.toList) :
    rows.countP (isOwed hash) = 0 ↔ ¬l.Owes hash := by
  rw [Ledger.Owes, ← h.exists_isOwed_iff, List.countP_eq_zero]
  push Not
  rfl

/-- Rows still read as the records when a payment is entered in both. -/
theorem Mirrors.enter (h : Mirrors rows records) (small : nonce.toNat < nonceBound)
    (unpaid : ∀ r ∈ records, r.hash = hash → r.isUnpaid = true) :
    Mirrors (rows.map (enter hash nonce.toInt64))
      (records.map (Record.settle (Ledger.onlyPayment hash nonce))) := by
  induction h with
  | nil => exact .nil
  | @cons row r rows records read _ ih =>
      refine .cons ?_ (ih fun r inside => unpaid r (List.mem_cons_of_mem _ inside))
      by_cases named : r.hash = hash
      · have owed := (isOwed_iff read).mpr ⟨named, unpaid r List.mem_cons_self named⟩
        rw [StoredRow.enter, if_pos owed, Record.settle_of_some (if_pos named)]
        exact toRecord_paid read small
      · have other : ¬row.isOwed hash = true := fun owed => named ((isOwed_iff read).mp owed).1
        rwa [StoredRow.enter, if_neg other, Record.settle_of_none (if_neg named)]

end Mirrors

/-- No record of a hash is paid when its rebate is owed, for there is only one. -/
theorem isUnpaid_of_owes {l : Ledger} (indexed : l.Indexed) {hash : String} (owed : l.Owes hash) :
    ∀ r ∈ l.records.toList, r.hash = hash → r.isUnpaid = true := by
  intro r stored named
  obtain ⟨r', stored', named', unpaid⟩ := owed
  have same := List.inj_on_of_nodup_map indexed.nodup stored stored' (named.trans named'.symm)
  rwa [same]

section MarkPaid

variable {statement : PaymentStatement} {rows : List StoredRow} {l : Ledger}
variable {hash : String} {nonce : UInt64}

/-- A number that does not fit never reaches the database. -/
theorem markPaid_of_le (large : nonceBound ≤ nonce.toNat) :
    markPaid statement rows hash nonce = .error (tooLarge hash nonce) := by
  rw [markPaid, writeNonce_of_le large]
  rfl

/-- With a number that fits, the database does what the ledger does. -/
theorem markPaid_of_lt (carries : CarriesOut statement) (small : nonce.toNat < nonceBound)
    (indexed : l.Indexed) (mirrors : Mirrors rows l.records.toList) :
    (∀ l', l.markPaid hash nonce = .ok l' → ∃ rows',
      markPaid statement rows hash nonce = .ok rows' ∧ Mirrors rows' l'.records.toList) ∧
    ∀ e, l.markPaid hash nonce = .error e → markPaid statement rows hash nonce = .error e := by
  simp only [markPaid, writeNonce_of_lt small, carries.answer, bind, Except.bind]
  by_cases owed : l.Owes hash
  · have changed := mt mirrors.countP_eq_zero_iff.mp (not_not_intro owed)
    rw [indexed.markPaid_of_owes owed nonce]
    refine ⟨?_, fun e refused => by cases refused⟩
    rintro l' entered
    obtain rfl := Except.ok.inj entered
    refine ⟨_, if_neg changed, ?_⟩
    rw [Ledger.toList_records_settle]
    exact mirrors.enter small (isUnpaid_of_owes indexed owed)
  · have unchanged := mirrors.countP_eq_zero_iff.mpr owed
    rw [indexed.markPaid_of_not_owes owed nonce]
    refine ⟨fun l' entered => by (cases entered), fun e refused => ?_⟩
    cases refused
    exact if_pos unchanged

end MarkPaid

/-- A sequence number below two to the sixty-third is written to its column as it is, and a paid row
with it is read back with that number and nothing else changed; the database then does what the
ledger in memory does. Another number is refused, with a text that names it, and the database is not
asked, although the ledger takes every number for a rebate that is owed. -/
theorem nonces_below_bound_recorded {statement : PaymentStatement}
    (carries : CarriesOut statement) (hash : String) (nonce : UInt64) :
    (nonce.toNat < 2 ^ 63 →
      ∃ column, writeNonce hash nonce = .ok column ∧ column.toInt = nonce.toNat ∧
        (∀ row : StoredRow, row.rebated = true → row.nonce = some column →
          row.toRecord = .ok ⟨row.toTransfer, true, some nonce⟩) ∧
        ∀ rows l, Ledger.Indexed l → Mirrors rows l.records.toList →
          (∀ l', l.markPaid hash nonce = .ok l' → ∃ rows',
            markPaid statement rows hash nonce = .ok rows' ∧ Mirrors rows' l'.records.toList) ∧
          ∀ e, l.markPaid hash nonce = .error e →
            markPaid statement rows hash nonce = .error e) ∧
    (2 ^ 63 ≤ nonce.toNat →
      let refusal := .corruptRow hash ("nonce " ++ toString nonce ++ " exceeds BIGINT")
      writeNonce hash nonce = .error refusal ∧
        ∀ rows, markPaid statement rows hash nonce = .error refusal) ∧
    ∀ l, Ledger.Indexed l → l.Owes hash → ∃ l', l.markPaid hash nonce = .ok l' := by
  refine ⟨fun small => ?below, fun large => ?above, fun l indexed owed => ?memory⟩
  case below =>
    exact ⟨_, writeNonce_of_lt small, toInt_toInt64 small,
      fun row rebated numbered => toRecord_of_rebated small rebated numbered,
      fun rows l indexed mirrors => markPaid_of_lt carries small indexed mirrors⟩
  case above => exact ⟨writeNonce_of_le large, fun rows => markPaid_of_le large⟩
  case memory => exact ⟨_, indexed.markPaid_of_owes owed nonce⟩

/-- A database that does what the statement says. -/
def carryOut : PaymentStatement :=
  fun rows hash column => .ok (rows.map (enter hash column), rows.countP (isOwed hash))

theorem carriesOut_carryOut : CarriesOut carryOut := ⟨fun _ _ _ => rfl⟩

/-- The largest number that fits: it comes back from a submission, and is entered for a stored record
in memory and in the database alike. -/
theorem nonces_below_bound_recorded_of_largest :
    let nonce : UInt64 := 9223372036854775807
    let submitter : Chain.Submitter := ⟨"http://[::1]"⟩
    let build := fun transactor : Chain.Transactor =>
      Except.ok (⟨transactor.chainId, .zero, 0, []⟩ : Chain.Transaction)
    let transfer := (Record.sample "0x01" 5).toTransfer
    let l := (Ledger.empty.insert [.sample "0x01" 5]).1
    let owed : StoredRow := ⟨transfer, false, none⟩
    let paid : StoredRow := ⟨transfer, true, some 9223372036854775807⟩
    submitter.submit (fun _ => some (Chain.Submitter.reply nonce)) 42161 build = .ok nonce ∧
      CarriesOut carryOut ∧ nonce.toNat < 2 ^ 63 ∧
      writeNonce "0x01" nonce = .ok 9223372036854775807 ∧
      paid.toRecord = .ok ⟨paid.toTransfer, true, some nonce⟩ ∧
      l.Indexed ∧ Mirrors [owed] l.records.toList ∧
      ∃ l', l.markPaid "0x01" nonce = .ok l' ∧ markPaid carryOut [owed] "0x01" nonce = .ok [paid] ∧
        Mirrors [paid] l'.records.toList := by
  intro nonce submitter build transfer l owed paid
  obtain ⟨request, made⟩ : ∃ request,
      submitter.submitRequest ⟨42161, .zero, 0, []⟩ = .ok request :=
    exists_eq_ok (by decide +kernel)
  have small : nonce.toNat < 2 ^ 63 := by decide
  obtain ⟨below, -, memory⟩ := nonces_below_bound_recorded carriesOut_carryOut "0x01" nonce
  obtain ⟨column, written, -, read, database⟩ := below small
  have shown : writeNonce "0x01" nonce = .ok 9223372036854775807 := rfl
  obtain ⟨indexed, stored⟩ := Ledger.indexed_empty.insert [.sample "0x01" 5]
  have mirrors : Mirrors [owed] l.records.toList := by
    rw [stored]
    exact .cons rfl .nil
  have unpaid : l.Owes "0x01" := by
    refine ⟨.sample "0x01" 5, ?_, rfl, rfl⟩
    rw [stored]
    exact List.mem_singleton.mpr rfl
  obtain ⟨l', entered⟩ := memory l indexed unpaid
  obtain ⟨rows, carried, mirrors'⟩ := (database [owed] l indexed mirrors).1 l' entered
  have changed : markPaid carryOut [owed] "0x01" nonce = .ok [paid] := rfl
  cases written.symm.trans shown
  cases carried.symm.trans changed
  exact ⟨Chain.Submitter.submit_of_reply rfl made nonce, carriesOut_carryOut, small, shown,
    read paid rfl rfl, indexed, mirrors, l', entered, changed, mirrors'⟩

/-- A number that comes back from a submission, is taken by the ledger in memory, and is refused on
its way to the database. -/
theorem nonce_refused_after_submission :
    let submitter : Chain.Submitter := ⟨"http://[::1]"⟩
    let sender : Http.Sender :=
      fun _ => some ⟨⟨200⟩, "\x7b\"nonce\":9223372036854775808\x7d", true⟩
    let build := fun transactor : Chain.Transactor =>
      Except.ok (⟨transactor.chainId, .zero, 0, []⟩ : Chain.Transaction)
    let l := (Ledger.empty.insert [.sample "0x01" 5]).1
    submitter.submit sender 42161 build = .ok 9223372036854775808 ∧
      (∃ l', l.markPaid "0x01" 9223372036854775808 = .ok l') ∧
      writeNonce "0x01" 9223372036854775808 =
        .error (.corruptRow "0x01" "nonce 9223372036854775808 exceeds BIGINT") ∧
      ∀ statement rows, markPaid statement rows "0x01" 9223372036854775808 =
        .error (.corruptRow "0x01" "nonce 9223372036854775808 exceeds BIGINT") := by
  intro submitter sender build l
  obtain ⟨indexed, stored⟩ := Ledger.indexed_empty.insert [.sample "0x01" 5]
  have owed : l.Owes "0x01" := by
    refine ⟨.sample "0x01" 5, ?_, rfl, rfl⟩
    rw [stored]
    exact List.mem_singleton.mpr rfl
  refine ⟨eq_ok_of_toOption (by decide +kernel), ⟨_, indexed.markPaid_of_owes owed _⟩, rfl, ?_⟩
  intro statement rows
  exact markPaid_of_le (by decide)

end StoredRow

end RebateRelay
