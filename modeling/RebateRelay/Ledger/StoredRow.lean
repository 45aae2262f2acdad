import RebateRelay.Error
import RebateRelay.Ledger.Record

/-!
# Rows of the database

The database keeps sequence numbers in a signed column of 64 bits. A number that does not fit is
refused when it is written; a row with a negative number, or a paid one without a number, is
refused when it is read.
-/

namespace RebateRelay

/-- A row as the database holds it. -/
structure StoredRow extends Transfer where
  rebated : Bool
  nonce : Option Int64

namespace StoredRow

/-- A sequence number as read from its column. -/
def readNonce (hash : String) : Option Int64 → Except StoreError (Option UInt64)
  | none => .ok none
  | some n => if n < 0 then .error (.corruptRow hash "negative nonce") else .ok (some n.toUInt64)

/-- The record of a row. -/
def toRecord (row : StoredRow) : Except StoreError Record := do
  let nonce ← readNonce row.hash row.nonce
  if row.rebated && nonce.isNone then throw (.corruptRow row.hash "rebated without nonce")
  return ⟨row.toTransfer, row.rebated, nonce⟩

/-- Sequence numbers below this bound fit into their column. -/
def nonceBound : Nat := UInt64.size / 2

/-- A sequence number as it goes into its column. -/
def writeNonce (hash : String) (nonce : UInt64) : Except StoreError Int64 :=
  if nonce.toNat < nonceBound then .ok nonce.toInt64
  else .error (.corruptRow hash ("nonce " ++ toString nonce ++ " exceeds BIGINT"))

/-- The statement that enters a payment, as the database carries it out on its rows: given a hash
and a sequence number, what it leaves of the rows, and how many of them it has changed. -/
abbrev PaymentStatement :=
  List StoredRow → String → Int64 → Except StoreError (List StoredRow × Nat)

/-- Marks a record paid in the database. The sequence number has to fit before the database is
asked, and a statement that changes no row is a failure. -/
def markPaid (statement : PaymentStatement) (rows : List StoredRow) (hash : String)
    (nonce : UInt64) : Except StoreError (List StoredRow) := do
  let column ← writeNonce hash nonce
  let (rows, changed) ← statement rows hash column
  if changed = 0 then throw (.notUpdated hash)
  return rows

/-- The most rows that one statement inserts. -/
def rowsPerStatement : Nat := 1000

/-- The statements, at most so many, that insert the rows one after the other. -/
def statementsWithin : Nat → List Record → List (List Record)
  | 0, _ => []
  | n + 1, records =>
    if records.isEmpty then []
    else records.take rowsPerStatement :: statementsWithin n (records.drop rowsPerStatement)

/-- The statements that insert a list of records; no records need no statement. -/
def statements (records : List Record) : List (List Record) :=
  statementsWithin records.length records

end StoredRow

end RebateRelay
