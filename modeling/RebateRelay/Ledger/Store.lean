import RebateRelay.Error
import RebateRelay.Ledger.Record
import Std.Data.HashMap

/-!
# The ledger

The records in the order of their insertion, and an index from each hash to the place of its
record. A hash is stored once and for good: a later record with the same hash is skipped, whatever
it says. The unpaid records are read in the order in which they are to be paid.
-/

namespace RebateRelay

/-- The records and the places of their hashes. -/
structure Ledger where
  records : Array Record
  index : Std.HashMap String Nat

namespace Ledger

/-- The ledger without records. -/
def empty : Ledger := ⟨#[], ∅⟩

instance : Inhabited Ledger := ⟨empty⟩

/-- The hash is stored. -/
def contains (l : Ledger) (hash : String) : Bool := l.index.contains hash

/-- The number of records. -/
def size (l : Ledger) : Nat := l.records.size

/-- The record with a hash. -/
def get? (l : Ledger) (hash : String) : Option Record :=
  l.index[hash]?.bind fun place => l.records[place]?

/-- Adds a record at the end. -/
def push (l : Ledger) (r : Record) : Ledger :=
  ⟨l.records.push r, l.index.insert r.hash l.records.size⟩

/-- Adds a record unless its hash is stored. The count grows by the records added. -/
def insertOne (state : Ledger × Nat) (r : Record) : Ledger × Nat :=
  if state.1.contains r.hash then state else (state.1.push r, state.2 + 1)

/-- Adds the records whose hashes are not stored yet, one after the other, and counts them. -/
def insert (l : Ledger) (records : List Record) : Ledger × Nat :=
  records.foldl insertOne (l, 0)

/-- The order of payment: by time, and by hash at the same time. -/
def payBefore (a b : Record) : Bool :=
  if a.blockTime < b.blockTime then true
  else if b.blockTime < a.blockTime then false
  else decide (a.hash ≤ b.hash)

/-- The unpaid records in the order of payment. -/
def unpaid (l : Ledger) : List Record :=
  (l.records.toList.filter Record.isUnpaid).mergeSort payBefore

/-- Marks an unpaid record paid. -/
def markPaid (l : Ledger) (hash : String) (nonce : UInt64) : Except StoreError Ledger :=
  match l.index[hash]? with
  | none => .error (.notUpdated hash)
  | some place =>
    match l.records[place]? >>= (·.mark? nonce) with
    | none => .error (.notUpdated hash)
    | some r => .ok { l with records := l.records.setIfInBounds place r }

end Ledger

end RebateRelay
