import RebateRelay.Ledger.StoredRow
import RebateRelay.Proofs.Ledger.History

/-!
# Batches of records

It does not matter how records are divided into batches: the store and the count come out the same.
The count of a batch is the number of its hashes that are new, however often each of them is in the
batch, and the store grows by that many records. A batch without new hashes therefore counts nothing
and leaves the store as it is, so what may have been stored before can be offered again.

A database divides records into statements, each with as many of them as it may have. By what was
said they insert together what one of any size would.
-/

namespace RebateRelay

open Record

namespace StoredRow

theorem statementsWithin_cons (n : Nat) (r : Record) (records : List Record) :
    statementsWithin (n + 1) (r :: records) = (r :: records).take rowsPerStatement ::
      statementsWithin n ((r :: records).drop rowsPerStatement) := rfl

theorem flatten_statementsWithin {n : Nat} {records : List Record} (enough : records.length ≤ n) :
    (statementsWithin n records).flatten = records := by
  induction n generalizing records with
  | zero =>
      rw [List.eq_nil_of_length_eq_zero (Nat.le_zero.mp enough)]
      rfl
  | succ n ih =>
      cases records with
      | nil => rfl
      | cons r records =>
          have fewer : ((r :: records).drop rowsPerStatement).length ≤ n := by
            rw [List.length_drop, rowsPerStatement]
            omega
          rw [statementsWithin_cons, List.flatten_cons, ih fewer, List.take_append_drop]

/-- The statements insert the records, all of them and in their order. -/
theorem flatten_statements (records : List Record) : (statements records).flatten = records :=
  flatten_statementsWithin (Nat.le_refl _)

theorem length_of_mem_statementsWithin {n : Nat} {records statement : List Record}
    (made : statement ∈ statementsWithin n records) :
    0 < statement.length ∧ statement.length ≤ rowsPerStatement := by
  induction n generalizing records with
  | zero => cases made
  | succ n ih =>
      cases records with
      | nil => cases made
      | cons r records =>
          rw [statementsWithin_cons, List.mem_cons] at made
          rcases made with rfl | later
          · rw [List.length_take, List.length_cons, rowsPerStatement]
            omega
          · exact ih later

/-- No statement is without rows, and none has more than it may have. -/
theorem length_of_mem_statements {records statement : List Record}
    (made : statement ∈ statements records) :
    0 < statement.length ∧ statement.length ≤ rowsPerStatement :=
  length_of_mem_statementsWithin made

end StoredRow

namespace Ledger

variable {l : Ledger} {r : Record}

/-- What has been counted before is added to what an insert counts. -/
theorem foldl_insertOne (l : Ledger) (n : Nat) (records : List Record) :
    records.foldl insertOne (l, n) = ((l.insert records).1, n + (l.insert records).2) := by
  induction records generalizing l n with
  | nil => rfl
  | cons r records ih =>
      rw [insert, List.foldl_cons, List.foldl_cons]
      cases known : l.contains r.hash with
      | true =>
          have skipped (k : Nat) : insertOne (l, k) r = (l, k) := if_pos known
          rw [skipped, skipped, ih]
          rfl
      | false =>
          have added (k : Nat) : insertOne (l, k) r = (l.push r, k + 1) := by
            simp [insertOne, known]
          rw [added, added, ih, ih (l.push r) (0 + 1)]
          exact congrArg _ (by omega)

theorem insert_cons_of_contains (known : l.contains r.hash = true) (records : List Record) :
    l.insert (r :: records) = l.insert records := by
  rw [insert, List.foldl_cons, insertOne, if_pos known]
  rfl

theorem insert_cons_of_not_contains (new : l.contains r.hash = false) (records : List Record) :
    l.insert (r :: records) = (((l.push r).insert records).1, ((l.push r).insert records).2 + 1) := by
  have added : insertOne (l, 0) r = (l.push r, 1) := by simp [insertOne, new]
  rw [insert, List.foldl_cons, added, foldl_insertOne, Nat.add_comm]

theorem insert_append (l : Ledger) (xs ys : List Record) :
    l.insert (xs ++ ys) =
      (((l.insert xs).1.insert ys).1, (l.insert xs).2 + ((l.insert xs).1.insert ys).2) := by
  rw [insert, List.foldl_append]
  exact foldl_insertOne _ _ ys

/-- Inserts batches one after the other, and adds up what they count. -/
def insertEach (l : Ledger) : List (List Record) → Ledger × Nat
  | [] => (l, 0)
  | batch :: batches =>
    let rest := (l.insert batch).1.insertEach batches
    (rest.1, (l.insert batch).2 + rest.2)

theorem insertEach_eq (l : Ledger) (batches : List (List Record)) :
    l.insertEach batches = l.insert batches.flatten := by
  induction batches generalizing l with
  | nil => rfl
  | cons batch batches ih => rw [insertEach, ih, List.flatten_cons, insert_append]

/-- Statement by statement, records come to the same store and the same count as all at once. -/
theorem insertEach_statements (l : Ledger) (records : List Record) :
    l.insertEach (StoredRow.statements records) = l.insert records := by
  rw [insertEach_eq, StoredRow.flatten_statements]

/-- A store grows by what an insert counts. -/
theorem size_insert (l : Ledger) (records : List Record) :
    (l.insert records).1.size = l.size + (l.insert records).2 := by
  induction records generalizing l with
  | nil => rfl
  | cons r records ih =>
      cases known : l.contains r.hash with
      | true => rw [insert_cons_of_contains known, ih]
      | false =>
          have grown : (l.push r).size = l.size + 1 := Array.size_push r
          rw [insert_cons_of_not_contains known, ih, grown]
          omega

theorem insert_of_contains {records : List Record}
    (known : ∀ r ∈ records, l.contains r.hash = true) : l.insert records = (l, 0) := by
  induction records with
  | nil => rfl
  | cons r records ih =>
      rw [List.forall_mem_cons] at known
      rw [insert_cons_of_contains known.1, ih known.2]

namespace Indexed

variable (h : l.Indexed)
include h

/-- An insert counts the different hashes that are new. -/
theorem count_insert (records : List Record) :
    (l.insert records).2 =
      ((hashes records).toFinset \ (hashes l.records.toList).toFinset).card := by
  have grown : (l.insert records).1.size =
      l.size + ((hashes records).toFinset \ (hashes l.records.toList).toFinset).card := by
    rw [size, ← Array.length_toList, (h.insert records).2, Requeue.length_add]
    rfl
  rw [size_insert] at grown
  exact Nat.add_left_cancel grown

/-- What is stored stays as it is at its place. -/
theorem getElem?_insert (records : List Record) {place : Nat} {r : Record}
    (stored : l.records[place]? = some r) : (l.insert records).1.records[place]? = some r := by
  rw [← Array.getElem?_toList] at *
  obtain ⟨added, front⟩ := Requeue.prefix_add l.records.toList records
  rw [(h.insert records).2, ← front,
    List.getElem?_append_left (List.getElem?_eq_some_iff.mp stored).1, stored]

theorem get?_insert (records : List Record) {hash : String} {r : Record}
    (stored : l.get? hash = some r) : (l.insert records).1.get? hash = some r := by
  rw [h.get?_eq] at stored
  rw [(h.insert records).1.get?_eq, (h.insert records).2, Requeue.first?_add, first?_append, stored,
    Option.some_or]

end Indexed

/-- The hashes that are stored are those that have been offered. -/
theorem mem_hashes_run {operations : List Operation} {hash : String} :
    hash ∈ hashes (empty.run operations).records.toList ↔ hash ∈ hashes (inserted operations) := by
  have first := indexed_empty.first?_run operations hash
  have absent : hash ∉ hashes (empty.run operations).records.toList ↔
      hash ∉ hashes (inserted operations) := by
    rw [← first?_eq_none, ← first?_eq_none, ← Option.map_eq_none_iff (f := Record.toTransfer), first,
      Option.map_eq_none_iff]
    rfl
  exact not_iff_not.mp absent

/-- What holds of inserts into a store that started out empty, after any operations. Two batches
one after the other come to the same store and the same count as both at once. The count of a batch
is the number of its different hashes that were not stored, and the store grows by it. Records whose
hashes have all been offered before, in whatever order and however often, count nothing and change
nothing. And no insert changes a record that is stored, paid or unpaid. -/
theorem batches_add_up (operations : List Operation) (xs ys : List Record) :
    let l := empty.run operations
    l.insert (xs ++ ys) =
      (((l.insert xs).1.insert ys).1, (l.insert xs).2 + ((l.insert xs).1.insert ys).2) ∧
    (l.insert xs).2 = ((hashes xs).toFinset \ (hashes l.records.toList).toFinset).card ∧
    (l.insert xs).1.size = l.size + (l.insert xs).2 ∧
    (∀ zs : List Record, (∀ r ∈ zs, r.hash ∈ hashes (inserted operations)) →
      l.insert zs = (l, 0)) ∧
    (∀ (place : Nat) (r : Record), l.records[place]? = some r →
      (l.insert xs).1.records[place]? = some r) ∧
    ∀ hash r, l.get? hash = some r → (l.insert xs).1.get? hash = some r := by
  intro l
  have indexed : l.Indexed := indexed_run operations
  refine ⟨insert_append l xs ys, indexed.count_insert xs, size_insert l xs, ?_,
    fun place r => indexed.getElem?_insert xs, fun hash r => indexed.get?_insert xs⟩
  intro zs offered
  exact insert_of_contains fun r listed =>
    indexed.contains_iff.mpr (mem_hashes_run.mpr (offered r listed))

/-- A batch with a hash twice and one that is paid, and then the same batch the other way round. -/
theorem batches_add_up_of_repeated_hash :
    let operations : List Operation := [.insert [.sample "0x01" 1000], .markPaid "0x01" 42]
    let l := empty.run operations
    let batch : List Record := [.sample "0x02" 1, .sample "0x01" 2, .sample "0x02" 3]
    let l' := (l.insert batch).1
    (l.insert batch).2 = 1 ∧
      (∀ r ∈ batch.reverse, r.hash ∈ hashes (inserted (operations ++ [.insert batch]))) ∧
      l'.insert batch.reverse = (l', 0) := by
  intro operations l batch l'
  obtain ⟨_, count, _⟩ := batches_add_up operations batch []
  have stored : (hashes l.records.toList).toFinset = (hashes (inserted operations)).toFinset := by
    ext hash
    rw [List.mem_toFinset, List.mem_toFinset, mem_hashes_run]
  have after : empty.run (operations ++ [.insert batch]) = l' := run_append _ _ _
  obtain ⟨_, _, _, nothing, _⟩ := batches_add_up (operations ++ [.insert batch]) [] []
  have offered : ∀ r ∈ batch.reverse, r.hash ∈ hashes (inserted (operations ++ [.insert batch])) := by
    simp [batch, operations, inserted, Operation.inserted, Record.sample]
  have again := nothing batch.reverse offered
  rw [after] at again
  rw [stored] at count
  exact ⟨count.trans (by decide +kernel), offered, again⟩

end Ledger

end RebateRelay
