import RebateRelay.Proofs.Ledger.Indexed

/-!
# The history of a ledger

A store works on its ledger by three operations: it inserts records, reads the unpaid ones, and
marks one paid. Whatever their order, each of them enters payments that were owed and then adds
records at the end. From this one fact follows what a ledger keeps through all of its history: its
index, the places of its records, the transfer that was stored first under each hash, and a
payment once it has been entered.
-/

namespace RebateRelay

namespace Record

/-- What may become of a record: it stays as it is, or it is unpaid and gets its payment. -/
def Onward (r s : Record) : Prop :=
  s = r ∨ r.isUnpaid = true ∧ ∃ nonce, s = r.paid nonce

/-- A record is paid when it has a sequence number, and only then. -/
def Consistent (r : Record) : Prop := r.rebated = true ↔ r.nonce.isSome = true

/-- The record of a rebate that is still owed. -/
def Fresh (r : Record) : Prop := r.rebated = false ∧ r.nonce = none

/-- The record of a transfer to Arbitrum with a given value in dollars. -/
def sample (hash : String) (amountUsd : Float) : Record where
  hash := hash
  address := "0x00000000000000000000000000000000000000aa"
  amount := 1000
  amountUsd := amountUsd
  arbPrice := 2000
  tokenPrice := 1
  blockTime := ⟨1706788800, 0⟩
  direction := "ARB"
  module := "SynapseBridge"
  token := "USDC"
  executionId := "01HQEXEC"
  rebated := false
  nonce := none

theorem Onward.refl (r : Record) : r.Onward r := Or.inl rfl

theorem Onward.trans {r s t : Record} (h : r.Onward s) (h' : s.Onward t) : r.Onward t := by
  rcases h with rfl | ⟨unpaid, nonce, rfl⟩
  · exact h'
  · rcases h' with rfl | ⟨again, _⟩
    · exact Or.inr ⟨unpaid, nonce, rfl⟩
    · rw [isUnpaid_paid] at again
      cases again

theorem Onward.toTransfer {r s : Record} (h : r.Onward s) : s.toTransfer = r.toTransfer := by
  rcases h with rfl | ⟨_, nonce, rfl⟩ <;> rfl

theorem Onward.rebated {r s : Record} (h : r.Onward s) (paid : r.rebated = true) :
    s.rebated = true := by
  rcases h with rfl | ⟨_, nonce, rfl⟩
  · exact paid
  · rfl

/-- A sequence number stays, since only a paid record has one. -/
theorem Onward.nonce {r s : Record} (h : r.Onward s) (consistent : r.Consistent) {n : UInt64}
    (known : r.nonce = some n) : s.nonce = some n := by
  rcases h with rfl | ⟨unpaid, nonce, rfl⟩
  · exact known
  · have paid := consistent.mpr (by rw [known]; rfl)
    rw [isUnpaid, paid] at unpaid
    cases unpaid

theorem Fresh.consistent {r : Record} (h : r.Fresh) : r.Consistent := by
  simp [Consistent, h.1, h.2]

theorem Consistent.settle {r : Record} (h : r.Consistent) (payment : String → Option UInt64) :
    (r.settle payment).Consistent := by
  unfold Record.settle
  split
  · exact ⟨fun _ => rfl, fun _ => rfl⟩
  · exact h

end Record

namespace Ledger

open Record

/-- What a store does to its ledger. -/
inductive Operation where
  /-- Records are inserted. -/
  | insert (records : List Record)
  /-- The unpaid records are read. -/
  | unpaid
  /-- A record is marked paid. -/
  | markPaid (hash : String) (nonce : UInt64)

namespace Operation

/-- The records that an operation offers. -/
def inserted : Operation → List Record
  | insert records => records
  | unpaid | markPaid .. => []

end Operation

/-- The ledger after an operation. One that is refused has changed nothing. -/
def after (l : Ledger) : Operation → Ledger
  | .insert records => (l.insert records).1
  | .unpaid => l
  | .markPaid hash nonce =>
    match l.markPaid hash nonce with
    | .ok l' => l'
    | .error _ => l

/-- The ledger after operations, one after the other. -/
def run (l : Ledger) (operations : List Operation) : Ledger := operations.foldl after l

/-- The records that operations offer, in order. -/
def inserted (operations : List Operation) : List Record := operations.flatMap Operation.inserted

/-- Each record of a ledger has come to be the one at the same place of a later ledger. -/
def Onward (l l' : Ledger) : Prop :=
  ∀ (place : Nat) (r : Record), l.records[place]? = some r →
    ∃ s, l'.records[place]? = some s ∧ r.Onward s

theorem run_append (l : Ledger) (xs ys : List Operation) : l.run (xs ++ ys) = (l.run xs).run ys :=
  List.foldl_append

theorem run_cons (l : Ledger) (op : Operation) (ops : List Operation) :
    l.run (op :: ops) = (l.after op).run ops := rfl

theorem inserted_cons (op : Operation) (ops : List Operation) :
    inserted (op :: ops) = op.inserted ++ inserted ops := rfl

theorem Indexed.after {l : Ledger} (h : l.Indexed) (op : Operation) : (l.after op).Indexed := by
  cases op with
  | insert records => exact (h.insert records).1
  | unpaid => exact h
  | markPaid hash nonce =>
      by_cases owed : l.Owes hash
      · simp only [Ledger.after, h.markPaid_of_owes owed]
        exact h.settle _
      · simpa only [Ledger.after, h.markPaid_of_not_owes owed] using h

/-- Whatever the operation, it enters payments that were owed and then adds records at the end. -/
theorem Indexed.exists_settle_add {l : Ledger} (h : l.Indexed) (op : Operation) :
    ∃ payment : String → Option UInt64,
      (∀ hash nonce, payment hash = some nonce → l.Owes hash) ∧
      (l.after op).records.toList =
        Requeue.add (l.records.toList.map (Record.settle payment)) op.inserted := by
  have nothing : l.records.toList.map (Record.settle fun _ => none) = l.records.toList :=
    List.map_id'' (fun _ => rfl) _
  cases op with
  | insert records =>
      refine ⟨fun _ => none, by simp, ?_⟩
      rw [nothing]
      exact (h.insert records).2
  | unpaid => exact ⟨fun _ => none, by simp, nothing.symm⟩
  | markPaid hash nonce =>
      by_cases owed : l.Owes hash
      · refine ⟨onlyPayment hash nonce, ?_, ?_⟩
        · intro other n entered
          unfold onlyPayment at entered
          split at entered
          · rename_i same
            exact same ▸ owed
          · cases entered
        · simp only [Ledger.after, h.markPaid_of_owes owed, toList_records_settle]
          rfl
      · refine ⟨fun _ => none, by simp, ?_⟩
        simp only [Ledger.after, h.markPaid_of_not_owes owed]
        exact nothing.symm

theorem indexed_run (ops : List Operation) : (empty.run ops).Indexed := by
  suffices from_any : ∀ l : Ledger, l.Indexed → (l.run ops).Indexed from from_any _ indexed_empty
  induction ops with
  | nil => exact fun l h => h
  | cons op ops ih => exact fun l h => ih _ (h.after op)

/-- A payment that was owed is a step onward for each record. -/
theorem Indexed.onward_settle {l : Ledger} (h : l.Indexed) {payment : String → Option UInt64}
    (owed : ∀ hash nonce, payment hash = some nonce → l.Owes hash) {r : Record}
    (stored : r ∈ l.records.toList) : r.Onward (r.settle payment) := by
  cases paid : payment r.hash with
  | none => rw [settle_of_none paid]; exact .refl r
  | some nonce =>
      obtain ⟨s, other, same, unpaid⟩ := owed _ _ paid
      rw [List.inj_on_of_nodup_map h.nodup other stored same] at unpaid
      rw [settle_of_some paid]
      exact Or.inr ⟨unpaid, nonce, rfl⟩

theorem Indexed.onward_after {l : Ledger} (h : l.Indexed) (op : Operation) :
    l.Onward (l.after op) := by
  intro place r at_place
  obtain ⟨payment, owed, records⟩ := h.exists_settle_add op
  rw [← Array.getElem?_toList] at at_place
  refine ⟨r.settle payment, ?_, h.onward_settle owed (List.mem_of_getElem? at_place)⟩
  have settled : (l.records.toList.map (Record.settle payment))[place]? =
      some (r.settle payment) := by
    rw [List.getElem?_map, at_place]
    rfl
  obtain ⟨added, front⟩ :=
    Requeue.prefix_add (l.records.toList.map (Record.settle payment)) op.inserted
  rw [← Array.getElem?_toList, records, ← front,
    List.getElem?_append_left (List.getElem?_eq_some_iff.mp settled).1, settled]

/-- Nothing is removed or moved, and what is paid stays as it is. -/
theorem Indexed.onward_run {l : Ledger} (h : l.Indexed) (ops : List Operation) :
    l.Onward (l.run ops) := by
  induction ops generalizing l with
  | nil => exact fun place r at_place => ⟨r, at_place, .refl r⟩
  | cons op ops ih =>
      intro place r at_place
      obtain ⟨s, at_place, one⟩ := h.onward_after op place r at_place
      obtain ⟨t, at_place, rest⟩ := ih (h.after op) place s at_place
      exact ⟨t, at_place, one.trans rest⟩

theorem Indexed.consistent_run {l : Ledger} (h : l.Indexed) {ops : List Operation}
    (stored : ∀ r ∈ l.records.toList, r.Consistent) (offered : ∀ r ∈ inserted ops, r.Fresh) :
    ∀ r ∈ (l.run ops).records.toList, r.Consistent := by
  induction ops generalizing l with
  | nil => exact stored
  | cons op ops ih =>
      rw [inserted_cons, List.forall_mem_append] at offered
      refine ih (h.after op) ?_ offered.2
      obtain ⟨payment, _, records⟩ := h.exists_settle_add op
      intro r inside
      rw [records] at inside
      rcases Requeue.mem_add inside with inside | inside
      · obtain ⟨s, before, rfl⟩ := List.mem_map.mp inside
        exact (stored s before).settle payment
      · exact (offered.1 r inside).consistent

/-- The transfer stored under a hash is the first one that was offered with it. -/
theorem Indexed.first?_run {l : Ledger} (h : l.Indexed) (ops : List Operation) (hash : String) :
    (first? (l.run ops).records.toList hash).map Record.toTransfer =
      (first? (l.records.toList ++ inserted ops) hash).map Record.toTransfer := by
  induction ops generalizing l with
  | nil => rw [show inserted [] = [] from rfl, List.append_nil]; rfl
  | cons op ops ih =>
      obtain ⟨payment, _, records⟩ := h.exists_settle_add op
      have kept : ((first? l.records.toList hash).map (Record.settle payment)).map
          Record.toTransfer = (first? l.records.toList hash).map Record.toTransfer := by
        rw [Option.map_map]
        exact congrArg (Option.map · _) (funext fun r => toTransfer_settle payment r)
      rw [run_cons, ih (h.after op), records, inserted_cons]
      simp only [first?_append, Requeue.first?_add, first?_map_settle, Option.map_or, kept,
        Option.or_assoc]

/-- A payment that is owed is entered in the record of its hash and changes nothing else; any other
is refused under its hash. -/
theorem Indexed.markPaid_spec {l : Ledger} (h : l.Indexed) (hash : String) (nonce : UInt64) :
    ((∃ l', l.markPaid hash nonce = .ok l') ↔
      ∃ r ∈ l.records.toList, r.hash = hash ∧ r.rebated = false) ∧
    (∀ l', l.markPaid hash nonce = .ok l' → l'.index = l.index ∧
      ∀ place : Nat, l'.records[place]? = l.records[place]?.map fun r =>
        if r.hash = hash then { r with rebated := true, nonce := some nonce } else r) ∧
    (∀ e, l.markPaid hash nonce = .error e →
      e = .notUpdated hash ∧ l.after (.markPaid hash nonce) = l) := by
  have owes_iff : l.Owes hash ↔ ∃ r ∈ l.records.toList, r.hash = hash ∧ r.rebated = false := by
    simp [Owes, Record.isUnpaid]
  rw [← owes_iff]
  by_cases owed : l.Owes hash
  · rw [h.markPaid_of_owes owed]
    refine ⟨⟨fun _ => owed, fun _ => ⟨_, rfl⟩⟩, ?_, fun e refused => by cases refused⟩
    intro l' entered
    obtain rfl := Except.ok.inj entered
    refine ⟨rfl, fun place => ?_⟩
    simp only [Ledger.settle, Array.getElem?_map]
    refine congrArg (Option.map · _) (funext fun r => ?_)
    by_cases same : r.hash = hash
    · rw [settle_of_some (if_pos same), if_pos same]
      rfl
    · rw [settle_of_none (if_neg same), if_neg same]
  · have refused := h.markPaid_of_not_owes owed nonce
    rw [refused]
    refine ⟨⟨?_, fun owes => absurd owes owed⟩, ?_, ?_⟩
    · rintro ⟨l', entered⟩
      cases entered
    · intro l' entered
      cases entered
    · intro e same
      cases same
      exact ⟨rfl, by simp only [Ledger.after, refused]⟩

/-- What holds of a store that starts out empty and is offered records of rebates that are still
owed, whatever is done to it in whatever order. No hash is stored twice, and the index leads from
each stored hash to the place of its record and from nothing else. A record is paid exactly when
it has a sequence number. Records stay where they are and keep their transfers, which are the
first ones that were offered with their hashes; a payment stays, and so does its number. A record
is marked paid exactly when its hash is stored and unpaid, and a refusal changes nothing. -/
theorem stored_once_and_paid_once (operations : List Operation)
    (fresh : ∀ r ∈ inserted operations, r.Fresh) :
    let l := empty.run operations
    (hashes l.records.toList).Nodup ∧
    (∀ hash place, l.index[hash]? = some place ↔
      ∃ r : Record, l.records[place]? = some r ∧ r.hash = hash) ∧
    (∀ r ∈ l.records.toList, r.rebated = true ↔ ∃ nonce, r.nonce = some nonce) ∧
    (∀ earlier later, operations = earlier ++ later →
      ∀ (place : Nat) (r : Record), (empty.run earlier).records[place]? = some r →
        ∃ s : Record, l.records[place]? = some s ∧ s.toTransfer = r.toTransfer ∧
          (r.rebated = true → s.rebated = true) ∧
          ∀ nonce, r.nonce = some nonce → s.nonce = some nonce) ∧
    (∀ hash, (l.get? hash).map Record.toTransfer =
      (first? (inserted operations) hash).map Record.toTransfer) ∧
    ∀ hash nonce,
      ((∃ l', l.markPaid hash nonce = .ok l') ↔
        ∃ r ∈ l.records.toList, r.hash = hash ∧ r.rebated = false) ∧
      (∀ l', l.markPaid hash nonce = .ok l' → l'.index = l.index ∧
        ∀ place : Nat, l'.records[place]? = l.records[place]?.map fun r =>
          if r.hash = hash then { r with rebated := true, nonce := some nonce } else r) ∧
      (∀ e, l.markPaid hash nonce = .error e →
        e = .notUpdated hash ∧ l.after (.markPaid hash nonce) = l) := by
  intro l
  have indexed := indexed_run operations
  have nothing : ∀ r ∈ empty.records.toList, r.Consistent := by simp [empty]
  refine ⟨indexed.nodup, indexed, ?_, ?_, ?_, fun hash nonce => indexed.markPaid_spec hash nonce⟩
  · intro r stored
    exact Iff.trans (indexed_empty.consistent_run nothing fresh r stored) Option.isSome_iff_exists
  · rintro earlier later rfl place r at_place
    have offered : ∀ r ∈ inserted earlier, r.Fresh := fun r h =>
      fresh r (by rw [inserted, List.flatMap_append]; exact List.mem_append_left _ h)
    have stored := Array.mem_toList_iff.mpr (Array.mem_of_getElem? at_place)
    obtain ⟨s, at_place, onward⟩ := (indexed_run earlier).onward_run later place r at_place
    rw [← run_append] at at_place
    have consistent := indexed_empty.consistent_run nothing offered r stored
    exact ⟨s, at_place, onward.toTransfer, onward.rebated, fun nonce => onward.nonce consistent⟩
  · intro hash
    rw [indexed.get?_eq, indexed_empty.first?_run]
    rfl

/-- A hash that comes again, in its own batch and after its payment, keeps the transfer that came
first. -/
theorem stored_once_and_paid_once_of_repeated_hash :
    let operations := [
      .insert [.sample "0x01" 1000, .sample "0x02" 500, .sample "0x01" 7],
      .markPaid "0x01" 42, .insert [.sample "0x01" 9], .unpaid, .markPaid "0x01" 43]
    (∀ r ∈ inserted operations, r.Fresh) ∧
    (hashes (empty.run operations).records.toList).Nodup ∧
    ((empty.run operations).get? "0x01").map Record.toTransfer =
      some (Record.sample "0x01" 1000).toTransfer := by
  intro operations
  have fresh : ∀ r ∈ inserted operations, r.Fresh := by
    simp [operations, inserted, Operation.inserted, Record.Fresh, Record.sample]
  obtain ⟨distinct, _, _, _, first, _⟩ := stored_once_and_paid_once operations fresh
  exact ⟨fresh, distinct, (first "0x01").trans (by rfl)⟩

end Ledger

end RebateRelay
