import RebateRelay.Ledger.Store
import RebateRelay.Proofs.Ledger.FirstWins

/-!
# The index of a ledger

A ledger is a list of records and an index into it. The two agree when the index leads from a hash
to the place of the record with that hash and to nothing else; then no hash is stored twice, and
every operation can be said of the list of records alone. Inserting adds the first record of each
new hash at the end. Marking a record paid enters its payment at the one place where its hash is,
and is refused when no unpaid record has the hash.
-/

namespace RebateRelay

namespace Record

/-- The record with the payment of its hash entered, if there is one. -/
def settle (payment : String → Option UInt64) (r : Record) : Record :=
  match payment r.hash with
  | some nonce => r.paid nonce
  | none => r

variable (payment : String → Option UInt64) (r : Record)

@[simp] theorem toTransfer_settle : (r.settle payment).toTransfer = r.toTransfer := by
  unfold settle
  split <;> rfl

theorem hash_settle : (r.settle payment).hash = r.hash := by rw [toTransfer_settle]

theorem settle_of_none {payment : String → Option UInt64} {r : Record}
    (h : payment r.hash = none) : r.settle payment = r := by
  unfold settle
  rw [h]

theorem settle_of_some {payment : String → Option UInt64} {r : Record} {nonce : UInt64}
    (h : payment r.hash = some nonce) : r.settle payment = r.paid nonce := by
  unfold settle
  rw [h]

/-- Payments of different hashes can be entered at once. -/
theorem settle_settle {payment other : String → Option UInt64} (r : Record)
    (apart : ∀ hash nonce, other hash = some nonce → payment hash = none) :
    (r.settle payment).settle other = r.settle fun hash => (payment hash).or (other hash) := by
  cases first : payment r.hash with
  | none =>
      rw [settle_of_none first]
      simp only [settle, first, Option.none_or]
  | some nonce =>
      have nothing : other r.hash = none := by
        by_contra second
        obtain ⟨n, second⟩ := Option.ne_none_iff_exists'.mp second
        rw [apart r.hash n second] at first
        cases first
      rw [settle_of_none (by rwa [hash_settle]), settle_of_some first]
      simp only [settle, first, Option.some_or]

theorem hashes_map_settle (records : List Record) :
    hashes (records.map (settle payment)) = hashes records := by
  rw [hashes, List.map_map]
  exact List.map_congr_left fun r _ => hash_settle payment r

theorem first?_map_settle (records : List Record) (hash : String) :
    first? (records.map (settle payment)) hash = (first? records hash).map (settle payment) := by
  have same : (fun r : Record => r.hash == hash) ∘ settle payment = fun r => r.hash == hash := by
    funext r
    rw [Function.comp_apply, hash_settle]
  rw [first?, first?, List.find?_map, same]

end Record

namespace Ledger

open Record

/-- The index leads from each stored hash to the place of its record, and from nothing else. -/
def Indexed (l : Ledger) : Prop :=
  ∀ hash place, l.index[hash]? = some place ↔
    ∃ r : Record, l.records[place]? = some r ∧ r.hash = hash

/-- A rebate is owed for a hash: an unpaid record has it. -/
def Owes (l : Ledger) (hash : String) : Prop :=
  ∃ r ∈ l.records.toList, r.hash = hash ∧ r.isUnpaid = true

/-- The ledger with payments entered in the records of their hashes. -/
def settle (l : Ledger) (payment : String → Option UInt64) : Ledger :=
  { l with records := l.records.map (Record.settle payment) }

/-- The payments that consist of one. -/
def onlyPayment (hash : String) (nonce : UInt64) (h : String) : Option UInt64 :=
  if h = hash then some nonce else none

@[simp] theorem index_settle (l : Ledger) (payment : String → Option UInt64) :
    (l.settle payment).index = l.index := rfl

@[simp] theorem toList_records_settle (l : Ledger) (payment : String → Option UInt64) :
    (l.settle payment).records.toList = l.records.toList.map (Record.settle payment) :=
  Array.toList_map

theorem settle_none (l : Ledger) : (l.settle fun _ => none) = l := by
  have same : Record.settle (fun _ => none) = id := rfl
  rw [settle, same, Array.map_id]

theorem settle_settle (l : Ledger) {payment other : String → Option UInt64}
    (apart : ∀ hash nonce, other hash = some nonce → payment hash = none) :
    (l.settle payment).settle other =
      l.settle fun hash => (payment hash).or (other hash) := by
  simp only [settle, Array.map_map]
  congr 2
  exact funext fun r => Record.settle_settle r apart

theorem indexed_empty : empty.Indexed := by
  intro hash place
  simp [empty]

namespace Indexed

variable {l : Ledger} (h : l.Indexed)
include h

/-- No hash is stored twice. -/
theorem nodup : (hashes l.records.toList).Nodup := by
  rw [hashes, List.nodup_iff_getElem?_ne_getElem?]
  intro i j before inside same
  rw [List.length_map, Array.length_toList] at inside
  simp only [List.getElem?_map, Array.getElem?_toList, Array.getElem?_eq_getElem inside,
    Option.map_some, Option.map_eq_some_iff] at same
  -- Both places are the one that the index has for the hash.
  have first := (h _ i).mpr same
  have second := (h _ j).mpr ⟨_, Array.getElem?_eq_getElem inside, rfl⟩
  rw [first] at second
  exact absurd (Option.some.inj second) (Nat.ne_of_lt before)

theorem contains_iff {hash : String} :
    l.contains hash = true ↔ hash ∈ hashes l.records.toList := by
  rw [contains, Std.HashMap.contains_eq_isSome_getElem?, Option.isSome_iff_exists, mem_hashes]
  constructor
  · rintro ⟨place, indexed⟩
    obtain ⟨r, at_place, same⟩ := (h hash place).mp indexed
    exact ⟨r, Array.mem_toList_iff.mpr (Array.mem_of_getElem? at_place), same⟩
  · rintro ⟨r, stored, same⟩
    obtain ⟨place, at_place⟩ := List.getElem?_of_mem stored
    exact ⟨place, (h hash place).mpr ⟨r, by simpa using at_place, same⟩⟩

/-- Looking a hash up finds the record that has it. -/
theorem get?_eq (hash : String) : l.get? hash = first? l.records.toList hash := by
  unfold get?
  cases indexed : l.index[hash]? with
  | some place =>
      obtain ⟨r, at_place, rfl⟩ := (h hash place).mp indexed
      rw [Option.bind_some, at_place, first?_of_mem h.nodup]
      exact Array.mem_toList_iff.mpr (Array.mem_of_getElem? at_place)
  | none =>
      have absent : hash ∉ hashes l.records.toList := by
        rw [← h.contains_iff, contains, Std.HashMap.contains_eq_isSome_getElem?, indexed]
        simp
      rw [Option.bind_none, first?_eq_none.mpr absent]

theorem push {r : Record} (new : r.hash ∉ hashes l.records.toList) : (l.push r).Indexed := by
  have fresh : ∀ (place : Nat) (s : Record), l.records[place]? = some s → s.hash ≠ r.hash := by
    intro place s at_place same
    have stored := Array.mem_toList_iff.mpr (Array.mem_of_getElem? at_place)
    exact new (same ▸ hash_mem_hashes stored)
  intro hash place
  simp only [Ledger.push, Std.HashMap.getElem?_insert, Array.getElem?_push, beq_iff_eq]
  by_cases same : r.hash = hash
  · -- The new hash is known at the new place only.
    rw [if_pos same, Option.some.injEq]
    constructor
    · rintro rfl
      exact ⟨r, if_pos rfl, same⟩
    · rintro ⟨s, at_place, hs⟩
      by_contra other
      rw [if_neg fun e => other e.symm] at at_place
      exact fresh place s at_place (hs.trans same.symm)
  · rw [if_neg same, h hash place]
    constructor
    · rintro ⟨s, at_place, hs⟩
      have inside := (Array.getElem?_eq_some_iff.mp at_place).1
      exact ⟨s, by rwa [if_neg (Nat.ne_of_lt inside)], hs⟩
    · rintro ⟨s, at_place, hs⟩
      split at at_place
      · exact absurd ((Option.some.inj at_place) ▸ hs) same
      · exact ⟨s, at_place, hs⟩

/-- Inserting a record adds it at the end unless its hash is stored. -/
theorem insertOne (r : Record) (n : Nat) :
    (Ledger.insertOne (l, n) r).1.Indexed ∧
      (Ledger.insertOne (l, n) r).1.records.toList = Requeue.addOne l.records.toList r := by
  unfold Ledger.insertOne
  by_cases stored : r.hash ∈ hashes l.records.toList
  · rw [if_pos (h.contains_iff.mpr stored), Requeue.addOne_of_mem stored]
    exact ⟨h, rfl⟩
  · rw [if_neg fun c => stored (h.contains_iff.mp c), Requeue.addOne_of_not_mem stored]
    exact ⟨h.push stored, Array.toList_push⟩

/-- Inserting records adds the first one of each new hash at the end. -/
theorem insert (records : List Record) :
    (l.insert records).1.Indexed ∧
      (l.insert records).1.records.toList = Requeue.add l.records.toList records := by
  suffices fold : ∀ (state : Ledger × Nat), state.1.Indexed →
      (records.foldl Ledger.insertOne state).1.Indexed ∧
      (records.foldl Ledger.insertOne state).1.records.toList =
        Requeue.add state.1.records.toList records from fold (l, 0) h
  induction records with
  | nil => exact fun state indexed => ⟨indexed, rfl⟩
  | cons r records ih =>
      rintro ⟨state, n⟩ indexed
      obtain ⟨indexed', one⟩ := indexed.insertOne r n
      obtain ⟨indexed'', rest⟩ := ih _ indexed'
      exact ⟨indexed'', by rw [List.foldl_cons, rest, one, Requeue.add_cons]⟩

theorem insertOne_settle {payment : String → Option UInt64}
    (stored : ∀ hash nonce, payment hash = some nonce → hash ∈ hashes l.records.toList)
    (r : Record) (n : Nat) :
    Ledger.insertOne (l.settle payment, n) r =
      ((Ledger.insertOne (l, n) r).1.settle payment, (Ledger.insertOne (l, n) r).2) := by
  unfold Ledger.insertOne
  have same : (l.settle payment).contains r.hash = l.contains r.hash := rfl
  cases known : l.contains r.hash with
  | true => simp only [same, known, if_true]
  | false =>
      have nothing : payment r.hash = none := by
        by_contra paid
        obtain ⟨nonce, paid⟩ := Option.ne_none_iff_exists'.mp paid
        rw [h.contains_iff.mpr (stored _ _ paid)] at known
        cases known
      simp only [same, known, Bool.false_eq_true, if_false]
      simp [Ledger.push, Ledger.settle, settle_of_none nothing]

/-- Records come in the same way before and after payments of what is stored. -/
theorem insert_settle {payment : String → Option UInt64}
    (stored : ∀ hash nonce, payment hash = some nonce → hash ∈ hashes l.records.toList)
    (records : List Record) :
    ((l.settle payment).insert records).1 = (l.insert records).1.settle payment := by
  suffices fold : ∀ (l : Ledger) (n : Nat), l.Indexed →
      (∀ hash nonce, payment hash = some nonce → hash ∈ hashes l.records.toList) →
      (records.foldl Ledger.insertOne (l.settle payment, n)).1 =
        (records.foldl Ledger.insertOne (l, n)).1.settle payment from fold l 0 h stored
  induction records with
  | nil => exact fun l n indexed known => rfl
  | cons r records ih =>
      intro l n indexed known
      obtain ⟨indexed', one⟩ := indexed.insertOne r n
      rw [List.foldl_cons, List.foldl_cons, indexed.insertOne_settle known]
      refine ih _ _ indexed' fun hash nonce paid => ?_
      rw [one, Requeue.mem_hashes_addOne]
      exact Or.inl (known hash nonce paid)

theorem settle (payment : String → Option UInt64) : (l.settle payment).Indexed := by
  intro hash place
  rw [index_settle, h hash place]
  simp only [Ledger.settle, Array.getElem?_map, Option.map_eq_some_iff]
  constructor
  · rintro ⟨r, at_place, same⟩
    exact ⟨_, ⟨r, at_place, rfl⟩, by rw [hash_settle, same]⟩
  · rintro ⟨_, ⟨r, at_place, rfl⟩, same⟩
    exact ⟨r, at_place, by rw [← same, hash_settle]⟩

/-- Entering a payment at the place of its hash enters it wherever the hash is. -/
theorem setIfInBounds_paid {place : Nat} {r : Record} (at_place : l.records[place]? = some r)
    (nonce : UInt64) :
    l.records.setIfInBounds place (r.paid nonce) =
      (l.settle (onlyPayment r.hash nonce)).records := by
  have inside := (Array.getElem?_eq_some_iff.mp at_place).1
  apply Array.ext_getElem?
  intro i
  simp only [Ledger.settle, Array.getElem?_map, Array.getElem?_setIfInBounds]
  by_cases same : place = i
  · rw [if_pos same, if_pos inside, ← same, at_place, Option.map_some,
      settle_of_some (if_pos rfl)]
  · rw [if_neg same]
    cases other : l.records[i]? with
    | none => rfl
    | some s =>
        have hash_ne : s.hash ≠ r.hash := by
          intro e
          have first := (h r.hash place).mpr ⟨r, at_place, rfl⟩
          rw [(h r.hash i).mpr ⟨s, other, e⟩] at first
          exact same (Option.some.inj first).symm
        rw [Option.map_some, settle_of_none (if_neg hash_ne)]

/-- A payment is entered if its rebate is owed. -/
theorem markPaid_of_owes {hash : String} (owed : l.Owes hash) (nonce : UInt64) :
    l.markPaid hash nonce = .ok (l.settle (onlyPayment hash nonce)) := by
  obtain ⟨r, stored, rfl, unpaid⟩ := owed
  obtain ⟨place, at_place⟩ := List.getElem?_of_mem stored
  rw [Array.getElem?_toList] at at_place
  have marked : r.mark? nonce = some (r.paid nonce) := by
    simpa [Record.mark?, Record.isUnpaid] using unpaid
  have indexed := (h r.hash place).mpr ⟨r, at_place, rfl⟩
  simp only [markPaid, indexed, at_place, bind, Option.bind_some, marked,
    h.setIfInBounds_paid at_place]
  rfl

/-- A payment is refused if its rebate is not owed. -/
theorem markPaid_of_not_owes {hash : String} (owed : ¬ l.Owes hash) (nonce : UInt64) :
    l.markPaid hash nonce = .error (.notUpdated hash) := by
  unfold markPaid
  cases indexed : l.index[hash]? with
  | none => rfl
  | some place =>
      obtain ⟨r, at_place, same⟩ := (h hash place).mp indexed
      have paid : r.mark? nonce = none := by
        have stored := Array.mem_toList_iff.mpr (Array.mem_of_getElem? at_place)
        have := fun unpaid => owed ⟨r, stored, same, unpaid⟩
        simpa [Record.mark?, Record.isUnpaid] using this
      simp [at_place, paid]

end Indexed

theorem mem_unpaid {l : Ledger} {r : Record} :
    r ∈ l.unpaid ↔ r ∈ l.records.toList ∧ r.isUnpaid = true := by
  rw [unpaid, List.mem_mergeSort, List.mem_filter]

/-- The unpaid records are read once each. -/
theorem Indexed.nodup_unpaid {l : Ledger} (h : l.Indexed) : (hashes l.unpaid).Nodup := by
  have sorted := (List.mergeSort_perm (l.records.toList.filter Record.isUnpaid) payBefore).map
    fun r : Record => r.hash
  exact sorted.nodup_iff.mpr (h.nodup.sublist (List.filter_sublist.map _))

/-- What is owed stays owed when records are inserted. -/
theorem Indexed.owes_insert {l : Ledger} (h : l.Indexed) (records : List Record) {hash : String}
    (owed : l.Owes hash) : (l.insert records).1.Owes hash := by
  obtain ⟨r, stored, same, unpaid⟩ := owed
  refine ⟨r, ?_, same, unpaid⟩
  rw [(h.insert records).2]
  exact (Requeue.prefix_add _ _).subset stored

/-- What payments change is only what is owed. -/
theorem owes_settle {l : Ledger} {payment : String → Option UInt64} {hash : String} :
    (l.settle payment).Owes hash ↔ l.Owes hash ∧ payment hash = none := by
  unfold Owes
  rw [toList_records_settle]
  constructor
  · rintro ⟨_, stored, same, unpaid⟩
    obtain ⟨r, inside, rfl⟩ := List.mem_map.mp stored
    rw [hash_settle] at same
    cases paid : payment r.hash with
    | some nonce =>
        rw [settle_of_some paid, isUnpaid_paid] at unpaid
        cases unpaid
    | none =>
        rw [settle_of_none paid] at unpaid
        exact ⟨⟨r, inside, same, unpaid⟩, same ▸ paid⟩
  · rintro ⟨⟨r, stored, same, unpaid⟩, none⟩
    refine ⟨r.settle payment, List.mem_map_of_mem stored, by rw [hash_settle, same], ?_⟩
    rwa [settle_of_none (same.symm ▸ none)]

end Ledger

end RebateRelay
