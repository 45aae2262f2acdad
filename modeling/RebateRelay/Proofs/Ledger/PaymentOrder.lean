import RebateRelay.Proofs.Ledger.History

/-!
# The order of payment

Unpaid records are read by time, and by hash at the same time. No hash is stored twice, so of two
stored records one always comes before the other, and there is only one way to list them. What is
read therefore shows which records are owed for, and nothing of the way in which they came to be
stored: not the order of the inserts, not how they were divided, not what has been paid in between.
-/

namespace RebateRelay

/-- A record comes before another in the order of payment: it landed earlier, or at the same time
with the lesser hash. -/
def Record.Precedes (a b : Record) : Prop :=
  a.blockTime < b.blockTime ∨ a.blockTime = b.blockTime ∧ a.hash < b.hash

namespace Record

theorem Precedes.asymm {a b : Record} (h : a.Precedes b) : ¬b.Precedes a := by
  rintro (later | ⟨same, greater⟩)
  · rcases h with earlier | ⟨same, _⟩
    · exact Timestamp.lt_asymm earlier later
    · exact Timestamp.lt_irrefl _ (same ▸ later)
  · rcases h with earlier | ⟨_, lesser⟩
    · exact Timestamp.lt_irrefl _ (same ▸ earlier)
    · exact String.lt_asymm lesser greater

end Record

namespace Ledger

open Record

theorem payBefore_iff {a b : Record} :
    payBefore a b = true ↔
      a.blockTime < b.blockTime ∨ a.blockTime = b.blockTime ∧ a.hash ≤ b.hash := by
  unfold payBefore
  rcases Timestamp.lt_or_eq_or_gt a.blockTime b.blockTime with earlier | same | later
  · simp [earlier]
  · simp [same, Timestamp.lt_irrefl]
  · have other : a.blockTime ≠ b.blockTime := fun same => Timestamp.lt_irrefl _ (same ▸ later)
    simp [later, Timestamp.lt_asymm later, other]

theorem payBefore_trans (a b c : Record) (first : payBefore a b = true)
    (second : payBefore b c = true) : payBefore a c = true := by
  rw [payBefore_iff] at *
  rcases first with earlier | ⟨same, lesser⟩
  · rcases second with earlier' | ⟨same', _⟩
    · exact Or.inl (Timestamp.lt_trans earlier earlier')
    · exact Or.inl (same' ▸ earlier)
  · rcases second with earlier' | ⟨same', lesser'⟩
    · exact Or.inl (same ▸ earlier')
    · exact Or.inr ⟨same.trans same', String.le_trans lesser lesser'⟩

theorem payBefore_total (a b : Record) : (payBefore a b || payBefore b a) = true := by
  rw [Bool.or_eq_true, payBefore_iff, payBefore_iff]
  rcases Timestamp.lt_or_eq_or_gt a.blockTime b.blockTime with earlier | same | later
  · exact Or.inl (Or.inl earlier)
  · exact (String.le_total a.hash b.hash).imp (fun le => Or.inr ⟨same, le⟩)
      fun le => Or.inr ⟨same.symm, le⟩
  · exact Or.inr (Or.inl later)

namespace Indexed

variable {l l' : Ledger} (h : l.Indexed)
include h

/-- Of two unpaid records the one that is read first comes before the other. -/
theorem pairwise_unpaid : l.unpaid.Pairwise Precedes := by
  have sorted : l.unpaid.Pairwise fun a b => payBefore a b = true :=
    List.pairwise_mergeSort payBefore_trans payBefore_total _
  have distinct : l.unpaid.Pairwise fun a b => a.hash ≠ b.hash :=
    List.pairwise_map.mp h.nodup_unpaid
  refine (sorted.and distinct).imp ?_
  rintro a b ⟨before, other⟩
  refine (payBefore_iff.mp before).imp_right ?_
  rintro ⟨same, le⟩
  exact ⟨same, Std.lt_of_le_of_ne le other⟩

/-- What is read is determined by the unpaid records. -/
theorem unpaid_eq_iff (h' : l'.Indexed) :
    l.unpaid = l'.unpaid ↔
      ∀ r : Record, r.rebated = false → (r ∈ l.records.toList ↔ r ∈ l'.records.toList) := by
  have unpaid_iff (r : Record) : r.isUnpaid = true ↔ r.rebated = false := by simp [isUnpaid]
  constructor
  · intro same r unpaid
    have read : r ∈ l.unpaid ↔ r ∈ l'.unpaid := by rw [same]
    simpa [mem_unpaid, unpaid_iff, unpaid] using read
  · intro same
    refine List.Perm.eq_of_pairwise (fun a b _ _ before after => absurd after before.asymm)
      h.pairwise_unpaid h'.pairwise_unpaid ?_
    rw [List.perm_ext_iff_of_nodup h.nodup_unpaid.of_map h'.nodup_unpaid.of_map]
    intro r
    rw [mem_unpaid, mem_unpaid, unpaid_iff]
    exact and_congr_left (same r)

end Indexed

/-- What is read of a store that started out empty, after any operations. The list holds the unpaid
records and no others, each hash once, every record before those that come after it in the order of
payment. Two stores give the same list exactly when they hold the same unpaid records, however each
of them came by its own. And a read leaves no trace in what follows. -/
theorem unpaid_listed_in_order (operations : List Operation) :
    let l := empty.run operations
    (∀ r, r ∈ l.unpaid ↔ r ∈ l.records.toList ∧ r.rebated = false) ∧
    (hashes l.unpaid).Nodup ∧ l.unpaid.Pairwise Precedes ∧
    (∀ operations', let l' := empty.run operations'
      l.unpaid = l'.unpaid ↔
        ∀ r : Record, r.rebated = false → (r ∈ l.records.toList ↔ r ∈ l'.records.toList)) ∧
    ∀ later, empty.run (operations ++ .unpaid :: later) = empty.run (operations ++ later) := by
  intro l
  have indexed : l.Indexed := indexed_run operations
  refine ⟨fun r => ?_, indexed.nodup_unpaid, indexed.pairwise_unpaid,
    fun operations' => indexed.unpaid_eq_iff (indexed_run operations'), fun later => ?_⟩
  · rw [mem_unpaid, isUnpaid, Bool.not_eq_true']
  · rw [run_append, run_append, run_cons]
    rfl

end Ledger

end RebateRelay
