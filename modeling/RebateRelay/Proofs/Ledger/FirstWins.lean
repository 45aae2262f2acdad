import Mathlib.Data.Finset.Card
import RebateRelay.Ingest.Requeue

/-!
# The first record of each hash

Storing records and parking them follow one rule: a record is added at the end unless a record with
its hash is there already. The lemmas say what adding records one after the other comes to. Which
hashes are there in the end, which record stands for each of them, and that what was there before
stays in front. In one equation: what is added is the first record of each hash that was not there.
-/

namespace RebateRelay

namespace Record

/-- The hashes of records, in order. -/
def hashes (records : List Record) : List String := records.map fun r => r.hash

/-- The first record with a hash. -/
def first? (records : List Record) (hash : String) : Option Record :=
  records.find? fun r => r.hash == hash

@[simp] theorem hashes_nil : hashes [] = [] := rfl

@[simp] theorem hashes_cons (r : Record) (records : List Record) :
    hashes (r :: records) = r.hash :: hashes records := rfl

@[simp] theorem hashes_append (xs ys : List Record) :
    hashes (xs ++ ys) = hashes xs ++ hashes ys := List.map_append

theorem length_hashes (records : List Record) : (hashes records).length = records.length :=
  List.length_map _

theorem mem_hashes {records : List Record} {hash : String} :
    hash ∈ hashes records ↔ ∃ r ∈ records, r.hash = hash := List.mem_map

theorem hash_mem_hashes {records : List Record} {r : Record} (h : r ∈ records) :
    r.hash ∈ hashes records := mem_hashes.mpr ⟨r, h, rfl⟩

theorem first?_append (xs ys : List Record) (hash : String) :
    first? (xs ++ ys) hash = (first? xs hash).or (first? ys hash) := List.find?_append

theorem first?_eq_none {records : List Record} {hash : String} :
    first? records hash = none ↔ hash ∉ hashes records := by
  simp [first?, mem_hashes]

theorem mem_of_first? {records : List Record} {hash : String} {r : Record}
    (h : first? records hash = some r) : r ∈ records ∧ r.hash = hash :=
  ⟨List.mem_of_find?_eq_some h, by simpa using List.find?_some h⟩

/-- The records that come first with their hashes, in order. -/
def firsts : List Record → List Record
  | [] => []
  | r :: records => r :: (firsts records).filter fun s => s.hash ≠ r.hash

theorem first?_of_mem {records : List Record} (distinct : (hashes records).Nodup)
    {r : Record} (hr : r ∈ records) : first? records r.hash = some r := by
  cases h : first? records r.hash with
  | none => exact absurd (hash_mem_hashes hr) (first?_eq_none.mp h)
  | some s =>
      obtain ⟨hs, same⟩ := mem_of_first? h
      rw [List.inj_on_of_nodup_map distinct hs hr same]

end Record

namespace Requeue

open Record

theorem holds_iff {queue : List Record} {hash : String} :
    holds queue hash = true ↔ hash ∈ hashes queue := by
  simp [holds, mem_hashes]

theorem addOne_of_mem {queue : List Record} {r : Record} (h : r.hash ∈ hashes queue) :
    addOne queue r = queue := if_pos (holds_iff.mpr h)

theorem addOne_of_not_mem {queue : List Record} {r : Record} (h : r.hash ∉ hashes queue) :
    addOne queue r = queue ++ [r] := if_neg fun held => h (holds_iff.mp held)

theorem mem_hashes_addOne {queue : List Record} {r : Record} {hash : String} :
    hash ∈ hashes (addOne queue r) ↔ hash ∈ hashes queue ∨ hash = r.hash := by
  by_cases h : r.hash ∈ hashes queue
  · rw [addOne_of_mem h]
    exact ⟨Or.inl, fun either => either.elim id fun same => same ▸ h⟩
  · simp [addOne_of_not_mem h]

theorem nodup_addOne {queue : List Record} (distinct : (hashes queue).Nodup) (r : Record) :
    (hashes (addOne queue r)).Nodup := by
  by_cases h : r.hash ∈ hashes queue
  · rwa [addOne_of_mem h]
  · rw [addOne_of_not_mem h, hashes_append, List.nodup_append]
    refine ⟨distinct, by simp, ?_⟩
    rintro hash stored other added rfl
    simp only [hashes_cons, hashes_nil, List.mem_singleton] at added
    exact h (added ▸ stored)

theorem first?_addOne (queue : List Record) (r : Record) (hash : String) :
    first? (addOne queue r) hash = first? (queue ++ [r]) hash := by
  by_cases h : r.hash ∈ hashes queue
  · -- The record is left out, and the one that it would come after answers for its hash.
    rw [addOne_of_mem h, first?_append]
    cases found : first? queue hash with
    | some s => rfl
    | none =>
        have other : r.hash ≠ hash := fun same => first?_eq_none.mp found (same ▸ h)
        simp [first?, other]
  · rw [addOne_of_not_mem h]

@[simp] theorem add_nil (queue : List Record) : add queue [] = queue := rfl

@[simp] theorem add_cons (queue : List Record) (r : Record) (records : List Record) :
    add queue (r :: records) = add (addOne queue r) records := rfl

/-- What was there stays in front. -/
theorem prefix_add (queue records : List Record) : queue <+: add queue records := by
  induction records generalizing queue with
  | nil => exact List.prefix_refl queue
  | cons r records ih =>
      have one : queue <+: addOne queue r := by
        unfold addOne
        split
        · exact List.prefix_refl queue
        · exact List.prefix_append queue [r]
      exact one.trans (ih (addOne queue r))

/-- Nothing is there but what was there before and what was added. -/
theorem mem_add {queue records : List Record} {r : Record} (h : r ∈ add queue records) :
    r ∈ queue ∨ r ∈ records := by
  induction records generalizing queue with
  | nil => exact Or.inl h
  | cons s records ih =>
      rcases ih h with h | h
      · unfold addOne at h
        split at h
        · exact Or.inl h
        · rcases List.mem_append.mp h with h | h
          · exact Or.inl h
          · rw [List.mem_singleton.mp h]
            exact Or.inr List.mem_cons_self
      · exact Or.inr (List.mem_cons_of_mem s h)

/-- Every hash is there that was there before or was added. -/
theorem mem_hashes_add {queue records : List Record} {hash : String} :
    hash ∈ hashes (add queue records) ↔ hash ∈ hashes queue ∨ hash ∈ hashes records := by
  induction records generalizing queue with
  | nil => simp
  | cons r records ih =>
      rw [add_cons, ih, mem_hashes_addOne, hashes_cons, List.mem_cons, or_assoc]

theorem nodup_add {queue : List Record} (distinct : (hashes queue).Nodup)
    (records : List Record) : (hashes (add queue records)).Nodup := by
  induction records generalizing queue with
  | nil => exact distinct
  | cons r records ih => exact ih (nodup_addOne distinct r)

/-- The record that stands for a hash is the first one of all that were offered. -/
theorem first?_add (queue records : List Record) (hash : String) :
    first? (add queue records) hash = first? (queue ++ records) hash := by
  induction records generalizing queue with
  | nil => rw [add_nil, List.append_nil]
  | cons r records ih =>
      rw [add_cons, ih, first?_append, first?_addOne, ← first?_append, List.append_assoc]
      rfl

theorem add_append (queue xs ys : List Record) : add queue (xs ++ ys) = add (add queue xs) ys :=
  List.foldl_append

/-- What is added is the first record of each hash that is not there. -/
theorem add_eq (queue records : List Record) :
    add queue records = queue ++ (firsts records).filter fun r => r.hash ∉ hashes queue := by
  induction records generalizing queue with
  | nil => exact (List.append_nil queue).symm
  | cons r records ih =>
      rw [add_cons, ih, firsts]
      by_cases known : r.hash ∈ hashes queue
      · rw [addOne_of_mem known, List.filter_cons_of_neg (by simpa using known), List.filter_filter]
        refine congrArg _ (List.filter_congr fun s _ => ?_)
        by_cases there : s.hash ∈ hashes queue
        · simp [there]
        · have other : s.hash ≠ r.hash := fun same => there (same ▸ known)
          simp [there, other]
      · rw [addOne_of_not_mem known, List.filter_cons_of_pos (by simpa using known),
          List.filter_filter, List.append_assoc, List.singleton_append]
        refine congrArg (queue ++ r :: ·) (List.filter_congr fun s _ => ?_)
        simp [not_or]

/-- Added to nothing, records come to the first of each hash. -/
theorem add_nil_left (records : List Record) : add [] records = firsts records := by
  rw [add_eq, List.nil_append, List.filter_eq_self]
  simp

end Requeue

namespace Record

theorem mem_hashes_firsts {records : List Record} {hash : String} :
    hash ∈ hashes (firsts records) ↔ hash ∈ hashes records := by
  rw [← Requeue.add_nil_left, Requeue.mem_hashes_add]
  simp

theorem nodup_firsts (records : List Record) : (hashes (firsts records)).Nodup := by
  have none : (hashes []).Nodup := List.nodup_nil
  exact Requeue.add_nil_left records ▸ Requeue.nodup_add none records

theorem mem_of_mem_firsts {records : List Record} {r : Record} (first : r ∈ firsts records) :
    r ∈ records := by
  rw [← Requeue.add_nil_left] at first
  exact (Requeue.mem_add first).resolve_left List.not_mem_nil

/-- Among records of different hashes each comes first. -/
theorem firsts_of_nodup {records : List Record} (distinct : (hashes records).Nodup) :
    firsts records = records := by
  induction records with
  | nil => rfl
  | cons r records ih =>
      rw [hashes_cons, List.nodup_cons] at distinct
      rw [firsts, ih distinct.2, List.filter_eq_self.mpr]
      intro s inside
      have other : s.hash ≠ r.hash := fun same => distinct.1 (same ▸ hash_mem_hashes inside)
      simpa using other

/-- Records whose hashes have come before add nothing. -/
theorem firsts_append_of_known {xs ys : List Record} (known : ∀ r ∈ ys, r.hash ∈ hashes xs) :
    firsts (xs ++ ys) = firsts xs := by
  rw [← Requeue.add_nil_left, Requeue.add_append, Requeue.add_nil_left, Requeue.add_eq,
    List.filter_eq_nil_iff.mpr, List.append_nil]
  intro r inside
  simpa using mem_hashes_firsts.mpr (known r (mem_of_mem_firsts inside))

end Record

namespace Requeue

open Record

/-- As many records are added as there are different hashes that are new. -/
theorem length_add (queue records : List Record) :
    (add queue records).length =
      queue.length + ((hashes records).toFinset \ (hashes queue).toFinset).card := by
  have distinct : (hashes ((firsts records).filter fun r => r.hash ∉ hashes queue)).Nodup :=
    (nodup_firsts records).sublist (List.filter_sublist.map _)
  have new : (hashes ((firsts records).filter fun r => r.hash ∉ hashes queue)).toFinset =
      (hashes records).toFinset \ (hashes queue).toFinset := by
    ext hash
    rw [List.mem_toFinset, Finset.mem_sdiff, List.mem_toFinset, List.mem_toFinset]
    constructor
    · intro added
      obtain ⟨r, listed, rfl⟩ := mem_hashes.mp added
      obtain ⟨first, fresh⟩ := List.mem_filter.mp listed
      exact ⟨hash_mem_hashes (mem_of_mem_firsts first), by simpa using fresh⟩
    · rintro ⟨offered, fresh⟩
      obtain ⟨r, first, rfl⟩ := mem_hashes.mp (mem_hashes_firsts.mpr offered)
      exact hash_mem_hashes (List.mem_filter.mpr ⟨first, by simpa using fresh⟩)
  rw [add_eq, List.length_append, ← new, List.toFinset_card_of_nodup distinct, length_hashes]

end Requeue

end RebateRelay
