import Mathlib.Data.List.Basic
import RebateRelay.Text.Split

/-!
# Splitting

The pieces between separators are those of the library, so that joining them and splitting are
inverse to each other. The first separator is found where it stands, and what is put around a text
without another one ends up around the two parts.
-/

namespace RebateRelay.Text

variable {separator : Char} {cs before after front back : List Char}

theorem splitOn_eq (separator : Char) (cs : List Char) :
    splitOn separator cs = cs.splitOn separator := by
  induction cs with
  | nil => rfl
  | cons c cs ih =>
      have more := List.splitOn_ne_nil separator cs
      rw [splitOn, List.splitOn_cons_eq_if_modifyHead, ih]
      by_cases same : c = separator
      · rw [if_pos same, if_pos (beq_iff_eq.mpr same)]
      · rw [if_neg same, if_neg (fun h => same (beq_iff_eq.mp h))]
        cases pieces : cs.splitOn separator with
        | nil => exact absurd pieces more
        | cons piece pieces => rfl

theorem splitOnce?_append_cons (first : separator ∉ before) :
    splitOnce? separator (before ++ separator :: after) = some (before, after) := by
  induction before with
  | nil => exact if_pos rfl
  | cons c before ih =>
      obtain ⟨other, first⟩ := not_or.mp (mt List.mem_cons.mpr first)
      rw [List.cons_append, splitOnce?, if_neg (Ne.symm other), ih first]
      rfl

theorem splitOnce?_eq_some_iff :
    splitOnce? separator cs = some (before, after) ↔
      cs = before ++ separator :: after ∧ separator ∉ before := by
  constructor
  · exact eq_of_splitOnce?
  · rintro ⟨rfl, first⟩
    exact splitOnce?_append_cons first

theorem splitOnce?_eq_none_iff : splitOnce? separator cs = none ↔ separator ∉ cs := by
  constructor
  · intro none inside
    obtain ⟨before, after, whole, first⟩ := List.eq_append_cons_of_mem inside
    rw [whole, splitOnce?_append_cons first] at none
    cases none
  · intro absent
    cases split : splitOnce? separator cs with
    | none => rfl
    | some parts =>
        obtain ⟨whole, -⟩ := eq_of_splitOnce? split
        exact absurd (whole ▸ List.mem_append_right _ List.mem_cons_self) absent

/-- Around a text with no separator before or behind it the parts are longer at their outer ends. -/
theorem splitOnce?_append (before : separator ∉ front) (after : separator ∉ back) :
    splitOnce? separator (front ++ cs ++ back) =
      (splitOnce? separator cs).map fun parts => (front ++ parts.1, parts.2 ++ back) := by
  cases split : splitOnce? separator cs with
  | none =>
      have absent := splitOnce?_eq_none_iff.mp split
      rw [splitOnce?_eq_none_iff.mpr (by simp [before, absent, after])]
      rfl
  | some parts =>
      obtain ⟨whole, first⟩ := eq_of_splitOnce? split
      have first : separator ∉ front ++ parts.1 := by simp [before, first]
      have around : front ++ (parts.1 ++ separator :: parts.2) ++ back =
          (front ++ parts.1) ++ separator :: (parts.2 ++ back) := by simp
      rw [whole, around, splitOnce?_append_cons first]
      rfl

end RebateRelay.Text
