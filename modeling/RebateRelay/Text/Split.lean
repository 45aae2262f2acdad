/-!
# Splitting texts at a character

`splitOn` gives the pieces between all occurrences of a separator, of which there is always at
least one. `splitOnce?` gives what stands before and after the first occurrence.
-/

namespace RebateRelay.Text

/-- The pieces of a text between the separators. -/
def splitOn (separator : Char) : List Char → List (List Char)
  | [] => [[]]
  | c :: cs =>
    if c = separator then [] :: splitOn separator cs
    else match splitOn separator cs with
      | [] => [[c]]
      | piece :: pieces => (c :: piece) :: pieces

/-- What stands before and after the first separator. -/
def splitOnce? (separator : Char) : List Char → Option (List Char × List Char)
  | [] => none
  | c :: cs =>
    if c = separator then some ([], cs)
    else (splitOnce? separator cs).map fun (before, after) => (c :: before, after)

/-- A text without the given characters at its end. -/
def dropTrailing (c : Char) (s : String) : String :=
  String.ofList ((s.toList.reverse.dropWhile (· == c)).reverse)

/-- What is left does not end in the character. -/
theorem getLast?_dropTrailing (c : Char) (s : String) :
    (dropTrailing c s).toList.getLast? ≠ some c := by
  intro last
  rw [dropTrailing, String.toList_ofList, List.getLast?_reverse] at last
  have stopped := List.head?_dropWhile_not (· == c) s.toList.reverse
  rw [last] at stopped
  simp at stopped

theorem dropTrailing_of_getLast? {c : Char} {s : String} (last : s.toList.getLast? ≠ some c) :
    dropTrailing c s = s := by
  have kept : s.toList.reverse.dropWhile (· == c) = s.toList.reverse := by
    rw [← List.head?_reverse] at last
    cases front : s.toList.reverse with
    | nil => rfl
    | cons d ds =>
      rw [front] at last
      have other : (d == c) = false := by simpa using last
      simp [other]
  rw [dropTrailing, kept, List.reverse_reverse, String.ofList_toList]

theorem splitOn_ne_nil (separator : Char) (cs : List Char) : splitOn separator cs ≠ [] := by
  cases cs with
  | nil => simp [splitOn]
  | cons c cs =>
    unfold splitOn
    split
    · simp
    · split <;> simp

theorem eq_of_splitOnce? {separator : Char} {cs before after : List Char}
    (h : splitOnce? separator cs = some (before, after)) :
    cs = before ++ separator :: after ∧ separator ∉ before := by
  induction cs generalizing before with
  | nil => simp [splitOnce?] at h
  | cons c cs ih =>
    unfold splitOnce? at h
    split at h
    · simp_all
    · rename_i hc
      obtain ⟨⟨b, a⟩, hb, he⟩ := Option.map_eq_some_iff.1 h
      obtain ⟨rfl, rfl⟩ := Prod.mk.inj he
      obtain ⟨rfl, hn⟩ := ih hb
      exact ⟨rfl, by simp [hn, Ne.symm hc]⟩

end RebateRelay.Text
