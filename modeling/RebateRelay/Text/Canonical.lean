import RebateRelay.Text.CombiningClass
import RebateRelay.Text.Composite

/-!
# Canonical texts

Two texts that look the same may be written in different ways: a composite for a character with a
mark, or two marks in either order. The canonical text takes every composite apart, sorts the marks
behind a character by their combining class, and puts together what can be put together again.
-/

namespace RebateRelay.Text

/-- How often a composite can be taken apart before nothing is left of it. -/
def compositeDepth : Nat := 4

/-- Takes a character apart, up to a number of times. -/
def takeApart : Nat → Char → List Char
  | 0, c => [c]
  | depth + 1, c =>
    match splitPair? c with
    | some (first, second) => takeApart depth first ++ takeApart depth second
    | none => [c]

/-- Puts a character in its place behind others, which are listed from the last to the first. -/
def arrangeBehind (c : Char) : List Char → List Char
  | [] => [c]
  | d :: ds =>
    if combiningClass c ≠ 0 ∧ combiningClass c < combiningClass d then d :: arrangeBehind c ds
    else c :: d :: ds

/-- Sorts the marks behind each character by their combining class, and leaves those of one class
in their order. -/
def arrange (cs : List Char) : List Char :=
  (cs.foldl (fun done c => arrangeBehind c done) []).reverse

/-- Puts together what follows a character. The marks that were passed over stand between the
character and the rest, from the last to the first; a mark that one of them hides stays as it is. -/
def putTogetherFrom (start : Char) (passed : List Char) : List Char → List Char
  | [] => start :: passed.reverse
  | c :: cs =>
    let hidden := match passed with
      | [] => false
      | d :: _ => decide (combiningClass c ≤ combiningClass d)
    match if hidden then none else joinPair? start c with
    | some whole => putTogetherFrom whole passed cs
    | none =>
      if combiningClass c = 0 then start :: passed.reverse ++ putTogetherFrom c [] cs
      else putTogetherFrom start (c :: passed) cs

/-- Puts together the composites of a text. -/
def putTogether : List Char → List Char
  | [] => []
  | c :: cs => putTogetherFrom c [] cs

/-- The canonical text among those that look the same. -/
def canonical (cs : List Char) : List Char :=
  putTogether (arrange (cs.flatMap (takeApart compositeDepth)))

@[simp] theorem arrange_nil : arrange [] = [] := rfl

theorem length_arrangeBehind (c : Char) (ds : List Char) :
    (arrangeBehind c ds).length = ds.length + 1 := by
  induction ds with
  | nil => rfl
  | cons d ds ih =>
    unfold arrangeBehind
    split
    · simp [ih]
    · rfl

/-- Putting a mark in its place neither loses nor adds a character. -/
theorem arrangeBehind_perm (c : Char) (ds : List Char) :
    (arrangeBehind c ds).Perm (c :: ds) := by
  induction ds with
  | nil => exact .refl _
  | cons d ds ih =>
    unfold arrangeBehind
    split
    · exact (ih.cons d).trans (.swap c d ds)
    · exact .refl _

end RebateRelay.Text
