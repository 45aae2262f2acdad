/-!
# Blank characters and trimming

A character is blank when Unicode gives it the property White_Space. `trim` removes the blanks at
both ends of a text and keeps the ones inside.
-/

namespace RebateRelay.Text

/-- The property White_Space. -/
def isBlank (c : Char) : Bool :=
  let n := c.toNat
  (0x09 ≤ n && n ≤ 0x0D) || n == 0x20 || n == 0x85 || n == 0xA0 || n == 0x1680 ||
    (0x2000 ≤ n && n ≤ 0x200A) || n == 0x2028 || n == 0x2029 || n == 0x202F || n == 0x205F ||
    n == 0x3000

/-- A list of characters without the blanks in front. -/
def skipBlank (cs : List Char) : List Char := cs.dropWhile isBlank

/-- A list of characters without the blanks at both ends. -/
def trimChars (cs : List Char) : List Char :=
  (skipBlank (skipBlank cs).reverse).reverse

/-- A text without the blanks at both ends. -/
def trim (s : String) : String := String.ofList (trimChars s.toList)

@[simp] theorem skipBlank_nil : skipBlank [] = [] := rfl

theorem skipBlank_cons_of_blank {c : Char} (h : isBlank c = true) (cs : List Char) :
    skipBlank (c :: cs) = skipBlank cs := by
  simp [skipBlank, h]

theorem skipBlank_cons_of_not_blank {c : Char} (h : isBlank c = false) (cs : List Char) :
    skipBlank (c :: cs) = c :: cs := by
  simp [skipBlank, h]

@[simp] theorem skipBlank_skipBlank (cs : List Char) :
    skipBlank (skipBlank cs) = skipBlank cs := by
  induction cs with
  | nil => rfl
  | cons c cs ih =>
    cases h : isBlank c with
    | true => rw [skipBlank_cons_of_blank h, ih]
    | false => rw [skipBlank_cons_of_not_blank h, skipBlank_cons_of_not_blank h]

end RebateRelay.Text
