import Mathlib.Data.List.Basic
import Mathlib.Data.List.TakeWhile
import RebateRelay.Number.Unsigned
import RebateRelay.Text.Blank

/-!
# Trimming

Blanks around a text make no difference to what is left when it is trimmed, and nothing is left to
trim then. A text that neither begins nor ends with a blank is left as it is.
-/

namespace RebateRelay.Text

open Number

variable {front cs back : List Char}

theorem isBlank_of_isDigit {c : Char} (digit : isDigit c = true) : isBlank c = false := by
  unfold isDigit digit? at digit
  unfold isBlank
  split at digit
  case isTrue inside =>
    simp only [Bool.and_eq_true, decide_eq_true_eq] at inside
    simp
    omega
  case isFalse => cases digit

theorem notMem_of_blank {mark : Char} (plain : isBlank mark = false)
    (blank : ∀ c ∈ cs, isBlank c = true) : mark ∉ cs := by
  intro inside
  rw [blank mark inside] at plain
  cases plain

/-- Nothing of the kind stands at the front of the text. -/
def Apart (kind : Char → Bool) (cs : List Char) : Prop := ∀ c ∈ cs.head?, kind c = false

theorem apart_cons {kind : Char → Bool} {c : Char} : Apart kind (c :: cs) ↔ kind c = false := by
  simp [Apart]

theorem apart_append {kind : Char → Bool} (some : cs ≠ []) :
    Apart kind (cs ++ back) ↔ Apart kind cs := by
  rw [Apart, Apart, List.head?_append_of_ne_nil _ some]

theorem Apart.dropWhile_eq {kind : Char → Bool} (apart : Apart kind cs) : cs.dropWhile kind = cs := by
  cases cs with
  | nil => rfl
  | cons c cs => exact List.dropWhile_cons_of_neg (Bool.not_eq_true _ ▸ apart_cons.mp apart)

theorem Apart.takeWhile_eq_nil {kind : Char → Bool} (apart : Apart kind cs) :
    cs.takeWhile kind = [] := by
  cases cs with
  | nil => rfl
  | cons c cs => exact List.takeWhile_cons_of_neg (Bool.not_eq_true _ ▸ apart_cons.mp apart)

theorem apart_dropWhile (kind : Char → Bool) (cs : List Char) : Apart kind (cs.dropWhile kind) := by
  intro c first
  have stopped := List.head?_dropWhile_not kind cs
  rw [Option.mem_def.mp first] at stopped
  simpa using stopped

/-- A text neither begins nor ends with a blank. -/
def IsTrimmed (cs : List Char) : Prop := Apart isBlank cs ∧ Apart isBlank cs.reverse

theorem isTrimmed_of_forall (dense : ∀ c ∈ cs, isBlank c = false) : IsTrimmed cs :=
  ⟨fun c first => dense c (List.mem_of_mem_head? first),
    fun c last => dense c (List.mem_reverse.mp (List.mem_of_mem_head? last))⟩

theorem IsTrimmed.trimChars_eq (trimmed : IsTrimmed cs) : trimChars cs = cs := by
  have opened : skipBlank cs = cs := trimmed.1.dropWhile_eq
  have closed : skipBlank cs.reverse = cs.reverse := trimmed.2.dropWhile_eq
  rw [trimChars, opened, closed, List.reverse_reverse]

/-- Blanks around a text are trimmed with those of the text. -/
theorem trimChars_append (before : ∀ c ∈ front, isBlank c = true)
    (after : ∀ c ∈ back, isBlank c = true) : trimChars (front ++ cs ++ back) = trimChars cs := by
  have turned : ∀ c ∈ back.reverse, isBlank c = true := fun c inside =>
    after c (List.mem_reverse.mp inside)
  have opened : skipBlank (front ++ (cs ++ back)) = skipBlank (cs ++ back) :=
    List.dropWhile_append_of_pos before
  rw [List.append_assoc, trimChars, opened, trimChars]
  unfold skipBlank
  rw [List.dropWhile_append]
  split
  case isTrue nothing =>
    rw [List.isEmpty_iff.mp nothing, List.dropWhile_eq_nil_iff.mpr after]
  case isFalse =>
    rw [List.reverse_append, List.dropWhile_append_of_pos turned]

/-- With the blanks at its end a trimmed text lacks only those in front. -/
theorem trimChars_append_blanks (cs : List Char) :
    trimChars cs ++ ((skipBlank cs).reverse.takeWhile isBlank).reverse = skipBlank cs := by
  unfold trimChars skipBlank
  rw [← List.reverse_append, List.takeWhile_append_dropWhile, List.reverse_reverse]

/-- A text that has been trimmed has no blanks at its ends. -/
theorem isTrimmed_trimChars (cs : List Char) : IsTrimmed (trimChars cs) := by
  constructor
  · have whole := trimChars_append_blanks cs
    by_cases some : trimChars cs = []
    · rw [some]
      rintro c ⟨⟩
    · rw [← apart_append some, whole]
      exact apart_dropWhile isBlank cs
  · rw [trimChars, List.reverse_reverse]
    exact apart_dropWhile isBlank _

/-- Only blanks stand around what is left. -/
theorem exists_trimChars (cs : List Char) :
    ∃ front back, (∀ c ∈ front, isBlank c = true) ∧ (∀ c ∈ back, isBlank c = true) ∧
      cs = front ++ trimChars cs ++ back := by
  refine ⟨cs.takeWhile isBlank, ((skipBlank cs).reverse.takeWhile isBlank).reverse,
    fun c => List.mem_takeWhile_imp, ?_, ?_⟩
  · intro c inside
    exact List.mem_takeWhile_imp (List.mem_reverse.mp inside)
  · have opened : cs = cs.takeWhile isBlank ++ skipBlank cs := List.takeWhile_append_dropWhile.symm
    rw [List.append_assoc, trimChars_append_blanks]
    exact opened

/-- Nothing is left of blanks, and of nothing else. -/
theorem trimChars_eq_nil_iff : trimChars cs = [] ↔ ∀ c ∈ cs, isBlank c = true := by
  constructor
  · intro nothing
    obtain ⟨front, back, before, after, whole⟩ := exists_trimChars cs
    rw [nothing, List.append_nil] at whole
    rw [whole]
    exact List.forall_mem_append.mpr ⟨before, after⟩
  · intro blank
    have opened : skipBlank cs = [] := List.dropWhile_eq_nil_iff.mpr blank
    rw [trimChars, opened]
    rfl

theorem trimChars_trimChars (cs : List Char) : trimChars (trimChars cs) = trimChars cs :=
  (isTrimmed_trimChars cs).trimChars_eq

theorem trim_trim (text : String) : trim (trim text) = trim text := by
  rw [trim, trim, String.toList_ofList, trimChars_trimChars]

end RebateRelay.Text
