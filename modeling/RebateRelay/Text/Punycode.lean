/-!
# Punycode

A text of any characters as a text of ASCII letters, digits and hyphens. The ASCII characters come
first, with a hyphen behind them if there are any. The others follow as gaps: with the characters in
increasing order, a gap says how many pairs of a character and a place for it were passed over since
the last one was put in. Gaps are numbers whose digits, the lowest first, have a weight that adapts
to the gaps before; the last digit of each is the one below its threshold.
-/

namespace RebateRelay.Text.Punycode

/-- The number of digits. -/
def base : Nat := 36

/-- The first character that is not ASCII. -/
def firstOther : Nat := 0x80

/-- The character for a digit: a letter below twenty-six, and then the ten decimal digits. -/
def digit (d : Nat) : Char :=
  if d < 26 then Char.ofNat (0x61 + d) else Char.ofNat (0x30 + (d - 26))

/-- The digit that a character stands for. -/
def value? (c : Char) : Option Nat :=
  let n := c.toNat
  if 0x61 ≤ n && n ≤ 0x7A then some (n - 0x61)
  else if 0x41 ≤ n && n ≤ 0x5A then some (n - 0x41)
  else if 0x30 ≤ n && n ≤ 0x39 then some (n - 0x30 + 26)
  else none

theorem value?_digit {d : Nat} (h : d < base) : value? (digit d) = some d := by
  have all : ∀ e ∈ List.range base, value? (digit e) = some e := by decide
  exact all d (List.mem_range.2 h)

/-- The threshold of a digit at a position, which is counted in steps of the base. -/
def threshold (bias position : Nat) : Nat := Nat.min 26 (Nat.max 1 (position - bias))

theorem threshold_pos (bias position : Nat) : 1 ≤ threshold bias position := by
  simp only [threshold, Nat.min_def, Nat.max_def]
  split <;> split <;> omega

theorem threshold_le (bias position : Nat) : threshold bias position ≤ 26 := by
  simp only [threshold, Nat.min_def]
  split <;> omega

/-- The bias before the first gap. -/
def firstBias : Nat := 72

/-- The bias that suits a number: more for each time that it can be divided. -/
def biasOf (n : Nat) : Nat :=
  if 455 < n then base + biasOf (n / 35) else base * n / (n + 38)
termination_by n

/-- The bias after a gap, with the number of characters that are in place by then. -/
def adapt (gap count : Nat) (isFirst : Bool) : Nat :=
  let scaled := if isFirst then gap / 700 else gap / 2
  biasOf (scaled + scaled / count)

/-- The digits of a gap from a position on. -/
def gapDigits (bias position n : Nat) : List Char :=
  let t := threshold bias position
  if n < t then [digit n]
  else digit (t + (n - t) % (base - t)) :: gapDigits bias (position + base) ((n - t) / (base - t))
termination_by n
decreasing_by
  have := threshold_pos bias position
  exact Nat.lt_of_le_of_lt (Nat.div_le_self _ _) (by omega)

/-- What is known while a text is encoded: how many characters are in place, how much was passed
over since the last one, the bias, and the digits so far. -/
structure Progress where
  placed : Nat
  gap : Nat := 0
  bias : Nat := firstBias
  isFirst : Bool := true
  digits : List Char := []

/-- Passes a place while a character is being put in. -/
def Progress.pass (point : Nat) (p : Progress) (c : Char) : Progress :=
  if c.toNat < point then { p with gap := p.gap + 1 }
  else if c.toNat = point then
    { placed := p.placed + 1
      bias := adapt p.gap (p.placed + 1) p.isFirst
      isFirst := false
      digits := p.digits ++ gapDigits p.bias base p.gap }
  else p

/-- Puts in the characters with the given code points, which increase, and which none before
reaches. -/
def Progress.placeAll (cs : List Char) : Nat → List Nat → Progress → Progress
  | _, [], p => p
  | before, point :: points, p =>
    let p := { p with gap := p.gap + (point - before) * (p.placed + 1) }
    let p := cs.foldl (Progress.pass point) p
    placeAll cs (point + 1) points { p with gap := p.gap + 1 }

/-- The text of ASCII characters for a text. -/
def encode (cs : List Char) : List Char :=
  let plain := cs.filter (·.toNat < firstOther)
  let others := (cs.map Char.toNat).filter (firstOther ≤ ·)
  let points := (others.mergeSort (· ≤ ·)).eraseDups
  plain ++ (if plain.isEmpty then [] else ['-']) ++
    (Progress.placeAll cs firstOther points { placed := plain.length }).digits

/-- Reads a gap from a position on, with the weight of its next digit, and gives what is left. -/
def gap? (bias position weight : Nat) : List Char → Option (Nat × List Char)
  | [] => none
  | c :: cs => do
    let d ← value? c
    let t := threshold bias position
    if d < t then some (d * weight, cs)
    else
      let (rest, cs) ← gap? bias (position + base) (weight * (base - t)) cs
      some (d * weight + rest, cs)

theorem length_lt_of_gap? {bias position weight n : Nat} {cs rest : List Char}
    (h : gap? bias position weight cs = some (n, rest)) : rest.length < cs.length := by
  induction cs generalizing position weight n with
  | nil => simp [gap?] at h
  | cons c cs ih =>
    simp only [gap?, Option.bind_eq_bind, Option.bind_eq_some_iff] at h
    obtain ⟨d, _, h⟩ := h
    split at h
    · simp_all
    · obtain ⟨⟨m, left⟩, hm, h⟩ := Option.bind_eq_some_iff.1 h
      simp only [Option.some.injEq, Prod.mk.injEq] at h
      obtain ⟨_, rfl⟩ := h
      have := ih hm
      simp only [List.length_cons]
      omega

/-- Puts in the characters that the gaps say. The next one has at least a code point, and at least
a place if it has just that; none may be beyond the characters there are. -/
def insertAll? (bias point place : Nat) (isFirst : Bool) (placed : List Char) (cs : List Char) :
    Option (List Char) :=
  if cs.isEmpty then some placed
  else match _h : gap? bias base 1 cs with
    | none => none
    | some (gap, rest) =>
      let count := placed.length + 1
      let point := point + (place + gap) / count
      let place := (place + gap) % count
      if point.isValidChar then
        insertAll? (adapt gap count isFirst) point (place + 1) false
          (placed.take place ++ Char.ofNat point :: placed.drop place) rest
      else none
termination_by cs.length
decreasing_by exact length_lt_of_gap? _h

/-- The text that a text of ASCII characters stands for. -/
def decode? (cs : List Char) : Option (List Char) :=
  let digits := (cs.reverse.takeWhile (· != '-')).reverse
  let plain := cs.take (cs.length - digits.length - 1)
  if plain.all (·.toNat < firstOther) then
    if plain.isEmpty then insertAll? firstBias firstOther 0 true [] cs
    else insertAll? firstBias firstOther 0 true plain digits
  else none

end RebateRelay.Text.Punycode
