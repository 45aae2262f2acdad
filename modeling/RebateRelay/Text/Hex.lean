/-!
# Hexadecimal text of bytes

Two digits a byte, high half first. `encode` writes lowercase digits; `decode?` reads both cases
and refuses anything that is not a whole number of digit pairs.
-/

namespace RebateRelay.Text.Hex

/-- The lowercase digit of a value below sixteen. -/
def digit (n : Nat) : Char :=
  if n < 10 then Char.ofNat (0x30 + n) else Char.ofNat (0x61 + (n - 10))

/-- The value of a digit of either case. -/
def value? (c : Char) : Option Nat :=
  let n := c.toNat
  if 0x30 ≤ n && n ≤ 0x39 then some (n - 0x30)
  else if 0x61 ≤ n && n ≤ 0x66 then some (n - 0x61 + 10)
  else if 0x41 ≤ n && n ≤ 0x46 then some (n - 0x41 + 10)
  else none

/-- The two digits of a byte. -/
def encodeByte (b : UInt8) : List Char :=
  [digit (b.toNat / 16), digit (b.toNat % 16)]

/-- The digits of a list of bytes. -/
def encode (bytes : List UInt8) : List Char :=
  bytes.flatMap encodeByte

/-- The bytes that a list of digits spells. -/
def decode? : List Char → Option (List UInt8)
  | [] => some []
  | [_] => none
  | high :: low :: rest => do
    let h ← value? high
    let l ← value? low
    let bytes ← decode? rest
    return UInt8.ofNat (16 * h + l) :: bytes

theorem value?_digit {n : Nat} (h : n < 16) : value? (digit n) = some n := by
  rcases n with _ | _ | _ | _ | _ | _ | _ | _ | _ | _ | _ | _ | _ | _ | _ | _ | n
  all_goals first | rfl | omega

theorem decode?_encode (bytes : List UInt8) : decode? (encode bytes) = some bytes := by
  induction bytes with
  | nil => rfl
  | cons b bytes ih =>
    have high : b.toNat / 16 < 16 := by have := b.toNat_lt; omega
    have low : b.toNat % 16 < 16 := Nat.mod_lt _ (by decide)
    have whole : 16 * (b.toNat / 16) + b.toNat % 16 = b.toNat := Nat.div_add_mod _ _
    have rest : decode? (List.flatMap encodeByte bytes) = some bytes := ih
    have byte : UInt8.ofNat (16 * (b.toNat / 16) + b.toNat % 16) = b := by
      rw [whole, UInt8.ofNat_toNat]
    simp only [encode, encodeByte, List.flatMap_cons, List.cons_append, List.nil_append, decode?,
      value?_digit high, value?_digit low, rest, byte, Option.bind_eq_bind, Option.bind_some,
      Option.pure_def]

theorem length_encode (bytes : List UInt8) : (encode bytes).length = 2 * bytes.length := by
  induction bytes with
  | nil => rfl
  | cons b bytes ih =>
    have : (List.flatMap encodeByte bytes).length = 2 * bytes.length := ih
    simp only [encode, List.flatMap_cons, encodeByte, List.length_append, List.length_cons,
      List.length_nil, this]
    omega

end RebateRelay.Text.Hex
