import Mathlib.Algebra.Group.Nat.Defs
import RebateRelay.Chain.Erc20
import RebateRelay.Number.Power

/-!
# The data of a token transfer

The data of a transfer is the selector, the recipient and the amount, each in its place, and
nothing else. Both can be read off the data, so two transfers that go to different recipients or
are of different amounts have different data.
-/

namespace RebateRelay.Chain.Erc20

open Number

/-- Amounts that fit into a word stay below this bound. -/
def wordBound : Nat := twoTo 256

@[simp] theorem length_bigEndian (k n : Nat) : (bigEndian k n).length = k := by
  induction k generalizing n with
  | zero => rfl
  | succ k ih => simp [bigEndian, ih]

theorem ofBigEndian_concat (bytes : List UInt8) (b : UInt8) :
    ofBigEndian (bytes ++ [b]) = 256 * ofBigEndian bytes + b.toNat := by
  simp [ofBigEndian, List.foldl_append]

/-- Bytes give back as much of a number as they have room for. -/
theorem ofBigEndian_bigEndian (k n : Nat) : ofBigEndian (bigEndian k n) = n % 256 ^ k := by
  induction k generalizing n with
  | zero => rw [Nat.pow_zero, Nat.mod_one]; rfl
  | succ k ih =>
      have last : (UInt8.ofNat (n % 256)).toNat = n % 256 :=
        UInt8.toNat_ofNat_of_lt' (Nat.mod_lt _ (by decide))
      rw [bigEndian, ofBigEndian_concat, ih, last, Nat.pow_succ', Nat.mod_mul]
      omega

theorem ofBigEndian_bigEndian_of_lt {n : Nat} (small : n < wordBound) :
    ofBigEndian (bigEndian 32 n) = n := by
  have bound : wordBound = 256 ^ 32 := by decide
  rw [ofBigEndian_bigEndian, Nat.mod_eq_of_lt (bound ▸ small)]

@[simp] theorem length_addressWord (a : Address) : (addressWord a).length = 32 := by
  simp [addressWord, a.length_bytes]

/-- The data of a transfer has sixty-eight bytes, whatever is transferred. -/
@[simp] theorem length_transferData (recipient : Address) (amount : Nat) :
    (transferData recipient amount).length = 68 := by
  simp [transferData, selector]

/-- The recipient and the amount of a transfer can be read off its data. -/
theorem readTransferData?_transferData (recipient : Address) {amount : Nat}
    (small : amount < wordBound) :
    readTransferData? (transferData recipient amount) = some (recipient, amount) := by
  have body : (transferData recipient amount).drop 4 =
      addressWord recipient ++ bigEndian 32 amount := List.drop_left' rfl
  have zeros : (addressWord recipient ++ bigEndian 32 amount).take 12 = List.replicate 12 0 := by
    rw [addressWord, List.append_assoc, List.take_left' (by decide)]
  have address : ((addressWord recipient ++ bigEndian 32 amount).drop 12).take 20 =
      recipient.bytes := by
    rw [addressWord, List.append_assoc, List.drop_left' (by decide),
      List.take_left' recipient.length_bytes]
  have word : (addressWord recipient ++ bigEndian 32 amount).drop 32 = bigEndian 32 amount :=
    List.drop_left' (length_addressWord recipient)
  have front : (transferData recipient amount).take 4 = selector := List.take_left' rfl
  unfold readTransferData?
  simp only [length_transferData, front, body, zeros, address, word, and_self, if_true,
    recipient.length_bytes, dif_pos, ofBigEndian_bigEndian_of_lt small]

/-- Different transfers have different data. -/
theorem transferData_injective {recipient recipient' : Address} {amount amount' : Nat}
    (small : amount < wordBound) (small' : amount' < wordBound)
    (same : transferData recipient amount = transferData recipient' amount') :
    recipient = recipient' ∧ amount = amount' := by
  have read := readTransferData?_transferData recipient small
  rw [same, readTransferData?_transferData recipient' small'] at read
  exact (Prod.mk.inj (Option.some.inj read.symm))

end RebateRelay.Chain.Erc20
