/-!
# Powers of two and ten

The bases of the binary and the decimal formats, raised to a power.
-/

namespace RebateRelay.Number

/-- Two to a power. -/
def twoTo (k : Nat) : Nat := Nat.pow 2 k

/-- Ten to a power. -/
def tenTo (k : Nat) : Nat := Nat.pow 10 k

@[simp] theorem twoTo_zero : twoTo 0 = 1 := rfl

@[simp] theorem tenTo_zero : tenTo 0 = 1 := rfl

theorem twoTo_succ (k : Nat) : twoTo (k + 1) = twoTo k * 2 := rfl

theorem tenTo_succ (k : Nat) : tenTo (k + 1) = tenTo k * 10 := rfl

theorem twoTo_pos (k : Nat) : 0 < twoTo k := Nat.pow_pos (by decide)

theorem tenTo_pos (k : Nat) : 0 < tenTo k := Nat.pow_pos (by decide)

end RebateRelay.Number
