/-!
# The hash Keccak-256

The permutation Keccak-f[1600] on twenty-five lanes of 64 bits, and the sponge over it with a rate
of 136 bytes and the padding byte `0x01`. Chains derive checksums and selectors from it.
-/

namespace RebateRelay.Chain.Keccak

/-- Twenty-five lanes; lane `(x, y)` stands at `x + 5 * y`. -/
abbrev State := Vector UInt64 25

namespace State

/-- The lane at a column and a row, both taken modulo five. -/
def lane (s : State) (x y : Nat) : UInt64 :=
  s.get ⟨x % 5 + 5 * (y % 5), by omega⟩

/-- The state whose lane at each column and row is given. -/
def ofLanes (f : Nat → Nat → UInt64) : State :=
  Vector.ofFn fun i => f (i.val % 5) (i.val / 5)

/-- All lanes zero. -/
def zero : State := ofLanes fun _ _ => 0

end State

/-- Rotation of a lane towards its high end. -/
def rotate (w : UInt64) (k : Nat) : UInt64 :=
  if k % 64 = 0 then w
  else (w <<< UInt64.ofNat (k % 64)) ||| (w >>> UInt64.ofNat (64 - k % 64))

/-- How far each lane is rotated, by row. -/
def rotations : List (List Nat) := [
  [0, 1, 62, 28, 27],
  [36, 44, 6, 55, 20],
  [3, 10, 43, 25, 39],
  [41, 45, 15, 21, 8],
  [18, 2, 61, 56, 14]]

/-- The constant of each round. -/
def roundConstants : List UInt64 := [
  0x0000000000000001, 0x0000000000008082, 0x800000000000808A, 0x8000000080008000,
  0x000000000000808B, 0x0000000080000001, 0x8000000080008081, 0x8000000000008009,
  0x000000000000008A, 0x0000000000000088, 0x0000000080008009, 0x000000008000000A,
  0x000000008000808B, 0x800000000000008B, 0x8000000000008089, 0x8000000000008003,
  0x8000000000008002, 0x8000000000000080, 0x000000000000800A, 0x800000008000000A,
  0x8000000080008081, 0x8000000000008080, 0x0000000080000001, 0x8000000080008008]

/-- Each lane takes the parity of the column before it and of the rotated column after it. -/
def theta (s : State) : State :=
  let parity : Vector UInt64 5 := Vector.ofFn fun x =>
    s.lane x 0 ^^^ s.lane x 1 ^^^ s.lane x 2 ^^^ s.lane x 3 ^^^ s.lane x 4
  let column (x : Nat) : UInt64 := parity.get ⟨x % 5, by omega⟩
  .ofLanes fun x y => s.lane x y ^^^ column (x + 4) ^^^ rotate (column (x + 1)) 1

/-- Each lane is rotated by its offset and moved: the lane at `(x, y)` goes to `(y, 2x + 3y)`. -/
def rhoPi (s : State) : State :=
  .ofLanes fun x y =>
    let column := x + 3 * y
    rotate (s.lane column x) (((rotations.getD (x % 5) []).getD (column % 5) 0))

/-- The nonlinear step along a row. -/
def chi (s : State) : State :=
  .ofLanes fun x y => s.lane x y ^^^ (~~~ s.lane (x + 1) y &&& s.lane (x + 2) y)

/-- One round with its constant, which goes into the first lane. -/
def round (s : State) (constant : UInt64) : State :=
  let t := chi (rhoPi (theta s))
  .ofLanes fun x y => if x = 0 ∧ y = 0 then t.lane 0 0 ^^^ constant else t.lane x y

/-- The permutation: twenty-four rounds. -/
def permute (s : State) : State := roundConstants.foldl round s

/-- The bytes taken in by one permutation. -/
def rate : Nat := 136

/-- Bytes as a little-endian number. -/
def littleEndian (bytes : List UInt8) : UInt64 :=
  bytes.foldr (fun b w => (w <<< 8) ||| b.toUInt64) 0

/-- One block of `rate` bytes, added to the first lanes and permuted. -/
def absorb (s : State) (block : List UInt8) : State :=
  permute (.ofLanes fun x y =>
    s.lane x y ^^^ littleEndian ((block.drop (8 * (x + 5 * y))).take 8))

/-- A message filled up to whole blocks: a one, zeros, and a high bit at the very end. -/
def pad (message : List UInt8) : List UInt8 :=
  let room := rate - message.length % rate
  if room = 1 then message ++ [0x81]
  else message ++ 0x01 :: (List.replicate (room - 2) 0x00 ++ [0x80])

/-- The states after taking in so many blocks, one after the other. -/
def absorbBlocks (s : State) : Nat → List UInt8 → State
  | 0, _ => s
  | n + 1, bytes => absorbBlocks (absorb s (bytes.take rate)) n (bytes.drop rate)

/-- The bytes of a lane, low byte first. -/
def laneBytes (w : UInt64) : List UInt8 :=
  (List.range 8).map fun i => (w >>> UInt64.ofNat (8 * i)).toUInt8

/-- The 32-byte hash of a message. -/
def hash256 (message : List UInt8) : List UInt8 :=
  let padded := pad message
  let final := absorbBlocks .zero (padded.length / rate) padded
  (List.range 4).flatMap fun i => laneBytes (final.lane i 0)

end RebateRelay.Chain.Keccak
