/-!
# Keccak-256

The hash behind mixed-case addresses: the Keccak sponge with a rate of 136 bytes, a padding that
starts with a single one bit and an output of 32 bytes. The state is a list of twenty-five lanes of
64 bits, row by row.
-/

namespace TokenRisk.Keccak

/-- The constants that `permute` adds in the twenty-four rounds. -/
def roundConstants : List UInt64 := [
  0x0000000000000001, 0x0000000000008082, 0x800000000000808A, 0x8000000080008000,
  0x000000000000808B, 0x0000000080000001, 0x8000000080008081, 0x8000000000008009,
  0x000000000000008A, 0x0000000000000088, 0x0000000080008009, 0x000000008000000A,
  0x000000008000808B, 0x800000000000008B, 0x8000000000008089, 0x8000000000008003,
  0x8000000000008002, 0x8000000000000080, 0x000000000000800A, 0x800000008000000A,
  0x8000000080008081, 0x8000000000008080, 0x0000000080000001, 0x8000000080008008]

/-- The rotation of each lane. -/
def rotations : List UInt64 := [
  0, 1, 62, 28, 27,
  36, 44, 6, 55, 20,
  3, 10, 43, 25, 39,
  41, 45, 15, 21, 8,
  18, 2, 61, 56, 14]

/-- A word rotated towards its high end. -/
def rotate (x n : UInt64) : UInt64 :=
  if n = 0 then x else (x <<< n) ||| (x >>> (64 - n))

/-- The lane in column `x` and row `y`, both taken modulo five. -/
def lane (state : Array UInt64) (x y : Nat) : UInt64 :=
  state.getD (x % 5 + 5 * (y % 5)) 0

/-- A state given by its lanes. -/
def tabulate (f : Nat → Nat → UInt64) : Array UInt64 :=
  ((List.range 25).map fun i => f (i % 5) (i / 5)).toArray

/-- One round: the columns are mixed, the lanes rotated by `rotations` and permuted, the rows mixed,
and the constant is added. -/
def round (state : Array UInt64) (constant : UInt64) : Array UInt64 :=
  let parity := ((List.range 5).map fun x =>
    lane state x 0 ^^^ lane state x 1 ^^^ lane state x 2 ^^^ lane state x 3 ^^^
      lane state x 4).toArray
  let mixed := tabulate fun x y =>
    lane state x y ^^^ parity.getD ((x + 4) % 5) 0 ^^^ rotate (parity.getD ((x + 1) % 5) 0) 1
  -- the lane at `(x, y)` comes from column `x + 3 y` of row `x`
  let moved := tabulate fun x y =>
    rotate (lane mixed (x + 3 * y) x) (rotations.getD ((x + 3 * y) % 5 + 5 * x) 0)
  let rows := tabulate fun x y =>
    lane moved x y ^^^ (~~~ (lane moved (x + 1) y) &&& lane moved (x + 2) y)
  rows.modify 0 (· ^^^ constant)

/-- The permutation of the state: a `round` for each of the `roundConstants`. -/
def permute (state : Array UInt64) : Array UInt64 :=
  roundConstants.foldl round state

/-- The number of bytes taken in between two permutations. -/
def rate : Nat := 136

/-- The message filled up to a multiple of the `rate`. -/
def pad (message : List UInt8) : List UInt8 :=
  let free := rate - message.length % rate
  message ++
    (if free = 1 then [0x81] else 0x01 :: List.replicate (free - 2) 0x00 ++ [0x80])

/-- A word from its bytes, the low one first. -/
def word (bytes : List UInt8) : UInt64 :=
  bytes.foldr (fun b n => n <<< 8 ||| b.toUInt64) 0

/-- A block added to the state, and a `permute`. -/
def absorb (state : Array UInt64) (block : List UInt8) : Array UInt64 :=
  permute (((List.range 25).map fun i =>
    state.getD i 0 ^^^ (if i < rate / 8 then word ((block.drop (8 * i)).take 8) else 0)).toArray)

/-- The state after the blocks of a padded message. -/
def sponge (message : List UInt8) : Array UInt64 :=
  let padded := pad message
  ((List.range (padded.length / rate)).map fun i => (padded.drop (rate * i)).take rate).foldl
    absorb (List.replicate 25 0).toArray

/-- The hash of a message: the first thirty-two bytes of its `sponge`. -/
def keccak256 (message : List UInt8) : List UInt8 :=
  let state := sponge message
  (List.range 32).map fun i => (state.getD (i / 8) 0 >>> (8 * (i % 8)).toUInt64).toUInt8

/-- `keccak256` has thirty-two bytes. -/
@[simp] theorem length_keccak256 (message : List UInt8) : (keccak256 message).length = 32 := by
  simp [keccak256]

end TokenRisk.Keccak
