/-!
# Keccak-256

The sponge over the permutation Keccak-f[1600] with a rate of 136 bytes, the padding `10*1` without
a domain suffix, and 32 bytes of output. The state is a list of 25 lanes of 64 bits, lane `x + 5y`
in column `x` of row `y`. Each step of a round is a list operation on rows of five lanes, so that a
digest of a given message can be computed inside a proof.
-/

namespace DispatchScan.Keccak

/-- The bitwise sum of two rows, lane by lane. -/
def addRows (a b : List UInt64) : List UInt64 :=
  List.zipWith (· ^^^ ·) a b

/-- A row whose lane `x` is the lane `x + n` of the given row, counted around. -/
def rotateRow (n : Nat) (row : List UInt64) : List UInt64 :=
  row.drop n ++ row.take n

/-- A lane rotated left by `n < 64` places. -/
def rotateLane (n : UInt64) (lane : UInt64) : UInt64 :=
  if n = 0 then lane else lane <<< n ||| lane >>> (64 - n)

/-- The five rows of a state. -/
def rows (state : List UInt64) : List (List UInt64) :=
  [state.take 5, (state.drop 5).take 5, (state.drop 10).take 5, (state.drop 15).take 5,
    (state.drop 20).take 5]

/-- Step θ: add to each lane the parities of the column before it and, rotated once, after it. -/
def theta (state : List UInt64) : List UInt64 :=
  let parity := (rows state).foldl addRows [0, 0, 0, 0, 0]
  let change := addRows (rotateRow 4 parity) ((rotateRow 1 parity).map (rotateLane 1))
  (rows state).flatMap (addRows change)

/-- For each lane of the result of steps ρ and π, the lane it comes from and its rotation. -/
def sources : List (Nat × UInt64) :=
  [(0, 0), (6, 44), (12, 43), (18, 21), (24, 14), (3, 28), (9, 20), (10, 3), (16, 45), (22, 61),
   (1, 1), (7, 6), (13, 25), (19, 8), (20, 18), (4, 27), (5, 36), (11, 10), (17, 15), (23, 56),
   (2, 62), (8, 55), (14, 39), (15, 41), (21, 2)]

/-- Steps ρ and π: rotate every lane and move it to its new place. -/
def rhoPi (state : List UInt64) : List UInt64 :=
  sources.map fun (source, places) => rotateLane places (state.getD source 0)

/-- Step χ: add to each lane the next but one where the next lane has a zero bit. -/
def chi (state : List UInt64) : List UInt64 :=
  (rows state).flatMap fun row =>
    addRows row (List.zipWith (fun b c => (b ^^^ 0xffffffffffffffff) &&& c)
      (rotateRow 1 row) (rotateRow 2 row))

/-- Step ι: add the round constant to the first lane. -/
def iota (constant : UInt64) : List UInt64 → List UInt64
  | [] => []
  | lane :: lanes => (lane ^^^ constant) :: lanes

/-- The constants of the 24 rounds. -/
def roundConstants : List UInt64 :=
  [0x0000000000000001, 0x0000000000008082, 0x800000000000808a, 0x8000000080008000,
   0x000000000000808b, 0x0000000080000001, 0x8000000080008081, 0x8000000000008009,
   0x000000000000008a, 0x0000000000000088, 0x0000000080008009, 0x000000008000000a,
   0x000000008000808b, 0x800000000000008b, 0x8000000000008089, 0x8000000000008003,
   0x8000000000008002, 0x8000000000000080, 0x000000000000800a, 0x800000008000000a,
   0x8000000080008081, 0x8000000000008080, 0x0000000080000001, 0x8000000080008008]

/-- The permutation Keccak-f[1600]. -/
def permute (state : List UInt64) : List UInt64 :=
  roundConstants.foldl (fun s constant => iota constant (chi (rhoPi (theta s)))) state

/-- The number of message bytes that one block takes in. -/
def rate : Nat := 136

/-- The bytes that close a message whose last block holds `used < rate` bytes. -/
def padding (used : Nat) : List UInt8 :=
  if used + 1 = rate then [0x81] else 0x01 :: (List.replicate (rate - used - 2) 0 ++ [0x80])

/-- The lane with the given bytes, the least significant first. -/
def laneOfBytes (bytes : List UInt8) : UInt64 :=
  bytes.foldr (fun b lane => lane <<< 8 ||| b.toUInt64) 0

/-- The first `count` lanes that the bytes fill. -/
def lanesOfBytes : Nat → List UInt8 → List UInt64
  | 0, _ => []
  | count + 1, bytes => laneOfBytes (bytes.take 8) :: lanesOfBytes count (bytes.drop 8)

/-- The eight bytes of a lane, the least significant first. -/
def bytesOfLane (lane : UInt64) : List UInt8 :=
  [lane.toUInt8, (lane >>> 8).toUInt8, (lane >>> 16).toUInt8, (lane >>> 24).toUInt8,
    (lane >>> 32).toUInt8, (lane >>> 40).toUInt8, (lane >>> 48).toUInt8, (lane >>> 56).toUInt8]

/-- Take in `blocks` blocks of the padded message: add each to the front of the state, then
permute. -/
def absorb : Nat → List UInt8 → List UInt64 → List UInt64
  | 0, _, state => state
  | blocks + 1, bytes, state =>
    let block := lanesOfBytes 17 (bytes.take rate)
    absorb blocks (bytes.drop rate) (permute (addRows (state.take 17) block ++ state.drop 17))

/-- The 32 bytes of the Keccak-256 digest of a message. -/
def hash (message : List UInt8) : List UInt8 :=
  let padded := message ++ padding (message.length % rate)
  let state := absorb (message.length / rate + 1) padded (List.replicate 25 0)
  (state.take 4).flatMap bytesOfLane

/-- A lane has eight bytes. -/
theorem length_bytesOfLane (lane : UInt64) : (bytesOfLane lane).length = 8 := rfl

end DispatchScan.Keccak
