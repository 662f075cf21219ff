import DispatchScan.Keccak

/-!
# The length of a digest

Steps ρ and π build all 25 lanes of a state anew, and the steps behind them keep these. Main
statement: the digest of each message has 32 bytes, however many blocks the message fills.
-/

namespace DispatchScan.Keccak

/-- A sum of rows is as long as the shorter row. -/
theorem length_addRows (a b : List UInt64) : (addRows a b).length = min a.length b.length :=
  List.length_zipWith

/-- A row keeps its lanes when it is rotated. -/
theorem length_rotateRow (n : Nat) (row : List UInt64) : (rotateRow n row).length = row.length := by
  rw [rotateRow, List.length_append, List.length_drop, List.length_take]
  omega

/-- Each row of 25 lanes has five of them. -/
theorem length_of_mem_rows {state row : List UInt64} (h : state.length = 25)
    (hrow : row ∈ rows state) : row.length = 5 := by
  simp only [rows, List.mem_cons, List.not_mem_nil, or_false] at hrow
  rcases hrow with rfl | rfl | rfl | rfl | rfl <;>
    simp only [List.length_take, List.length_drop, h] <;> omega

/-- Steps ρ and π give 25 lanes. -/
theorem length_rhoPi (state : List UInt64) : (rhoPi state).length = 25 := by
  rw [rhoPi, List.length_map]
  rfl

/-- Step χ keeps 25 lanes. -/
theorem length_chi {state : List UInt64} (h : state.length = 25) : (chi state).length = 25 := by
  have hfive : ∀ row ∈ rows state,
      (addRows row (List.zipWith (fun b c => (b ^^^ 0xffffffffffffffff) &&& c)
        (rotateRow 1 row) (rotateRow 2 row))).length = 5 := by
    intro row hrow
    have hlength := length_of_mem_rows h hrow
    rw [length_addRows, List.length_zipWith, length_rotateRow, length_rotateRow, hlength,
      Nat.min_self, Nat.min_self]
  rw [chi, List.length_flatMap, List.map_congr_left hfive]
  rfl

/-- Step ι keeps the lanes. -/
theorem length_iota (constant : UInt64) (state : List UInt64) :
    (iota constant state).length = state.length := by
  cases state with
  | nil => rfl
  | cons lane lanes => rfl

/-- The permutation keeps 25 lanes. -/
theorem length_permute {state : List UInt64} (h : state.length = 25) :
    (permute state).length = 25 := by
  have hround : ∀ s : List UInt64, s.length = 25 → ∀ constant ∈ roundConstants,
      (iota constant (chi (rhoPi (theta s)))).length = 25 := by
    intro s _ constant _
    rw [length_iota]
    exact length_chi (length_rhoPi (theta s))
  exact List.foldlRecOn (motive := fun s : List UInt64 => s.length = 25) roundConstants _ h hround

/-- There are as many lanes as wanted in a block. -/
theorem length_lanesOfBytes (count : Nat) (bytes : List UInt8) :
    (lanesOfBytes count bytes).length = count := by
  induction count generalizing bytes with
  | zero => rfl
  | succ count ih => rw [lanesOfBytes, List.length_cons, ih]

/-- Taking in blocks keeps 25 lanes. -/
theorem length_absorb (blocks : Nat) (bytes : List UInt8) {state : List UInt64}
    (h : state.length = 25) : (absorb blocks bytes state).length = 25 := by
  induction blocks generalizing bytes state with
  | zero => exact h
  | succ blocks ih =>
    refine ih _ (length_permute ?_)
    rw [List.length_append, length_addRows, List.length_take, List.length_drop,
      length_lanesOfBytes, h]
    rfl

/-- The digest of a message has 32 bytes. -/
theorem length_hash (message : List UInt8) : (hash message).length = 32 := by
  have hstate := length_absorb (message.length / rate + 1)
    (message ++ padding (message.length % rate)) (List.length_replicate (n := 25) (a := 0))
  have hbytes : ∀ lanes : List UInt64, (lanes.flatMap bytesOfLane).length = lanes.length * 8 := by
    intro lanes
    rw [List.length_flatMap, List.map_congr_left fun lane _ => length_bytesOfLane lane,
      List.map_const', List.sum_replicate_nat]
  rw [hash, hbytes, List.length_take, hstate]
  rfl

end DispatchScan.Keccak
