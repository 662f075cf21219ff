import DispatchScan.Binary64

/-!
# The shortest decimal of a binary64 value

Among the decimals that read back to a value, the shortest ones are the multiples of the largest
possible power of ten; of these the nearest is chosen, and of two equally near ones the even one.
The layout of the digits is one record of decisions.
-/

namespace DispatchScan.Binary64

/-- Whether `digits * 10^place` lies among the reals that round to `x`. The ends of that interval
belong to it when the mantissa is even. -/
def readsBack (x : Binary64) (digits : Nat) (place : Int) : Bool :=
  let narrow := x.mantissa = Nat.pow 2 52 ∧ -1074 < x.exponent
  let low := 4 * x.mantissa - (if narrow then 1 else 2)
  let high := 4 * x.mantissa + 2
  let quarter := x.exponent - 2
  let value := digits * Nat.pow 10 place.toNat * Nat.pow 2 (-quarter).toNat
  let unit := Nat.pow 2 quarter.toNat * Nat.pow 10 (-place).toNat
  if x.mantissa % 2 = 0 then low * unit ≤ value ∧ value ≤ high * unit
  else low * unit < value ∧ value < high * unit

/-- The whole numbers next to the positive fraction `num / den`, the nearer one first. When both are
equally near, the even one is first. -/
def neighbours (num den : Nat) : List Nat :=
  let below := num / den
  let rest := 2 * (num % den)
  if rest < den ∨ (rest = den ∧ below % 2 = 0) then [below, below + 1] else [below + 1, below]

/-- The two multiples of `10^place` next to `x` that read back, the nearer one first. -/
def candidates (x : Binary64) (place : Int) : List Nat :=
  let (n, d) := x.toRatio
  (neighbours (n * Nat.pow 10 (-place).toNat) (d * Nat.pow 10 place.toNat)).filter
    fun digits => readsBack x digits place

/-- Search the places `top`, `top - 1`, and so on for the first with a candidate. -/
def searchPlaces (x : Binary64) (top : Int) : Nat → Option (Nat × Int)
  | 0 => none
  | count + 1 =>
    match candidates x top with
    | digits :: _ => some (digits, top)
    | [] => searchPlaces x (top - 1) count

/-- The shortest decimal of a positive value as its digits and the place of the last one. -/
def shortest (x : Binary64) : Nat × Int :=
  (searchPlaces x 309 640).getD (0, 0)

/-- How the digits of a value are laid out. -/
structure Layout where
  /-- Positional notation needs the first digit at this place or above. -/
  lowestPlace : Int
  /-- Positional notation needs the first digit at this place or below. -/
  highestPlace : Int

/-- The layout of messages: positional notation from `0.00001` to below `10^16`, and exponents with
a sign. -/
def messageLayout : Layout := ⟨-5, 15⟩

/-- The text of a value in a layout. A whole value keeps `.0`. -/
def render (layout : Layout) (x : Binary64) : String :=
  if x.mantissa = 0 then "0.0"
  else
    let (n, place) := x.shortest
    let ds := Nat.toDigits 10 n
    let first := place + ds.length - 1
    if first < layout.lowestPlace ∨ layout.highestPlace < first then
      let fraction := if ds.length = 1 then [] else '.' :: ds.drop 1
      let sign := if first < 0 then '-' else '+'
      String.ofList (ds.take 1 ++ fraction ++ ['e', sign]
        ++ Nat.toDigits 10 first.natAbs)
    else if 0 ≤ place then
      String.ofList (ds ++ List.replicate place.toNat '0' ++ ['.', '0'])
    else if 0 ≤ first then
      String.ofList (ds.take (first.toNat + 1) ++ '.' :: ds.drop (first.toNat + 1))
    else
      String.ofList (['0', '.'] ++ List.replicate ((-first).toNat - 1) '0' ++ ds)

end DispatchScan.Binary64
