/-!
# Non-negative finite binary64 values

A value is a mantissa below `2^53` times a power of two from `2^-1074` to `2^971`. Every operation
computes the exact quotient over the naturals and rounds it once to the nearest value, a tie going
to the even mantissa; a result beyond the largest value is `none`. Signs, infinities and NaN are
not represented.
-/

namespace DispatchScan

/-- The value `mantissa * 2^exponent`. -/
structure Binary64 where
  /-- Below `2^53`, and at least `2^52` unless the exponent is least. -/
  mantissa : Nat
  /-- From -1074 to 971. -/
  exponent : Int
  deriving DecidableEq, Repr

namespace Binary64

/-- The value zero. -/
def zero : Binary64 := ⟨0, -1074⟩

/-- The quotient rounded to the nearest natural number, a tie going to the even one. -/
def roundQuotient (num den : Nat) : Nat :=
  let q := num / den
  let r := num % den
  if den < 2 * r ∨ (den = 2 * r ∧ q % 2 = 1) then q + 1 else q

/-- The ratio `num / den / 2^exponent` as a numerator and a denominator. -/
def scaled (num den : Nat) (exponent : Int) : Nat × Nat :=
  (num * Nat.pow 2 (-exponent).toNat, den * Nat.pow 2 exponent.toNat)

/-- The exponent at which `num / den` has a mantissa of 53 bits, or the least exponent. -/
def exponentOf (num den : Nat) : Int :=
  let low : Int := (num.log2 : Int) - (den.log2 : Int) - 53
  let (n, d) := scaled num den low
  max (-1074) (if n / d < Nat.pow 2 53 then low else low + 1)

/-- The value nearest to `num / den`, for a positive denominator. -/
def ofRatio? (num den : Nat) : Option Binary64 :=
  if num = 0 then some zero
  else
    let exponent := exponentOf num den
    let (n, d) := scaled num den exponent
    let mantissa := roundQuotient n d
    let (mantissa, exponent) :=
      if mantissa = Nat.pow 2 53 then (Nat.pow 2 52, exponent + 1) else (mantissa, exponent)
    if 971 < exponent then none else some ⟨mantissa, exponent⟩

/-- The value as an exact ratio. -/
def toRatio (x : Binary64) : Nat × Nat :=
  (x.mantissa * Nat.pow 2 x.exponent.toNat, Nat.pow 2 (-x.exponent).toNat)

/-- The rounded product. -/
def mul? (x y : Binary64) : Option Binary64 :=
  let (n, d) := x.toRatio
  let (n', d') := y.toRatio
  ofRatio? (n * n') (d * d')

/-- The rounded quotient by a value at least one, which is never too large. -/
def div (x y : Binary64) : Binary64 :=
  let (n, d) := x.toRatio
  let (n', d') := y.toRatio
  (ofRatio? (n * d') (d * n')).getD zero

/-- The value nearest to `10^k`, for `k ≤ 308`. -/
def powerOfTen (k : Nat) : Binary64 :=
  (ofRatio? (Nat.pow 10 k) 1).getD zero

/-- Divide by `10^k`, first by `10^308` as long as `k` exceeds 308. A number of 64 bits is zero
after three such divisions, so further ones are left out. -/
def scaleDown : Nat → Binary64 → Nat → Binary64
  | 0, _, _ => zero
  | steps + 1, x, k =>
    if k ≤ 308 then x.div (powerOfTen k) else scaleDown steps (x.div (powerOfTen 308)) (k - 308)

/-- The value read for `significand * 10^exponent`, where the significand has at most 64 bits: it
is rounded first, and then scaled in one multiplication, or in as few divisions as powers of ten
up to `10^308` allow. -/
def ofDecimal? (significand : Nat) (exponent : Int) : Option Binary64 := do
  let x ← ofRatio? significand 1
  match exponent with
  | .ofNat k =>
    if k ≤ 308 then x.mul? (powerOfTen k)
    else if x.mantissa = 0 then some x
    else none
  | .negSucc k => some (scaleDown 3 x (k + 1))

end Binary64

end DispatchScan
