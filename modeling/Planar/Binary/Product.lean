import Planar.Binary.Format

/-! The product of two binary numbers is the exact product, rounded to the
nearest number of the format. Of two nearest ones the one with an even
significand is taken. Zero times infinity has no answer. -/

namespace Planar.Binary

/-- The whole number nearest to `a / b`; a half goes to the even neighbour. -/
def roundDiv (a b : Nat) : Nat :=
  let below := a / b
  let rest := a % b
  if 2 * rest < b ∨ (2 * rest = b ∧ below % 2 = 0) then below else below + 1

namespace Format

variable (f : Format)

/-- The magnitude of the number nearest to `m * 2 ^ q`. The last place kept is
that of a significand of full length, but none below the smallest numbers'. A
carry out of the significand raises the exponent by the same addition. -/
def roundMagnitude (m : Nat) (q : Int) : Nat :=
  if m = 0 then 0
  else
    let place := max (q + m.log2 - f.fractionBits) f.minExponent
    let kept := roundDiv (m <<< (q - place).toNat) (1 <<< (place - q).toNat)
    min ((place - f.minExponent).toNat * f.leadingOne + kept) f.infinity

def mul (v w : f.Val) : f.Val :=
  let negative := f.negative v ^^ f.negative w
  if f.isNaN v || f.isNaN w then f.nan
  else if f.isInfinite v || f.isInfinite w then
    if f.isZero v || f.isZero w then f.nan else f.ofMagnitude negative f.infinity
  else
    f.ofMagnitude negative
      (f.roundMagnitude (f.significand v * f.significand w) (f.exponent v + f.exponent w))

end Format

end Planar.Binary
