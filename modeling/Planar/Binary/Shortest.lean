import Planar.Binary.Format

/-! The shortest decimal of a binary number: of all decimals that read back as
the number, those with the fewest digits, and of these the one nearest to the
number. On a decimal grid the candidates are the two neighbours of the number,
for if any point of the grid reads back then one of them does. -/

namespace Planar.Binary

structure Decimal where
  digits : Nat
  exponent : Int
  deriving DecidableEq

namespace Decimal

def value (d : Decimal) : Rat := d.digits * (10 : Rat) ^ d.exponent

def significant (d : Decimal) : List Char :=
  ((Nat.toDigits 10 d.digits).reverse.dropWhile (· == '0')).reverse

def point (d : Decimal) : Int := (Nat.toDigits 10 d.digits).length + d.exponent

end Decimal

structure Interval where
  low : Rat
  high : Rat
  closed : Bool

def Interval.contains (i : Interval) (r : Rat) : Bool :=
  if i.closed then i.low ≤ r && r ≤ i.high else i.low < r && r < i.high

/-- The count of digits before the decimal point of a positive rational, or less
one for each zero directly after it: `10 ^ (k - 1) ≤ r < 10 ^ k`. -/
def leadingPlace (r : Rat) : Int :=
  let num := r.num.toNat
  if r.den ≤ num then (Nat.toDigits 10 (num / r.den)).length
  else 1 - (Nat.toDigits 10 ((r.den - 1) / num)).length

/-- The neighbour of `r` among the multiples of `10 ^ exponent` that lies in the
interval; of two the nearer, and the upper one on a tie. -/
def neighbour? (i : Interval) (r : Rat) (exponent : Int) : Option Decimal :=
  let below : Decimal := ⟨(r / (10 : Rat) ^ exponent).floor.toNat, exponent⟩
  let above : Decimal := ⟨below.digits + 1, exponent⟩
  match i.contains below.value, i.contains above.value with
  | true, true => some (if r - below.value < above.value - r then below else above)
  | true, false => some below
  | false, true => some above
  | false, false => none

namespace Format

variable (f : Format)

def value (v : f.Val) : Rat := f.significand v * (2 : Rat) ^ f.exponent v

/-- The positive rationals that are nearer to `v` than to other numbers. The
next number below a power of two is half as far away as the next one above. An
end is read as the number with the even significand. -/
def roundingInterval (v : f.Val) : Interval :=
  let quarter := (2 : Rat) ^ (f.exponent v - 2)
  let below : Rat := if f.fraction v = 0 ∧ 1 < f.biased v then 1 else 2
  { low := f.value v - below * quarter
    high := f.value v + 2 * quarter
    closed := f.significand v % 2 = 0 }

def exact (v : f.Val) : Decimal :=
  let last := min (f.exponent v) 0
  ⟨(f.value v / (10 : Rat) ^ last).floor.toNat, last⟩

/-- As many digits as the format has bits are always enough. -/
def shortest (v : f.Val) : Decimal :=
  let r := f.value v
  let k := leadingPlace r
  ((List.range f.bits).findSome? fun (n : Nat) =>
    neighbour? (f.roundingInterval v) r (k - 1 - n)).getD (f.exact v)

end Format

end Planar.Binary
