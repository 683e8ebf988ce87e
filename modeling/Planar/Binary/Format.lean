import Planar.Text.Numeral

/-! Binary floating point numbers in an interchange format: a sign bit, a biased
exponent and a fraction. A finite number is a whole significand times a power of
two. Two numbers are equal when both are numbers and they have the same bits or
are zeros of either sign; a NaN is equal to nothing, itself included. -/

namespace Planar.Binary

open Text

inductive Format
  | single
  | double
  deriving DecidableEq

namespace Format

def exponentBits : Format → Nat
  | .single => 8
  | .double => 11

def fractionBits : Format → Nat
  | .single => 23
  | .double => 52

abbrev bits (f : Format) : Nat := 1 + f.exponentBits + f.fractionBits

abbrev Val (f : Format) : Type := BitVec f.bits

variable (f : Format)

def signBit : Nat := 1 <<< (f.exponentBits + f.fractionBits)

def leadingOne : Nat := 1 <<< f.fractionBits

/-- The bits without the sign. They order the numbers by their absolute value,
with the infinity above all numbers and the NaNs above it. -/
def magnitude (v : f.Val) : Nat := v.toNat % f.signBit

def infinity : Nat := (1 <<< f.exponentBits - 1) * f.leadingOne

def isNaN (v : f.Val) : Bool := f.infinity < f.magnitude v

def isInfinite (v : f.Val) : Bool := f.magnitude v = f.infinity

def isZero (v : f.Val) : Bool := f.magnitude v = 0

def negative (v : f.Val) : Bool := f.signBit ≤ v.toNat

def ofMagnitude (negative : Bool) (magnitude : Nat) : f.Val :=
  BitVec.ofNat f.bits ((if negative then f.signBit else 0) + magnitude)

def nan : f.Val := f.ofMagnitude false (f.infinity + f.leadingOne / 2)

def zero : f.Val := f.ofMagnitude false 0

def biased (v : f.Val) : Nat := f.magnitude v / f.leadingOne

def fraction (v : f.Val) : Nat := f.magnitude v % f.leadingOne

def minExponent : Int := 2 - (1 <<< (f.exponentBits - 1) : Nat) - f.fractionBits

/-- A finite number has the absolute value `significand * 2 ^ exponent`. -/
def significand (v : f.Val) : Nat :=
  if f.biased v = 0 then f.fraction v else f.leadingOne + f.fraction v

def exponent (v : f.Val) : Int := f.minExponent + (f.biased v - 1 : Nat)

def eq (v w : f.Val) : Bool :=
  !f.isNaN v && !f.isNaN w && (v == w || (f.isZero v && f.isZero w))

/-- The bits in hexadecimal digits. All NaNs are written alike and not read back. -/
def write (v : f.Val) : List Char :=
  if f.isNaN v then "nan".toList else Hexadecimal.write (f.bits / 4) v.toNat

def read? (text : List Char) : Option f.Val :=
  (Hexadecimal.read? (f.bits / 4) text).map (BitVec.ofNat f.bits)

theorem eq_self_iff (v : f.Val) : f.eq v v = true ↔ f.isNaN v = false := by
  simp [eq]

theorem eq_comm (v w : f.Val) : f.eq v w = f.eq w v := by
  simp only [eq, Bool.and_comm (f.isZero v), Bool.beq_comm (a := v)]
  rw [Bool.and_comm (!f.isNaN v)]

theorem four_mul_digits : 4 * (f.bits / 4) = f.bits := by
  cases f <;> rfl

theorem read?_bits (v : f.Val) : f.read? (Hexadecimal.write (f.bits / 4) v.toNat) = some v := by
  have hv : v.toNat < 1 <<< (4 * (f.bits / 4)) := by
    rw [four_mul_digits, Nat.one_shiftLeft]
    exact v.isLt
  simp [read?, Hexadecimal.read?_write hv]

theorem read?_write {v : f.Val} (h : f.isNaN v = false) : f.read? (f.write v) = some v := by
  rw [write, h]
  exact f.read?_bits v

end Format

end Planar.Binary
