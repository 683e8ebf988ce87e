import Planar.Text.Numeral
import Planar.Text.Style

/-! Whole numbers of a fixed count of bits, with or without a sign. Addition
wraps around. The written form is decimal, and the reader accepts exactly the
written forms of the numbers in range. -/

namespace Planar.Integer

open Text

structure Format where
  signed : Bool
  bits : Nat
  deriving DecidableEq

namespace Format

abbrev Val (f : Format) : Type := BitVec f.bits

variable (f : Format)

def toInt (v : f.Val) : Int := if f.signed then v.toInt else v.toNat

def ofInt? (i : Int) : Option f.Val :=
  let v := BitVec.ofInt f.bits i
  if f.toInt v = i then some v else none

def write (v : f.Val) : List Char := Decimal.write (f.toInt v)

def read? (text : List Char) : Option f.Val := Decimal.read? text >>= f.ofInt?

def hexadecimal (letters : LetterCase) (v : f.Val) : List Char :=
  let digits := Nat.toDigits 16 v.toNat
  match letters with
  | .lower => digits
  | .upper => digits.map Char.toUpper

/-- Hexadecimal digits show the bits and hence no minus sign. The alternate
form marks them by `0x`. -/
def text (style : Style) (v : f.Val) : List Char :=
  match style.hex with
  | some letters =>
    let base := if style.alternate then ['0', 'x'] else []
    style.padNumber (style.sign false ++ base) (f.hexadecimal letters v)
  | none =>
    style.padNumber (style.sign (f.toInt v < 0)) (Nat.toDigits 10 (f.toInt v).natAbs)

theorem toInt_inj {v w : f.Val} : f.toInt v = f.toInt w ↔ v = w := by
  unfold toInt
  split
  · exact BitVec.toInt_inj
  · rw [Int.ofNat_inj]
    exact BitVec.toNat_inj

theorem ofInt?_eq_some_iff {i : Int} {v : f.Val} : f.ofInt? i = some v ↔ f.toInt v = i := by
  constructor
  · intro h
    obtain ⟨hi, hv⟩ := Option.ite_none_right_eq_some.mp h
    exact Option.some.inj hv ▸ hi
  · rintro rfl
    have hv : BitVec.ofInt f.bits (f.toInt v) = v := by
      unfold toInt
      split
      · exact BitVec.ofInt_toInt
      · simp
    simp only [ofInt?, hv, if_true]

@[simp] theorem read?_write (v : f.Val) : f.read? (f.write v) = some v := by
  simp [read?, write, ofInt?_eq_some_iff]

theorem read?_eq_some_iff {text : List Char} {v : f.Val} :
    f.read? text = some v ↔ text = f.write v := by
  constructor
  · intro h
    obtain ⟨i, hi, hv⟩ := Option.bind_eq_some_iff.mp h
    rw [write, f.ofInt?_eq_some_iff.mp hv]
    exact Decimal.read?_eq_some_iff.mp hi
  · rintro rfl
    exact f.read?_write v

end Format

end Planar.Integer
