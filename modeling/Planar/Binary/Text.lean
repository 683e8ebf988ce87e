import Planar.Binary.Shortest
import Planar.Text.Style

/-! The written form of a binary number: its shortest decimal, positional from
`0.0001` up to `10 ^ 16` and with an exponent elsewhere. Infinities and NaNs are
words, padded as numbers are; a NaN has no sign. -/

namespace Planar.Binary

open Text

namespace Decimal

def positional (digits : List Char) (point : Int) : List Char :=
  let whole := (digits.take point.toNat).rightpad point.toNat '0'
  let rest := List.replicate (-point).toNat '0' ++ digits.drop point.toNat
  (if whole.isEmpty then ['0'] else whole) ++ '.' :: (if rest.isEmpty then ['0'] else rest)

def scientific (digits : List Char) (point : Int) : List Char :=
  let rest := digits.drop 1
  digits.take 1 ++ (if rest.isEmpty then [] else '.' :: rest) ++
    'e' :: Text.Decimal.write (point - 1)

def text (d : Decimal) : List Char :=
  if -4 < d.point ∧ d.point ≤ 16 then positional d.significant d.point
  else scientific d.significant d.point

end Decimal

namespace Format

variable (f : Format)

def body (v : f.Val) : List Char :=
  if f.isNaN v then "NaN".toList
  else if f.isInfinite v then "inf".toList
  else if f.isZero v then "0.0".toList
  else (f.shortest v).text

def text (style : Style) (v : f.Val) : List Char :=
  style.padNumber (if f.isNaN v then [] else style.sign (f.negative v)) (f.body v)

end Format

end Planar.Binary
