/-! What a reader may ask of a printed value: an alternate form over several
lines, signs on non-negative numbers, zeros for padding, hexadecimal digits and
a least width. Numbers are padded on the left, words on the right. -/

namespace Planar.Text

inductive LetterCase
  | lower
  | upper
  deriving DecidableEq

structure Style where
  alternate : Bool := false
  plus : Bool := false
  zero : Bool := false
  hex : Option LetterCase := none
  width : Nat := 0
  deriving DecidableEq

namespace Style

def plain : Style := {}

def sign (style : Style) (negative : Bool) : List Char :=
  if negative then ['-'] else if style.plus then ['+'] else []

/-- A number is padded on the left: by zeros between its lead (sign and base)
and its digits, or else by spaces before the lead. -/
def padNumber (style : Style) (lead digits : List Char) : List Char :=
  if style.zero then lead ++ digits.leftpad (style.width - lead.length) '0'
  else (lead ++ digits).leftpad style.width ' '

def padWord (style : Style) (word : List Char) : List Char := word.rightpad style.width ' '

end Style

end Planar.Text
