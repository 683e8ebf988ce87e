import Planar.Text.Unprintable

/-! Quoted texts. Between two quotes stand the characters of the text, where the
quote itself, the backslash and the unprintable characters are escaped. No line end
and no quote that stands alone is left inside. -/

namespace Planar.Text.Quoted

def escape (quote c : Char) : List Char :=
  if c = quote then ['\\', c] else
  match c with
  | '\\' => ['\\', '\\']
  | '\x00' => ['\\', '0']
  | '\t' => ['\\', 't']
  | '\n' => ['\\', 'n']
  | '\r' => ['\\', 'r']
  | _ =>
    if isUnprintable c then ['\\', 'u', '\x7b'] ++ Nat.toDigits 16 c.toNat ++ ['\x7d'] else [c]

def encode (quote : Char) (text : List Char) : List Char :=
  quote :: text.flatMap (escape quote) ++ [quote]

end Planar.Text.Quoted
