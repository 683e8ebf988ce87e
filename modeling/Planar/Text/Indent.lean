/-! Texts arrive at a printer in pieces. Indenting puts a margin before the
first character of every line, and whether the next character begins a line is
carried from one piece to the next. The indented text therefore depends only on
the pieces' concatenation and not on the way it was cut (`flatten_indentPieces`). -/

namespace Planar.Text

/-- A text in the pieces in which it was handed over. -/
abbrev Pieces := List (List Char)

def margin : List Char := List.replicate 4 ' '

/-- Puts the margin before the first character of every line, also where that
character ends the line. `start` tells whether the text begins a line. -/
def indent : Bool → List Char → List Char
  | _, [] => []
  | start, c :: rest => (if start then margin else []) ++ c :: indent (c == '\n') rest

def endsLine : Bool → List Char → Bool
  | start, [] => start
  | _, c :: rest => endsLine (c == '\n') rest

def indentPieces : Bool → Pieces → Pieces
  | _, [] => []
  | start, piece :: rest => indent start piece :: indentPieces (endsLine start piece) rest

theorem indent_append (start : Bool) (s t : List Char) :
    indent start (s ++ t) = indent start s ++ indent (endsLine start s) t := by
  induction s generalizing start with
  | nil => rfl
  | cons c s ih => simp [indent, endsLine, ih]

theorem endsLine_append (start : Bool) (s t : List Char) :
    endsLine start (s ++ t) = endsLine (endsLine start s) t := by
  induction s generalizing start with
  | nil => rfl
  | cons c s ih => simp [endsLine, ih]

theorem flatten_indentPieces (start : Bool) (pieces : Pieces) :
    (indentPieces start pieces).flatten = indent start pieces.flatten := by
  induction pieces generalizing start with
  | nil => rfl
  | cons piece rest ih => simp [indentPieces, indent_append, ih]

end Planar.Text
