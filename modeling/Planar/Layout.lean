import Planar.Nested
import Planar.Text.Indent

/-! The written form of a point, of an optional value and of a list, given the
written forms of their parts. The plain form stays on one line. The alternate
form puts each part on lines of its own, ended by a comma and indented by one
margin, whatever the part's text contains. -/

namespace Planar

open Text

/-- The lines of one part inside an alternate form: its label, its text and a
comma, all one margin further in. -/
def entry (label : String) (part : Pieces) : Pieces :=
  indentPieces true (label.toList :: part ++ [",\n".toList])

theorem flatten_entry (label : String) (part : Pieces) :
    (entry label part).flatten =
      indent true (label.toList ++ part.flatten ++ ",\n".toList) := by
  simp [entry, flatten_indentPieces]

def Point.layout (alternate : Bool) (parts : Point Pieces) : Pieces :=
  if alternate then
    ["Point \x7b\n".toList] ++ entry "x: " parts.x ++ entry "y: " parts.y ++ ["\x7d".toList]
  else
    ["Point \x7b x: ".toList] ++ parts.x ++ [", y: ".toList] ++ parts.y ++ [" \x7d".toList]

def layoutOption (alternate : Bool) : Option Pieces → Pieces
  | none => ["None".toList]
  | some part =>
    if alternate then ["Some(\n".toList] ++ entry "" part ++ [")".toList]
    else ["Some(".toList] ++ part ++ [")".toList]

def layoutList (alternate : Bool) (parts : List Pieces) : Pieces :=
  if parts.isEmpty then ["[]".toList]
  else if alternate then ["[\n".toList] ++ parts.flatMap (entry "") ++ ["]".toList]
  else ["[".toList] ++ List.intercalate [", ".toList] parts ++ ["]".toList]

def Nested.layout {α : Type} (alternate : Bool) (leaf : α → Pieces) :
    (n : Nat) → Nested α n → Pieces
  | 0, a => leaf a
  | n + 1, p => Point.layout alternate (Point.map (Nested.layout alternate leaf n) p)

theorem Point.flatten_layout_false (parts : Point Pieces) :
    (Point.layout false parts).flatten =
      "Point \x7b x: ".toList ++ (parts.x.flatten ++ (", y: ".toList ++ (parts.y.flatten ++
        " \x7d".toList))) := by
  simp only [Point.layout, Bool.false_eq_true, if_false, List.flatten_append, List.flatten_cons,
    List.flatten_nil, List.append_nil, List.append_assoc]

theorem Point.flatten_layout_true (parts : Point Pieces) :
    (Point.layout true parts).flatten =
      "Point \x7b\n".toList ++ ((entry "x: " parts.x).flatten ++
        ((entry "y: " parts.y).flatten ++ "\x7d".toList)) := by
  simp only [Point.layout, if_true, List.flatten_append, List.flatten_cons, List.flatten_nil,
    List.append_nil, List.append_assoc]

end Planar
