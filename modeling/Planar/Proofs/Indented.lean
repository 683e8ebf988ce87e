import Planar.Kind.Basic

/-! The alternate text of points of texts, written down line by line. A leaf keeps
its characters, and behind each of its line ends stand four spaces for each point
around it, however the leaf was cut into pieces when it was printed. -/

namespace Planar

namespace Text

/-- A line end and the margin of the next line, four spaces a level. -/
def newLine (level : Nat) : List Char := '\n' :: List.replicate (4 * level) ' '

def hang (level : Nat) (text : List Char) : List Char :=
  text.flatMap fun c => if c = '\n' then newLine level else [c]

theorem hang_cons (level : Nat) (c : Char) (s : List Char) :
    hang level (c :: s) = (if c = '\n' then newLine level else [c]) ++ hang level s :=
  List.flatMap_cons

theorem hang_append (level : Nat) (s t : List Char) :
    hang level (s ++ t) = hang level s ++ hang level t := List.flatMap_append

theorem hang_of_not_mem {s : List Char} (level : Nat) (h : '\n' ∉ s) : hang level s = s := by
  induction s with
  | nil => rfl
  | cons c s ih =>
    rw [List.mem_cons, not_or] at h
    rw [hang_cons, if_neg (Ne.symm h.1), ih h.2, List.singleton_append]

theorem hang_zero (s : List Char) : hang 0 s = s := by
  induction s with
  | nil => rfl
  | cons c s ih =>
    rw [hang_cons, ih]
    split
    · next hc => rw [hc]; rfl
    · rfl

theorem hang_newLine (level more : Nat) : hang level (newLine more) = newLine (level + more) := by
  have hspaces : '\n' ∉ List.replicate (4 * more) ' ' := fun h => by
    cases List.eq_of_mem_replicate h
  rw [newLine, hang_cons, if_pos rfl, hang_of_not_mem level hspaces, newLine, newLine,
    List.cons_append, List.replicate_append_replicate, Nat.mul_add]

theorem hang_hang (level more : Nat) (s : List Char) :
    hang level (hang more s) = hang (level + more) s := by
  induction s with
  | nil => rfl
  | cons c s ih =>
    rw [hang_cons, hang_cons, hang_append, ih]
    split
    · rw [hang_newLine]
    · next hc => rw [hang_cons, if_neg hc]; rfl

theorem indent_comma (start : Bool) (s : List Char) :
    indent start (s ++ ",\n".toList) =
      (if start then margin else []) ++ (hang 1 s ++ ",\n".toList) := by
  induction s generalizing start with
  | nil => cases start <;> rfl
  | cons c s ih =>
    rw [List.cons_append, indent, ih, hang_cons]
    by_cases hc : c = '\n'
    · subst hc
      rfl
    · have hstart : (c == '\n') = false := beq_false_of_ne hc
      rw [if_neg hc, hstart]
      rfl

/-- Takes away as many spaces as wait, and four behind every line end but the last
one. There is no outcome where something else than a space would be taken away. -/
def outdent? : Nat → List Char → Option (List Char)
  | 0, [] => some []
  | 0, c :: rest => (c :: ·) <$> outdent? (if c = '\n' ∧ '\n' ∈ rest then 4 else 0) rest
  | waiting + 1, c :: rest => if c = ' ' then outdent? waiting rest else none
  | _ + 1, [] => none

theorem outdent?_hang (s t : List Char) (h : '\n' ∈ t) :
    outdent? 0 (hang 1 s ++ t) = (s ++ ·) <$> outdent? 0 t := by
  induction s with
  | nil => exact (id_map _).symm
  | cons c s ih =>
    have hrest : '\n' ∈ hang 1 s ++ t := List.mem_append_right _ h
    rw [hang_cons]
    by_cases hc : c = '\n'
    · have hspaces : outdent? 4 (margin ++ (hang 1 s ++ t)) = outdent? 0 (hang 1 s ++ t) := rfl
      have hmargin : newLine 1 ++ hang 1 s ++ t = '\n' :: (margin ++ (hang 1 s ++ t)) := rfl
      rw [if_pos hc, hmargin, outdent?, if_pos ⟨rfl, List.mem_append_right margin hrest⟩, hspaces,
        ih, ← comp_map, hc]
      rfl
    · rw [if_neg hc, List.append_assoc, List.singleton_append, outdent?,
        if_neg fun h => hc h.1, ih, ← comp_map]
      rfl

end Text

open Text

def Point.lines (level : Nat) (x y : List Char) : List Char :=
  "Point \x7b".toList ++ newLine (level + 1) ++ "x: ".toList ++ x ++ ",".toList ++
    newLine (level + 1) ++ "y: ".toList ++ y ++ ",".toList ++ newLine level ++ "\x7d".toList

theorem Point.hang_lines (level more : Nat) (x y : List Char) :
    hang level (Point.lines more x y) =
      Point.lines (level + more) (hang level x) (hang level y) := by
  have hopen : hang level "Point \x7b".toList = "Point \x7b".toList :=
    hang_of_not_mem level (by decide)
  have hx : hang level "x: ".toList = "x: ".toList := hang_of_not_mem level (by decide)
  have hy : hang level "y: ".toList = "y: ".toList := hang_of_not_mem level (by decide)
  have hcomma : hang level ",".toList = ",".toList := hang_of_not_mem level (by decide)
  have hclose : hang level "\x7d".toList = "\x7d".toList := hang_of_not_mem level (by decide)
  unfold Point.lines
  simp only [hang_append, hang_newLine, Nat.add_assoc, hopen, hx, hy, hcomma, hclose]

theorem Point.flatten_layout_true_eq_lines (parts : Point Pieces) :
    (Point.layout true parts).flatten =
      Point.lines 0 (hang 1 parts.x.flatten) (hang 1 parts.y.flatten) := by
  have hentry (label : String) (part : Pieces) (h : '\n' ∉ label.toList) :
      (entry label part).flatten =
        margin ++ (label.toList ++ hang 1 part.flatten ++ ",\n".toList) := by
    rw [flatten_entry, indent_comma, hang_append, hang_of_not_mem 1 h]
    rfl
  have hopen : "Point \x7b\n".toList = "Point \x7b".toList ++ ['\n'] := rfl
  have hcomma : ",\n".toList = ",".toList ++ ['\n'] := rfl
  have hfirst : newLine (0 + 1) = ['\n'] ++ margin := rfl
  have hlast : newLine 0 = ['\n'] := rfl
  rw [Point.flatten_layout_true, hentry _ _ (by decide), hentry _ _ (by decide)]
  unfold Point.lines
  simp only [hopen, hcomma, hfirst, hlast, List.append_assoc]

theorem Point.lines_zero_eq_hang (x y : List Char) :
    Point.lines 0 (hang 1 x) (hang 1 y) =
      hang 1 ("Point \x7b\nx: ".toList ++ x ++ ",\ny: ".toList ++ y ++ ",".toList) ++
        "\n\x7d".toList := by
  have hopen : hang 1 "Point \x7b\nx: ".toList =
      "Point \x7b".toList ++ (newLine (0 + 1) ++ "x: ".toList) := rfl
  have hbetween : hang 1 ",\ny: ".toList = ",".toList ++ (newLine (0 + 1) ++ "y: ".toList) := rfl
  have hcomma : hang 1 ",".toList = ",".toList := rfl
  have hclose : "\n\x7d".toList = newLine 0 ++ "\x7d".toList := rfl
  unfold Point.lines
  simp only [hang_append, hopen, hbetween, hcomma, hclose, List.append_assoc]

namespace Nested

def lines (level : Nat) : (n : Nat) → Nested (List Char) n → List Char
  | 0, text => hang level text
  | n + 1, p => Point.lines level (lines (level + 1) n p.x) (lines (level + 1) n p.y)

theorem lines_succ (level n : Nat) (p : Nested (List Char) (n + 1)) :
    lines level (n + 1) p =
      Point.lines level (lines (level + 1) n p.x) (lines (level + 1) n p.y) := rfl

theorem hang_lines (level more n : Nat) (p : Nested (List Char) n) :
    hang level (lines more n p) = lines (level + more) n p := by
  induction n generalizing more with
  | zero => exact hang_hang level more p
  | succ n ih => rw [lines_succ, lines_succ, Point.hang_lines, ih, ih, Nat.add_assoc]

theorem flatten_layout_true {α : Type} (leaf : α → Pieces) (n : Nat) (p : Nested α n) :
    (layout true leaf n p).flatten = lines 0 n (map (fun a => (leaf a).flatten) n p) := by
  induction n with
  | zero => exact (hang_zero _).symm
  | succ n ih =>
    have hlayout : layout true leaf (n + 1) p =
      Point.layout true ⟨layout true leaf n p.x, layout true leaf n p.y⟩ := rfl
    rw [hlayout, Point.flatten_layout_true_eq_lines, ih, ih, hang_lines, hang_lines]
    rfl

end Nested

namespace Kind

theorem outdent?_text (k : Kind) (style : Style) (p : k.point.Val) :
    outdent? 0 (k.point.text { style with alternate := true } p) =
      some ("Point \x7b\nx: ".toList ++ k.text { style with alternate := true } p.x ++
        ",\ny: ".toList ++ k.text { style with alternate := true } p.y ++ ",\n\x7d".toList) := by
  have htext : k.point.text { style with alternate := true } p =
      Point.lines 0 (hang 1 (k.text { style with alternate := true } p.x))
        (hang 1 (k.text { style with alternate := true } p.y)) :=
    Point.flatten_layout_true_eq_lines ⟨_, _⟩
  have hlast : outdent? 0 "\n\x7d".toList = some "\n\x7d".toList := rfl
  have hclose : ",\n\x7d".toList = ",".toList ++ "\n\x7d".toList := rfl
  rw [htext, Point.lines_zero_eq_hang, outdent?_hang _ _ (by decide), hlast, hclose]
  exact congrArg some (List.append_assoc _ _ _)

theorem text_raw (n : Nat) (style : Style) (p : Nested String n) :
    text ⟨.raw, n⟩ { style with alternate := true } p =
      Nested.lines 0 n (Nested.map String.toList n p) := by
  have htext : text ⟨.raw, n⟩ { style with alternate := true } p =
      (Nested.layout true (fun s => [s.toList]) n p).flatten := rfl
  have hleaf : (fun s : String => [s.toList].flatten) = String.toList :=
    funext fun s => List.flatten_singleton
  rw [htext, Nested.flatten_layout_true, hleaf]

theorem alternate_text_of_pieces (n : Nat) (style : Style) (p : Nested String (n + 1))
    (cut : Nested Pieces (n + 1))
    (hcut : Nested.map List.flatten (n + 1) cut = Nested.map String.toList (n + 1) p) :
    let k : Kind := ⟨.raw, n⟩
    let alternate : Style := { style with alternate := true }
    (Nested.layout true id (n + 1) cut).flatten =
      Nested.lines 0 (n + 1) (Nested.map String.toList (n + 1) p) ∧
    k.point.text alternate p = Nested.lines 0 (n + 1) (Nested.map String.toList (n + 1) p) ∧
    outdent? 0 (k.point.text alternate p) =
      some ("Point \x7b\nx: ".toList ++ k.text alternate p.x ++ ",\ny: ".toList ++
        k.text alternate p.y ++ ",\n\x7d".toList) := by
  intro k alternate
  refine ⟨?_, text_raw (n + 1) style p, ?_⟩
  · rw [Nested.flatten_layout_true, ← hcut]
    rfl
  · exact outdent?_text k style p

/-- The line ends of the leaves fall on the cuts. -/
theorem alternate_text_of_cut_line_ends :
    let p : Nested String 2 := ⟨⟨"a\n", ""⟩, ⟨"\n\nb", "c"⟩⟩
    let cut : Nested Pieces 2 :=
      ⟨⟨[[], ['a'], ['\n'], []], []⟩, ⟨[['\n'], ['\n', 'b']], [['c']]⟩⟩
    Nested.map List.flatten 2 cut = Nested.map String.toList 2 p ∧
    (Nested.layout true id 2 cut).flatten =
      ("Point \x7b\n    x: Point \x7b\n        x: a\n        ,\n        y: ,\n    \x7d,\n" ++
        "    y: Point \x7b\n        x: \n        \n        b,\n        y: c,\n    \x7d,\n" ++
        "\x7d").toList := by
  intro p cut
  have hcut : Nested.map List.flatten 2 cut = Nested.map String.toList 2 p := by
    simp only [p, cut, Nested.map, Point.map]
    rfl
  refine ⟨hcut, ?_⟩
  rw [(alternate_text_of_pieces 1 .plain p cut hcut).1]
  decide +kernel

end Kind

end Planar
