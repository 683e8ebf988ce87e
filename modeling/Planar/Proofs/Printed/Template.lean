import Planar.Proofs.Printed.Outline

/-! A printed point is a template filled with the texts of its leaves. The template
has a hole for each leaf, and it is known from the shape of the point and from whether
the point is laid out. Laid out, each leaf has a line of its own, and each point
around leaves has one line that opens it and one that closes it. -/

namespace Planar

open Text

/-- A text with holes. Where a hole is, a character is missing. -/
abbrev Template : Type := List (Option Char)

namespace Template

def fill : Template → List (List Char) → List Char
  | [], _ => []
  | some c :: rest, texts => c :: fill rest texts
  | none :: rest, [] => fill rest []
  | none :: rest, text :: texts => text ++ fill rest texts

theorem fill_map_some (s : List Char) (rest : Template) (texts : List (List Char)) :
    fill (s.map some ++ rest) texts = s ++ fill rest texts := by
  induction s with
  | nil => rfl
  | cons c s ih => exact congrArg (c :: ·) ih

theorem none_not_mem_map_some (s : List Char) : (none : Option Char) ∉ s.map some := by
  simp

end Template

abbrev Shape : Type := Tree Unit

def Shape.template (laidOut : Bool) (shape : Shape) : Template :=
  shape.compose (.of laidOut) some (fun _ => [none]) 0

def Axis.label (axis : Axis) : List Char := axis.name.toList ++ ": ".toList

structure Line (α : Type) where
  before : List Char
  leaf? : Option α
  after : List Char

namespace Line

variable {α γ : Type}

def opening (level : Nat) (label : List Char) : Line α :=
  ⟨List.replicate (4 * level) ' ' ++ label, none, "Point \x7b".toList⟩

def closing (level : Nat) (tail : List Char) : Line α :=
  ⟨List.replicate (4 * level) ' ', none, "\x7d".toList ++ tail⟩

def compose (char : Char → γ) (leaf : α → List γ) (line : Line α) : List γ :=
  line.before.map char ++ (line.leaf?.elim [] leaf ++ line.after.map char)

section NewLine

variable {char : Char → γ} (hchar : char.Injective) {leaf : α → List γ}
include hchar

theorem newline_not_mem_compose {line : Line α} (hbefore : '\n' ∉ line.before)
    (hafter : '\n' ∉ line.after) (hleaf : ∀ a ∈ line.leaf?, char '\n' ∉ leaf a) :
    char '\n' ∉ line.compose char leaf := by
  rw [compose, List.mem_append, List.mem_append, not_or, not_or,
    List.mem_map_of_injective hchar, List.mem_map_of_injective hchar]
  refine ⟨hbefore, ?_, hafter⟩
  cases hline : line.leaf? with
  | none => exact List.not_mem_nil
  | some a => exact hleaf a hline

theorem newline_not_mem_opening (level : Nat) {label : List Char} (hlabel : '\n' ∉ label) :
    char '\n' ∉ (opening level label).compose char leaf := by
  refine newline_not_mem_compose hchar ?_ (show '\n' ∉ "Point \x7b".toList by decide) nofun
  rw [opening, List.mem_append, not_or]
  exact ⟨newline_not_mem_replicate (by decide) _, hlabel⟩

theorem newline_not_mem_closing (level : Nat) {tail : List Char} (htail : '\n' ∉ tail) :
    char '\n' ∉ (closing level tail).compose char leaf := by
  refine newline_not_mem_compose hchar (newline_not_mem_replicate (by decide) _) ?_ nofun
  rw [closing, List.mem_append, not_or]
  exact ⟨by decide, htail⟩

end NewLine

end Line

namespace Tree

variable {α γ : Type}

def shape (t : Tree α) : Shape := t.map fun _ => ()

theorem template_shape (laidOut : Bool) (t : Tree α) :
    t.shape.template laidOut = compose (.of laidOut) some (fun _ => [none]) 0 t :=
  compose_map ..

/-- The lines of a tree at a level, of which the first begins with a label and the last
ends with a tail. -/
def lines : (level : Nat) → (label tail : List Char) → Tree α → List (Line α)
  | level, label, tail, .leaf a => [⟨List.replicate (4 * level) ' ' ++ label, some a, tail⟩]
  | level, label, tail, .node ⟨x, y⟩ =>
    .opening level label :: (lines (level + 1) Axis.x.label ",".toList x ++
      (lines (level + 1) Axis.y.label ",".toList y ++ [.closing level tail]))
termination_by structural _ _ _ t => t

theorem lines_node (level : Nat) (label tail : List Char) (p : Point (Tree α)) :
    lines level label tail (.node p) =
      .opening level label :: (lines (level + 1) Axis.x.label ",".toList p.x ++
        (lines (level + 1) Axis.y.label ",".toList p.y ++ [.closing level tail])) := rfl

theorem fill_compose (frame : Nat → Frame) (leaf : α → List Char) (level : Nat) (t : Tree α)
    (rest : Template) (texts : List (List Char)) :
    Template.fill (compose frame some (fun _ => [none]) level t ++ rest)
        (t.leaves.map (fun e => leaf e.2) ++ texts) =
      compose frame id leaf level t ++ Template.fill rest texts := by
  induction t generalizing level rest texts with
  | leaf a => rfl
  | node x y ihx ihy =>
    have hbelow (axis : Axis) (t : Tree α) :
        (t.leaves.map (Prod.map (axis :: ·) id)).map (fun e => leaf e.2) =
          t.leaves.map fun e => leaf e.2 := List.map_map
    rw [compose_node, compose_node, leaves_node, List.map_append, hbelow, hbelow]
    simp only [List.append_assoc, Template.fill_map_some, ihx, ihy, List.map_id]

theorem count_compose (frame : Nat → Frame) (level : Nat) (t : Tree α) :
    (compose frame some (fun _ => [none]) level t).count none = t.leaves.length := by
  induction t generalizing level with
  | leaf a => rfl
  | node x y ihx ihy =>
    have htext (s : List Char) : (s.map some).count none = 0 :=
      List.count_eq_zero.mpr (Template.none_not_mem_map_some s)
    simp only [compose_node, leaves_node, List.count_append, htext, ihx, ihy, List.length_append,
      List.length_map, Nat.zero_add, Nat.add_zero]

theorem length_lines (level : Nat) (label tail : List Char) (t : Tree α) :
    (lines level label tail t).length + 2 = 3 * t.leaves.length := by
  induction t generalizing level label tail with
  | leaf a => rfl
  | node x y ihx ihy =>
    have hx := ihx (level + 1) Axis.x.label ",".toList
    have hy := ihy (level + 1) Axis.y.label ",".toList
    rw [lines_node, leaves_node, List.length_cons, List.length_append, List.length_append,
      List.length_append, List.length_map, List.length_map, List.length_singleton]
    dsimp only
    omega

theorem newline_not_mem_compose_plain {leaf : α → List Char} {t : Tree α}
    (h : ∀ e ∈ t.leaves, '\n' ∉ leaf e.2) (level : Nat) :
    '\n' ∉ compose (fun _ => .plain) id leaf level t := by
  induction t generalizing level with
  | leaf a => exact h ([], a) (List.mem_singleton_self _)
  | node x y ihx ihy =>
    obtain ⟨hx, hy⟩ := (forall_mem_leaves_node fun a => '\n' ∉ leaf a).mp h
    simp only [compose_node, List.map_id, List.mem_append, not_or]
    exact ⟨by decide, ihx hx _, by decide, ihy hy _, by decide⟩

def leafLine (level : Nat) (label tail : List Char) : List Axis → α → Line α
  | [], a => ⟨List.replicate (4 * level) ' ' ++ label, some a, tail⟩
  | axis :: P, a => leafLine (level + 1) axis.label ",".toList P a

theorem leafLine_of_ne_nil {P : List Axis} (hP : P ≠ []) (level : Nat) (label tail : List Char)
    (a : α) : leafLine level label tail P a =
      ⟨List.replicate (4 * (level + P.length)) ' ' ++ P.getLast?.elim [] Axis.label, some a,
        ",".toList⟩ := by
  induction P generalizing level label tail with
  | nil => exact absurd rfl hP
  | cons axis P ih =>
    cases P with
    | nil => rfl
    | cons axis' P =>
      have hlength : level + 1 + (axis' :: P).length = level + (axis :: axis' :: P).length := by
        simp only [List.length_cons]
        omega
      rw [leafLine, ih (List.cons_ne_nil axis' P), hlength, List.getLast?_cons_cons]

theorem filter_lines (level : Nat) (label tail : List Char) (t : Tree α) :
    (lines level label tail t).filter (·.leaf?.isSome) =
      t.leaves.map fun e => leafLine level label tail e.1 e.2 := by
  induction t generalizing level label tail with
  | leaf a => rfl
  | node x y ihx ihy =>
    rw [lines_node, leaves_node, List.filter_cons_of_neg (by simp [Line.opening]),
      List.filter_append, List.filter_append, ihx, ihy, List.map_append, List.map_map, List.map_map]
    exact congrArg _ (List.append_nil _)

def onLines (char : Char → γ) (leaf : α → List γ) (level : Nat) (label tail : List Char)
    (t : Tree α) : List γ :=
  (List.replicate (4 * level) ' ' ++ label).map char ++
    (compose .alternate char leaf level t ++ tail.map char)

theorem onLines_node (char : Char → γ) (leaf : α → List γ) (level : Nat)
    (label tail : List Char) (p : Point (Tree α)) :
    onLines char leaf level label tail (.node p) =
      (Line.opening level label).compose char leaf ++
        char '\n' :: (onLines char leaf (level + 1) Axis.x.label ",".toList p.x ++
        char '\n' :: (onLines char leaf (level + 1) Axis.y.label ",".toList p.y ++
        char '\n' :: (Line.closing level tail).compose char leaf)) := by
  have hx : "x: ".toList = Axis.x.label := rfl
  have hy : "y: ".toList = Axis.y.label := rfl
  unfold onLines
  rw [compose_node]
  unfold Frame.alternate newLine Line.compose Line.opening Line.closing
  simp only [hx, hy, List.map_append, List.map_cons, List.append_assoc, List.cons_append,
    Option.elim_none, List.nil_append]

theorem onLines_zero (char : Char → γ) (leaf : α → List γ) (t : Tree α) :
    onLines char leaf 0 [] [] t = compose .alternate char leaf 0 t := List.append_nil _

theorem splitOn_onLines [BEq γ] [LawfulBEq γ] {char : Char → γ} (hchar : char.Injective)
    {leaf : α → List γ} {t : Tree α} (hleaf : ∀ e ∈ t.leaves, char '\n' ∉ leaf e.2) (level : Nat)
    {label tail : List Char} (hlabel : '\n' ∉ label) (htail : '\n' ∉ tail) :
    (onLines char leaf level label tail t).splitOn (char '\n') =
      (lines level label tail t).map (Line.compose char leaf) := by
  induction t generalizing level label tail with
  | leaf a =>
    have hbefore : '\n' ∉ List.replicate (4 * level) ' ' ++ label := by
      rw [List.mem_append, not_or]
      exact ⟨newline_not_mem_replicate (by decide) _, hlabel⟩
    have hline : char '\n' ∉
        (⟨List.replicate (4 * level) ' ' ++ label, some a, tail⟩ : Line α).compose char leaf := by
      refine Line.newline_not_mem_compose hchar hbefore htail ?_
      rintro _ ⟨⟩
      exact hleaf ([], a) (List.mem_singleton_self _)
    exact List.splitOn_eq_singleton hline
  | node x y ihx ihy =>
    obtain ⟨hx, hy⟩ := (forall_mem_leaves_node fun a => char '\n' ∉ leaf a).mp hleaf
    rw [onLines_node, List.splitOn_append_cons_self, List.splitOn_append_cons_self,
      List.splitOn_append_cons_self, ihx hx _ (by decide) (by decide),
      ihy hy _ (by decide) (by decide),
      List.splitOn_eq_singleton (Line.newline_not_mem_opening hchar level hlabel),
      List.splitOn_eq_singleton (Line.newline_not_mem_closing hchar level htail), lines_node,
      List.map_cons, List.map_append, List.map_append]
    rfl

end Tree

namespace Kind

variable {k : Kind}

theorem ne_nil_of_mem_leaves {p : k.point.Val} {e : List Axis × k.base.Val}
    (he : e ∈ (k.point.toTree p).leaves) : e.1 ≠ [] := by
  obtain ⟨P, v⟩ := e
  rintro rfl
  exact Tree.nil_not_mem_leaves_node he

theorem text_eq_fill (hk : k.base.oneLine = true) (style : Style) (p : k.point.Val) :
    k.point.text style p = ((k.point.toTree p).shape.template style.alternate).fill
      ((k.point.toTree p).leaves.map fun e => text ⟨k.base, 0⟩ style e.2) := by
  have hfill := Tree.fill_compose (.of style.alternate) (text ⟨k.base, 0⟩ style) 0
    (k.point.toTree p) [] []
  rw [List.append_nil, List.append_nil, ← Tree.template_shape] at hfill
  rw [hfill, text_eq_compose (k := k.point) hk]
  exact (List.append_nil _).symm

/-- The template is made of the shape and of whether the text is laid out, and of
nothing else, so that it is the template of each point of the same shape in each style that
is laid out alike. A line of the text is the same line of the template with its hole filled. -/
theorem text_is_filled_template (hk : k.base.oneLine = true) (style : Style) (p : k.point.Val) :
    let leaves := (k.point.toTree p).leaves
    let leafText : k.base.Val → List Char := Kind.text ⟨k.base, 0⟩ style
    let template := (k.point.toTree p).shape.template style.alternate
    let text := k.point.text style p
    (∀ P v, (P, v) ∈ leaves ↔ k.point.leaf? p P = some v) ∧
    leaves.Pairwise (fun e e' => Precedes e.1 e'.1) ∧
    text = template.fill (leaves.map fun e => leafText e.2) ∧
    (∀ (style' : Style) (q : k.point.Val), style'.alternate = style.alternate →
      (k.point.toTree q).shape = (k.point.toTree p).shape → k.point.text style' q =
        template.fill ((k.point.toTree q).leaves.map fun e => Kind.text ⟨k.base, 0⟩ style' e.2)) ∧
    template.count none = leaves.length ∧
    (style.alternate = false → '\n' ∉ text) ∧
    (style.alternate = true → ∃ lines : List (Line k.base.Val),
      template.splitOn (some '\n') = lines.map (Line.compose some fun _ => [none]) ∧
      text.splitOn '\n' = lines.map (Line.compose id leafText) ∧
      lines.length = 3 * leaves.length - 2 ∧
      lines.filter (·.leaf?.isSome) = leaves.map (fun e =>
        ⟨List.replicate (4 * e.1.length) ' ' ++ e.1.getLast?.elim [] Axis.label, some e.2,
          ",".toList⟩) ∧
      ∀ e ∈ leaves, e.1 ≠ []) := by
  intro leaves leafText template text
  have htext : text = (k.point.toTree p).compose (.of style.alternate) id leafText 0 :=
    text_eq_compose (k := k.point) hk style p
  have htemplate : template =
      (k.point.toTree p).compose (.of style.alternate) some (fun _ => [none]) 0 :=
    Tree.template_shape ..
  have hleaf : ∀ e ∈ leaves, '\n' ∉ leafText e.2 :=
    fun e he => newline_not_mem_leaf (k := k.point) hk style he
  refine ⟨fun P v => mem_leaves_iff, Tree.pairwise_precedes_leaves _, text_eq_fill hk style p,
    fun style' q hlaid hshape => ?_, ?_, fun hplain => ?_, fun hlaid => ?_⟩
  · rw [text_eq_fill hk style' q, hlaid, hshape]
  · rw [htemplate, Tree.count_compose]
  · rw [htext, hplain]
    exact Tree.newline_not_mem_compose_plain hleaf 0
  · rw [hlaid] at htext htemplate
    have hholes : ∀ e ∈ leaves, some '\n' ∉ [(none : Option Char)] := fun _ _ => by decide
    refine ⟨(k.point.toTree p).lines 0 [] [], ?_, ?_, ?_, ?_, fun e => ne_nil_of_mem_leaves⟩
    · rw [htemplate, ← Tree.splitOn_onLines (fun _ _ => Option.some.inj) hholes 0
        List.not_mem_nil List.not_mem_nil, Tree.onLines_zero]
      rfl
    · rw [htext, ← Tree.splitOn_onLines Function.injective_id hleaf 0 List.not_mem_nil
        List.not_mem_nil, Tree.onLines_zero]
      rfl
    · exact Nat.eq_sub_of_add_eq (Tree.length_lines ..)
    · rw [Tree.filter_lines]
      refine List.map_congr_left fun e he => ?_
      rw [Tree.leafLine_of_ne_nil (ne_nil_of_mem_leaves he), Nat.zero_add]

/-- The leaves are at different depths, and each is padded on its own. -/
theorem text_of_irregular_tree :
    let k : Kind := { base := .tree ⟨true, 64⟩ }
    let p : k.point.Val := ⟨.node ⟨.leaf (-1), .leaf 2⟩, .leaf 3⟩
    let style : Style := { alternate := true, plus := true, width := 3 }
    k.base.oneLine = true ∧
    (k.point.toTree p).leaves = [([.x, .x], .leaf (-1)), ([.x, .y], .leaf 2), ([.y], .leaf 3)] ∧
    k.point.text style p = ((k.point.toTree p).shape.template true).fill
      [" -1".toList, " +2".toList, " +3".toList] ∧
    ((k.point.text style p).splitOn '\n').length = 7 := by
  intro k p style
  obtain ⟨-, -, hfill, -, -, -, hlines⟩ := text_is_filled_template (k := k) rfl style p
  obtain ⟨lines, -, hsplit, hlength, -⟩ := hlines rfl
  refine ⟨rfl, rfl, hfill, ?_⟩
  rw [hsplit, List.length_map, hlength]
  rfl

end Kind

end Planar
