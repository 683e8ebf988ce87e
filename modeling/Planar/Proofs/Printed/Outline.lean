import Planar.Proofs.Indented
import Planar.Proofs.Observation
import Planar.Proofs.Printed.OneLine

/-! The outline of a printed point. Nested points and trees are both trees of leaves,
and their text is put together from the texts of the leaves and from what stands
around the coordinates of each point, which depends on nothing but the level. -/

namespace Planar

open Text

namespace Tree

variable {α β γ : Type}

def map (f : α → β) : Tree α → Tree β
  | .leaf a => .leaf (f a)
  | .node ⟨x, y⟩ => .node ⟨map f x, map f y⟩
termination_by structural t => t

def leaves : Tree α → List (List Axis × α)
  | .leaf a => [([], a)]
  | .node ⟨x, y⟩ =>
    (leaves x).map (Prod.map (Axis.x :: ·) id) ++ (leaves y).map (Prod.map (Axis.y :: ·) id)
termination_by structural t => t

theorem leaves_node (p : Point (Tree α)) : leaves (.node p) =
    (leaves p.x).map (Prod.map (Axis.x :: ·) id) ++
      (leaves p.y).map (Prod.map (Axis.y :: ·) id) := rfl

theorem nil_not_mem_leaves_node {p : Point (Tree α)} {a : α} : ([], a) ∉ leaves (.node p) := by
  intro h
  rw [leaves_node, List.mem_append, List.mem_map, List.mem_map] at h
  rcases h with ⟨e, -, he⟩ | ⟨e, -, he⟩ <;> cases he

theorem cons_mem_leaves_node_iff {p : Point (Tree α)} {axis : Axis} {P : List Axis} {a : α} :
    (axis :: P, a) ∈ leaves (.node p) ↔ (P, a) ∈ leaves (p.get axis) := by
  rw [leaves_node, List.mem_append, List.mem_map, List.mem_map]
  cases axis with
  | x =>
    constructor
    · rintro (⟨e, he, h⟩ | ⟨e, -, h⟩)
      · cases h
        exact he
      · cases h
    · exact fun h => Or.inl ⟨(P, a), h, rfl⟩
  | y =>
    constructor
    · rintro (⟨e, -, h⟩ | ⟨e, he, h⟩)
      · cases h
      · cases h
        exact he
    · exact fun h => Or.inr ⟨(P, a), h, rfl⟩

theorem forall_mem_leaves_node (holds : α → Prop) {p : Point (Tree α)} :
    (∀ e ∈ leaves (.node p), holds e.2) ↔
      (∀ e ∈ leaves p.x, holds e.2) ∧ ∀ e ∈ leaves p.y, holds e.2 := by
  rw [leaves_node, List.forall_mem_append, List.forall_mem_map, List.forall_mem_map]
  exact Iff.rfl

theorem pairwise_precedes_leaves (t : Tree α) :
    t.leaves.Pairwise fun e e' => Precedes e.1 e'.1 := by
  induction t with
  | leaf a => exact List.pairwise_singleton ..
  | node x y ihx ihy =>
    have hinside (axis : Axis) {t : Tree α}
        (ih : t.leaves.Pairwise fun e e' => Precedes e.1 e'.1) :
        (t.leaves.map (Prod.map (axis :: ·) id)).Pairwise fun e e' => Precedes e.1 e'.1 :=
      List.pairwise_map.mpr (ih.imp fun {e e'} h =>
        (Precedes.cons_iff (P := e.1) (Q := e'.1)).mpr (Or.inr ⟨rfl, h⟩))
    refine List.pairwise_append.mpr ⟨hinside .x ihx, hinside .y ihy, fun e he e' he' => ?_⟩
    obtain ⟨⟨P, a⟩, -, rfl⟩ := List.mem_map.mp he
    obtain ⟨⟨Q, b⟩, -, rfl⟩ := List.mem_map.mp he'
    exact Precedes.cons_iff.mpr (Or.inl ⟨rfl, rfl⟩)

end Tree

/-- What stands before the first coordinate of a point, between the two and behind the
second one. -/
structure Frame where
  opening : List Char
  between : List Char
  closing : List Char

namespace Frame

def plain : Frame := ⟨"Point \x7b x: ".toList, ", y: ".toList, " \x7d".toList⟩

def alternate (level : Nat) : Frame where
  opening := "Point \x7b".toList ++ (newLine (level + 1) ++ "x: ".toList)
  between := ",".toList ++ (newLine (level + 1) ++ "y: ".toList)
  closing := ",".toList ++ (newLine level ++ "\x7d".toList)

def of (laidOut : Bool) (level : Nat) : Frame := if laidOut then alternate level else plain

end Frame

namespace Tree

variable {α β γ : Type}

def compose (frame : Nat → Frame) (char : Char → γ) (leaf : α → List γ) : Nat → Tree α → List γ
  | _, .leaf a => leaf a
  | level, .node ⟨x, y⟩ =>
    (frame level).opening.map char ++ (compose frame char leaf (level + 1) x ++
      ((frame level).between.map char ++ (compose frame char leaf (level + 1) y ++
        (frame level).closing.map char)))
termination_by structural _ t => t

theorem compose_node (frame : Nat → Frame) (char : Char → γ) (leaf : α → List γ) (level : Nat)
    (p : Point (Tree α)) : compose frame char leaf level (.node p) =
      (frame level).opening.map char ++ (compose frame char leaf (level + 1) p.x ++
        ((frame level).between.map char ++ (compose frame char leaf (level + 1) p.y ++
          (frame level).closing.map char))) := rfl

theorem compose_map (frame : Nat → Frame) (char : Char → γ) (leaf : β → List γ) (f : α → β)
    (level : Nat) (t : Tree α) :
    compose frame char leaf level (t.map f) = compose frame char (fun a => leaf (f a)) level t := by
  induction t generalizing level with
  | leaf a => rfl
  | node x y ihx ihy =>
    have hmap : map f (.node ⟨x, y⟩) = .node ⟨map f x, map f y⟩ := rfl
    rw [hmap, compose_node, compose_node, ihx, ihy]

theorem compose_congr {frame : Nat → Frame} {char : Char → γ} {leaf leaf' : α → List γ}
    {t : Tree α} (h : ∀ e ∈ t.leaves, leaf e.2 = leaf' e.2) (level : Nat) :
    compose frame char leaf level t = compose frame char leaf' level t := by
  induction t generalizing level with
  | leaf a => exact h ([], a) (List.mem_singleton_self _)
  | node x y ihx ihy =>
    obtain ⟨hx, hy⟩ := (forall_mem_leaves_node fun a => leaf a = leaf' a).mp h
    rw [compose_node, compose_node, ihx hx, ihy hy]

theorem flatten_layout_false (leaf : α → Pieces) (level : Nat) (t : Tree α) :
    (layout false leaf t).flatten =
      compose (fun _ => .plain) id (fun a => (leaf a).flatten) level t := by
  induction t generalizing level with
  | leaf a => rfl
  | node x y ihx ihy =>
    rw [layout_node, Point.flatten_layout_false, compose_node, ← ihx, ← ihy]
    simp only [List.map_id]
    unfold Frame.plain
    rfl

theorem compose_alternate_node (leaf : α → List Char) (level : Nat) (p : Point (Tree α)) :
    compose .alternate id leaf level (.node p) =
      Point.lines level (compose .alternate id leaf (level + 1) p.x)
        (compose .alternate id leaf (level + 1) p.y) := by
  rw [compose_node]
  unfold Point.lines Frame.alternate
  simp only [List.map_id, List.append_assoc]

theorem hang_compose {leaf : α → List Char} {t : Tree α} (h : ∀ e ∈ t.leaves, '\n' ∉ leaf e.2)
    (level more : Nat) : hang level (compose .alternate id leaf more t) =
      compose .alternate id leaf (level + more) t := by
  induction t generalizing more with
  | leaf a => exact hang_of_not_mem level (h ([], a) (List.mem_singleton_self _))
  | node x y ihx ihy =>
    obtain ⟨hx, hy⟩ := (forall_mem_leaves_node fun a => '\n' ∉ leaf a).mp h
    rw [compose_alternate_node, compose_alternate_node, Point.hang_lines, ihx hx, ihy hy,
      Nat.add_assoc]

theorem flatten_layout_true {leaf : α → Pieces} {t : Tree α}
    (h : ∀ e ∈ t.leaves, '\n' ∉ (leaf e.2).flatten) :
    (layout true leaf t).flatten = compose .alternate id (fun a => (leaf a).flatten) 0 t := by
  induction t with
  | leaf a => rfl
  | node x y ihx ihy =>
    obtain ⟨hx, hy⟩ := (forall_mem_leaves_node fun a => '\n' ∉ (leaf a).flatten).mp h
    have hx := (congrArg (hang 1) (ihx hx)).trans (hang_compose hx 1 0)
    have hy := (congrArg (hang 1) (ihy hy)).trans (hang_compose hy 1 0)
    rw [layout_node, Point.flatten_layout_true_eq_lines, compose_alternate_node]
    exact congrArg₂ (Point.lines 0) hx hy

theorem flatten_layout {leaf : α → Pieces} {t : Tree α}
    (h : ∀ e ∈ t.leaves, '\n' ∉ (leaf e.2).flatten) (laidOut : Bool) :
    (layout laidOut leaf t).flatten =
      compose (.of laidOut) id (fun a => (leaf a).flatten) 0 t := by
  cases laidOut with
  | false => exact flatten_layout_false leaf 0 t
  | true => exact flatten_layout_true h

end Tree

def Base.toTree : (b : Base) → b.Val → Tree b.Val
  | .tree _, t => t.map .leaf
  | _, v => .leaf v

def Nested.toTree {α β : Type} (leaf : α → Tree β) : (n : Nat) → Nested α n → Tree β
  | 0, a => leaf a
  | n + 1, p => .node (Point.map (toTree leaf n) p)

theorem Base.layout_toTree (b : Base) (style : Style) (v : b.Val) :
    (b.toTree v).layout style.alternate (b.layout style) = b.layout style v := by
  cases b with
  | tree f =>
    induction v using Tree.induct with
    | leaf a => rfl
    | node x y ihx ihy =>
      have hnode : toTree (.tree f) (.node ⟨x, y⟩) =
        .node ⟨toTree (.tree f) x, toTree (.tree f) y⟩ := rfl
      rw [hnode, Tree.layout_node, Point.map, ihx, ihy]
      rfl
  | _ => rfl

namespace Kind

variable {k : Kind}

def toTree (k : Kind) (p : k.Val) : Tree k.base.Val := Nested.toTree k.base.toTree k.depth p

theorem layout_toTree (k : Kind) (style : Style) (p : k.Val) :
    (k.toTree p).layout style.alternate (k.base.layout style) = k.layout style p := by
  obtain ⟨b, n⟩ := k
  induction n with
  | zero => exact b.layout_toTree style p
  | succ n ih =>
    have hnode : toTree ⟨b, n + 1⟩ p = .node ⟨toTree ⟨b, n⟩ p.x, toTree ⟨b, n⟩ p.y⟩ := rfl
    rw [hnode, Tree.layout_node, Point.map, ih p.x, ih p.y]
    rfl

theorem mem_leaves_leaf_iff {b : Base} {w v : b.Val} (hw : b.isLeaf w = true) {P : List Axis} :
    (P, v) ∈ Tree.leaves (.leaf w) ↔ leaf? ⟨b, 0⟩ w P = some v := by
  have hleaf : leaf? ⟨b, 0⟩ w [] = some w := leaf?_nil hw
  change (P, v) ∈ [([], w)] ↔ _
  rw [List.mem_singleton, Prod.mk.injEq]
  cases P with
  | nil => rw [hleaf, Option.some_inj, and_iff_right rfl, eq_comm]
  | cons axis rest =>
    have hbeyond : leaf? ⟨b, 0⟩ w (axis :: rest) = none :=
      congrArg (·.bind Place.leaf?) (get?_beyond_leaf hleaf axis rest)
    simp [hbeyond]

theorem mem_leaves_subtree_iff {f : Integer.Format} {t v : Tree f.Val} {P : List Axis} :
    (P, v) ∈ (Base.toTree (.tree f) t).leaves ↔ leaf? ⟨.tree f, 0⟩ t P = some v := by
  induction t generalizing P with
  | leaf a => exact mem_leaves_leaf_iff (b := .tree f) (w := .leaf a) rfl
  | node x y ihx ihy =>
    cases P with
    | nil => exact iff_of_false Tree.nil_not_mem_leaves_node nofun
    | cons axis rest =>
      refine Tree.cons_mem_leaves_node_iff.trans ?_
      cases axis with
      | x => exact ihx
      | y => exact ihy

theorem mem_leaves_iff {p : k.Val} {P : List Axis} {v : k.base.Val} :
    (P, v) ∈ (k.toTree p).leaves ↔ k.leaf? p P = some v := by
  obtain ⟨b, n⟩ := k
  induction n generalizing P with
  | zero =>
    cases b with
    | tree f => exact mem_leaves_subtree_iff
    | _ => exact mem_leaves_leaf_iff rfl
  | succ n ih =>
    cases P with
    | nil => exact iff_of_false Tree.nil_not_mem_leaves_node nofun
    | cons axis rest =>
      refine Tree.cons_mem_leaves_node_iff.trans ?_
      rw [Point.get_map]
      exact ih

theorem newline_not_mem_leaf (hk : k.base.oneLine = true) (style : Style) {p : k.Val}
    {e : List Axis × k.base.Val} (he : e ∈ (k.toTree p).leaves) :
    '\n' ∉ (k.base.layout style e.2).flatten :=
  Base.newline_not_mem_layout hk (leaf?_eq_some_iff.mp (mem_leaves_iff.mp he)).2 style

theorem text_eq_compose (hk : k.base.oneLine = true) (style : Style) (p : k.Val) :
    k.text style p =
      (k.toTree p).compose (.of style.alternate) id (text ⟨k.base, 0⟩ style) 0 := by
  rw [text, ← layout_toTree, Tree.flatten_layout fun e he => newline_not_mem_leaf hk style he]
  rfl

end Kind

end Planar
