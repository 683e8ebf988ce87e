import Planar.Layout

/-! Trees whose inner nodes are points of trees. A tree is equal to another when
both are leaves with equal contents or both are equal points; a leaf is never
equal to a node. Paths of axes lead to subtrees. -/

namespace Planar

open Text

inductive Tree (α : Type)
  | leaf (a : α)
  | node (p : Point (Tree α))

namespace Tree

variable {α : Type} {ε : Type}

@[elab_as_elim, induction_eliminator]
theorem induct {motive : Tree α → Prop} (leaf : ∀ a, motive (.leaf a))
    (node : ∀ x y, motive x → motive y → motive (.node ⟨x, y⟩)) : ∀ t, motive t
  | .leaf a => leaf a
  | .node ⟨x, y⟩ => node x y (induct leaf node x) (induct leaf node y)
termination_by structural t => t

def eqBy (eq : α → α → Bool) : Tree α → Tree α → Bool
  | .leaf a, .leaf b => eq a b
  | .node ⟨a, b⟩, .node ⟨c, d⟩ => if eqBy eq a c then eqBy eq b d else false
  | _, _ => false
termination_by structural t => t

def get? : Tree α → List Axis → Option (Tree α)
  | t, [] => some t
  | .leaf _, _ :: _ => none
  | .node p, axis :: rest => get? (p.get axis) rest

def modify (missing : ε) (change : Tree α → Except ε (Tree α)) :
    Tree α → List Axis → Except ε (Tree α)
  | t, [] => change t
  | .leaf _, _ :: _ => .error missing
  | .node p, axis :: rest => .node <$> p.modifyM axis fun t => modify missing change t rest

def layout (alternate : Bool) (leaf : α → Pieces) : Tree α → Pieces
  | .leaf a => leaf a
  | .node ⟨x, y⟩ => Point.layout alternate ⟨layout alternate leaf x, layout alternate leaf y⟩
termination_by structural t => t

theorem eqBy_node (eq : α → α → Bool) (p q : Point (Tree α)) :
    eqBy eq (.node p) (.node q) = Point.eqBy (eqBy eq) p q := by
  cases p
  cases q
  rw [Point.eqBy_eq_and, eqBy]
  cases eqBy eq _ _ <;> rfl

theorem layout_node (alternate : Bool) (leaf : α → Pieces) (p : Point (Tree α)) :
    layout alternate leaf (.node p) = Point.layout alternate (p.map (layout alternate leaf)) := rfl

theorem eqBy_iff_eq {eq : α → α → Bool} (h : ∀ a b, eq a b = true ↔ a = b) (t u : Tree α) :
    eqBy eq t u = true ↔ t = u := by
  induction t generalizing u with
  | leaf a =>
    cases u with
    | leaf b => simp [eqBy, h]
    | node q => simp [eqBy]
  | node x y ihx ihy =>
    cases u with
    | leaf b => simp [eqBy]
    | node q =>
      cases q
      simp [eqBy_node, Point.eqBy_eq_and, ihx, ihy]

end Tree

end Planar
