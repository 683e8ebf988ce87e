import Planar.Proofs.Leaf
import Planar.Proofs.Scan

/-! Points whose coordinates are exchanged at chosen nodes. Two points that are
exchanged at the same nodes have the same pairs of corresponding leaves, in another
order. So the answer of a comparison is the same, unless a refusal is reached on one
way and not on the other, and a comparison that answers yes makes the same comparisons
of leaves. -/

namespace Planar

namespace Axis

def turned (exchanged : Bool) (axis : Axis) : Axis := if exchanged then axis.other else axis

@[simp] theorem turned_turned (exchanged : Bool) (axis : Axis) :
    (axis.turned exchanged).turned exchanged = axis := by
  cases exchanged <;> cases axis <;> rfl

end Axis

/-- A set of places, by the paths that lead to them. -/
abbrev Positions : Type := List Axis → Bool

namespace Positions

def inside (S : Positions) (axis : Axis) : Positions := fun P => S (axis :: P)

/-- Where that which was at a path stands after an exchange at the nodes of the set. -/
def moved : Positions → List Axis → List Axis
  | _, [] => []
  | S, axis :: rest => axis.turned (S []) :: moved (S.inside axis) rest

/-- Where the nodes of the set stand after they were exchanged. -/
def carried : Positions → Positions
  | S, [] => S []
  | S, axis :: rest => carried (S.inside (axis.turned (S []))) rest

theorem carried_inside (S : Positions) (axis : Axis) :
    S.carried.inside (axis.turned (S [])) = (S.inside axis).carried := by
  funext P
  rw [inside, carried, Axis.turned_turned]

theorem carried_moved (S : Positions) (P : List Axis) : S.carried (S.moved P) = S P := by
  induction P generalizing S with
  | nil => rfl
  | cons axis rest ih =>
    rw [moved, carried, Axis.turned_turned, ih]
    rfl

theorem carried_carried (S : Positions) : S.carried.carried = S := by
  funext P
  induction P generalizing S with
  | nil => rfl
  | cons axis rest ih =>
    have hhead : S.carried [] = S [] := rfl
    rw [carried, hhead, carried_inside, ih]
    rfl

/-- The first coordinate of a point that is exchanged itself stands second by then. -/
example : carried (fun P => P = [] ∨ P = [.x]) [.y] = true := by decide

end Positions

namespace Point

variable {α : Type}

def exchange (coordinate : Positions → α → α) (S : Positions) (p : Point α) : Point α :=
  let q : Point α := ⟨coordinate (S.inside .x) p.x, coordinate (S.inside .y) p.y⟩
  if S [] then q.swap else q

variable {coordinate : Positions → α → α}

theorem get_exchange (S : Positions) (p : Point α) (axis : Axis) :
    (p.exchange coordinate S).get (axis.turned (S [])) =
      coordinate (S.inside axis) (p.get axis) := by
  unfold exchange Axis.turned
  cases S [] <;> cases axis <;> rfl

theorem exchange_carried {p : Point α}
    (h : ∀ S axis, coordinate S.carried (coordinate S (p.get axis)) = p.get axis) (S : Positions) :
    (p.exchange coordinate S).exchange coordinate S.carried = p := by
  refine ext_get fun axis => ?_
  have hback : ((p.exchange coordinate S).exchange coordinate S.carried).get
      ((axis.turned (S [])).turned (S [])) = _ := get_exchange S.carried _ (axis.turned (S []))
  rwa [Axis.turned_turned, S.carried_inside, get_exchange, h] at hback

theorem eqBy_exchange {eq : α → α → Bool} {p : Point α}
    (h : ∀ S axis b, eq (coordinate S (p.get axis)) (coordinate S b) = eq (p.get axis) b)
    (S : Positions) (q : Point α) :
    eqBy eq (p.exchange coordinate S) (q.exchange coordinate S) = eqBy eq p q := by
  have hx : eq (coordinate _ p.x) (coordinate _ q.x) = eq p.x q.x := h (S.inside .x) .x q.x
  have hy : eq (coordinate _ p.y) (coordinate _ q.y) = eq p.y q.y := h (S.inside .y) .y q.y
  rw [eqBy_eq_and eq p q, ← hx, ← hy, eqBy_eq_and, exchange, exchange]
  cases S [] with
  | false => rfl
  | true => exact Bool.and_comm ..

end Point

namespace Nested

variable {α : Type}

def exchange (leaf : Positions → α → α) : (n : Nat) → Positions → Nested α n → Nested α n
  | 0, S, a => leaf S a
  | n + 1, S, p => Point.exchange (exchange leaf n) S p

theorem exchange_carried {leaf : Positions → α → α} (h : ∀ S a, leaf S.carried (leaf S a) = a)
    (n : Nat) (S : Positions) (p : Nested α n) :
    exchange leaf n S.carried (exchange leaf n S p) = p := by
  induction n generalizing S with
  | zero => exact h S p
  | succ n ih => exact Point.exchange_carried (fun S axis => ih S (Point.get p axis)) S

theorem pairs_exchange (n : Nat) (S : Positions) (a b : Nested α n) :
    (pairs n (exchange (fun _ leaf => leaf) n S a) (exchange (fun _ leaf => leaf) n S b)).Perm
      (pairs n a b) := by
  induction n generalizing S with
  | zero => exact .refl _
  | succ n ih =>
    have hx := ih (S.inside .x) a.x b.x
    have hy := ih (S.inside .y) a.y b.y
    rw [pairs_succ, pairs_succ, exchange, exchange, Point.exchange, Point.exchange]
    cases S [] with
    | false => exact hx.append hy
    | true => exact (hy.append hx).trans List.perm_append_comm

end Nested

namespace Tree

variable {α : Type}

def exchange : Positions → Tree α → Tree α
  | _, .leaf a => .leaf a
  | S, .node ⟨x, y⟩ =>
    let q : Point (Tree α) := ⟨exchange (S.inside .x) x, exchange (S.inside .y) y⟩
    .node (if S [] then q.swap else q)
termination_by structural _ t => t

theorem exchange_node (S : Positions) (p : Point (Tree α)) :
    exchange S (.node p) = .node (p.exchange exchange S) := rfl

theorem exchange_carried (S : Positions) (t : Tree α) : exchange S.carried (exchange S t) = t := by
  induction t generalizing S with
  | leaf a => rfl
  | node x y ihx ihy =>
    rw [exchange_node, exchange_node]
    refine congrArg Tree.node (Point.exchange_carried (fun S axis => ?_) S)
    cases axis with
    | x => exact ihx S
    | y => exact ihy S

theorem eqBy_exchange (eq : α → α → Bool) (S : Positions) (t u : Tree α) :
    eqBy eq (exchange S t) (exchange S u) = eqBy eq t u := by
  induction t generalizing S u with
  | leaf a =>
    cases u with
    | leaf b => rfl
    | node q => rfl
  | node x y ihx ihy =>
    cases u with
    | leaf b => rfl
    | node q =>
      rw [exchange_node, exchange_node, eqBy_node, eqBy_node]
      refine Point.eqBy_exchange (fun S axis u => ?_) S q
      cases axis with
      | x => exact ihx S u
      | y => exact ihy S u

end Tree

namespace Base

def exchange : (b : Base) → Positions → b.Val → b.Val
  | .tree _, S, t => t.exchange S
  | _, _, v => v

theorem exchange_carried (b : Base) (S : Positions) (v : b.Val) :
    b.exchange S.carried (b.exchange S v) = v := by
  cases b with
  | tree f => exact Tree.exchange_carried S v
  | _ => rfl

theorem eq_exchange (b : Base) (S : Positions) (v w : b.Val) :
    b.eq (b.exchange S v) (b.exchange S w) = b.eq v w := by
  cases b with
  | tree f => exact Tree.eqBy_exchange _ S v w
  | _ => rfl

end Base

namespace Kind

variable (k : Kind)

def exchange (S : Positions) (p : k.Val) : k.Val := Nested.exchange k.base.exchange k.depth S p

theorem exchange_carried (S : Positions) (p : k.Val) :
    k.exchange S.carried (k.exchange S p) = p :=
  Nested.exchange_carried k.base.exchange_carried k.depth S p

theorem eq_exchange (S : Positions) (p q : k.Val) :
    k.eq (k.exchange S p) (k.exchange S q) = k.eq p q := by
  obtain ⟨b, n⟩ := k
  induction n generalizing S with
  | zero => exact b.eq_exchange S p q
  | succ n ih => exact Point.eqBy_exchange (fun S axis q => ih S (Point.get p axis) q) S q

theorem leaf?_exchange (S : Positions) (p : k.Val) (P : List Axis) :
    k.leaf? (k.exchange S p) (S.moved P) = k.leaf? p P := by
  obtain ⟨b, n⟩ := k
  induction P generalizing n S with
  | nil =>
    cases n with
    | succ n => rfl
    | zero =>
      cases b with
      | tree f => cases p <;> rfl
      | _ => rfl
  | cons axis rest ih =>
    cases n with
    | succ n =>
      have hcoordinate : Point.get (exchange ⟨b, n + 1⟩ S p) (axis.turned (S [])) =
          exchange ⟨b, n⟩ (S.inside axis) (Point.get p axis) := Point.get_exchange S p axis
      rw [Positions.moved, leaf?_coordinate, leaf?_coordinate, hcoordinate, ih]
    | zero =>
      cases b with
      | tree f =>
        cases p with
        | leaf a => rfl
        | node q =>
          have hsubtree : (Point.exchange Tree.exchange S q).get (axis.turned (S [])) =
              exchange ⟨.tree f, 0⟩ (S.inside axis) (q.get axis) := Point.get_exchange S q axis
          have hnode : exchange ⟨.tree f, 0⟩ S (.node q) = .node (q.exchange Tree.exchange S) :=
            Tree.exchange_node S q
          rw [Positions.moved, hnode, leaf?_subtree, leaf?_subtree, hsubtree, ih]
      | _ => rfl

end Kind

namespace Probe

theorem outcome_eq_true_of_perm {pairs pairs' : List (Probe × Probe)} (h : pairs'.Perm pairs) :
    (scan pairs').outcome = some true ↔ (scan pairs).outcome = some true := by
  rw [scan_outcome_eq_true_iff, scan_outcome_eq_true_iff]
  exact ⟨fun hyes pair hpair => hyes pair (h.mem_iff.mpr hpair),
    fun hyes pair hpair => hyes pair (h.mem_iff.mp hpair)⟩

/-- The nodes of the set are carried along, and the second exchange is made where they
stand by then. The last part is on coordinates that are compared without effects. -/
theorem exchange_keeps_equality (n : Nat) (S : Positions) (a b : Nested Probe (n + 1)) :
    let exchange := Nested.exchange (fun _ (leaf : Probe) => leaf) (n + 1)
    let a' := exchange S a
    let b' := exchange S b
    let run := Nested.probe .eq (n + 1) a b
    let run' := Nested.probe .eq (n + 1) a' b'
    (run.outcome = some true → run'.outcome = some true ∧ run'.trace.Perm run.trace) ∧
    (run.outcome ≠ none → run'.outcome ≠ none → run'.outcome = run.outcome) ∧
    (∀ P, S.carried (S.moved P) = S P) ∧ S.carried.carried = S ∧
    exchange S.carried a' = a ∧ exchange S.carried b' = b ∧
    Nested.probe .eq (n + 1) (exchange S.carried a') (exchange S.carried b') = run ∧
    ∀ (k : Kind) (p q : k.point.Val),
      k.point.eq (k.point.exchange S p) (k.point.exchange S q) = k.point.eq p q ∧
      k.point.exchange S.carried (k.point.exchange S p) = p ∧
      ∀ P, k.point.leaf? (k.point.exchange S p) (S.moved P) = k.point.leaf? p P := by
  intro exchange a' b' run run'
  have hperm : (Nested.pairs (n + 1) a' b').Perm (Nested.pairs (n + 1) a b) :=
    Nested.pairs_exchange (n + 1) S a b
  have hrun : run = scan (Nested.pairs (n + 1) a b) := probe_eq (n + 1) a b
  have hrun' : run' = scan (Nested.pairs (n + 1) a' b') := probe_eq (n + 1) a' b'
  have hyes : run'.outcome = some true ↔ run.outcome = some true := by
    rw [hrun, hrun', outcome_eq_true_of_perm hperm]
  have hback (p : Nested Probe (n + 1)) : exchange S.carried (exchange S p) = p :=
    Nested.exchange_carried (fun _ _ => rfl) (n + 1) S p
  refine ⟨fun h => ⟨hyes.mpr h, ?_⟩, fun h h' => ?_, S.carried_moved, S.carried_carried, hback a,
    hback b, ?_,
    fun k p q => ⟨k.point.eq_exchange S p q, k.point.exchange_carried S p,
      k.point.leaf?_exchange S p⟩⟩
  -- Where all leaves answer yes, both scans compare all of them.
  · have hall := (scan_outcome_eq_true_iff _).mp (hrun ▸ h)
    have hall' := (scan_outcome_eq_true_iff _).mp (hrun' ▸ hyes.mpr h)
    rw [hrun, hrun', scan_of_all_yes hall, scan_of_all_yes hall']
    exact hperm.map entry
  · obtain ⟨answer, hanswer⟩ := Option.ne_none_iff_exists'.mp h
    obtain ⟨answer', hanswer'⟩ := Option.ne_none_iff_exists'.mp h'
    rw [hanswer, hanswer', Option.some_inj, Option.some_inj] at hyes
    rw [hanswer, hanswer', Bool.eq_iff_iff.mpr hyes]
  · rw [hback a, hback b]

/-- Of a point that was exchanged, the first coordinate is the former second one. At the
same positions it is a node outside the set that is exchanged the second time. -/
theorem second_exchange_at_same_positions :
    let S : Positions := fun P => P = [] ∨ P = [.x]
    let exchange := Nested.exchange (fun _ (leaf : Probe) => leaf) 2 S
    let probe (i : Int) : Probe := ⟨i, .value, .value⟩
    let a : Nested Probe 2 := ⟨⟨probe 1, probe 2⟩, ⟨probe 3, probe 4⟩⟩
    exchange (exchange a) = ⟨⟨probe 2, probe 1⟩, ⟨probe 4, probe 3⟩⟩ ∧ exchange (exchange a) ≠ a ∧
      Nested.probe .eq 2 (exchange (exchange a)) (exchange (exchange a)) ≠
        Nested.probe .eq 2 a a := by
  intro S exchange probe a
  have htwice : exchange (exchange a) = ⟨⟨probe 2, probe 1⟩, ⟨probe 4, probe 3⟩⟩ := rfl
  rw [htwice]
  exact ⟨rfl, by decide, by decide⟩

end Probe

end Planar
