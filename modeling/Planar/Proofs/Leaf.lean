import Planar.Proofs.Place

/-! The leaves of a value, each at the end of a path of its own. No path goes on
beyond a leaf, so that of two leaves neither is inside the other. The leaves with
their paths are all that there is in a value. -/

namespace Planar

theorem Parallel.not_iff {P Q : List Axis} : ¬ Parallel P Q ↔ P <+: Q ∨ Q <+: P := by
  rw [Parallel, Classical.not_and_iff_not_or_not, Classical.not_not, Classical.not_not]

theorem exists_append_cons {P Q : List Axis} (h : P <+: Q) (hne : Q ≠ P) :
    ∃ axis rest, Q = P ++ axis :: rest := by
  obtain ⟨R, rfl⟩ := h
  cases R with
  | nil => exact absurd P.append_nil hne
  | cons axis rest => exact ⟨axis, rest, rfl⟩

def Base.isLeaf : (b : Base) → b.Val → Bool
  | .tree _, .node _ => false
  | _, _ => true

def Place.leaf? {b : Base} : Place b.Val → Option b.Val
  | ⟨0, v⟩ => if b.isLeaf v then some v else none
  | ⟨_ + 1, _⟩ => none

namespace Kind

variable {k : Kind}

def leaf? (k : Kind) (p : k.Val) (P : List Axis) : Option k.base.Val :=
  (k.get? p P).bind Place.leaf?

theorem leaf?_coordinate {b : Base} {n : Nat} (p : Point (Nested b.Val n)) (axis : Axis)
    (rest : List Axis) :
    leaf? ⟨b, n + 1⟩ p (axis :: rest) = leaf? ⟨b, n⟩ (p.get axis) rest := rfl

theorem leaf?_subtree {f : Integer.Format} (p : Point (Tree f.Val)) (axis : Axis)
    (rest : List Axis) :
    leaf? ⟨.tree f, 0⟩ (.node p) (axis :: rest) = leaf? ⟨.tree f, 0⟩ (p.get axis) rest := rfl

theorem leaf?_nil {b : Base} {v : b.Val} (h : b.isLeaf v = true) : leaf? ⟨b, 0⟩ v [] = some v := by
  have hget : get? ⟨b, 0⟩ v [] = some ⟨0, v⟩ := get?_nil (n := 0) v
  rw [leaf?, hget, Option.bind_some, Place.leaf?, if_pos h]

theorem leaf?_eq_some_iff {p : k.Val} {P : List Axis} {v : k.base.Val} :
    k.leaf? p P = some v ↔ k.get? p P = some ⟨0, v⟩ ∧ k.base.isLeaf v = true := by
  rw [leaf?, Option.bind_eq_some_iff]
  constructor
  · rintro ⟨⟨d, u⟩, hget, hleaf⟩
    cases d with
    | zero =>
      obtain ⟨hu, hv⟩ := Option.ite_none_right_eq_some.mp hleaf
      obtain rfl : u = v := Option.some.inj hv
      exact ⟨hget, hu⟩
    | succ d => cases hleaf
  · rintro ⟨hget, hv⟩
    exact ⟨⟨0, v⟩, hget, if_pos hv⟩

theorem exists_leaf? (p : k.Val) : ∃ P v, k.leaf? p P = some v := by
  obtain ⟨b, n⟩ := k
  induction n with
  | zero =>
    cases b with
    | tree f =>
      induction p using Tree.induct with
      | leaf a => exact ⟨[], .leaf a, rfl⟩
      | node x y ihx _ =>
        obtain ⟨P, v, h⟩ := ihx
        exact ⟨.x :: P, v, h⟩
    | _ => exact ⟨[], p, leaf?_nil rfl⟩
  | succ n ih =>
    obtain ⟨P, v, h⟩ := ih p.x
    exact ⟨.x :: P, v, h⟩

theorem tree_ext_leaf? {f : Integer.Format} {t u : Tree f.Val}
    (h : ∀ P v, leaf? ⟨.tree f, 0⟩ t P = some v → leaf? ⟨.tree f, 0⟩ u P = some v) : t = u := by
  induction t generalizing u with
  | leaf a =>
    have ha := (leaf?_eq_some_iff.mp (h [] (.leaf a) rfl)).1
    rw [get?_nil] at ha
    cases ha
    rfl
  | node x y ihx ihy =>
    cases u with
    | leaf b =>
      -- Some path goes on to a leaf of `x`, and beyond the leaf `b` none does.
      obtain ⟨P, v, hP⟩ := exists_leaf? (k := ⟨.tree f, 0⟩) x
      cases h (.x :: P) v hP
    | node q =>
      obtain rfl : x = q.x := ihx fun P v hP => h (.x :: P) v hP
      obtain rfl : y = q.y := ihy fun P v hP => h (.y :: P) v hP
      rfl

theorem ext_leaf? {p q : k.Val} (h : ∀ P v, k.leaf? p P = some v → k.leaf? q P = some v) :
    p = q := by
  obtain ⟨b, n⟩ := k
  induction n with
  | zero =>
    cases b with
    | tree f => exact tree_ext_leaf? h
    | _ => exact (Option.some.inj (h [] p (leaf?_nil rfl))).symm
  | succ n ih =>
    exact Point.ext_get fun axis => ih fun P v hP => h (axis :: P) v hP

section Leaf

variable {p : k.Val} {P Q : List Axis} {v : k.base.Val}

theorem get?_beyond_leaf (h : k.leaf? p P = some v) (axis : Axis) (rest : List Axis) :
    k.get? p (P ++ axis :: rest) = none := by
  obtain ⟨hget, hv⟩ := leaf?_eq_some_iff.mp h
  obtain ⟨around, hP⟩ := exists_leads hget
  rw [hP.get?_append]
  obtain ⟨b, n⟩ := k
  cases b with
  | tree f =>
    cases v with
    | leaf a => rfl
    | node q => cases hv
  | _ => rfl

theorem leaf?_of_not_parallel (h : k.leaf? p P = some v) (hne : Q ≠ P) (hPQ : ¬ Parallel P Q) :
    k.leaf? p Q = none := by
  rcases Parallel.not_iff.mp hPQ with hprefix | hprefix
  · obtain ⟨axis, rest, rfl⟩ := exists_append_cons hprefix hne
    rw [leaf?, get?_beyond_leaf h]
    rfl
  · obtain ⟨axis, rest, rfl⟩ := exists_append_cons hprefix (Ne.symm hne)
    cases hQ : k.leaf? p Q with
    | none => rfl
    | some w =>
      rw [leaf?, get?_beyond_leaf hQ] at h
      cases h

end Leaf

end Kind

theorem Leads.leaf?_around {b : Base} {n : Nat} {p : Nested b.Val n} {P : List Axis}
    {v w : b.Val} {around : b.Val → Nested b.Val n} (h : Leads b n p P 0 v around)
    (hv : b.isLeaf v = true) (hw : b.isLeaf w = true) (Q : List Axis) :
    Kind.leaf? ⟨b, n⟩ (around w) Q = if Q = P then some w else Kind.leaf? ⟨b, n⟩ p Q := by
  have hold : Kind.leaf? ⟨b, n⟩ p P = some v := Kind.leaf?_eq_some_iff.mpr ⟨h.get?, hv⟩
  have hnew : Kind.leaf? ⟨b, n⟩ (around w) P = some w :=
    Kind.leaf?_eq_some_iff.mpr ⟨(h.replaced w).get?, hw⟩
  by_cases hQ : Q = P
  · rw [if_pos hQ, hQ, hnew]
  · rw [if_neg hQ]
    by_cases hPQ : Parallel P Q
    · rw [Kind.leaf?, Kind.leaf?, h.get?_of_parallel hPQ]
    · rw [Kind.leaf?_of_not_parallel hnew hQ hPQ, Kind.leaf?_of_not_parallel hold hQ hPQ]

end Planar
