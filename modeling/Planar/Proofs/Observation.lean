import Planar.Proofs.Leaf
import Planar.Proofs.Step.Lens

/-! Points are known by what a reader sees at the ends of paths: nothing, a point of
which the coordinates are to be read in turn, or a leaf. Two different points can be
told apart along one path, and there is a first such path: at every path that turns
off to the first coordinate before it, the points are the same. -/

namespace Planar

namespace Axis

def Before (axis axis' : Axis) : Prop := axis = .x ∧ axis' = .y

theorem not_before_self (axis : Axis) : ¬ axis.Before axis := by
  rintro ⟨rfl, h⟩
  cases h

end Axis

/-- In the order in which coordinates are visited, and not on the way to the second path. -/
def Precedes (P Q : List Axis) : Prop := List.Lex Axis.Before P Q ∧ ¬ P <+: Q

namespace Precedes

variable {P Q : List Axis}

theorem not_nil_right : ¬ Precedes P [] := fun h => by
  cases h.1

theorem not_nil_left : ¬ Precedes [] P := fun h => h.2 P.nil_prefix

theorem cons_iff {axis axis' : Axis} :
    Precedes (axis :: P) (axis' :: Q) ↔ axis.Before axis' ∨ axis = axis' ∧ Precedes P Q := by
  constructor
  · rintro ⟨hlex, hprefix⟩
    cases hlex with
    | rel h => exact Or.inl h
    | cons h => exact Or.inr ⟨rfl, h, fun hPQ => hprefix (List.cons_prefix_cons.mpr ⟨rfl, hPQ⟩)⟩
  · rintro (h | ⟨rfl, hlex, hprefix⟩)
    · refine ⟨.rel h, fun hPQ => ?_⟩
      obtain ⟨rfl, -⟩ := List.cons_prefix_cons.mp hPQ
      exact axis.not_before_self h
    · exact ⟨.cons hlex, fun hPQ => hprefix (List.cons_prefix_cons.mp hPQ).2⟩

theorem forall_cons_iff {axis : Axis} {holds : List Axis → Prop} :
    (∀ Q, Precedes Q (axis :: P) → holds Q) ↔
      (∀ axis' Q, axis'.Before axis → holds (axis' :: Q)) ∧
        ∀ Q, Precedes Q P → holds (axis :: Q) := by
  constructor
  · intro h
    exact ⟨fun axis' Q ha => h _ (cons_iff.mpr (Or.inl ha)),
      fun Q hQ => h _ (cons_iff.mpr (Or.inr ⟨rfl, hQ⟩))⟩
  · rintro ⟨hturn, hsame⟩ Q hQ
    cases Q with
    | nil => exact absurd hQ not_nil_left
    | cons axis' Q =>
      rcases cons_iff.mp hQ with ha | ⟨rfl, hrest⟩
      · exact hturn axis' Q ha
      · exact hsame Q hrest

end Precedes

inductive Sight (α : Type)
  | nothing
  | node
  | leaf (v : α)

namespace Sight

variable {α : Type}

/-- Sights of two places that differ there, and not only further in. -/
inductive Differ : Sight α → Sight α → Prop
  | leaves {v w : α} (h : v ≠ w) : Differ (.leaf v) (.leaf w)
  | leaf_node (v : α) : Differ (.leaf v) .node
  | node_leaf (v : α) : Differ .node (.leaf v)

def ofPlace {b : Base} (place : Place b.Val) : Sight b.Val := place.leaf?.elim .node .leaf

end Sight

theorem Point.exists_first_difference {α : Type} {p q : Point α} (h : p ≠ q) :
    ∃ axis, p.get axis ≠ q.get axis ∧ ∀ axis', axis'.Before axis → p.get axis' = q.get axis' := by
  by_cases hx : p.x = q.x
  · refine ⟨.y, fun hy => h (ext_get fun axis => ?_), ?_⟩
    · cases axis with
      | x => exact hx
      | y => exact hy
    · rintro _ ⟨rfl, -⟩
      exact hx
  · refine ⟨.x, hx, ?_⟩
    rintro _ ⟨-, h⟩
    cases h

namespace Kind

variable {k : Kind}

def sight (k : Kind) (p : k.Val) (P : List Axis) : Sight k.base.Val :=
  (k.get? p P).elim .nothing Sight.ofPlace

def EqualAt (k : Kind) (p q : k.Val) (P : List Axis) : Prop :=
  (k.get? p P = none ∧ k.get? q P = none) ∨ ∃ d u v,
    k.get? p P = some ⟨d, u⟩ ∧ k.get? q P = some ⟨d, v⟩ ∧ eq ⟨k.base, d⟩ u v = true

theorem sight_eq_leaf_iff {p : k.Val} {P : List Axis} {v : k.base.Val} :
    k.sight p P = .leaf v ↔ k.leaf? p P = some v := by
  rw [sight, leaf?]
  cases k.get? p P with
  | none => simp
  | some place =>
    rw [Option.elim_some, Option.bind_some, Sight.ofPlace]
    cases place.leaf? with
    | none => simp
    | some w => simp

theorem ext_sight {p q : k.Val} (h : ∀ P, k.sight p P = k.sight q P) : p = q :=
  ext_leaf? fun P _ hv => sight_eq_leaf_iff.mp (h P ▸ sight_eq_leaf_iff.mpr hv)

theorem equalAt_of_get?_eq (hk : k.base.isBinary = false) {p q : k.Val} {P : List Axis}
    (h : k.get? p P = k.get? q P) : k.EqualAt p q P := by
  cases hget : k.get? p P with
  | none => exact Or.inl ⟨hget, h.symm.trans hget⟩
  | some place =>
    exact Or.inr ⟨place.depth, place.value, place.value, hget, h.symm.trans hget,
      (eq_iff_eq (k := ⟨k.base, place.depth⟩) hk _ _).mpr rfl⟩

structure DiffersFirst (k : Kind) (p q : k.Val) (P : List Axis) : Prop where
  there : (k.sight p P).Differ (k.sight q P)
  before : ∀ Q, Precedes Q P → k.get? p Q = k.get? q Q

theorem DiffersFirst.here {p q : k.Val} (h : (k.sight p []).Differ (k.sight q [])) :
    k.DiffersFirst p q [] := ⟨h, fun _ hQ => absurd hQ Precedes.not_nil_right⟩

theorem DiffersFirst.coordinate {b : Base} {n : Nat} {p q : Point (Nested b.Val n)} {axis : Axis}
    {P : List Axis} (h : DiffersFirst ⟨b, n⟩ (p.get axis) (q.get axis) P)
    (hbefore : ∀ axis', axis'.Before axis → p.get axis' = q.get axis') :
    DiffersFirst ⟨b, n + 1⟩ p q (axis :: P) := by
  refine ⟨h.there, Precedes.forall_cons_iff.mpr ⟨fun axis' Q ha => ?_, h.before⟩⟩
  rw [get?_coordinate, get?_coordinate, hbefore axis' ha]

theorem DiffersFirst.subtree {f : Integer.Format} {p q : Point (Tree f.Val)} {axis : Axis}
    {P : List Axis} (h : DiffersFirst ⟨.tree f, 0⟩ (p.get axis) (q.get axis) P)
    (hbefore : ∀ axis', axis'.Before axis → p.get axis' = q.get axis') :
    DiffersFirst ⟨.tree f, 0⟩ (.node p) (.node q) (axis :: P) := by
  refine ⟨h.there, Precedes.forall_cons_iff.mpr ⟨fun axis' Q ha => ?_, h.before⟩⟩
  rw [get?_subtree, get?_subtree, hbefore axis' ha]

theorem exists_differsFirst_tree {f : Integer.Format} {t u : Tree f.Val} (h : t ≠ u) :
    ∃ P, DiffersFirst ⟨.tree f, 0⟩ t u P := by
  induction t generalizing u with
  | leaf m =>
    cases u with
    | leaf n => exact ⟨[], .here (.leaves h)⟩
    | node q => exact ⟨[], .here (.leaf_node _)⟩
  | node x y ihx ihy =>
    cases u with
    | leaf n => exact ⟨[], .here (.node_leaf _)⟩
    | node q =>
      have hpoint : (⟨x, y⟩ : Point (Tree f.Val)) ≠ q := fun hq => h (congrArg Tree.node hq)
      obtain ⟨axis, haxis, hbefore⟩ := Point.exists_first_difference hpoint
      cases axis with
      | x =>
        obtain ⟨P, hP⟩ := ihx haxis
        exact ⟨.x :: P, hP.subtree hbefore⟩
      | y =>
        obtain ⟨P, hP⟩ := ihy haxis
        exact ⟨.y :: P, hP.subtree hbefore⟩

theorem exists_differsFirst {p q : k.Val} (h : p ≠ q) : ∃ P, k.DiffersFirst p q P := by
  obtain ⟨b, n⟩ := k
  induction n with
  | zero =>
    cases b with
    | tree f => exact exists_differsFirst_tree h
    | _ => exact ⟨[], .here (.leaves h)⟩
  | succ n ih =>
    obtain ⟨axis, haxis, hbefore⟩ := Point.exists_first_difference h
    obtain ⟨P, hP⟩ := ih haxis
    exact ⟨axis :: P, hP.coordinate hbefore⟩

theorem exists_number_of_sight {f : Integer.Format} {n : Nat} {p : Nested (Tree f.Val) n}
    {P : List Axis} {v : Tree f.Val} (h : sight ⟨.tree f, n⟩ p P = .leaf v) : ∃ m, v = .leaf m := by
  have hv : Base.isLeaf (.tree f) v = true :=
    (leaf?_eq_some_iff.mp (sight_eq_leaf_iff.mp h)).2
  cases v with
  | leaf m => exact ⟨m, rfl⟩
  | node q => cases hv

theorem result_get_shows_sight {s : Store k} {slot : String} {p : k.point.Val} {get : Datum}
    {P : List Axis} (hp : s[slot]? = some p) (hget : get.Along .get slot (.ofPath P))
    (hP : P ≠ []) :
    ((s.step get).result = .error .badPath ∧ k.point.sight p P = .nothing) ∨
      ∃ place, (s.step get).result = .ok (.place place) ∧
        k.point.sight p P = Sight.ofPlace place := by
  rw [Store.result_get hget hP hp, sight]
  cases k.point.get? p P with
  | none => exact Or.inl ⟨rfl, rfl⟩
  | some place => exact Or.inr ⟨place, rfl, rfl⟩

/-- The path along which two points are told apart goes through nodes of both. The last
part is on the answers that a script gets. -/
theorem equality_is_observational (f : Integer.Format) (p q : Point (Tree f.Val)) :
    let k : Kind := { base := .tree f }
    (k.point.eq p q = true ↔ ∀ P, k.point.sight p P = k.point.sight q P) ∧
    (k.point.ne p q = true → ∃ P, P ≠ [] ∧
      ((∃ m n : f.Val, m ≠ n ∧ k.point.sight p P = .leaf (.leaf m) ∧
          k.point.sight q P = .leaf (.leaf n)) ∨
        (∃ m : f.Val, k.point.sight p P = .leaf (.leaf m) ∧ k.point.sight q P = .node) ∨
        ∃ n : f.Val, k.point.sight p P = .node ∧ k.point.sight q P = .leaf (.leaf n)) ∧
      ∀ Q, Precedes Q P → k.point.EqualAt p q Q) ∧
    ∀ (s : Store k) (slot : String) (get : Datum) (P : List Axis), s[slot]? = some p →
      get.Along .get slot (.ofPath P) → P ≠ [] →
      ((s.step get).result = .error .badPath ∧ k.point.sight p P = .nothing) ∨
        ∃ place, (s.step get).result = .ok (.place place) ∧
          k.point.sight p P = Sight.ofPlace place := by
  intro k
  have heq : k.point.eq p q = true ↔ p = q := k.point.eq_iff_eq rfl p q
  refine ⟨?_, fun hne => ?_, fun s slot get P hp hget => result_get_shows_sight hp hget⟩
  · rw [heq]
    constructor
    · rintro rfl P
      rfl
    · exact ext_sight (k := k.point)
  · have hpq : p ≠ q := fun h => by
      rw [ne_eq_not, heq.mpr h] at hne
      cases hne
    obtain ⟨P, hthere, hbefore⟩ := exists_differsFirst (k := k.point) hpq
    refine ⟨P, ?_, ?_, fun Q hQ => equalAt_of_get?_eq rfl (hbefore Q hQ)⟩
    -- At the start of the path there is a point on both sides.
    · rintro rfl
      cases hthere
    · generalize hp : k.point.sight p P = here, hq : k.point.sight q P = there at hthere
      cases hthere with
      | leaves h =>
        obtain ⟨m, rfl⟩ := exists_number_of_sight hp
        obtain ⟨n, rfl⟩ := exists_number_of_sight hq
        exact Or.inl ⟨m, n, fun hmn => h (congrArg Tree.leaf hmn), rfl, rfl⟩
      | leaf_node v =>
        obtain ⟨m, rfl⟩ := exists_number_of_sight hp
        exact Or.inr (Or.inl ⟨m, rfl, rfl⟩)
      | node_leaf v =>
        obtain ⟨n, rfl⟩ := exists_number_of_sight hq
        exact Or.inr (Or.inr ⟨n, rfl, rfl⟩)

/-- The points are of different shapes, and they differ in a number before they do in shape. -/
theorem observation_of_different_shapes :
    let k : Kind := { base := .tree ⟨true, 64⟩ }
    let p : k.point.Val := ⟨.node ⟨.leaf 1, .leaf 2⟩, .leaf 3⟩
    let q : k.point.Val := ⟨.node ⟨.leaf 1, .leaf (-2)⟩, .node ⟨.leaf 3, .leaf 3⟩⟩
    let s : Store k := (∅ : Store k).apply (.put "p" p)
    let get : Datum := .record [("op", .text "get"), ("slot", .text "p"),
      ("path", .list [.text "x", .text "y"])]
    k.point.ne p q = true ∧
    (∃ P, P ≠ [] ∧ k.point.sight p P ≠ k.point.sight q P ∧
      ∀ Q, Precedes Q P → k.point.EqualAt p q Q) ∧
    ∃ place, (s.step get).result = .ok (.place place) ∧ Sight.ofPlace place = .leaf (.leaf 2) := by
  intro k p q s get
  obtain ⟨-, hdiffer, hget⟩ := equality_is_observational ⟨true, 64⟩ p q
  have hne : k.point.ne p q = true := by decide
  have hsight : k.point.sight p [.x, .y] = .leaf (.leaf 2) := rfl
  refine ⟨hne, ?_, ?_⟩
  · obtain ⟨P, hP, hseen, hbefore⟩ := hdiffer hne
    refine ⟨P, hP, fun he => ?_, hbefore⟩
    rcases hseen with ⟨m, n, hmn, hp, hq⟩ | ⟨m, hp, hq⟩ | ⟨n, hp, hq⟩
    · rw [hp, hq] at he
      cases he
      exact hmn rfl
    · rw [hp, hq] at he
      cases he
    · rw [hp, hq] at he
      cases he
  · rcases hget s "p" get [.x, .y] (Store.getElem?_apply_put ..) ⟨rfl, rfl, rfl⟩
      (List.cons_ne_nil _ _) with ⟨-, hnothing⟩ | ⟨place, hresult, hplace⟩
    · rw [hsight] at hnothing
      cases hnothing
    · exact ⟨place, hresult, hplace.symm.trans hsight⟩

end Kind

end Planar
