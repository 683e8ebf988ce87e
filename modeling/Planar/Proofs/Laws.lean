import Planar.Proofs.Scan

/-! The equality of nested points obeys exactly the laws that the equality of
their leaves obeys. Upwards a law is checked on each axis. Downwards it is read
off the diagonal, where points are equal as their coordinates are. -/

namespace Planar

inductive Law
  | reflexive
  | symmetric
  | transitive
  | antisymmetric
  | identity
  deriving DecidableEq

def Law.Holds {α : Type} (r : α → α → Bool) : Law → Prop
  | .reflexive => ∀ a, r a a = true
  | .symmetric => ∀ a b, r a b = true → r b a = true
  | .transitive => ∀ a b c, r a b = true → r b c = true → r a c = true
  | .antisymmetric => ∀ a b, r a b = true → r b a = true → a = b
  | .identity => ∀ a b, r a b = true ↔ a = b

namespace Point

variable {α : Type}

theorem diagonal_inj {a b : α} : diagonal a = diagonal b ↔ a = b := by
  rw [diagonal, diagonal, Point.mk.injEq, and_self]

theorem eqBy_diagonal (eq : α → α → Bool) (a b : α) :
    eqBy eq (diagonal a) (diagonal b) = eq a b := by
  rw [eqBy_eq_and]
  exact Bool.and_self _

end Point

namespace Law

variable {α : Type} {eq : α → α → Bool}

theorem Holds.point {law : Law} (h : law.Holds eq) : law.Holds (Point.eqBy eq) := by
  cases law with
  | reflexive =>
    intro p
    exact Point.eqBy_eq_true_iff.mpr fun axis => h (p.get axis)
  | symmetric =>
    intro p q hpq
    have hpq := Point.eqBy_eq_true_iff.mp hpq
    exact Point.eqBy_eq_true_iff.mpr fun axis => h _ _ (hpq axis)
  | transitive =>
    intro p q r hpq hqr
    have hpq := Point.eqBy_eq_true_iff.mp hpq
    have hqr := Point.eqBy_eq_true_iff.mp hqr
    exact Point.eqBy_eq_true_iff.mpr fun axis => h _ _ _ (hpq axis) (hqr axis)
  | antisymmetric =>
    intro p q hpq hqp
    have hpq := Point.eqBy_eq_true_iff.mp hpq
    have hqp := Point.eqBy_eq_true_iff.mp hqp
    exact Point.ext_get fun axis => h _ _ (hpq axis) (hqp axis)
  | identity =>
    intro p q
    rw [Point.eqBy_eq_true_iff]
    constructor
    · exact fun hpq => Point.ext_get fun axis => (h _ _).mp (hpq axis)
    · rintro rfl axis
      exact (h _ _).mpr rfl

theorem Holds.of_point {law : Law} (h : law.Holds (Point.eqBy eq)) : law.Holds eq := by
  cases law with
  | reflexive =>
    intro a
    simpa only [Point.eqBy_diagonal] using h (Point.diagonal a)
  | symmetric =>
    intro a b
    simpa only [Point.eqBy_diagonal] using h (Point.diagonal a) (Point.diagonal b)
  | transitive =>
    intro a b c
    simpa only [Point.eqBy_diagonal] using
      h (Point.diagonal a) (Point.diagonal b) (Point.diagonal c)
  | antisymmetric =>
    intro a b
    simpa only [Point.eqBy_diagonal, Point.diagonal_inj] using
      h (Point.diagonal a) (Point.diagonal b)
  | identity =>
    intro a b
    simpa only [Point.eqBy_diagonal, Point.diagonal_inj] using
      h (Point.diagonal a) (Point.diagonal b)

theorem holds_nested_iff (law : Law) (eq : α → α → Bool) (n : Nat) :
    law.Holds (Nested.eqBy eq n) ↔ law.Holds eq := by
  induction n with
  | zero => exact Iff.rfl
  | succ n ih =>
    rw [← ih]
    exact ⟨Holds.of_point, Holds.point⟩

theorem equivalence_iff {r : α → α → Bool} :
    Equivalence (fun a b => r a b = true) ↔
      reflexive.Holds r ∧ symmetric.Holds r ∧ transitive.Holds r := by
  constructor
  · exact fun h => ⟨h.refl, fun _ _ => h.symm, fun _ _ _ => h.trans⟩
  · exact fun ⟨hr, hs, ht⟩ => ⟨hr, hs _ _, ht _ _ _⟩

end Law

def Rule.relates (rule : Rule) (i j : Int) : Bool := rule.apply i j == some true

theorem Rule.relates_le_iff {i j : Int} : Rule.le.relates i j = true ↔ i ≤ j := by
  simp [relates, apply]

theorem Law.holds_le_iff (law : Law) : law.Holds Rule.le.relates ↔
    law = .reflexive ∨ law = .transitive ∨ law = .antisymmetric := by
  cases law with
  | reflexive => simp [Holds, Rule.relates_le_iff]
  | symmetric =>
    have h01 : ¬ symmetric.Holds Rule.le.relates := fun h => absurd (h 0 1 rfl) (by decide)
    simp [h01]
  | transitive =>
    have htrans : transitive.Holds Rule.le.relates := by
      intro i j l hij hjl
      rw [Rule.relates_le_iff] at hij hjl ⊢
      omega
    simp [htrans]
  | antisymmetric =>
    have hanti : antisymmetric.Holds Rule.le.relates := by
      intro i j hij hji
      rw [Rule.relates_le_iff] at hij hji
      omega
    simp [hanti]
  | identity =>
    have h01 : ¬ identity.Holds Rule.le.relates := fun h => absurd ((h 0 1).mp rfl) (by decide)
    simp [h01]

namespace Nested

variable {α : Type}

theorem eqBy_iff_pairs (eq : α → α → Bool) (n : Nat) (p q : Nested α n) :
    eqBy eq n p q = true ↔ ∀ pair ∈ pairs n p q, eq pair.1 pair.2 = true := by
  induction n with
  | zero => simp [pairs, leaves]
  | succ n ih =>
    rw [eqBy_succ_eq_and, Bool.and_eq_true, ih, ih, pairs_succ, List.forall_mem_append]

theorem eqBy_self_iff (eq : α → α → Bool) (n : Nat) (p : Nested α n) :
    eqBy eq n p p = true ↔ ∀ a ∈ leaves n p, eq a a = true := by
  induction n with
  | zero => simp [leaves]
  | succ n ih =>
    rw [eqBy_succ_eq_and, Bool.and_eq_true, ih, ih, leaves, List.forall_mem_append]

theorem equality_has_laws_of_leaves (eq : α → α → Bool) (n : Nat) :
    let points := eqBy eq (n + 1)
    let le := eqBy Rule.le.relates (n + 1)
    (∀ law : Law, law.Holds points ↔ law.Holds eq) ∧
    (∀ p, points p p = true ↔ ∀ a ∈ leaves (n + 1) p, eq a a = true) ∧
    (Equivalence (fun p q => points p q = true) ↔ Equivalence fun a b => eq a b = true) ∧
    (∀ p q, le p q = true ↔ ∀ pair ∈ pairs (n + 1) p q, pair.1 ≤ pair.2) ∧
    ∀ law : Law, law.Holds le ↔ law = .reflexive ∨ law = .transitive ∨ law = .antisymmetric := by
  intro points le
  have hlaw : ∀ law : Law, law.Holds points ↔ law.Holds eq := fun law =>
    law.holds_nested_iff eq (n + 1)
  refine ⟨hlaw, eqBy_self_iff eq (n + 1), ?_, ?_, ?_⟩
  · rw [Law.equivalence_iff, Law.equivalence_iff, hlaw, hlaw, hlaw]
  · intro p q
    simp only [le, eqBy_iff_pairs, Rule.relates_le_iff]
  · intro law
    rw [Law.holds_nested_iff, Law.holds_le_iff]

end Nested

end Planar
