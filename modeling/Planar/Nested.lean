import Planar.Comparator

/-! Points whose coordinates are points, to any depth. Its leaves are
listed with the first coordinate before the second.
Comparators, equality and constant values are lifted level by level. -/

namespace Planar

/-- Values of depth `0` are leaves; one level up stands a point of them. -/
abbrev Nested (α : Type) : Nat → Type
  | 0 => α
  | n + 1 => Point (Nested α n)

def Comparator.nested {m : Type → Type} [Monad m] {α : Type} (c : Comparator m α) :
    (n : Nat) → Comparator m (Nested α n)
  | 0 => c
  | n + 1 => (c.nested n).point

namespace Nested

variable {α β : Type}

def leaves : (n : Nat) → Nested α n → List α
  | 0, a => [a]
  | n + 1, p => leaves n p.x ++ leaves n p.y

def fill (a : α) : (n : Nat) → Nested α n
  | 0 => a
  | n + 1 => Point.diagonal (fill a n)

def map (f : α → β) : (n : Nat) → Nested α n → Nested β n
  | 0, a => f a
  | n + 1, p => Point.map (map f n) p

def eqBy (eq : α → α → Bool) (n : Nat) (p q : Nested α n) : Bool :=
  Id.run (((Comparator.ofEq eq).nested n).eq p q)

def neBy (eq : α → α → Bool) (n : Nat) (p q : Nested α n) : Bool :=
  Id.run (((Comparator.ofEq eq).nested n).ne p q)

@[simp] theorem eqBy_zero (eq : α → α → Bool) (a b : Nested α 0) : eqBy eq 0 a b = eq a b := rfl

theorem eqBy_succ_eq_and (eq : α → α → Bool) (n : Nat) (p q : Nested α (n + 1)) :
    eqBy eq (n + 1) p q = (eqBy eq n p.x q.x && eqBy eq n p.y q.y) :=
  Point.eqBy_eq_and ..

theorem neBy_eq_not (eq : α → α → Bool) (n : Nat) (p q : Nested α n) :
    neBy eq n p q = !eqBy eq n p q := by
  cases n with
  | zero => rfl
  | succ n => exact Point.neBy_eq_not ..

end Nested

end Planar
