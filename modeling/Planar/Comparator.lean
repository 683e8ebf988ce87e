import Planar.Point

/-! A comparator says how two values of a type are tested for equality and for
difference. Both tests may have effects and need not agree with each other.
The comparator of points asks only for the equality of coordinates, so the
difference of points is the negation of their equality with the same effects,
whatever the coordinates' own difference says. -/

namespace Planar

structure Comparator (m : Type → Type) (α : Type) where
  eq : α → α → m Bool
  ne : α → α → m Bool

namespace Comparator

variable {m : Type → Type} {α : Type}

def point [Monad m] (c : Comparator m α) : Comparator m (Point α) where
  eq := Point.eqM c.eq
  ne := Point.neM c.eq

def ofEq (eq : α → α → Bool) : Comparator Id α where
  eq a b := pure (eq a b)
  ne a b := pure (!eq a b)

end Comparator

end Planar
