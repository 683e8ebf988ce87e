import Planar.Nested

/-! Places inside nested points. A path of axes leads from a point to one of its
coordinates, to a coordinate of that, and on into a leaf where the leaf has an
inside. What stands at a place is a value of some depth, and it may be replaced
by another value of the same depth. -/

namespace Planar

structure Place (α : Type) where
  depth : Nat
  value : Nested α depth

namespace Nested

variable {α : Type} {ε : Type}

def get? (leaf : α → List Axis → Option α) : (n : Nat) → Nested α n → List Axis → Option (Place α)
  | 0, a, path => (leaf a path).map (Place.mk 0)
  | n + 1, p, [] => some ⟨n + 1, p⟩
  | n + 1, p, axis :: rest => get? leaf n (p.get axis) rest

/-- Replaces what stands at a path by the outcome of `change` on it, where
`leaf` does the same inside a leaf. -/
def modify (leaf : (α → Except ε α) → α → List Axis → Except ε α)
    (change : (d : Nat) → Nested α d → Except ε (Nested α d)) :
    (n : Nat) → Nested α n → List Axis → Except ε (Nested α n)
  | 0, a, path => leaf (change 0) a path
  | n + 1, p, [] => change (n + 1) p
  | n + 1, p, axis :: rest => p.modifyM axis fun c => modify leaf change n c rest

end Nested

end Planar
