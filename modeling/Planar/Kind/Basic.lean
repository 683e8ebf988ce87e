import Planar.Kind.Base

/-! A kind of coordinate is a base and the count of points around it. Points of
that kind of coordinate are the values of the kind one level up, so that every
operation on coordinates is also one on points. -/

namespace Planar

open Text

structure Kind where
  base : Base
  depth : Nat := 0
  deriving DecidableEq

namespace Kind

abbrev Val (k : Kind) : Type := Nested k.base.Val k.depth

abbrev point (k : Kind) : Kind := ⟨k.base, k.depth + 1⟩

variable (k : Kind)

def eq (p q : k.Val) : Bool := Nested.eqBy k.base.eq k.depth p q

def ne (p q : k.Val) : Bool := Nested.neBy k.base.eq k.depth p q

def origin : k.Val := Nested.fill k.base.origin k.depth

def layout (style : Style) (p : k.Val) : Pieces :=
  Nested.layout style.alternate (k.base.layout style) k.depth p

/-- The text for a reader. The style reaches the leaves and not the points. -/
def text (style : Style) (p : k.Val) : List Char := (k.layout style p).flatten

def write (p : k.Val) : Datum := Nested.write k.base.write k.depth p

def read? (d : Datum) : Option k.Val := Nested.read? k.base.read? k.depth d

def get? (p : k.Val) (path : List Axis) : Option (Place k.base.Val) :=
  Nested.get? k.base.get? k.depth p path

def modify (change : (d : Nat) → Nested k.base.Val d → Except Fault (Nested k.base.Val d))
    (p : k.Val) (path : List Axis) : Except Fault k.Val :=
  Nested.modify k.base.modify change k.depth p path

def set (p : k.Val) (path : List Axis) (d : Datum) : Except Fault k.Val :=
  k.modify (fun depth _ => Fault.badInput.ifNone (read? ⟨k.base, depth⟩ d)) p path

def updatePlace (b : Base) (d : Datum) : (depth : Nat) → Nested b.Val depth →
    Except Fault (Nested b.Val depth)
  | 0, a => b.update a d
  | _ + 1, _ => .error .unsupported

def update (p : k.Val) (path : List Axis) (d : Datum) : Except Fault k.Val :=
  k.modify (updatePlace k.base d) p path

def writePlace {b : Base} (place : Place b.Val) : Datum := write ⟨b, place.depth⟩ place.value

theorem eq_point (p q : k.point.Val) : k.point.eq p q = (k.eq p.x q.x && k.eq p.y q.y) :=
  Nested.eqBy_succ_eq_and ..

theorem ne_eq_not (p q : k.Val) : k.ne p q = !k.eq p q := Nested.neBy_eq_not ..

theorem eq_iff_eq (h : k.base.isBinary = false) (p q : k.Val) : k.eq p q = true ↔ p = q := by
  obtain ⟨b, n⟩ := k
  induction n with
  | zero => exact Base.eq_iff_eq h p q
  | succ n ih =>
    rw [eq_point ⟨b, n⟩, Bool.and_eq_true]
    obtain ⟨px, py⟩ := p
    obtain ⟨qx, qy⟩ := q
    rw [ih h, ih h, Point.mk.injEq]

end Kind

end Planar
