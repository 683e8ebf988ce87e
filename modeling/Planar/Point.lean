/-! A point holds one coordinate on each of the two axes, with no condition
between them. Reading, writing and exchanging coordinates obey the usual laws
of a pair of fields, stated here once for both axes. -/

namespace Planar

inductive Axis
  | x
  | y
  deriving DecidableEq

namespace Axis

def name : Axis → String
  | .x => "x"
  | .y => "y"

def ofName? : String → Option Axis
  | "x" => some .x
  | "y" => some .y
  | _ => none

def other : Axis → Axis
  | .x => .y
  | .y => .x

@[simp] theorem ofName?_name (a : Axis) : ofName? a.name = some a := by
  cases a <;> rfl

end Axis

structure Point (α : Type u) where
  x : α
  y : α
  deriving DecidableEq

namespace Point

variable {α : Type u} {β : Type v}

def get (p : Point α) : Axis → α
  | .x => p.x
  | .y => p.y

def set (p : Point α) : Axis → α → Point α
  | .x, a => { p with x := a }
  | .y, a => { p with y := a }

def modifyM {m : Type u → Type w} [Functor m] (p : Point α) (axis : Axis) (f : α → m α) :
    m (Point α) :=
  p.set axis <$> f (p.get axis)

def swap (p : Point α) : Point α := ⟨p.y, p.x⟩

def map (f : α → β) (p : Point α) : Point β := ⟨f p.x, f p.y⟩

def diagonal (a : α) : Point α := ⟨a, a⟩

/-- Equality of points over an equality of coordinates that may have effects:
the second coordinates are compared only when the first ones are equal. -/
def eqM {m : Type → Type w} [Monad m] (eq : α → α → m Bool) (p q : Point α) : m Bool := do
  if ← eq p.x q.x then eq p.y q.y else pure false

/-- Points differ when they are not equal. Only the coordinates' equality is asked. -/
def neM {m : Type → Type w} [Monad m] (eq : α → α → m Bool) (p q : Point α) : m Bool := do
  return !(← eqM eq p q)

def eqBy (eq : α → α → Bool) (p q : Point α) : Bool :=
  Id.run (eqM (fun a b => pure (eq a b)) p q)

def neBy (eq : α → α → Bool) (p q : Point α) : Bool :=
  Id.run (neM (fun a b => pure (eq a b)) p q)

@[simp] theorem get_set (p : Point α) (axis : Axis) (a : α) : (p.set axis a).get axis = a := by
  cases axis <;> rfl

theorem get_set_of_ne (p : Point α) {axis axis' : Axis} (h : axis ≠ axis') (a : α) :
    (p.set axis a).get axis' = p.get axis' := by
  cases axis <;> cases axis' <;> simp_all [get, set]

@[simp] theorem set_get (p : Point α) (axis : Axis) : p.set axis (p.get axis) = p := by
  cases axis <;> rfl

@[simp] theorem set_set (p : Point α) (axis : Axis) (a b : α) :
    (p.set axis a).set axis b = p.set axis b := by
  cases axis <;> rfl

theorem set_comm (p : Point α) {axis axis' : Axis} (h : axis ≠ axis') (a b : α) :
    (p.set axis a).set axis' b = (p.set axis' b).set axis a := by
  cases axis <;> cases axis' <;> simp_all [set]

theorem ext_get {p q : Point α} (h : ∀ axis, p.get axis = q.get axis) : p = q := by
  cases p
  cases q
  exact (Point.mk.injEq ..).mpr ⟨h .x, h .y⟩

@[simp] theorem swap_swap (p : Point α) : p.swap.swap = p := rfl

@[simp] theorem get_map (f : α → β) (p : Point α) (axis : Axis) :
    (p.map f).get axis = f (p.get axis) := by
  cases axis <;> rfl

theorem eqBy_eq_and (eq : α → α → Bool) (p q : Point α) :
    eqBy eq p q = (eq p.x q.x && eq p.y q.y) := by
  cases h : eq p.x q.x <;> simp [eqBy, eqM, h]

theorem neBy_eq_not (eq : α → α → Bool) (p q : Point α) : neBy eq p q = !eqBy eq p q := by
  simp [neBy, eqBy, neM]

theorem eqBy_eq_true_iff {eq : α → α → Bool} {p q : Point α} :
    eqBy eq p q = true ↔ ∀ axis, eq (p.get axis) (q.get axis) = true := by
  rw [eqBy_eq_and, Bool.and_eq_true]
  constructor
  · intro h axis
    cases axis with
    | x => exact h.1
    | y => exact h.2
  · exact fun h => ⟨h .x, h .y⟩

end Point

end Planar
