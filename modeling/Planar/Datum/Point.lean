import Planar.Datum.Basic
import Planar.Tree

/-! Points as data. A point is a record with the fields `x` and `y`, in which
further fields are ignored; nested points and the nodes of trees are such records
again. A leaf of a tree is never a record. -/

namespace Planar

namespace Point

variable {α : Type}

def write (coordinate : α → Datum) (p : Point α) : Datum :=
  .record [(Axis.x.name, coordinate p.x), (Axis.y.name, coordinate p.y)]

def read? (coordinate : Datum → Option α) (d : Datum) : Option (Point α) := do
  let x ← d.field? Axis.x.name >>= coordinate
  let y ← d.field? Axis.y.name >>= coordinate
  return ⟨x, y⟩

@[simp] theorem read?_write {write : α → Datum} {read? : Datum → Option α} {p : Point α}
    (hx : read? (write p.x) = some p.x) (hy : read? (write p.y) = some p.y) :
    Point.read? read? (p.write write) = some p := by
  have fx : (p.write write).field? Axis.x.name = some (write p.x) := rfl
  have fy : (p.write write).field? Axis.y.name = some (write p.y) := rfl
  simp [Point.read?, fx, fy, hx, hy]

end Point

namespace Nested

variable {α : Type}

def write (leaf : α → Datum) : (n : Nat) → Nested α n → Datum
  | 0, a => leaf a
  | n + 1, p => Point.write (write leaf n) p

def read? (leaf : Datum → Option α) : (n : Nat) → Datum → Option (Nested α n)
  | 0, d => leaf d
  | n + 1, d => Point.read? (read? leaf n) d

theorem read?_write {leaf : α → Datum} {leaf? : Datum → Option α} (n : Nat) {p : Nested α n}
    (h : ∀ a ∈ leaves n p, leaf? (leaf a) = some a) :
    read? leaf? n (write leaf n p) = some p := by
  induction n with
  | zero => exact h p (by simp [leaves])
  | succ n ih =>
    exact Point.read?_write (ih fun a ha => h a (List.mem_append_left _ ha))
      (ih fun a ha => h a (List.mem_append_right _ ha))

end Nested

namespace Tree

variable {α : Type}

def write (leaf : α → Datum) : Tree α → Datum
  | .leaf a => leaf a
  | .node ⟨x, y⟩ => Point.write id ⟨write leaf x, write leaf y⟩
termination_by structural t => t

mutual

def read? (leaf : Datum → Option α) : Datum → Option (Tree α)
  | .record fields => do
    let x ← readField? leaf Axis.x.name fields
    let y ← readField? leaf Axis.y.name fields
    return .node ⟨x, y⟩
  | d => .leaf <$> leaf d
termination_by structural d => d

def readField? (leaf : Datum → Option α) (name : String) :
    List (String × Datum) → Option (Tree α)
  | [] => none
  | (key, d) :: rest => if name == key then read? leaf d else readField? leaf name rest
termination_by structural fields => fields

end

theorem readField?_eq (leaf : Datum → Option α) (name : String) (fields : List (String × Datum)) :
    readField? leaf name fields = fields.lookup name >>= read? leaf := by
  induction fields with
  | nil => rfl
  | cons field rest ih =>
    rw [readField?, List.lookup_cons]
    cases name == field.1 <;> simp [ih]

theorem read?_record (leaf : Datum → Option α) (fields : List (String × Datum)) :
    read? leaf (.record fields) = .node <$> Point.read? (read? leaf) (.record fields) := by
  simp only [read?, readField?_eq, Point.read?, Datum.field?, map_bind, map_pure]

theorem write_node (leaf : α → Datum) (p : Point (Tree α)) :
    write leaf (.node p) = p.write (write leaf) := rfl

theorem read?_write {leaf : α → Datum} {leaf? : Datum → Option α}
    (h : ∀ a, leaf? (leaf a) = some a) (hr : ∀ a, (leaf a).isRecord = false) (t : Tree α) :
    read? leaf? (write leaf t) = some t := by
  induction t with
  | leaf a =>
    have hleaf : read? leaf? (leaf a) = Tree.leaf <$> leaf? (leaf a) := by
      have := hr a
      cases hd : leaf a with
      | record fields => simp [hd, Datum.isRecord] at this
      | _ => simp [read?]
    rw [write, hleaf, h]
    rfl
  | node x y ihx ihy =>
    rw [write_node]
    have hp : Point.read? (read? leaf?) (Point.write (write leaf) ⟨x, y⟩) = some ⟨x, y⟩ :=
      Point.read?_write ihx ihy
    rw [Point.write] at hp ⊢
    rw [read?_record, hp]
    rfl

end Tree

end Planar
