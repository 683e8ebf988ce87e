import Planar.Kind.Basic

/-! What reading and changing along a path have in common. A path leads from a
value to a place in it, and around the place stands the rest of the value. The
same rest stands around every other value in that place. Places of which neither
is inside the other do not see each other. -/

namespace Planar

/-- Paths of which neither goes on from the end of the other. -/
def Parallel (P Q : List Axis) : Prop := ¬ P <+: Q ∧ ¬ Q <+: P

namespace Parallel

theorem symm {P Q : List Axis} (h : Parallel P Q) : Parallel Q P := ⟨h.2, h.1⟩

theorem not_nil {P : List Axis} : ¬ Parallel [] P := fun h => h.1 P.nil_prefix

theorem cons_iff {a b : Axis} {P Q : List Axis} :
    Parallel (a :: P) (b :: Q) ↔ (a = b → Parallel P Q) := by
  by_cases hab : a = b
  · simp [Parallel, List.cons_prefix_cons, hab]
  · simp [Parallel, List.cons_prefix_cons, hab, Ne.symm hab]

theorem exists_cons {P Q : List Axis} (h : Parallel P Q) : ∃ b rest, Q = b :: rest := by
  cases Q with
  | nil => exact absurd h.symm not_nil
  | cons b rest => exact ⟨b, rest, rfl⟩

end Parallel

/-- The path leads to `u`, which has depth `d`, and `around v` is the whole with
`v` in the place of `u`. -/
inductive Leads : (b : Base) → (n : Nat) → Nested b.Val n → List Axis →
    (d : Nat) → Nested b.Val d → (Nested b.Val d → Nested b.Val n) → Prop
  | here {b : Base} {n : Nat} (p : Nested b.Val n) : Leads b n p [] n p id
  | coordinate {b : Base} {n d : Nat} {p : Point (Nested b.Val n)} {axis : Axis} {rest : List Axis}
    {u : Nested b.Val d} {around : Nested b.Val d → Nested b.Val n} :
    Leads b n (p.get axis) rest d u around →
    Leads b (n + 1) p (axis :: rest) d u fun v => p.set axis (around v)
  | subtree {f : Integer.Format} {d : Nat} {p : Point (Tree f.Val)} {axis : Axis}
    {rest : List Axis} {u : Nested (Tree f.Val) d} {around : Nested (Tree f.Val) d → Tree f.Val} :
    Leads (.tree f) 0 (p.get axis) rest d u around →
    Leads (.tree f) 0 (.node p) (axis :: rest) d u fun v => .node (p.set axis (around v))

namespace Kind

variable {b : Base} {n d : Nat} {p : Nested b.Val n} {P Q : List Axis} {u v : Nested b.Val d}
  {around : Nested b.Val d → Nested b.Val n}

theorem get?_coordinate (p : Point (Nested b.Val n)) (axis : Axis) (rest : List Axis) :
    get? ⟨b, n + 1⟩ p (axis :: rest) = get? ⟨b, n⟩ (p.get axis) rest := rfl

theorem modify_coordinate (change : (d : Nat) → Nested b.Val d → Except Fault (Nested b.Val d))
    (p : Point (Nested b.Val n)) (axis : Axis) (rest : List Axis) :
    modify ⟨b, n + 1⟩ change p (axis :: rest) =
      p.set axis <$> modify ⟨b, n⟩ change (p.get axis) rest := rfl

theorem get?_subtree {f : Integer.Format} (p : Point (Tree f.Val)) (axis : Axis)
    (rest : List Axis) :
    get? ⟨.tree f, 0⟩ (.node p) (axis :: rest) = get? ⟨.tree f, 0⟩ (p.get axis) rest := rfl

theorem modify_subtree {f : Integer.Format}
    (change : (d : Nat) → Nested (Tree f.Val) d → Except Fault (Nested (Tree f.Val) d))
    (p : Point (Tree f.Val)) (axis : Axis) (rest : List Axis) :
    modify ⟨.tree f, 0⟩ change (.node p) (axis :: rest) =
      (fun t => .node (p.set axis t)) <$> modify ⟨.tree f, 0⟩ change (p.get axis) rest := by
  have hmodify : modify ⟨.tree f, 0⟩ change (.node p) (axis :: rest) =
      Tree.node <$> p.set axis <$> modify ⟨.tree f, 0⟩ change (p.get axis) rest := rfl
  rw [hmodify, ← comp_map]
  rfl

theorem get?_nil (p : Nested b.Val n) : get? ⟨b, n⟩ p [] = some ⟨n, p⟩ := by
  cases n with
  | zero => cases b <;> rfl
  | succ n => rfl

theorem modify_nil (change : (d : Nat) → Nested b.Val d → Except Fault (Nested b.Val d))
    (p : Nested b.Val n) : modify ⟨b, n⟩ change p [] = change n p := by
  cases n with
  | zero =>
    cases b with
    | tree f => cases p <;> rfl
    | _ => rfl
  | succ n => rfl

theorem leads_or_missing (p : Nested b.Val n) (P : List Axis) :
    (∃ d u around, Leads b n p P d u around) ∨
      get? ⟨b, n⟩ p P = none ∧ ∀ change, modify ⟨b, n⟩ change p P = .error .badPath := by
  induction P generalizing n p with
  | nil => exact Or.inl ⟨n, p, id, .here p⟩
  | cons axis rest ih =>
    cases n with
    | succ n =>
      rcases ih (p.get axis) with ⟨d, u, around, h⟩ | ⟨hget, hmodify⟩
      · exact Or.inl ⟨d, u, _, .coordinate h⟩
      · refine Or.inr ⟨hget, fun change => ?_⟩
        rw [modify_coordinate, hmodify]
        rfl
    | zero =>
      cases b with
      | tree f =>
        cases p with
        | leaf a => exact Or.inr ⟨rfl, fun _ => rfl⟩
        | node q =>
          rcases ih (n := 0) (q.get axis) with ⟨d, u, around, h⟩ | ⟨hget, hmodify⟩
          · exact Or.inl ⟨d, u, _, .subtree h⟩
          · refine Or.inr ⟨hget, fun change => ?_⟩
            rw [modify_subtree, hmodify]
            rfl
      -- Only points and trees have an inside.
      | _ => exact Or.inr ⟨rfl, fun _ => rfl⟩

end Kind

namespace Leads

variable {b : Base} {n d e : Nat} {p : Nested b.Val n} {P Q : List Axis} {u v : Nested b.Val d}
  {w : Nested b.Val e} {around : Nested b.Val d → Nested b.Val n}
  {around' : Nested b.Val e → Nested b.Val n}

theorem get?_append (h : Leads b n p P d u around) (Q : List Axis) :
    Kind.get? ⟨b, n⟩ p (P ++ Q) = Kind.get? ⟨b, d⟩ u Q := by
  induction h with
  | here p => rfl
  | coordinate _ ih => exact ih
  | subtree _ ih => exact ih

theorem modify_append (h : Leads b n p P d u around)
    (change : (d : Nat) → Nested b.Val d → Except Fault (Nested b.Val d)) (Q : List Axis) :
    Kind.modify ⟨b, n⟩ change p (P ++ Q) = around <$> Kind.modify ⟨b, d⟩ change u Q := by
  induction h with
  | here p => exact (id_map _).symm
  | coordinate _ ih =>
    rw [List.cons_append, Kind.modify_coordinate, ih, ← comp_map]
    rfl
  | subtree _ ih =>
    rw [List.cons_append, Kind.modify_subtree, ih, ← comp_map]
    rfl

theorem get? (h : Leads b n p P d u around) : Kind.get? ⟨b, n⟩ p P = some ⟨d, u⟩ := by
  rw [← P.append_nil, h.get?_append, Kind.get?_nil]

theorem modify (h : Leads b n p P d u around)
    (change : (d : Nat) → Nested b.Val d → Except Fault (Nested b.Val d)) :
    Kind.modify ⟨b, n⟩ change p P = around <$> change d u := by
  rw [← P.append_nil, h.modify_append, Kind.modify_nil]

theorem around_self (h : Leads b n p P d u around) : around u = p := by
  induction h with
  | here p => rfl
  | @coordinate _ _ _ p axis _ _ _ _ ih => exact (congrArg (p.set axis) ih).trans (p.set_get axis)
  | @subtree _ _ p axis _ _ _ _ ih =>
    exact congrArg Tree.node ((congrArg (p.set axis) ih).trans (p.set_get axis))

theorem coordinate_set {q : Point (Nested b.Val n)} {axis : Axis} (h : Leads b n p P d u around) :
    Leads b (n + 1) (q.set axis p) (axis :: P) d u fun v => q.set axis (around v) := by
  rw [← q.get_set axis p] at h
  simpa only [Point.set_set] using coordinate h

theorem subtree_set {f : Integer.Format} {t : Tree f.Val} {u : Nested (Tree f.Val) d}
    {around : Nested (Tree f.Val) d → Tree f.Val} {q : Point (Tree f.Val)} {axis : Axis}
    (h : Leads (.tree f) 0 t P d u around) :
    Leads (.tree f) 0 (.node (q.set axis t)) (axis :: P) d u
      fun v => .node (q.set axis (around v)) := by
  rw [← q.get_set axis t] at h
  simpa only [Point.set_set] using subtree h

theorem replaced (h : Leads b n p P d u around) (v : Nested b.Val d) :
    Leads b n (around v) P d v around := by
  induction h with
  | here p => exact .here v
  | coordinate _ ih => exact (ih v).coordinate_set
  | subtree _ ih => exact (ih v).subtree_set

theorem get?_of_parallel (h : Leads b n p P d u around) (hPQ : Parallel P Q) (v : Nested b.Val d) :
    Kind.get? ⟨b, n⟩ (around v) Q = Kind.get? ⟨b, n⟩ p Q := by
  induction h generalizing Q with
  | here p => exact absurd hPQ Parallel.not_nil
  | @coordinate b n d p axis rest u around _ ih =>
    obtain ⟨other, Q, rfl⟩ := hPQ.exists_cons
    rw [Kind.get?_coordinate, Kind.get?_coordinate]
    -- The paths part here, or they go on together and part further in.
    by_cases ha : axis = other
    · subst ha
      rw [Point.get_set, ih (Parallel.cons_iff.mp hPQ rfl)]
    · rw [Point.get_set_of_ne _ ha]
  | @subtree f d p axis rest u around _ ih =>
    obtain ⟨other, Q, rfl⟩ := hPQ.exists_cons
    rw [Kind.get?_subtree, Kind.get?_subtree]
    by_cases ha : axis = other
    · subst ha
      rw [Point.get_set, ih (Parallel.cons_iff.mp hPQ rfl)]
    · rw [Point.get_set_of_ne _ ha]

theorem diamond (h : Leads b n p P d u around) (h' : Leads b n p Q e w around')
    (hPQ : Parallel P Q) (v : Nested b.Val d) (x : Nested b.Val e) :
    ∃ right left, Leads b n (around v) Q e w right ∧ Leads b n (around' x) P d u left ∧
      right x = left v := by
  induction h generalizing Q with
  | here p => exact absurd hPQ Parallel.not_nil
  | @coordinate b n d p axis rest u around h ih =>
    cases h' with
    | here => exact absurd hPQ.symm Parallel.not_nil
    | @coordinate _ _ _ _ other _ _ around' h' =>
      -- Where the paths part, each leads through a coordinate that the other leaves alone.
      by_cases ha : axis = other
      · subst ha
        obtain ⟨right, left, hright, hleft, hx⟩ := ih h' (Parallel.cons_iff.mp hPQ rfl) v x
        exact ⟨_, _, hright.coordinate_set, hleft.coordinate_set, congrArg (p.set axis) hx⟩
      · rw [← p.get_set_of_ne ha (around v)] at h'
        rw [← p.get_set_of_ne (Ne.symm ha) (around' x)] at h
        exact ⟨_, _, .coordinate h', .coordinate h, p.set_comm ha _ _⟩
  | @subtree f d p axis rest u around h ih =>
    cases h' with
    | here => exact absurd hPQ.symm Parallel.not_nil
    | @subtree _ _ _ other _ _ around' h' =>
      by_cases ha : axis = other
      · subst ha
        obtain ⟨right, left, hright, hleft, hx⟩ := ih h' (Parallel.cons_iff.mp hPQ rfl) v x
        exact ⟨_, _, hright.subtree_set, hleft.subtree_set,
          congrArg (fun t => Tree.node (p.set axis t)) hx⟩
      · rw [← p.get_set_of_ne ha (around v)] at h'
        rw [← p.get_set_of_ne (Ne.symm ha) (around' x)] at h
        exact ⟨_, _, .subtree h', .subtree h, congrArg Tree.node (p.set_comm ha _ _)⟩

end Leads

theorem Fault.map_eq_ok_iff {α β : Type} {f : α → β} {x : Except Fault α} {y : β} :
    f <$> x = .ok y ↔ ∃ a, x = .ok a ∧ f a = y := by
  cases x with
  | error fault =>
    constructor
    · intro h
      cases h
    · rintro ⟨_, h, -⟩
      cases h
  | ok a =>
    constructor
    · intro h
      exact ⟨a, rfl, Except.ok.inj h⟩
    · rintro ⟨_, h, rfl⟩
      cases h
      rfl

namespace Kind

variable {k : Kind} {p q : k.Val} {P Q : List Axis}

theorem exists_leads {place : Place k.base.Val} (h : k.get? p P = some place) :
    ∃ around, Leads k.base k.depth p P place.depth place.value around := by
  rcases leads_or_missing p P with ⟨d, u, around, hp⟩ | ⟨hnone, -⟩
  · obtain rfl : ⟨d, u⟩ = place := Option.some.inj (hp.get?.symm.trans h)
    exact ⟨around, hp⟩
  · rw [hnone] at h
    cases h

theorem exists_leads_of_modify
    {change : (d : Nat) → Nested k.base.Val d → Except Fault (Nested k.base.Val d)}
    (h : k.modify change p P = .ok q) :
    ∃ d u around v, Leads k.base k.depth p P d u around ∧ change d u = .ok v ∧ around v = q := by
  rcases leads_or_missing p P with ⟨d, u, around, hp⟩ | ⟨-, hmodify⟩
  · rw [hp.modify, Fault.map_eq_ok_iff] at h
    obtain ⟨v, hv, hq⟩ := h
    exact ⟨d, u, around, v, hp, hv, hq⟩
  · rw [hmodify] at h
    cases h

theorem get?_of_modify
    {change : (d : Nat) → Nested k.base.Val d → Except Fault (Nested k.base.Val d)}
    (h : k.modify change p P = .ok q) (hPQ : Parallel P Q) : k.get? q Q = k.get? p Q := by
  obtain ⟨d, u, around, v, hp, -, rfl⟩ := exists_leads_of_modify h
  exact hp.get?_of_parallel hPQ v

end Kind

end Planar
