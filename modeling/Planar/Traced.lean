/-! Computations that make comparisons. A traced computation carries the list
of the comparisons made, in their order, and its outcome, which is missing when
a comparison was refused. Nothing is compared after a refusal. -/

namespace Planar

inductive Relation
  | eq
  | ne
  deriving DecidableEq

structure Comparison where
  relation : Relation
  left : Int
  right : Int
  deriving DecidableEq

structure Traced (α : Type) where
  trace : List Comparison
  outcome : Option α
  deriving DecidableEq

namespace Traced

variable {α β : Type}

protected def pure (a : α) : Traced α := ⟨[], some a⟩

protected def bind (t : Traced α) (f : α → Traced β) : Traced β :=
  match t.outcome with
  | none => ⟨t.trace, none⟩
  | some a =>
    let rest := f a
    ⟨t.trace ++ rest.trace, rest.outcome⟩

instance : Monad Traced where
  pure := Traced.pure
  bind := Traced.bind

def compare (comparison : Comparison) (answer : Option Bool) : Traced Bool :=
  ⟨[comparison], answer⟩

theorem bind_of_none {t : Traced α} (h : t.outcome = none) (f : α → Traced β) :
    t >>= f = ⟨t.trace, none⟩ := by
  simp [Bind.bind, Traced.bind, h]

theorem bind_of_some {t : Traced α} {a : α} (h : t.outcome = some a) (f : α → Traced β) :
    t >>= f = ⟨t.trace ++ (f a).trace, (f a).outcome⟩ := by
  simp [Bind.bind, Traced.bind, h]

@[simp] theorem trace_pure (a : α) : (pure a : Traced α).trace = [] := rfl

@[simp] theorem outcome_pure (a : α) : (pure a : Traced α).outcome = some a := rfl

instance : LawfulMonad Traced := LawfulMonad.mk' Traced
  (by
    intro α t
    obtain ⟨trace, outcome⟩ := t
    cases outcome <;> simp [Functor.map, Traced.bind, Traced.pure])
  (by
    intro α β a f
    simp [Bind.bind, Pure.pure, Traced.bind, Traced.pure])
  (by
    intro α β γ t f g
    cases ht : t.outcome with
    | none => simp [Bind.bind, Traced.bind, ht]
    | some a => cases hf : (f a).outcome <;> simp [Bind.bind, Traced.bind, ht, hf])

end Traced

end Planar
