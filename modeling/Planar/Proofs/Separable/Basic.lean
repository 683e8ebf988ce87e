import Planar.Text.Indent

/-! Texts that can be cut off the front of whatever they stand in. A family of
texts is separable when the value behind a text is known from any longer text
that begins with it. Numbers are separable only before a character that is no
digit and no letter, and so this is asked of all that follows. -/

namespace Planar.Text

/-- The text does not go on with a character of the class. -/
def EndsRun (p : Char → Bool) (rest : List Char) : Prop := ∀ c ∈ rest.head?, p c = false

theorem EndsRun.append {p : Char → Bool} {s : List Char} (hne : s ≠ [])
    (hs : ∀ c ∈ s, p c = false) (t : List Char) : EndsRun p (s ++ t) := by
  obtain ⟨c, s, rfl⟩ := List.exists_cons_of_ne_nil hne
  intro d hd
  obtain rfl : c = d := Option.some.inj hd
  exact hs c List.mem_cons_self

theorem takeWhile_run {p : Char → Bool} {s t : List Char} (hs : ∀ c ∈ s, p c = true)
    (ht : EndsRun p t) : (s ++ t).takeWhile p = s := by
  rw [List.takeWhile_append_of_pos hs]
  cases t with
  | nil => simp
  | cons c t => simp [ht c rfl]

theorem run_inj {p : Char → Bool} {s s' t t' : List Char} (hs : ∀ c ∈ s, p c = true)
    (hs' : ∀ c ∈ s', p c = true) (ht : EndsRun p t) (ht' : EndsRun p t')
    (h : s ++ t = s' ++ t') : s = s' ∧ t = t' := by
  have hrun : s = s' := by
    rw [← takeWhile_run hs ht, ← takeWhile_run hs' ht', h]
  subst hrun
  exact ⟨rfl, List.append_cancel_left h⟩

abbrev Apart (rest : List Char) : Prop := EndsRun Char.isAlphanum rest

/-- The text of `a` is taken for that of no other value. -/
def SeparableAt {α : Type} (layout : α → Pieces) (a : α) : Prop :=
  ∀ ⦃b : α⦄ ⦃rest rest' : List Char⦄, Apart rest → Apart rest' →
    (layout a).flatten ++ rest = (layout b).flatten ++ rest' → a = b

def Separable {α : Type} (layout : α → Pieces) : Prop := ∀ a, SeparableAt layout a

variable {α : Type} {layout : α → Pieces}

theorem apart_append {s : List Char} {c : Char} (hs : s.head? = some c)
    (hc : c.isAlphanum = false) (t : List Char) : Apart (s ++ t) := by
  intro d hd
  rw [List.head?_append, hs] at hd
  obtain rfl : c = d := Option.some.inj hd
  exact hc

theorem append_ne_cons {s : List Char} {c : Char} (hne : s ≠ []) (hc : c ∉ s)
    (t u : List Char) : s ++ t ≠ c :: u := by
  obtain ⟨d, s, rfl⟩ := List.exists_cons_of_ne_nil hne
  intro h
  obtain rfl : d = c := (List.cons.inj h).1
  exact hc List.mem_cons_self

theorem SeparableAt.cut {a b : α} {rest rest' : List Char} (h : SeparableAt layout a)
    (hr : Apart rest) (hr' : Apart rest')
    (he : (layout a).flatten ++ rest = (layout b).flatten ++ rest') : a = b ∧ rest = rest' := by
  obtain rfl := h hr hr' he
  exact ⟨rfl, List.append_cancel_left he⟩

theorem Separable.injective {a b : α} (h : Separable layout)
    (he : (layout a).flatten = (layout b).flatten) : a = b := by
  have hnil : Apart [] := by
    intro c hc
    cases hc
  exact h a hnil hnil (congrArg (· ++ []) he)

end Planar.Text
