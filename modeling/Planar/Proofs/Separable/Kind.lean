import Planar.Kind.Basic
import Planar.Proofs.Separable.Layout

/-! The texts of two values of a kind are the same only where the values are, at
any depth and in every style. Raw texts are left out, since they can imitate
anything, and so are binary numbers, whose equality is not that of their texts. -/

namespace Planar

open Text

def Base.legible : Base → Bool
  | .binary _ | .raw => false
  | _ => true

namespace Base

theorem separable_layout {b : Base} (h : b.legible = true) (style : Style) :
    Separable (b.layout style) := by
  cases b with
  | integer f => exact f.separable_text style
  | binary f => cases h
  | bool => exact style.separable_truth
  | char =>
    intro c d rest rest' hr hr' he
    have hencode := @Quoted.separable_encode '\x27' (by decide) (by decide)
    exact (List.cons.inj (hencode [c] hr hr' he)).1
  | unit => exact fun _ _ _ _ _ _ _ => rfl
  | option f => exact (f.separable_text style).option style.alternate
  | list f =>
    refine (f.separable_text style).list (fun v => ?_) (fun v => ?_) style.alternate
    · simpa using f.text_ne_nil style v
    · exact f.not_mem_flatten_text (by decide) style v
  | text =>
    intro s t rest rest' hr hr' he
    have hencode := @Quoted.separable_encode '\x22' (by decide) (by decide)
    exact String.toList_injective (hencode s.toList hr hr' he)
  | raw => cases h
  | tree f =>
    refine (f.separable_text style).tree (fun v => ?_) (fun v => ?_) style.alternate
    · simpa using f.text_ne_nil style v
    · exact f.not_mem_flatten_text (by decide) style v

theorem isBinary_of_legible {b : Base} (h : b.legible = true) : b.isBinary = false := by
  cases b <;> first | rfl | cases h

end Base

namespace Kind

/-- Whatever the style, two values of a kind have the same text exactly when they are equal. -/
theorem text_eq_text_iff {k : Kind} (h : k.base.legible = true) (style : Style) (p q : k.Val) :
    k.text style p = k.text style q ↔ k.eq p q = true := by
  have hs : Separable (k.layout style) :=
    (Base.separable_layout h style).nested style.alternate k.depth
  rw [k.eq_iff_eq (Base.isBinary_of_legible h)]
  constructor
  · exact fun he => hs.injective he
  · exact fun he => he ▸ rfl

/-- Without escapes both texts would be `Point { x: "a", y: "b", y: "c" }`. -/
theorem text_ne_of_quotes_inside :
    let k : Kind := { base := .text, depth := 1 }
    let p : k.Val := ⟨"a\", y: \"b", "c"⟩
    let q : k.Val := ⟨"a", "b\", y: \"c"⟩
    k.base.legible = true ∧ k.text .plain p ≠ k.text .plain q :=
  ⟨rfl, fun he => absurd ((text_eq_text_iff rfl _ _ _).mp he) (by decide)⟩

end Kind

end Planar
