import Planar.Kind.Basic
import Planar.Proofs.Leaf
import Planar.Proofs.Separable.Quoted

/-! Leaves that are printed on one line. Numbers, words and quoted texts have no line
end in their texts, whatever they are and whatever the style. Without hexadecimal
digits their texts do not depend on whether the point around them is laid out. -/

namespace Planar

namespace Text

theorem newline_not_mem_replicate {c : Char} (hc : c ≠ '\n') (n : Nat) :
    '\n' ∉ List.replicate n c := fun h => hc (List.eq_of_mem_replicate h).symm

theorem newline_not_mem_toDigits {b : Nat} (hb : 1 < b) (hb' : b ≤ 16) (n : Nat) :
    '\n' ∉ Nat.toDigits b n := fun h => absurd ((numeral_toDigits hb hb' n).2 _ h) (by decide)

theorem Decimal.newline_not_mem_write (i : Int) : '\n' ∉ Decimal.write i := by
  cases i with
  | ofNat n => exact newline_not_mem_toDigits (by decide) (by decide) n
  | negSucc n =>
    rw [Decimal.write, List.mem_cons, not_or]
    exact ⟨by decide, newline_not_mem_toDigits (by decide) (by decide) (n + 1)⟩

namespace Style

theorem newline_not_mem_padWord (style : Style) {word : List Char} (h : '\n' ∉ word) :
    '\n' ∉ style.padWord word := by
  rw [padWord, List.rightpad, List.mem_append, not_or]
  exact ⟨h, newline_not_mem_replicate (by decide) _⟩

theorem newline_not_mem_padNumber (style : Style) {lead digits : List Char} (hl : '\n' ∉ lead)
    (hd : '\n' ∉ digits) : '\n' ∉ style.padNumber lead digits := by
  intro h
  rcases mem_padNumber h with h | h | h | h
  · exact absurd h (by decide)
  · exact absurd h (by decide)
  · exact hl h
  · exact hd h

theorem newline_not_mem_sign (style : Style) (negative : Bool) : '\n' ∉ style.sign negative := by
  intro h
  rcases mem_sign h with h | h <;> exact absurd h (by decide)

end Style

namespace Quoted

theorem newline_not_mem_escape {quote : Char} (hq : quote ≠ '\n') (c : Char) :
    '\n' ∉ escape quote c := by
  unfold escape
  split
  · next hc => simp [hc, hq.symm]
  · split
    · decide
    · decide
    · decide
    · decide
    · decide
    · next hn _ =>
      split
      · simp [newline_not_mem_toDigits]
      · simpa [eq_comm] using hn

theorem newline_not_mem_encode {quote : Char} (hq : quote ≠ '\n') (text : List Char) :
    '\n' ∉ encode quote text := by
  rw [encode, List.cons_append, List.mem_cons, List.mem_append, List.mem_singleton, not_or, not_or]
  refine ⟨hq.symm, fun h => ?_, hq.symm⟩
  obtain ⟨c, -, hc⟩ := List.mem_flatMap.mp h
  exact newline_not_mem_escape hq c hc

end Quoted

end Text

open Text

namespace Binary

namespace Decimal

theorem newline_not_mem_significant (d : Decimal) : '\n' ∉ d.significant := by
  intro h
  rw [significant, List.mem_reverse] at h
  exact newline_not_mem_toDigits (by decide) (by decide) d.digits
    (List.mem_reverse.mp ((List.dropWhile_sublist _).mem h))

theorem newline_not_mem_positional {digits : List Char} (h : '\n' ∉ digits) (point : Int) :
    '\n' ∉ positional digits point := by
  have hzeros : ∀ n, '\n' ∉ List.replicate n '0' := newline_not_mem_replicate (by decide)
  have hwhole : '\n' ∉ (digits.take point.toNat).rightpad point.toNat '0' := by
    rw [List.rightpad, List.mem_append, not_or]
    exact ⟨fun hmem => h (List.mem_of_mem_take hmem), hzeros _⟩
  have hrest : '\n' ∉ List.replicate (-point).toNat '0' ++ digits.drop point.toNat := by
    rw [List.mem_append, not_or]
    exact ⟨hzeros _, fun hmem => h (List.mem_of_mem_drop hmem)⟩
  unfold positional
  rw [List.mem_append, List.mem_cons, not_or, not_or]
  refine ⟨?_, by decide, ?_⟩
  · split
    · decide
    · exact hwhole
  · split
    · decide
    · exact hrest

theorem newline_not_mem_scientific {digits : List Char} (h : '\n' ∉ digits) (point : Int) :
    '\n' ∉ scientific digits point := by
  unfold scientific
  rw [List.mem_append, List.mem_append, List.mem_cons, not_or, not_or, not_or]
  refine ⟨⟨fun hmem => h (List.mem_of_mem_take hmem), ?_⟩, by decide,
    Text.Decimal.newline_not_mem_write _⟩
  split
  · exact List.not_mem_nil
  · rw [List.mem_cons, not_or]
    exact ⟨by decide, fun hmem => h (List.mem_of_mem_drop hmem)⟩

theorem newline_not_mem_text (d : Decimal) : '\n' ∉ d.text := by
  unfold text
  split
  · exact newline_not_mem_positional d.newline_not_mem_significant d.point
  · exact newline_not_mem_scientific d.newline_not_mem_significant d.point

end Decimal

namespace Format

variable (f : Format)

theorem newline_not_mem_body (v : f.Val) : '\n' ∉ f.body v := by
  unfold body
  split
  · decide
  · split
    · decide
    · split
      · decide
      · exact (f.shortest v).newline_not_mem_text

theorem newline_not_mem_text (style : Style) (v : f.Val) : '\n' ∉ f.text style v := by
  refine style.newline_not_mem_padNumber ?_ (f.newline_not_mem_body v)
  split
  · exact List.not_mem_nil
  · exact style.newline_not_mem_sign _

end Format

end Binary

namespace Base

def oneLine : Base → Bool
  | .option _ | .list _ | .raw => false
  | _ => true

theorem newline_not_mem_layout {b : Base} (h : b.oneLine = true) {v : b.Val}
    (hv : b.isLeaf v = true) (style : Style) : '\n' ∉ (b.layout style v).flatten := by
  cases b with
  | integer f => exact f.not_mem_flatten_text (by decide) style v
  | binary f =>
    rw [layout, List.flatten_singleton]
    exact f.newline_not_mem_text style v
  | bool =>
    rw [layout, List.flatten_singleton]
    cases v <;> exact style.newline_not_mem_padWord (by decide)
  | char =>
    rw [layout, List.flatten_singleton]
    exact Quoted.newline_not_mem_encode (by decide) _
  | unit =>
    rw [layout, List.flatten_singleton]
    exact style.newline_not_mem_padWord (by decide)
  | text =>
    rw [layout, List.flatten_singleton]
    exact Quoted.newline_not_mem_encode (by decide) _
  | tree f =>
    cases v with
    | leaf a => exact f.not_mem_flatten_text (by decide) style a
    | node p => cases hv
  | option f => cases h
  | list f => cases h
  | raw => cases h

theorem layout_alternate {b : Base} (h : b.oneLine = true) {v : b.Val} (hv : b.isLeaf v = true)
    {style : Style} (hex : style.hex = none) (alternate : Bool) :
    b.layout { style with alternate := alternate } v = b.layout style v := by
  have htext (f : Integer.Format) (a : f.Val) :
      f.text { style with alternate := alternate } a = f.text style a := by
    unfold Integer.Format.text
    rw [hex]
    rfl
  cases b with
  | integer f => exact congrArg (fun text => [text]) (htext f v)
  | tree f =>
    cases v with
    | leaf a => exact congrArg (fun text => [text]) (htext f a)
    | node p => cases hv
  | option f => cases h
  | list f => cases h
  | _ => rfl

end Base

end Planar
