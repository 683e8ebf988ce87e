import Planar.Proofs.Separable.Number
import Planar.Text.Quoted

/-! Words and quoted texts are separable, whatever stands behind them. Of a
quoted text the first character is always known, and so is whether there is
one, since no escape begins with the quote. -/

namespace Planar.Text

theorem Style.separable_truth (style : Style) :
    Separable fun v : Bool => [style.padWord (if v then "true" else "false").toList] := by
  intro v w rest rest' _ _ h
  cases v <;> cases w <;> simp_all [padWord, List.rightpad]

namespace Quoted

def marked (mark : Char) (rest : List Char) : Char :=
  if mark = 'u' then Char.ofNat (Hexadecimal.value (rest.tail.takeWhile Char.isAlphanum))
  else if mark = '0' then '\x00'
  else if mark = 't' then '\t'
  else if mark = 'n' then '\n'
  else if mark = 'r' then '\r'
  else mark

def first : List Char → Char
  | [] => '\x00'
  | '\\' :: mark :: rest => marked mark rest
  | c :: _ => c

variable {quote : Char}

theorem marked_eq_self {mark : Char} (h : mark.isAlphanum = false) (rest : List Char) :
    marked mark rest = mark := by
  have hne : ∀ c : Char, c.isAlphanum = true → mark ≠ c := by
    rintro c hc rfl
    rw [h] at hc
    cases hc
  rw [marked, if_neg (hne 'u' rfl), if_neg (hne '0' rfl), if_neg (hne 't' rfl),
    if_neg (hne 'n' rfl), if_neg (hne 'r' rfl)]

theorem first_escape (hq : quote.isAlphanum = false) (c : Char) (rest : List Char) :
    first (escape quote c ++ rest) = c := by
  unfold escape
  split
  · next hc => exact hc ▸ marked_eq_self (hc ▸ hq) rest
  · split
    · exact marked_eq_self (by decide) rest
    · rfl
    · rfl
    · rfl
    · rfl
    · next hb _ _ _ _ =>
      split
      · have hn : Numeral (Nat.toDigits 16 c.toNat) := numeral_toDigits (by decide) (by decide) _
        have hend : Apart ('\x7d' :: rest) := apart_append (s := ['\x7d']) rfl rfl rest
        simp [first, marked, takeWhile_run hn.2 hend, Char.ofNat_toNat]
      · unfold first
        split <;> simp_all

theorem escape_eq (quote c : Char) :
    (escape quote c = [c] ∧ c ≠ quote) ∨ ∃ s, escape quote c = '\\' :: s := by
  unfold escape
  split
  · exact Or.inr ⟨_, rfl⟩
  · next hc =>
    split
    · exact Or.inr ⟨_, rfl⟩
    · exact Or.inr ⟨_, rfl⟩
    · exact Or.inr ⟨_, rfl⟩
    · exact Or.inr ⟨_, rfl⟩
    · exact Or.inr ⟨_, rfl⟩
    · split
      · exact Or.inr ⟨_, rfl⟩
      · exact Or.inl ⟨rfl, hc⟩

theorem escape_ne_quote_cons (hb : quote ≠ '\\') (c : Char) (s t : List Char) :
    escape quote c ++ s ≠ quote :: t := by
  intro h
  rcases escape_eq quote c with ⟨he, hc⟩ | ⟨r, he⟩
  · rw [he] at h
    exact hc (List.cons.inj h).1
  · rw [he] at h
    exact hb (List.cons.inj h).1.symm

theorem escaped_cut (hq : quote.isAlphanum = false) (hb : quote ≠ '\\')
    {s s' rest rest' : List Char}
    (h : s.flatMap (escape quote) ++ quote :: rest = s'.flatMap (escape quote) ++ quote :: rest') :
    s = s' := by
  induction s generalizing s' with
  | nil =>
    cases s' with
    | nil => rfl
    | cons c' s' =>
      rw [List.flatMap_cons, List.append_assoc] at h
      exact absurd h.symm (escape_ne_quote_cons hb c' _ _)
  | cons c s ih =>
    cases s' with
    | nil =>
      rw [List.flatMap_cons, List.append_assoc] at h
      exact absurd h (escape_ne_quote_cons hb c _ _)
    | cons c' s' =>
      rw [List.flatMap_cons, List.flatMap_cons, List.append_assoc, List.append_assoc] at h
      have hc : c = c' := by
        rw [← first_escape hq c, h, first_escape hq c']
      subst hc
      rw [ih (List.append_cancel_left h)]

theorem separable_encode (hq : quote.isAlphanum = false) (hb : quote ≠ '\\') :
    Separable fun s => [encode quote s] := by
  intro s s' rest rest' _ _ h
  simp only [encode, List.flatten_cons, List.flatten_nil, List.append_nil, List.cons_append,
    List.append_assoc, List.cons.injEq, true_and, List.nil_append] at h
  exact escaped_cut hq hb h

end Quoted

end Planar.Text
