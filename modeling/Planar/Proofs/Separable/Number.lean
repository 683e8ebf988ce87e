import Planar.Integer
import Planar.Proofs.Separable.Basic

/-! Numbers are separable in every style. Spaces, lead and digits are cut off one
after the other, and zeros that fill up the digits leave their value as it is. -/

namespace Planar.Text

theorem exists_digit_of_mem {b n : Nat} {c : Char} (hb : 1 < b) (hc : c ∈ Nat.toDigits b n) :
    ∃ d < b, c = d.digitChar := by
  induction n using Nat.strongRecOn with
  | ind n ih =>
    by_cases hn : n < b
    · rw [Nat.toDigits_of_lt_base hn, List.mem_singleton] at hc
      exact ⟨n, hn, hc⟩
    · rw [Nat.toDigits_of_base_le hb (Nat.le_of_not_lt hn), List.mem_append,
        List.mem_singleton] at hc
      rcases hc with hc | hc
      · exact ih (n / b) (Nat.div_lt_self (by omega) hb) hc
      · exact ⟨n % b, Nat.mod_lt n (by omega), hc⟩

theorem decimal_inj_of_zeros {zeros zeros' m n : Nat}
    (h : List.replicate zeros '0' ++ Nat.toDigits 10 m =
      List.replicate zeros' '0' ++ Nat.toDigits 10 n) : m = n := by
  have hv := congrArg (fun digits => Nat.ofDigitChars 10 digits 0) h
  simpa only [Nat.ofDigitChars_append, Nat.ofDigitChars_replicate_zero, Nat.mul_zero,
    Nat.ofDigitChars_ten_toDigits] using hv

theorem hexadecimal_inj_of_zeros {zeros zeros' m n : Nat}
    (h : List.replicate zeros '0' ++ Nat.toDigits 16 m =
      List.replicate zeros' '0' ++ Nat.toDigits 16 n) : m = n := by
  have padded : ∀ zeros n, List.replicate zeros '0' ++ Nat.toDigits 16 n =
      Hexadecimal.write (zeros + (Nat.toDigits 16 n).length) n := by
    intro zeros n
    rw [Hexadecimal.write, List.leftpad, Nat.add_sub_cancel]
  rw [padded, padded] at h
  have hv := congrArg Hexadecimal.value h
  rwa [Hexadecimal.value_write, Hexadecimal.value_write] at hv

theorem toLower_toUpper_digits (n : Nat) :
    ((Nat.toDigits 16 n).map Char.toUpper).map Char.toLower = Nat.toDigits 16 n := by
  have hdigit : ∀ d < 16, d.digitChar.toUpper.toLower = d.digitChar := by decide
  have hid : ∀ c ∈ Nat.toDigits 16 n, (Char.toLower ∘ Char.toUpper) c = id c := by
    intro c hc
    obtain ⟨d, hd, rfl⟩ := exists_digit_of_mem (by decide) hc
    exact hdigit d hd
  rw [List.map_map, List.map_congr_left hid, List.map_id]

def Numeral (digits : List Char) : Prop := digits ≠ [] ∧ ∀ c ∈ digits, c.isAlphanum = true

theorem numeral_toDigits {b : Nat} (hb : 1 < b) (hb' : b ≤ 16) (n : Nat) :
    Numeral (Nat.toDigits b n) := by
  have hdigit : ∀ d < 16, d.digitChar.isAlphanum = true := by decide
  refine ⟨Nat.toDigits_ne_nil, fun c hc => ?_⟩
  obtain ⟨d, hd, rfl⟩ := exists_digit_of_mem hb hc
  exact hdigit d (by omega)

namespace Numeral

variable {digits digits' rest rest' : List Char}

theorem zeros_append (h : Numeral digits) (zeros : Nat) :
    Numeral (List.replicate zeros '0' ++ digits) := by
  refine ⟨List.append_ne_nil_of_right_ne_nil _ h.1, fun c hc => ?_⟩
  rcases List.mem_append.mp hc with hc | hc
  · rw [List.eq_of_mem_replicate hc]
    decide
  · exact h.2 c hc

theorem cut (h : Numeral digits) (h' : Numeral digits') (hr : Apart rest) (hr' : Apart rest')
    (he : digits ++ rest = digits' ++ rest') : digits = digits' :=
  (run_inj h.2 h'.2 hr hr' he).1

theorem endsRun (h : Numeral digits) (rest : List Char) :
    EndsRun (fun c => !c.isAlphanum) (digits ++ rest) :=
  EndsRun.append h.1 (fun c hc => by simp [h.2 c hc]) rest

end Numeral

namespace Style

variable {style : Style}

theorem padNumber_eq (style : Style) (lead digits : List Char) :
    ∃ spaces zeros, style.padNumber lead digits =
      List.replicate spaces ' ' ++ (lead ++ (List.replicate zeros '0' ++ digits)) := by
  unfold padNumber
  by_cases hz : style.zero = true
  · rw [if_pos hz, List.leftpad]
    exact ⟨0, _, rfl⟩
  · rw [if_neg hz, List.leftpad]
    exact ⟨_, 0, rfl⟩

theorem mem_padNumber {lead digits : List Char} {c : Char}
    (hc : c ∈ style.padNumber lead digits) : c = ' ' ∨ c = '0' ∨ c ∈ lead ∨ c ∈ digits := by
  obtain ⟨spaces, zeros, he⟩ := style.padNumber_eq lead digits
  rw [he, List.mem_append, List.mem_append, List.mem_append] at hc
  rcases hc with hc | hc | hc | hc
  · exact Or.inl (List.eq_of_mem_replicate hc)
  · exact Or.inr (Or.inr (Or.inl hc))
  · exact Or.inr (Or.inl (List.eq_of_mem_replicate hc))
  · exact Or.inr (Or.inr (Or.inr hc))

theorem endsRun_number {lead digits : List Char} (hl : ' ' ∉ lead) (hd : Numeral digits)
    (rest : List Char) : EndsRun (· == ' ') (lead ++ (digits ++ rest)) := by
  rw [← List.append_assoc]
  refine EndsRun.append (List.append_ne_nil_of_right_ne_nil _ hd.1) (fun c hc => ?_) rest
  refine beq_false_of_ne fun hs => ?_
  subst hs
  rcases List.mem_append.mp hc with hc | hc
  · exact hl hc
  · exact absurd (hd.2 ' ' hc) (by decide)

theorem padNumber_cut {lead lead' digits digits' rest rest' : List Char} (hl : ' ' ∉ lead)
    (hl' : ' ' ∉ lead') (hd : Numeral digits) (hd' : Numeral digits')
    (h : style.padNumber lead digits ++ rest = style.padNumber lead' digits' ++ rest') :
    ∃ zeros zeros', lead ++ ((List.replicate zeros '0' ++ digits) ++ rest) =
      lead' ++ ((List.replicate zeros' '0' ++ digits') ++ rest') := by
  have space : ∀ n, ∀ c ∈ List.replicate n ' ', (c == ' ') = true := by
    intro n c hc
    rw [List.eq_of_mem_replicate hc]
    rfl
  obtain ⟨spaces, zeros, he⟩ := style.padNumber_eq lead digits
  obtain ⟨spaces', zeros', he'⟩ := style.padNumber_eq lead' digits'
  have hstop := endsRun_number hl (hd.zeros_append zeros) rest
  have hstop' := endsRun_number hl' (hd'.zeros_append zeros') rest'
  rw [he, he', List.append_assoc (List.replicate spaces ' '), List.append_assoc lead,
    List.append_assoc (List.replicate spaces' ' '), List.append_assoc lead'] at h
  exact ⟨zeros, zeros', (run_inj (space spaces) (space spaces') hstop hstop' h).2⟩

theorem mem_sign {negative : Bool} {c : Char} (hc : c ∈ style.sign negative) :
    c = '-' ∨ c = '+' := by
  unfold sign at hc
  split at hc
  · exact Or.inl (List.mem_singleton.mp hc)
  · split at hc
    · exact Or.inr (List.mem_singleton.mp hc)
    · cases hc

theorem not_isAlphanum_of_mem_sign {negative : Bool} {c : Char} (hc : c ∈ style.sign negative) :
    (!c.isAlphanum) = true := by
  rcases mem_sign hc with rfl | rfl <;> rfl

theorem sign_inj {negative negative' : Bool} (h : style.sign negative = style.sign negative') :
    negative = negative' := by
  cases hp : style.plus <;> cases negative <;> cases negative' <;> simp_all [sign]

end Style

end Planar.Text

namespace Planar.Integer.Format

open Text

variable (f : Format)

def lead (style : Style) (v : f.Val) : List Char :=
  match style.hex with
  | some _ => style.sign false ++ if style.alternate then ['0', 'x'] else []
  | none => style.sign (f.toInt v < 0)

def digits (style : Style) (v : f.Val) : List Char :=
  match style.hex with
  | some letters => f.hexadecimal letters v
  | none => Nat.toDigits 10 (f.toInt v).natAbs

theorem text_eq (style : Style) (v : f.Val) :
    f.text style v = style.padNumber (f.lead style v) (f.digits style v) := by
  unfold text lead digits
  cases style.hex <;> rfl

theorem mem_lead {style : Style} {v : f.Val} {c : Char} (hc : c ∈ f.lead style v) :
    c = '-' ∨ c = '+' ∨ c = '0' ∨ c = 'x' := by
  have hsign : ∀ negative, c ∈ style.sign negative → c = '-' ∨ c = '+' ∨ c = '0' ∨ c = 'x' := by
    intro negative h
    rcases Style.mem_sign h with h | h
    · exact Or.inl h
    · exact Or.inr (Or.inl h)
  unfold lead at hc
  split at hc
  · rcases List.mem_append.mp hc with hc | hc
    · exact hsign _ hc
    · split at hc
      · exact Or.inr (Or.inr (by simpa using hc))
      · cases hc
  · exact hsign _ hc

theorem mem_digits {style : Style} {v : f.Val} {c : Char} (hc : c ∈ f.digits style v) :
    ∃ d < 16, c = d.digitChar ∨ c = d.digitChar.toUpper := by
  unfold digits hexadecimal at hc
  split at hc
  · split at hc
    · obtain ⟨d, hd, h⟩ := exists_digit_of_mem (by decide) hc
      exact ⟨d, hd, Or.inl h⟩
    · obtain ⟨e, he, rfl⟩ := List.mem_map.mp hc
      obtain ⟨d, hd, rfl⟩ := exists_digit_of_mem (by decide) he
      exact ⟨d, hd, Or.inr rfl⟩
  · obtain ⟨d, hd, h⟩ := exists_digit_of_mem (by decide) hc
    exact ⟨d, by omega, Or.inl h⟩

theorem numeral_digits (style : Style) (v : f.Val) : Numeral (f.digits style v) := by
  have hdigit : ∀ d < 16,
      d.digitChar.isAlphanum = true ∧ d.digitChar.toUpper.isAlphanum = true := by decide
  constructor
  · unfold digits hexadecimal
    split
    · split
      · exact Nat.toDigits_ne_nil
      · exact fun h => Nat.toDigits_ne_nil (List.map_eq_nil_iff.mp h)
    · exact Nat.toDigits_ne_nil
  · intro c hc
    obtain ⟨d, hd, rfl | rfl⟩ := f.mem_digits hc
    · exact (hdigit d hd).1
    · exact (hdigit d hd).2

theorem hexadecimal_inj {letters : LetterCase} {v w : f.Val} {zeros zeros' : Nat}
    (h : List.replicate zeros '0' ++ f.hexadecimal letters v =
      List.replicate zeros' '0' ++ f.hexadecimal letters w) : v = w := by
  cases letters with
  | lower => exact BitVec.eq_of_toNat_eq (hexadecimal_inj_of_zeros h)
  | upper =>
    have hzero : Char.toLower '0' = '0' := by decide
    have hl := congrArg (List.map Char.toLower) h
    simp only [hexadecimal, List.map_append, List.map_replicate, hzero,
      toLower_toUpper_digits] at hl
    exact BitVec.eq_of_toNat_eq (hexadecimal_inj_of_zeros hl)

theorem separable_text (style : Style) : Separable fun v : f.Val => [f.text style v] := by
  intro v w rest rest' hr hr' h
  simp only [List.flatten_cons, List.flatten_nil, List.append_nil, text_eq] at h
  have hlead : ∀ v, ' ' ∉ f.lead style v := by
    intro v hmem
    rcases f.mem_lead hmem with h | h | h | h <;> exact absurd h (by decide)
  have hv := f.numeral_digits style v
  have hw := f.numeral_digits style w
  obtain ⟨zeros, zeros', h⟩ := Style.padNumber_cut (hlead v) (hlead w) hv hw h
  replace hv := hv.zeros_append zeros
  replace hw := hw.zeros_append zeros'
  cases hx : style.hex with
  | some letters =>
    -- The bits have no sign, so that both numbers have the same lead.
    simp only [lead, digits, hx] at h hv hw
    exact f.hexadecimal_inj (hv.cut hw hr hr' (List.append_cancel_left h))
  | none =>
    simp only [lead, digits, hx] at h hv hw
    obtain ⟨hsign, h⟩ := run_inj (fun _ => Style.not_isAlphanum_of_mem_sign)
      (fun _ => Style.not_isAlphanum_of_mem_sign) (hv.endsRun rest) (hw.endsRun rest') h
    have habs : (f.toInt v).natAbs = (f.toInt w).natAbs :=
      decimal_inj_of_zeros (hv.cut hw hr hr' h)
    have hneg : f.toInt v < 0 ↔ f.toInt w < 0 := by
      simpa only [decide_eq_decide] using Style.sign_inj hsign
    exact f.toInt_inj.mp (by omega)

def characters : List Char :=
  [' ', '+', '-', 'x', '0', '1', '2', '3', '4', '5', '6', '7', '8', '9',
    'a', 'b', 'c', 'd', 'e', 'f', 'A', 'B', 'C', 'D', 'E', 'F']

theorem mem_characters_of_mem_text {style : Style} {v : f.Val} {c : Char}
    (hc : c ∈ f.text style v) : c ∈ characters := by
  have hdigit : ∀ d < 16, d.digitChar ∈ characters ∧ d.digitChar.toUpper ∈ characters := by
    decide
  rw [text_eq] at hc
  rcases Style.mem_padNumber hc with rfl | rfl | hc | hc
  · decide
  · decide
  · rcases f.mem_lead hc with rfl | rfl | rfl | rfl <;> decide
  · obtain ⟨d, hd, rfl | rfl⟩ := f.mem_digits hc
    · exact (hdigit d hd).1
    · exact (hdigit d hd).2

theorem not_mem_flatten_text {c : Char} (hc : c ∉ characters) (style : Style) (v : f.Val) :
    c ∉ [f.text style v].flatten := by
  intro hmem
  rw [List.flatten_singleton] at hmem
  exact hc (f.mem_characters_of_mem_text hmem)

theorem text_ne_nil (style : Style) (v : f.Val) : f.text style v ≠ [] := by
  obtain ⟨spaces, zeros, he⟩ := style.padNumber_eq (f.lead style v) (f.digits style v)
  rw [text_eq, he]
  have hd := (f.numeral_digits style v).zeros_append zeros
  exact List.append_ne_nil_of_right_ne_nil _ (List.append_ne_nil_of_right_ne_nil _ hd.1)

end Planar.Integer.Format
