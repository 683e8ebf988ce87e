/-! Numbers in digits. Decimal numerals have one written form per number, and
the reader accepts a text exactly when writing its value gives the text back.
Hexadecimal numerals have a fixed count of lower case digits. -/

namespace Planar.Text

namespace Decimal

def write : Int → List Char
  | .ofNat n => Nat.toDigits 10 n
  | .negSucc n => '-' :: Nat.toDigits 10 (n + 1)

def value : List Char → Int
  | '-' :: digits => -(Nat.ofDigitChars 10 digits 0 : Int)
  | digits => (Nat.ofDigitChars 10 digits 0 : Int)

/-- Accepts no other form than the written one: no plus sign, no leading zeros. -/
def read? (text : List Char) : Option Int :=
  if write (value text) = text then some (value text) else none

theorem head_ne_minus (n : Nat) (rest : List Char) : Nat.toDigits 10 n ≠ '-' :: rest := by
  intro h
  have hd : ('-' : Char).isDigit = true :=
    Nat.isDigit_of_mem_toDigits (b := 10) (n := n) (by decide) (by decide)
      (h ▸ List.mem_cons_self)
  exact absurd hd (by decide)

@[simp] theorem value_write (i : Int) : value (write i) = i := by
  cases i with
  | ofNat n =>
    unfold value write
    split
    · next h => exact absurd h (head_ne_minus n _)
    · rw [Nat.ofDigitChars_ten_toDigits]
      rfl
  | negSucc n =>
    simp only [value, write, Nat.ofDigitChars_ten_toDigits]
    rfl

@[simp] theorem read?_write (i : Int) : read? (write i) = some i := by
  simp [read?]

theorem read?_eq_some_iff {text : List Char} {i : Int} : read? text = some i ↔ text = write i := by
  constructor
  · intro h
    unfold read? at h
    split at h
    · next hw => cases h; exact hw.symm
    · cases h
  · rintro rfl
    exact read?_write i

end Decimal

namespace Hexadecimal

def write (count n : Nat) : List Char := (Nat.toDigits 16 n).leftpad count '0'

def digitValue (c : Char) : Nat :=
  if c.isDigit then c.toNat - '0'.toNat else c.toNat - 'a'.toNat + 10

def value (digits : List Char) : Nat :=
  digits.foldl (fun n c => 16 * n + digitValue c) 0

def read? (count : Nat) (text : List Char) : Option Nat :=
  if value text < 1 <<< (4 * count) ∧ write count (value text) = text then some (value text)
  else none

theorem digitValue_digitChar : ∀ d < 16, digitValue d.digitChar = d := by decide

theorem value_append_digit (digits : List Char) (c : Char) :
    value (digits ++ [c]) = 16 * value digits + digitValue c := by
  simp [value]

@[simp] theorem value_toDigits (n : Nat) : value (Nat.toDigits 16 n) = n := by
  induction n using Nat.strongRecOn with
  | ind n ih =>
    by_cases h : n < 16
    · rw [Nat.toDigits_of_lt_base h]
      simp [value, digitValue_digitChar n h]
    · rw [Nat.toDigits_of_base_le (by decide) (Nat.le_of_not_lt h), value_append_digit,
        ih (n / 16) (by omega), digitValue_digitChar (n % 16) (by omega)]
      omega

@[simp] theorem value_write (count n : Nat) : value (write count n) = n := by
  have zeros (k : Nat) (digits : List Char) :
      value (List.replicate k '0' ++ digits) = value digits := by
    induction k with
    | zero => rfl
    | succ k ih => rw [← ih, List.replicate_succ]; rfl
  rw [write, List.leftpad, zeros, value_toDigits]

theorem read?_write {count n : Nat} (h : n < 1 <<< (4 * count)) :
    read? count (write count n) = some n := by
  rw [read?, value_write, if_pos ⟨h, rfl⟩]

end Hexadecimal

end Planar.Text
