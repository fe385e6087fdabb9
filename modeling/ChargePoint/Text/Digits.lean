import ChargePoint.Power

/-!
# Decimal digits

Numbers written in a fixed number of digits, and the number that digits write.

## Main definitions

* `digitValue`, `digitsValue`: what digits write.
* `fixedDigits`: the last digits of a number, in a given width.

## Main results

* `digitsValue_fixedDigits`: the digits of a number below the width's bound write it.
* `fixedDigits_digitsValue`: digits are those of the number that they write.
-/

namespace ChargePoint

/-- The value of a digit. -/
def digitValue (c : Char) : Nat := c.toNat - '0'.toNat

/-- The number that digits write, continuing one that has been read. -/
def digitsValue (start : Nat) (digits : List Char) : Nat :=
  digits.foldl (fun n c => 10 * n + digitValue c) start

/-- The last `width` digits of a number. -/
def fixedDigits : Nat → Nat → List Char
  | 0, _ => []
  | width + 1, n => fixedDigits width (n / 10) ++ [Nat.digitChar (n % 10)]

theorem digitValue_digitChar {n : Nat} (h : n < 10) : digitValue (Nat.digitChar n) = n := by
  have all : ∀ m < 10, digitValue (Nat.digitChar m) = m := by decide
  exact all n h

theorem isDigit_digitChar {n : Nat} (h : n < 10) : (Nat.digitChar n).isDigit = true := by
  have all : ∀ m < 10, (Nat.digitChar m).isDigit = true := by decide
  exact all n h

@[simp] theorem length_fixedDigits (width n : Nat) : (fixedDigits width n).length = width := by
  induction width generalizing n with
  | zero => rfl
  | succ width ih => simp [fixedDigits, ih]

theorem isDigit_of_mem_fixedDigits {width n : Nat} {c : Char} (h : c ∈ fixedDigits width n) :
    c.isDigit = true := by
  induction width generalizing n with
  | zero => simp [fixedDigits] at h
  | succ width ih =>
    rcases List.mem_append.1 h with h | h
    · exact ih h
    · rw [List.mem_singleton.1 h]
      exact isDigit_digitChar (Nat.mod_lt _ (by decide))

theorem digitsValue_append (start : Nat) (left right : List Char) :
    digitsValue start (left ++ right) = digitsValue (digitsValue start left) right := by
  simp [digitsValue]

/-- Digits that continue a number move it by as many places as they are. -/
theorem digitsValue_start (start : Nat) (digits : List Char) :
    digitsValue start digits = start * 10 ^ digits.length + digitsValue 0 digits := by
  -- on the digits: each moves those before it by one place
  induction digits generalizing start with
  | nil => simp [digitsValue]
  | cons c rest ih =>
    show digitsValue (10 * start + digitValue c) rest = _ + digitsValue (10 * 0 + digitValue c) rest
    rw [ih, ih (10 * 0 + digitValue c), List.length_cons, Nat.pow_succ, Nat.mul_zero,
      Nat.zero_add, Nat.add_mul, Nat.add_assoc, Nat.mul_comm 10, Nat.mul_assoc,
      Nat.mul_comm 10]

theorem digitsValue_fixedDigits {width n : Nat} (h : n < 10 ^ width) :
    digitsValue 0 (fixedDigits width n) = n := by
  induction width generalizing n with
  | zero => simpa [fixedDigits, digitsValue, eq_comm] using h
  | succ width ih =>
    rw [fixedDigits, digitsValue_append, ih (by rw [Nat.pow_succ] at h; omega)]
    simp only [digitsValue, List.foldl_cons, List.foldl_nil,
      digitValue_digitChar (Nat.mod_lt n (by decide : 0 < 10))]
    omega

theorem isDigit_iff {c : Char} : c.isDigit = true ↔ 48 ≤ c.toNat ∧ c.toNat ≤ 57 := by
  simp [Char.isDigit, UInt32.le_iff_toNat_le]

theorem digitChar_digitValue {c : Char} (h : c.isDigit = true) :
    digitValue c < 10 ∧ Nat.digitChar (digitValue c) = c := by
  obtain ⟨least, greatest⟩ := isDigit_iff.1 h
  have all : ∀ n ≤ 57, 48 ≤ n → n - 48 < 10 ∧ Nat.digitChar (n - 48) = Char.ofNat n := by decide
  have both := all c.toNat greatest least
  rwa [Char.ofNat_toNat] at both

/-- **Digits are those of the number that they write.** -/
theorem fixedDigits_digitsValue {width : Nat} {digits : List Char}
    (all : ∀ c ∈ digits, c.isDigit = true) (size : digits.length = width) :
    digitsValue 0 digits < 10 ^ width ∧ fixedDigits width (digitsValue 0 digits) = digits := by
  induction width generalizing digits with
  | zero =>
    obtain rfl := List.length_eq_zero_iff.1 size
    exact ⟨Nat.one_pos, rfl⟩
  | succ width ih =>
    obtain ⟨front, last, rfl⟩ : ∃ front last, digits = front ++ [last] := by
      have some : digits ≠ [] := List.ne_nil_of_length_eq_add_one size
      exact ⟨_, _, (List.dropLast_concat_getLast some).symm⟩
    obtain ⟨small, same⟩ := digitChar_digitValue (all last (by simp))
    have inFront : ∀ c ∈ front, c.isDigit = true := fun c member => all c (by simp [member])
    obtain ⟨bound, digits⟩ := ih inFront (by simpa using size)
    have value : digitsValue 0 (front ++ [last]) = 10 * digitsValue 0 front + digitValue last :=
      digitsValue_append ..
    rw [value, fixedDigits, Nat.pow_succ]
    refine ⟨by omega, ?_⟩
    rw [Nat.mul_add_div (by decide), Nat.div_eq_of_lt small, Nat.add_zero, digits,
      Nat.mul_add_mod, Nat.mod_eq_of_lt small, same]

end ChargePoint
