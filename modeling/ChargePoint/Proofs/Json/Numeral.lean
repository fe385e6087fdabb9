import ChargePoint.Json.Numeral
import ChargePoint.Proofs.Time.Stamp

/-!
# Numerals in texts

A numeral is read up to the first character that cannot belong to it, so what follows is left as it
is and has no part in the number.  The digits of an integer are the plainest numeral, and it is read
as that integer.

## Main definitions

* `Takes`: what a stage of reading takes from a text, and what it leaves.
* `Numeral.Ends`: a text with which no numeral goes on.

## Main results

* `Numeral.read_append`: a numeral is read in the same way wherever it ends.
* `Whole.takes_text`: an integer is read from its digits.
-/

namespace ChargePoint

/-- **What a stage of reading takes from a text**, and what it leaves. -/
def Takes {α : Type} {p : List Char → Prop} (step : Except TextFault (α × { rest // p rest }))
    (found : α) (left : List Char) : Prop := ∃ after, step = .ok (found, after) ∧ after.1 = left

theorem Takes.eq_ok {α : Type} {p : List Char → Prop}
    {step : Except TextFault (α × { rest // p rest })} {found : α} {left : List Char}
    (h : Takes step found left) : ∃ short, step = .ok (found, ⟨left, short⟩) := by
  obtain ⟨⟨left, short⟩, h, rfl⟩ := h
  exact ⟨short, h⟩

namespace Numeral

/-- A character that a numeral may go on with. -/
def continues (c : Char) : Bool := c.isDigit || c == '.' || c == 'e' || c == 'E'

/-- **A text with which no numeral goes on.** -/
def Ends (text : List Char) : Prop := ∀ c ∈ text.head?, continues c = false

variable {text rest left : List Char}

theorem ends_nil : Ends [] := nofun

theorem ends_cons {c : Char} (h : continues c = false) (rest : List Char) : Ends (c :: rest) := by
  rintro d ⟨⟩
  exact h

theorem Ends.noDigit (h : Ends text) : Moment.NoDigit text := by
  intro c head
  have none := h c head
  simp only [continues, Bool.or_eq_false_iff] at none
  exact none.1.1.1

theorem Ends.head?_append (h : Ends rest) {c : Char} (may : continues c = true)
    (head : (text ++ rest).head? = some c) : text.head? = some c := by
  cases text with
  | nil =>
    cases (h c head).symm.trans may
  | cons d text => exact head

/-! ### What follows a numeral -/

theorem takeWhile_append (ends : Moment.NoDigit rest) :
    (text ++ rest).takeWhile Char.isDigit = text.takeWhile Char.isDigit := by
  induction text with
  | nil => exact Moment.takeWhile_eq_nil ends
  | cons c text ih => rw [List.cons_append, List.takeWhile_cons, List.takeWhile_cons, ih]

theorem dropWhile_append (ends : Moment.NoDigit rest) :
    (text ++ rest).dropWhile Char.isDigit = text.dropWhile Char.isDigit ++ rest := by
  induction text with
  | nil => exact Moment.dropWhile_eq_self ends
  | cons c text ih =>
    rw [List.cons_append, List.dropWhile_cons, List.dropWhile_cons, ih]
    split <;> rfl

theorem digits_append {found : List Char} {after : Rest text} (ends : Ends rest)
    (read : digits text = .ok (found, after)) :
    Takes (digits (text ++ rest)) found (after.1 ++ rest) := by
  cases text with
  | nil => cases read
  | cons c text =>
    rw [digits] at read
    split at read
    · rename_i digit
      cases read
      show Takes (digits (c :: (text ++ rest))) _ _
      rw [digits, if_pos digit, takeWhile_append ends.noDigit]
      exact ⟨_, rfl, dropWhile_append ends.noDigit⟩
    · cases read

theorem digit_of_digits {found : List Char × Rest text} (read : digits text = .ok found) :
    ∃ c rest, text = c :: rest ∧ c.isDigit = true := by
  unfold digits at read
  split at read
  · cases read
  · split at read
    · rename_i c rest digit
      exact ⟨c, rest, rfl, digit⟩
    · cases read

theorem wholeDigits_append {found : List Char} {after : Rest text} (ends : Ends rest)
    (read : wholeDigits text = .ok (found, after)) :
    Takes (wholeDigits (text ++ rest)) found (after.1 ++ rest) := by
  obtain ⟨⟨found', after'⟩, first, read⟩ := bind_eq_ok_iff.1 read
  obtain ⟨final, again, left⟩ := digits_append ends first
  dsimp only at read
  split at read
  · cases read
  · rename_i plain
    cases read
    refine ⟨final, ?_, left⟩
    rw [wholeDigits, again, ok_bind]
    exact if_neg plain

/-- Without a point there is no fraction. -/
theorem fractionDigits_eq_none (h : ∀ tail, text ≠ '.' :: tail) :
    fractionDigits text = .ok (none, ⟨text, Nat.le_refl _⟩) := by
  rw [fractionDigits]
  exact h

theorem fractionDigits_append {found : Option (List Char)}
    {after : { rest : List Char // rest.length ≤ text.length }} (ends : Ends rest)
    (read : fractionDigits text = .ok (found, after)) :
    Takes (fractionDigits (text ++ rest)) found (after.1 ++ rest) := by
  by_cases pointed : ∃ tail, text = '.' :: tail
  · obtain ⟨tail, rfl⟩ := pointed
    rw [fractionDigits] at read
    obtain ⟨⟨found, after⟩, inner, read⟩ := bind_eq_ok_iff.1 read
    obtain ⟨final, again, left⟩ := digits_append ends inner
    cases read
    show Takes (fractionDigits ('.' :: (tail ++ rest))) _ _
    rw [fractionDigits, again]
    exact ⟨_, rfl, left⟩
  · have plain (tail : List Char) : text ≠ '.' :: tail := fun same => pointed ⟨tail, same⟩
    rw [fractionDigits_eq_none plain] at read
    cases read
    refine ⟨_, fractionDigits_eq_none fun tail same => ?_, rfl⟩
    have head := ends.head?_append (by decide) (congrArg List.head? same)
    obtain ⟨tail, rfl⟩ := List.head?_eq_some_iff.1 head
    exact plain tail rfl

/-- Without its letter there is no exponent. -/
theorem exponentDigits_eq_none (h : ∀ c ∈ text.head?, ¬(c = 'e' ∨ c = 'E')) :
    exponentDigits text = .ok (none, ⟨text, Nat.le_refl _⟩) := by
  unfold exponentDigits
  cases text with
  | nil => rfl
  | cons c rest => exact if_neg (h c rfl)

/-- The three ways to write an exponent. -/
theorem takes_exponent {mark : Char} (marked : mark = 'e' ∨ mark = 'E') {found : List Char}
    (read : Takes (digits text) found left) :
    Takes (exponentDigits (mark :: '-' :: text)) (some (true, found)) left ∧
      Takes (exponentDigits (mark :: '+' :: text)) (some (false, found)) left ∧
      Takes (exponentDigits (mark :: text)) (some (false, found)) left := by
  obtain ⟨after, read, rfl⟩ := read
  have unsigned (c : Char) (sign : c.isDigit = false) (tail : List Char) (same : text = c :: tail) :
      False := by
    obtain ⟨d, rest, rfl, digit⟩ := digit_of_digits read
    obtain ⟨rfl, -⟩ := List.cons.inj same
    cases sign.symm.trans digit
  refine ⟨?_, ?_, ?_⟩
  · rw [exponentDigits, if_pos marked, read]
    exact ⟨_, rfl, rfl⟩
  · rw [exponentDigits, if_pos marked, read]
    exact ⟨_, rfl, rfl⟩
  · rw [exponentDigits, if_pos marked, read]
    · exact ⟨_, rfl, rfl⟩
    · exact unsigned '-' rfl
    · exact unsigned '+' rfl

theorem exponentDigits_append {found : Option (Bool × List Char)}
    {after : { rest : List Char // rest.length ≤ text.length }} (ends : Ends rest)
    (read : exponentDigits text = .ok (found, after)) :
    Takes (exponentDigits (text ++ rest)) found (after.1 ++ rest) := by
  unfold exponentDigits at read
  split at read
  · split at read
    · rename_i marked
      split at read
      · obtain ⟨⟨found, after⟩, inner, read⟩ := bind_eq_ok_iff.1 read
        cases read
        exact (takes_exponent marked (digits_append ends inner)).1
      · obtain ⟨⟨found, after⟩, inner, read⟩ := bind_eq_ok_iff.1 read
        cases read
        exact (takes_exponent marked (digits_append ends inner)).2.1
      · obtain ⟨⟨found, after⟩, inner, read⟩ := bind_eq_ok_iff.1 read
        cases read
        exact (takes_exponent marked (digits_append ends inner)).2.2
    · rename_i unmarked
      cases read
      refine ⟨_, exponentDigits_eq_none ?_, rfl⟩
      rintro c ⟨⟩
      exact unmarked
  · cases read
    refine ⟨_, exponentDigits_eq_none fun c head mark => ?_, rfl⟩
    have none := ends c head
    rcases mark with rfl | rfl <;> cases none

/-! ### Numerals -/

/-- The three parts of a numeral, one after the other. -/
theorem takes_unsigned {negative : Bool} {whole afterWhole afterFraction : List Char}
    {fraction : Option (List Char)} {exponent : Option (Bool × List Char)}
    (first : Takes (wholeDigits text) whole afterWhole)
    (second : Takes (fractionDigits afterWhole) fraction afterFraction)
    (third : Takes (exponentDigits afterFraction) exponent left) :
    Takes (readUnsigned negative text) ⟨negative, whole, fraction, exponent⟩ left := by
  obtain ⟨_, first, rfl⟩ := first
  obtain ⟨_, second, rfl⟩ := second
  obtain ⟨_, third, rfl⟩ := third
  rw [readUnsigned, first, ok_bind]
  dsimp only
  rw [second, ok_bind]
  dsimp only
  rw [third]
  exact ⟨_, rfl, rfl⟩

theorem readUnsigned_append {negative : Bool} {parts : Numeral} {after : Rest text}
    (ends : Ends rest) (read : readUnsigned negative text = .ok (parts, after)) :
    Takes (readUnsigned negative (text ++ rest)) parts (after.1 ++ rest) := by
  obtain ⟨⟨whole, afterWhole⟩, first, read⟩ := bind_eq_ok_iff.1 read
  obtain ⟨⟨fraction, afterFraction⟩, second, read⟩ := bind_eq_ok_iff.1 read
  obtain ⟨⟨exponent, afterExponent⟩, third, read⟩ := bind_eq_ok_iff.1 read
  cases read
  exact takes_unsigned (wholeDigits_append ends first) (fractionDigits_append ends second)
    (exponentDigits_append ends third)

theorem takes_negative {parts : Numeral} (h : Takes (readUnsigned true text) parts left) :
    Takes (Numeral.read ('-' :: text)) parts left := by
  obtain ⟨after, h, rfl⟩ := h
  rw [Numeral.read, h]
  exact ⟨_, rfl, rfl⟩

theorem digit_of_readUnsigned {negative : Bool} {found : Numeral × Rest text}
    (read : readUnsigned negative text = .ok found) :
    ∃ c rest, text = c :: rest ∧ c.isDigit = true := by
  obtain ⟨whole, first, -⟩ := bind_eq_ok_iff.1 read
  obtain ⟨digits, first, -⟩ := bind_eq_ok_iff.1 first
  exact digit_of_digits first

/-- A numeral whose first character is no sign has none. -/
theorem read_eq_readUnsigned (h : ∀ tail, text ≠ '-' :: tail) :
    Numeral.read text = readUnsigned false text := by
  rw [Numeral.read]
  exact h

theorem takes_positive {parts : Numeral} (h : Takes (readUnsigned false text) parts left) :
    Takes (Numeral.read text) parts left := by
  obtain ⟨after, read, -⟩ := id h
  obtain ⟨c, tail, rfl, digit⟩ := digit_of_readUnsigned read
  rw [read_eq_readUnsigned]
  · exact h
  · rintro tail ⟨⟩
    cases digit

/-- **A numeral is read in the same way wherever it ends.** -/
theorem read_append {parts : Numeral} {after : Rest text} (ends : Ends rest)
    (read : Numeral.read text = .ok (parts, after)) :
    Takes (Numeral.read (text ++ rest)) parts (after.1 ++ rest) := by
  by_cases signed : ∃ tail, text = '-' :: tail
  · obtain ⟨tail, rfl⟩ := signed
    rw [Numeral.read] at read
    obtain ⟨⟨parts, after⟩, inner, read⟩ := bind_eq_ok_iff.1 read
    cases read
    exact takes_negative (readUnsigned_append ends inner)
  · rw [read_eq_readUnsigned fun tail same => signed ⟨tail, same⟩] at read
    exact takes_positive (readUnsigned_append ends read)

/-- A numeral begins with a sign or a digit. -/
theorem opening_of_read {found : Numeral × Rest text} (read : Numeral.read text = .ok found) :
    ∃ c rest, text = c :: rest ∧ (decide (c = '-') || c.isDigit) = true := by
  by_cases signed : ∃ tail, text = '-' :: tail
  · obtain ⟨tail, rfl⟩ := signed
    exact ⟨'-', tail, rfl, rfl⟩
  · rw [read_eq_readUnsigned fun tail same => signed ⟨tail, same⟩] at read
    obtain ⟨c, tail, rfl, digit⟩ := digit_of_readUnsigned read
    exact ⟨c, tail, rfl, by rw [digit, Bool.or_true]⟩

/-! ### Integers -/

/-- Digits alone are a numeral, unless they begin with a zero that is not the only one. -/
theorem takes_digits {negative : Bool} {found : List Char} (some : found ≠ [])
    (all : ∀ c ∈ found, c.isDigit = true) (first : found.head? = .some '0' → found.length = 1)
    (ends : Ends rest) :
    Takes (readUnsigned negative (found ++ rest)) ⟨negative, found, none, none⟩ rest := by
  have run : Takes (digits (found ++ rest)) found rest := by
    cases found with
    | nil => exact absurd rfl some
    | cons c found =>
      obtain ⟨digit, others⟩ := List.forall_mem_cons.1 all
      show Takes (digits (c :: (found ++ rest))) _ _
      rw [digits, if_pos digit, List.takeWhile_append_of_pos others,
        Moment.takeWhile_eq_nil ends.noDigit, List.append_nil]
      refine ⟨_, rfl, ?_⟩
      dsimp only
      rw [List.dropWhile_append_of_pos others, Moment.dropWhile_eq_self ends.noDigit]
  have whole : Takes (wholeDigits (found ++ rest)) found rest := by
    obtain ⟨after, run, left⟩ := run
    refine ⟨after, ?_, left⟩
    rw [wholeDigits, run, ok_bind]
    refine if_neg ?_
    rintro ⟨zero, longer⟩
    rw [first zero] at longer
    exact Nat.lt_irrefl 1 longer
  refine takes_unsigned whole ⟨_, fractionDigits_eq_none ?_, rfl⟩
    ⟨_, exponentDigits_eq_none ?_, rfl⟩
  · rintro tail rfl
    cases ends '.' rfl
  · rintro c head mark
    have none := ends c head
    rcases mark with rfl | rfl <;> cases none

/-- Only zero is written with a zero in front. -/
theorem head?_toDigits_ne {n : Nat} (h : n ≠ 0) : (Nat.toDigits 10 n).head? ≠ some '0' := by
  induction n using Nat.strongRecOn with
  | ind n ih =>
    rw [Nat.toDigits_eq_if (by decide)]
    split
    · rename_i small
      have all : ∀ m < 10, m ≠ 0 → [Nat.digitChar m].head? ≠ some '0' := by decide
      exact all n small h
    · have leading := ih (n / 10) (by omega) (by omega)
      rw [List.head?_append]
      cases digits : (Nat.toDigits 10 (n / 10)).head? with
      | none => exact absurd (List.head?_eq_none_iff.1 digits) Nat.toDigits_ne_nil
      | some c =>
        rw [digits] at leading
        exact leading

theorem takes_toDigits {negative : Bool} (n : Nat) (ends : Ends rest) :
    Takes (readUnsigned negative (Nat.toDigits 10 n ++ rest))
      ⟨negative, Nat.toDigits 10 n, none, none⟩ rest := by
  refine takes_digits Nat.toDigits_ne_nil (fun c => ?_) (fun zero => ?_) ends
  · exact Nat.isDigit_of_mem_toDigits (by decide) (by decide)
  · have none : n = 0 := Decidable.byContradiction fun some => head?_toDigits_ne some zero
    rw [none]
    rfl

theorem digitsValue_toDigits (n : Nat) : digitsValue 0 (Nat.toDigits 10 n) = n :=
  Nat.ofDigitChars_ten_toDigits

/-- What digits alone are the numeral of, without a sign and with one. -/
theorem toWhole?_digits (found : List Char) :
    toWhole? ⟨false, found, none, none⟩ = Whole.ofInt? (Int.ofNat (digitsValue 0 found)) ∧
      (digitsValue 0 found ≠ 0 → toWhole? ⟨true, found, none, none⟩ =
        Whole.ofInt? (-Int.ofNat (digitsValue 0 found))) := by
  refine ⟨?_, fun some => ?_⟩
  · rw [toWhole?, if_neg Bool.false_ne_true]
  · rw [toWhole?, if_pos rfl]
    exact if_neg (mt Int.ofNat_eq_zero.1 some)

end Numeral

namespace Whole

theorem ofInt?_value (n : Whole) : ofInt? n.value = some n := dif_pos n.fits

/-- **An integer is read from its digits.** -/
theorem takes_text (n : Whole) {rest : List Char} (ends : Numeral.Ends rest) :
    ∃ parts, Takes (Numeral.read ((toString n.value).toList ++ rest)) parts rest ∧
      parts.toNumber? = some (.whole n) := by
  have back := ofInt?_value n
  rw [Int.toString_eq_repr, Int.repr_eq_if]
  by_cases positive : 0 ≤ n.value
  · have number := (Numeral.toWhole?_digits (Nat.toDigits 10 n.value.toNat)).1
    rw [Numeral.digitsValue_toDigits, Int.ofNat_eq_natCast, Int.toNat_of_nonneg positive, back]
      at number
    refine ⟨⟨false, Nat.toDigits 10 n.value.toNat, none, none⟩, ?_, ?_⟩
    · rw [if_pos positive, Nat.repr_eq_ofList_toDigits, String.toList_ofList]
      exact Numeral.takes_positive (Numeral.takes_toDigits _ ends)
    · rw [Numeral.toNumber?, number]
  · have number := (Numeral.toWhole?_digits (Nat.toDigits 10 (-n.value).toNat)).2
    rw [Numeral.digitsValue_toDigits, Int.ofNat_eq_natCast, Int.toNat_of_nonneg (by omega),
      Int.neg_neg, back] at number
    refine ⟨⟨true, Nat.toDigits 10 (-n.value).toNat, none, none⟩, ?_, ?_⟩
    · rw [if_neg positive, String.toList_append, Nat.repr_eq_ofList_toDigits, String.toList_ofList,
        String.toList_ofList, List.append_assoc, List.singleton_append]
      exact Numeral.takes_negative (Numeral.takes_toDigits _ ends)
    · rw [Numeral.toNumber?, number (by omega)]

end Whole

end ChargePoint
