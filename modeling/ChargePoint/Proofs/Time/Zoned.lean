import ChargePoint.Proofs.Time.Canonical

/-!
# Times in zones

A date and a time of day are commonly written with the offset of some zone and with as many digits
for the fraction of a second as there are.  Every such text is read, and as the instant that it
denotes: the offset is taken away, and what is finer than a nanosecond is cut off.

## Main definitions

* `Zoned`, `Zoned.text`: dates and times of day in zones, and their texts.
* `Zoned.moment`: the parts of such a text.

## Main results

* `Moment.readFraction_digits`: a fraction of any number of digits.
* `Zoned.read_text`, `Zoned.read_instant`: such a text is read as the instant that it denotes.
-/

namespace ChargePoint

namespace Moment

/-! ### Fractions -/

/-- Up to nine digits count in full. -/
theorem fraction_short {digits : List Char} (short : digits.length ≤ 9) :
    digitsValue 0 digits * 10 ^ (9 : Nat) / 10 ^ digits.length =
      digitsValue 0 digits * 10 ^ (9 - digits.length) := by
  have split : 10 ^ (9 : Nat) = 10 ^ (9 - digits.length) * 10 ^ digits.length := by
    rw [← Nat.pow_add, Nat.sub_add_cancel short]
  rw [split, ← Nat.mul_assoc, Nat.mul_div_cancel _ (Nat.pow_pos (by decide))]

/-- Of more than nine digits the first nine count. -/
theorem fraction_long {found later : List Char} (full : found.length = 9)
    (all : ∀ c ∈ later, c.isDigit = true) :
    digitsValue 0 (found ++ later) * 10 ^ (9 : Nat) / 10 ^ (found ++ later).length =
      digitsValue 0 found := by
  have cut := (fixedDigits_digitsValue all rfl).1
  rw [digitsValue_append, digitsValue_start, List.length_append, full, Nat.pow_add,
    Nat.mul_comm _ (10 ^ (9 : Nat)), Nat.mul_div_mul_left _ _ (by decide), Nat.mul_comm,
    Nat.mul_add_div (Nat.pow_pos (by decide)), Nat.div_eq_of_lt cut, Nat.add_zero]

/-- **A fraction may have any number of digits**: those after the ninth are cut off. -/
theorem readFraction_digits {digits rest : List Char} (there : digits ≠ [])
    (all : ∀ c ∈ digits, c.isDigit = true) (stop : NoDigit rest) :
    readFraction ('.' :: digits ++ rest) =
      .ok (digitsValue 0 digits * 10 ^ (9 : Nat) / 10 ^ digits.length, rest) := by
  rw [List.cons_append, readFraction]
  by_cases short : digits.length ≤ 9
  · rw [readDigits_append there all short (.inr stop), ok_bind]
    dsimp only
    rw [dropWhile_eq_self stop, fraction_short short]
    rfl
  · obtain ⟨found, later, rfl, full⟩ : ∃ found later, digits = found ++ later ∧ found.length = 9 :=
      ⟨digits.take 9, digits.drop 9, (List.take_append_drop ..).symm,
        List.length_take_of_le (Nat.le_of_not_le short)⟩
    obtain ⟨first, others⟩ := List.forall_mem_append.1 all
    have some : found ≠ [] := List.ne_nil_of_length_pos (by omega)
    rw [List.append_assoc, readDigits_append some first (Nat.le_of_eq full) (.inl full), ok_bind]
    dsimp only
    rw [List.dropWhile_append_of_pos others, dropWhile_eq_self stop, fraction_long full others,
      full, Nat.sub_self, Nat.pow_zero, Nat.mul_one]
    rfl

/-! ### Offsets -/

theorem readPair_fixedDigits {n : Nat} {rest : List Char} (small : n < 10 ^ (2 : Nat)) :
    readPair (fixedDigits 2 n ++ rest) = .ok ((n / 10, n % 10), rest) := by
  have tens : n / 10 % 10 < 10 := Nat.mod_lt _ (by decide)
  have units : n % 10 < 10 := Nat.mod_lt _ (by decide)
  show readPair (Nat.digitChar (n / 10 % 10) :: Nat.digitChar (n % 10) :: rest) = _
  rw [readPair, isDigit_digitChar tens, isDigit_digitChar units, digitValue_digitChar tens,
    digitValue_digitChar units, Nat.mod_eq_of_lt (by omega : n / 10 < 10)]
  rfl

/-- The size of an offset, in hours and minutes. -/
theorem readSize_fixedDigits {hours minutes : Nat} (h : hours < 10 ^ (2 : Nat)) (m : minutes < 60) :
    readSize (fixedDigits 2 hours ++ ':' :: fixedDigits 2 minutes) =
      .ok (3600 * hours + 60 * minutes, []) := by
  have mark : (':' :: fixedDigits 2 minutes).dropWhile (fun c => c = ':' || isBlank c) =
      fixedDigits 2 minutes := by
    rw [List.dropWhile_cons_of_pos (by decide), ← List.append_nil (fixedDigits 2 minutes)]
    refine dropWhile_fixedDigits (by decide) fun c digit => ?_
    rw [isBlank_of_isDigit digit, Bool.or_false, decide_eq_false_iff_not]
    rintro rfl
    exact absurd digit (by decide)
  have later : readPair (fixedDigits 2 minutes) = .ok ((minutes / 10, minutes % 10), []) := by
    rw [← List.append_nil (fixedDigits 2 minutes)]
    exact readPair_fixedDigits (by omega)
  rw [readSize, readPair_fixedDigits h, ok_bind]
  dsimp only
  rw [mark, later, ok_bind]
  dsimp only
  rw [if_neg (by omega), Nat.div_add_mod, Nat.div_add_mod, Nat.mul_comm, Nat.mul_comm minutes]
  rfl

/-- An offset from universal time, of a size ahead of it or behind. -/
def signedOffset (behind : Bool) (size : Nat) : Int := if behind then -size else size

/-- **An offset is read** from its sign, hours and minutes. -/
theorem readOffset_fixedDigits {behind : Bool} {hours minutes : Nat} (h : hours < 10 ^ (2 : Nat))
    (m : minutes < 60) :
    readOffset ((if behind then '-' else '+') :: fixedDigits 2 hours ++
        ':' :: fixedDigits 2 minutes) =
      .ok (signedOffset behind (3600 * hours + 60 * minutes), []) := by
  have size := readSize_fixedDigits h m
  cases behind with
  | true => exact bind_eq_ok_iff.2 ⟨_, size, rfl⟩
  | false => exact bind_eq_ok_iff.2 ⟨_, size, rfl⟩

end Moment

/-- **A date and a time of day in some zone**, as they are written in full: with any digits for the
fraction of a second, and the offset of the zone in hours and minutes. -/
structure Zoned where
  date : Date
  hour : Nat
  minute : Nat
  second : Nat
  fraction : List Char
  behind : Bool
  hours : Nat
  minutes : Nat
  valid : date.Valid
  inYears : -262143 ≤ date.year ∧ date.year ≤ 262142
  inDay : hour ≤ 23 ∧ minute ≤ 59 ∧ second ≤ 60
  digits : ∀ c ∈ fraction, c.isDigit = true
  inZone : hours ≤ 23 ∧ minutes ≤ 59

namespace Zoned

/-- The offset in writing: its sign, hours and minutes. -/
def zone (z : Zoned) : List Char :=
  (if z.behind then '-' else '+') :: fixedDigits 2 z.hours ++ ':' :: fixedDigits 2 z.minutes

/-- The text. -/
def text (z : Zoned) : String :=
  String.ofList (Instant.dateText z.date ++
    'T' :: fixedDigits 2 z.hour ++ ':' :: fixedDigits 2 z.minute ++ ':' :: fixedDigits 2 z.second ++
    (if z.fraction = [] then [] else '.' :: z.fraction) ++ z.zone)

/-- The parts that are read from the text. -/
def moment (z : Zoned) : Moment where
  date := z.date
  hour := z.hour
  minute := z.minute
  second := z.second
  nano := digitsValue 0 z.fraction * 10 ^ (9 : Nat) / 10 ^ z.fraction.length
  offset := Moment.signedOffset z.behind (3600 * z.hours + 60 * z.minutes)

/-- The offset ends the fraction before it: it begins with a sign. -/
theorem zone_ends (z : Zoned) : Moment.NoDigit z.zone ∧ z.zone.head? ≠ some '.' := by
  unfold zone
  split
  · exact ⟨Moment.noDigit_cons (by decide), by simp⟩
  · exact ⟨Moment.noDigit_cons (by decide), by simp⟩

/-- The fraction is read up to the offset, and is nothing where no digits are written. -/
theorem readFraction_eq (z : Zoned) :
    Moment.readFraction ((if z.fraction = [] then [] else '.' :: z.fraction) ++ z.zone) =
      .ok (z.moment.nano, z.zone) := by
  obtain ⟨stop, noPoint⟩ := z.zone_ends
  by_cases none : z.fraction = []
  · have zero : z.moment.nano = 0 := by
      rw [moment, none]
      rfl
    rw [if_pos none, zero, List.nil_append, Moment.readFraction]
    intro tail point
    rw [point] at noPoint
    exact noPoint rfl
  · rw [if_neg none]
    exact Moment.readFraction_digits none z.digits stop

/-- **The parts are read from the text.** -/
theorem read_text (z : Zoned) : Moment.read z.text = .ok z.moment := by
  have years := z.inYears
  obtain ⟨hours, minutes⟩ := z.inZone
  have offset : Moment.readOffset z.zone = .ok (z.moment.offset, []) :=
    Moment.readOffset_fixedDigits (by omega) (by omega)
  exact Moment.read_parts z.valid (by omega) z.inDay z.readFraction_eq offset

/-- **Such a text is read as the instant that it denotes.** -/
theorem read_instant {z : Zoned} {t : Instant} (denotes : z.moment.Denotes t) :
    Instant.read z.text = .ok t := by
  refine bind_eq_ok_iff.2 ⟨_, z.read_text, Moment.toInstant_eq_ok_iff.2 ⟨z.inYears, ?_, denotes⟩⟩
  have zone := z.inZone
  unfold moment Moment.signedOffset
  dsimp only
  split <;> omega

end Zoned

end ChargePoint
