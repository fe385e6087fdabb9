import ChargePoint.Proofs.Outcome
import ChargePoint.Proofs.Time.Calendar
import ChargePoint.Time.Reader

/-!
# Stamps are read back

An instant in writing is read back as that instant, whatever zone of universal time it is written
with.  Each number is written in a fixed number of digits and ends either there or before a
character that is no digit, so a reader of digits finds exactly what was written; the date comes
back because the calendar is a count of days.

## Main definitions

* `Moment.NoDigit`: a text that does not begin with a digit.
* `Moment.UniversalZone`: the ways to write the offset of universal time.

## Main results

* `Moment.readDigits_append`: digits that were written are the digits that are read.
* `Moment.read_stamp`: the parts of a stamp.
* `Instant.read_stamp`, `Instant.read_wireText`, `Instant.read_plainText`: a stamp is read back.
-/

namespace ChargePoint

namespace Moment

/-! ### Digits -/

theorem isBlank_of_isDigit {c : Char} (h : c.isDigit = true) : isBlank c = false := by
  have bounds := isDigit_iff.1 h
  unfold isBlank
  simp only [Bool.or_eq_false_iff, Bool.and_eq_false_iff, decide_eq_false_iff_not,
    beq_eq_false_iff_ne]
  omega

theorem trimStart_cons {c : Char} {rest : List Char} (h : isBlank c = false) :
    trimStart (c :: rest) = c :: rest :=
  List.dropWhile_cons_of_neg (by rw [h]; exact Bool.false_ne_true)

/-- A text that does not begin with a digit. -/
def NoDigit (text : List Char) : Prop := ∀ c ∈ text.head?, c.isDigit = false

theorem NoDigit.take {text : List Char} (h : NoDigit text) (n : Nat) : NoDigit (text.take n) := by
  intro c head
  cases text with
  | nil => cases n <;> cases head
  | cons d rest =>
    cases n with
    | zero => cases head
    | succ n => exact h c head

theorem takeWhile_eq_nil {text : List Char} (h : NoDigit text) :
    text.takeWhile Char.isDigit = [] := by
  cases text with
  | nil => rfl
  | cons c rest => rw [List.takeWhile_cons, h c rfl, if_neg Bool.false_ne_true]

theorem dropWhile_eq_self {text : List Char} (h : NoDigit text) :
    text.dropWhile Char.isDigit = text := by
  cases text with
  | nil => rfl
  | cons c rest => rw [List.dropWhile_cons, h c rfl, if_neg Bool.false_ne_true]

/-- **Digits that were written are read**, if they fill the width or no digit follows. -/
theorem readDigits_append {width : Nat} {digits rest : List Char} (there : digits ≠ [])
    (all : ∀ c ∈ digits, c.isDigit = true) (short : digits.length ≤ width)
    (stop : digits.length = width ∨ NoDigit rest) :
    readDigits width (digits ++ rest) = .ok (digits, rest) := by
  have found : ((digits ++ rest).take width).takeWhile Char.isDigit = digits := by
    rw [List.take_append, List.take_of_length_le short, List.takeWhile_append_of_pos all]
    -- nothing of what follows is taken: there is no width left, or no digit comes next
    have none : (rest.take (width - digits.length)).takeWhile Char.isDigit = [] := by
      rcases stop with full | ended
      · rw [full, Nat.sub_self, List.take_zero, List.takeWhile_nil]
      · exact takeWhile_eq_nil (ended.take _)
    rw [none, List.append_nil]
  cases digits with
  | nil => exact absurd rfl there
  | cons c digits =>
    rw [List.cons_append] at found ⊢
    rw [readDigits, if_pos (all c List.mem_cons_self)]
    simp only [found]
    rw [← List.cons_append, List.drop_left]

theorem fixedDigits_ne_nil {width : Nat} (n : Nat) (h : 0 < width) : fixedDigits width n ≠ [] := by
  intro empty
  have size := length_fixedDigits width n
  rw [empty, List.length_nil] at size
  omega

/-- Digits are read up to the width, or up to what is no digit. -/
theorem readDigits_fixedDigits {width size n : Nat} {rest : List Char} (some : 0 < size)
    (short : size ≤ width) (stop : size = width ∨ NoDigit rest) :
    readDigits width (fixedDigits size n ++ rest) = .ok (fixedDigits size n, rest) := by
  refine readDigits_append (fixedDigits_ne_nil n some)
    (fun c member => isDigit_of_mem_fixedDigits member) ?_ ?_
  · rw [length_fixedDigits]
    exact short
  · rw [length_fixedDigits]
    exact stop

theorem isDigit_of_fixedDigits_eq_cons {width n : Nat} {c : Char} {rest tail : List Char}
    (some : 0 < width) (h : fixedDigits width n ++ rest = c :: tail) : c.isDigit = true := by
  cases digits : fixedDigits width n with
  | nil => exact absurd digits (fixedDigits_ne_nil n some)
  | cons d others =>
    rw [digits, List.cons_append] at h
    obtain ⟨rfl, -⟩ := List.cons.inj h
    have first : d ∈ fixedDigits width n := by
      rw [digits]
      exact List.mem_cons_self
    exact isDigit_of_mem_fixedDigits first

/-- Nothing is dropped before digits that are kept. -/
theorem dropWhile_fixedDigits {width n : Nat} {rest : List Char} {p : Char → Bool}
    (some : 0 < width) (h : ∀ c, c.isDigit = true → p c = false) :
    (fixedDigits width n ++ rest).dropWhile p = fixedDigits width n ++ rest := by
  cases text : fixedDigits width n ++ rest with
  | nil => rfl
  | cons c tail =>
    have digit := isDigit_of_fixedDigits_eq_cons some text
    exact List.dropWhile_cons_of_neg (by rw [h c digit]; exact Bool.false_ne_true)

theorem trimStart_fixedDigits {width n : Nat} {rest : List Char} (some : 0 < width) :
    trimStart (fixedDigits width n ++ rest) = fixedDigits width n ++ rest :=
  dropWhile_fixedDigits some fun _ => isBlank_of_isDigit

/-! ### The parts of a stamp -/

/-- A number of two digits is held against its bounds. -/
theorem readBounded_eq {least greatest n : Nat} {rest : List Char} (small : n < 10 ^ (2 : Nat)) :
    readBounded least greatest (fixedDigits 2 n ++ rest) =
      if least ≤ n ∧ n ≤ greatest then .ok (n, rest) else .error .outOfRange := by
  rw [readBounded, trimStart_fixedDigits (by decide),
    readDigits_fixedDigits (by decide) (by decide) (.inl rfl), ok_bind]
  dsimp only
  rw [digitsValue_fixedDigits small]
  rfl

/-- A number of two digits that keeps to its bounds. -/
theorem readBounded_fixedDigits {least greatest n : Nat} {rest : List Char} (above : least ≤ n)
    (below : n ≤ greatest) (small : n < 10 ^ (2 : Nat)) :
    readBounded least greatest (fixedDigits 2 n ++ rest) = .ok (n, rest) := by
  rw [readBounded_eq small, if_pos ⟨above, below⟩]

theorem readMark_cons {c : Char} {rest : List Char} (h : isBlank c = false) :
    readMark c (c :: rest) = .ok rest := by
  rw [readMark, trimStart_cons h]
  exact if_pos rfl

end Moment

namespace Instant

/-- The number of digits of a year: as many as its size takes, and at least four. -/
def yearWidth (size : Nat) : Nat :=
  if size < 10 ^ (4 : Nat) then 4 else if size < 10 ^ (5 : Nat) then 5 else 6

/-- The sign of a year: none for a year of four digits that is not below zero. -/
def yearSign (year : Int) : List Char :=
  if year < 0 then ['-'] else if year < 10 ^ (4 : Nat) then [] else ['+']

theorem yearText_eq (year : Int) :
    yearText year = yearSign year ++ fixedDigits (yearWidth year.natAbs) year.natAbs := by
  have digits : (if year.natAbs < 10 ^ (4 : Nat) then fixedDigits 4 year.natAbs
      else if year.natAbs < 10 ^ (5 : Nat) then fixedDigits 5 year.natAbs
      else fixedDigits 6 year.natAbs) = fixedDigits (yearWidth year.natAbs) year.natAbs := by
    unfold yearWidth
    split
    · rfl
    · split <;> rfl
  unfold yearText yearSign
  dsimp only
  rw [digits]
  split
  · rfl
  · split <;> rfl

/-- **The number of digits of a year** is the only one that its size takes. -/
theorem eq_yearWidth_iff {size width : Nat} (bound : size < 10 ^ (6 : Nat)) :
    width = yearWidth size ↔
      size < 10 ^ width ∧ (width = 4 ∨ 4 < width ∧ 10 ^ (width - 1) ≤ size) := by
  unfold yearWidth
  constructor
  · rintro rfl
    split
    · omega
    · split
      · omega
      · omega
  · rintro ⟨fits, rfl | ⟨wide, needed⟩⟩
    · rw [if_pos fits]
    · have short : width - 1 < 6 :=
        (Nat.pow_lt_pow_iff_right (by decide)).1 (Nat.lt_of_le_of_lt needed bound)
      obtain rfl | rfl : width = 5 ∨ width = 6 := by omega
      · rw [if_neg (by omega), if_pos fits]
      · rw [if_neg (by omega), if_neg (by omega)]

/-- The digits of a year are as many as it takes, and only four go without a sign. -/
theorem yearText_spec {year : Int} (bound : year.natAbs < 10 ^ (6 : Nat)) :
    ∃ size, 0 < size ∧ year.natAbs < 10 ^ size ∧
      (year < 0 ∧ yearText year = '-' :: fixedDigits size year.natAbs ∨
        0 ≤ year ∧ size = 4 ∧ yearText year = fixedDigits size year.natAbs ∨
        0 ≤ year ∧ yearText year = '+' :: fixedDigits size year.natAbs) := by
  obtain ⟨fits, width⟩ := (eq_yearWidth_iff bound).1 rfl
  refine ⟨yearWidth year.natAbs, by omega, fits, ?_⟩
  rw [yearText_eq, yearSign]
  by_cases before : year < 0
  · rw [if_pos before]
    exact .inl ⟨before, rfl⟩
  · rw [if_neg before]
    by_cases four : year < 10 ^ (4 : Nat)
    · rw [if_pos four]
      exact .inr (.inl ⟨by omega, if_pos (by omega), rfl⟩)
    · rw [if_neg four]
      exact .inr (.inr ⟨by omega, rfl⟩)

/-- A fraction has three, six or nine digits, the fewest that lose nothing. -/
theorem fractionText_spec {nano : Nat} (small : nano < 10 ^ (9 : Nat)) :
    nano = 0 ∧ fractionText nano = [] ∨
      ∃ size digits, (size = 3 ∨ size = 6 ∨ size = 9) ∧ digits < 10 ^ size ∧
        digits * 10 ^ (9 - size) = nano ∧ digits % 1000 ≠ 0 ∧
        fractionText nano = '.' :: fixedDigits size digits := by
  unfold fractionText
  by_cases zero : nano = 0
  · exact .inl ⟨zero, if_pos zero⟩
  · right
    rw [if_neg zero]
    by_cases milli : nano % 10 ^ (6 : Nat) = 0
    · exact ⟨3, nano / 10 ^ (6 : Nat), .inl rfl, by omega, by omega, by omega, if_pos milli⟩
    · rw [if_neg milli]
      by_cases micro : nano % 10 ^ (3 : Nat) = 0
      · exact ⟨6, nano / 10 ^ (3 : Nat), .inr (.inl rfl), by omega, by omega, by omega,
          if_pos micro⟩
      · exact ⟨9, nano, .inr (.inr rfl), small, by omega, micro, if_neg micro⟩

end Instant

namespace Moment

/-- A year behind a sign may have any number of digits, and is held against its bounds. -/
theorem readYear_signed {sign : Char} {digits rest : List Char} {year : Int}
    (known : sign = '-' ∨ sign = '+') (there : digits ≠ [])
    (all : ∀ c ∈ digits, c.isDigit = true) (stop : NoDigit rest)
    (value : (if sign = '-' then -(digitsValue 0 digits : Int) else digitsValue 0 digits) = year) :
    readYear (sign :: digits ++ rest) =
      if -(2 ^ (31 : Nat)) ≤ year ∧ year < 2 ^ (31 : Nat) then .ok (year, rest)
      else .error .outOfRange := by
  have found : readDigits (digits ++ rest).length (digits ++ rest) = .ok (digits, rest) := by
    refine readDigits_append there all ?_ (.inr stop)
    rw [List.length_append]
    exact Nat.le_add_right ..
  rw [readYear, List.cons_append]
  rcases known with rfl | rfl
  · rw [if_pos rfl] at value
    rw [trimStart_cons (by decide)]
    exact (bind_eq_of_eq_ok found).trans
      (bind_eq_of_eq_ok (congrArg (fun n => Except.ok (n, rest)) value))
  · rw [if_neg (by decide)] at value
    rw [trimStart_cons (by decide)]
    exact (bind_eq_of_eq_ok found).trans
      (bind_eq_of_eq_ok (congrArg (fun n => Except.ok (n, rest)) value))

/-- **The year of a stamp**, with the mark after it. -/
theorem readYear_yearText {year : Int} {rest : List Char} (bound : year.natAbs < 10 ^ (6 : Nat))
    (stop : NoDigit rest) : readYear (Instant.yearText year ++ rest) = .ok (year, rest) := by
  obtain ⟨size, some, small, shape⟩ := Instant.yearText_spec bound
  have inRange : -(2 ^ (31 : Nat)) ≤ year ∧ year < 2 ^ (31 : Nat) := by omega
  have written : digitsValue 0 (fixedDigits size year.natAbs) = year.natAbs :=
    digitsValue_fixedDigits small
  have signed {sign : Char} (known : sign = '-' ∨ sign = '+')
      (value : (if sign = '-' then -(year.natAbs : Int) else year.natAbs) = year) :
      readYear (sign :: fixedDigits size year.natAbs ++ rest) = .ok (year, rest) := by
    rw [← written] at value
    rw [readYear_signed known (fixedDigits_ne_nil _ some) (fun _ => isDigit_of_mem_fixedDigits) stop
      value, if_pos inRange]
  rcases shape with ⟨before, text⟩ | ⟨after, rfl, text⟩ | ⟨after, text⟩
  · rw [text]
    exact signed (.inl rfl) (by rw [if_pos rfl]; omega)
  · have value : Int.ofNat (digitsValue 0 (fixedDigits 4 year.natAbs)) = year := by
      rw [written]
      exact Int.natAbs_of_nonneg after
    have unsigned : readDigits 4 (fixedDigits 4 year.natAbs ++ rest) =
        .ok (fixedDigits 4 year.natAbs, rest) :=
      readDigits_fixedDigits some (Nat.le_refl _) (.inl rfl)
    rw [text, readYear, trimStart_fixedDigits some]
    split
    · rename_i sign
      exact absurd (isDigit_of_fixedDigits_eq_cons some sign) (by decide)
    · rename_i sign
      exact absurd (isDigit_of_fixedDigits_eq_cons some sign) (by decide)
    · exact bind_eq_ok_iff.2 ⟨_, unsigned, bind_eq_ok_iff.2
        ⟨(year, rest), congrArg (fun n => Except.ok (n, rest)) value, if_pos inRange⟩⟩
  · rw [text]
    exact signed (.inr rfl) (by rw [if_neg (by decide)]; omega)

/-- **The fraction of a stamp.** -/
theorem readFraction_fractionText {nano : Nat} {rest : List Char} (small : nano < 10 ^ (9 : Nat))
    (stop : NoDigit rest) (noPoint : rest.head? ≠ some '.') :
    readFraction (Instant.fractionText nano ++ rest) = .ok (nano, rest) := by
  rcases Instant.fractionText_spec small with
    ⟨rfl, text⟩ | ⟨size, digits, sizes, fits, value, -, text⟩
  · rw [text, List.nil_append]
    unfold readFraction
    split
    · exact absurd rfl noPoint
    · rfl
  · have found : readDigits 9 (fixedDigits size digits ++ rest) =
        .ok (fixedDigits size digits, rest) :=
      readDigits_fixedDigits (by omega) (by omega) (.inr stop)
    rw [text, List.cons_append, readFraction, found, ok_bind]
    dsimp only
    rw [digitsValue_fixedDigits fits, length_fixedDigits, value, dropWhile_eq_self stop]
    rfl

/-! ### Stamps -/

/-- **A way to write the offset of universal time**: read as no offset, and begun by no digit and no
point, so that it ends the fraction before it. -/
structure UniversalZone (zone : List Char) : Prop where
  offset : readOffset zone = .ok (0, [])
  noDigit : NoDigit zone
  noPoint : zone.head? ≠ some '.'

theorem universalZone_z : UniversalZone "Z".toList := by
  refine ⟨rfl, ?_, by decide⟩
  intro c head
  cases head
  rfl

theorem universalZone_plus : UniversalZone "+00:00".toList := by
  refine ⟨by rfl, ?_, by decide⟩
  intro c head
  cases head
  rfl

theorem noDigit_cons {c : Char} {rest : List Char} (h : c.isDigit = false) :
    NoDigit (c :: rest) := by
  intro d head
  cases head
  exact h

/-- **The date of a stamp.** -/
theorem readDate_dateText {date : Date} {rest : List Char} (valid : date.Valid)
    (bound : date.year.natAbs < 10 ^ (6 : Nat)) :
    readDate (Instant.dateText date ++ rest) = .ok (date, rest) := by
  obtain ⟨firstMonth, lastMonth, firstDay, lastDay⟩ := valid
  have shortMonth : date.day ≤ 31 := by
    unfold Date.daysInMonth at lastDay
    split at lastDay
    · split at lastDay <;> omega
    · split at lastDay <;> omega
  rw [Instant.dateText, List.append_assoc, List.append_assoc, List.cons_append, List.cons_append]
  rw [readDate, readYear_yearText bound (noDigit_cons (by decide)), ok_bind]
  dsimp only
  rw [readMark_cons (by decide), ok_bind,
    readBounded_fixedDigits firstMonth lastMonth (by omega), ok_bind]
  dsimp only
  rw [readMark_cons (by decide), ok_bind, readBounded_fixedDigits firstDay shortMonth (by omega),
    ok_bind]
  rfl

theorem readSeparator_cons (rest : List Char) : readSeparator ('T' :: rest) = .ok rest := by
  rw [readSeparator]
  exact if_pos (.inl rfl)

/-- **A text is read part by part**, each stopped by the mark after it, once that is so of its
fraction and its zone. -/
theorem read_parts {date : Date} {hour minute second nano : Nat} {offset : Int}
    {fraction zone : List Char} (valid : date.Valid) (year : date.year.natAbs < 10 ^ (6 : Nat))
    (inDay : hour ≤ 23 ∧ minute ≤ 59 ∧ second ≤ 60)
    (readFraction : readFraction (fraction ++ zone) = .ok (nano, zone))
    (readOffset : readOffset zone = .ok (offset, [])) :
    Moment.read (String.ofList (Instant.dateText date ++ 'T' :: fixedDigits 2 hour ++
      ':' :: fixedDigits 2 minute ++ ':' :: fixedDigits 2 second ++ fraction ++ zone)) =
        .ok { date, hour, minute, second, nano, offset } := by
  obtain ⟨hours, minutes, seconds⟩ := inDay
  rw [Moment.read, String.toList_ofList]
  simp only [List.append_assoc, List.cons_append]
  rw [readDate_dateText valid year, ok_bind]
  dsimp only
  rw [readSeparator_cons, ok_bind, readBounded_fixedDigits (Nat.zero_le _) hours (by omega),
    ok_bind]
  dsimp only
  rw [readMark_cons (by decide), ok_bind,
    readBounded_fixedDigits (Nat.zero_le _) minutes (by omega), ok_bind]
  dsimp only
  rw [readMark_cons (by decide), ok_bind,
    readBounded_fixedDigits (Nat.zero_le _) seconds (by omega), ok_bind]
  dsimp only
  rw [readFraction, ok_bind]
  dsimp only
  rw [readOffset, ok_bind]
  rfl

/-- **The parts of a stamp.**  The sixtieth second is that of a leap second. -/
theorem read_stamp {zone : String} (universal : UniversalZone zone.toList) (t : Instant) :
    Moment.read (t.stamp zone) = .ok
      { date := Date.ofDayNumber (t.second / 86400)
        hour := (t.second % 86400).toNat / 3600
        minute := (t.second % 86400).toNat / 60 % 60
        second := (t.second % 86400).toNat % 60 + if 10 ^ (9 : Nat) ≤ t.nano then 1 else 0
        nano := if 10 ^ (9 : Nat) ≤ t.nano then t.nano - 10 ^ (9 : Nat) else t.nano
        offset := 0 } := by
  have years := Date.year_ofDayNumber (n := t.second / 86400) (by have := t.inRange; omega)
    (by have := t.inRange; omega)
  have valid := Date.valid_ofDayNumber (t.second / 86400)
  have secondOfDay : (t.second % 86400).toNat < 86400 := by omega
  have inDay : (t.second % 86400).toNat / 3600 ≤ 23 ∧ (t.second % 86400).toNat / 60 % 60 ≤ 59 ∧
      (t.second % 86400).toNat % 60 + (if 10 ^ (9 : Nat) ≤ t.nano then 1 else 0) ≤ 60 := by
    refine ⟨by omega, by omega, ?_⟩
    split <;> omega
  have small :
      (if 10 ^ (9 : Nat) ≤ t.nano then t.nano - 10 ^ (9 : Nat) else t.nano) < 10 ^ (9 : Nat) := by
    have := t.subsecond
    split <;> omega
  have fraction := readFraction_fractionText small universal.noDigit universal.noPoint
  have parts := read_parts valid (by omega) inDay fraction universal.offset
  rw [Instant.stamp, Instant.clockText]
  simpa only [List.append_assoc, List.cons_append] using parts

end Moment

namespace Instant

/-- An instant is the instant of its two numbers. -/
theorem ofUnix?_self (t : Instant) : ofUnix? t.second t.nano = some t :=
  dif_pos ⟨t.inRange, t.subsecond⟩

/-- The seconds of a day from hours, minutes and seconds. -/
theorem clock_eq (n : Int) :
    86400 * (n / 86400) + ((3600 * ((n % 86400).toNat / 3600) +
      60 * ((n % 86400).toNat / 60 % 60) + (n % 86400).toNat % 60 : Nat) : Int) = n := by
  omega

/-- **A stamp is read back**, whatever way of writing universal time it has. -/
theorem read_stamp {zone : String} (universal : Moment.UniversalZone zone.toList) (t : Instant) :
    Instant.read (t.stamp zone) = .ok t := by
  have years := Date.year_ofDayNumber (n := t.second / 86400) (by have := t.inRange; omega)
    (by have := t.inRange; omega)
  have inYears : (decide (-262143 ≤ (Date.ofDayNumber (t.second / 86400)).year) &&
      decide ((Date.ofDayNumber (t.second / 86400)).year ≤ 262142)) = true := by
    rw [decide_eq_true years.1, decide_eq_true years.2]
    rfl
  have valid := Date.valid_ofDayNumber (t.second / 86400)
  have back := Date.dayNumber_ofDayNumber (t.second / 86400)
  have clock := clock_eq t.second
  rw [Instant.read, Moment.read_stamp universal t, ok_bind, Moment.toInstant]
  dsimp only
  rw [if_neg (not_not_intro ⟨inYears, valid⟩), if_neg (by decide), back]
  by_cases leap : 10 ^ (9 : Nat) ≤ t.nano
  · -- a leap second comes after the fifty-ninth, which it is counted with
    have last : (t.second % 86400).toNat % 60 = 59 := by
      have := t.subsecond
      omega
    rw [last] at clock
    simp only [if_pos leap, last]
    rw [if_pos trivial, if_pos trivial, Int.sub_zero, clock, Nat.sub_add_cancel leap,
      ofUnix?_self]
  · have earlier : ¬ (t.second % 86400).toNat % 60 + 0 = 60 := by omega
    simp only [if_neg leap]
    rw [if_neg earlier, if_neg earlier, Nat.add_zero, Nat.add_zero, Int.sub_zero, clock,
      ofUnix?_self]

/-- An instant is written alike for every zone, up to the zone. -/
theorem exists_stem (t : Instant) : ∃ stem, ∀ zone, t.stamp zone = stem ++ zone := by
  refine ⟨String.ofList (dateText (Date.ofDayNumber (t.second / 86400)) ++
    'T' :: clockText (t.second % 86400).toNat t.nano), fun zone => ?_⟩
  rw [stamp, String.ofList_append, String.ofList_toList]

/-- **An instant is read back from a payload.** -/
theorem read_wireText (t : Instant) : Instant.read t.wireText = .ok t :=
  read_stamp Moment.universalZone_z t

/-- **An instant is read back from a message to people.** -/
theorem read_plainText (t : Instant) : Instant.read t.plainText = .ok t :=
  read_stamp Moment.universalZone_plus t

end Instant

end ChargePoint
