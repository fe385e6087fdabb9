import ChargePoint.Proofs.Time.Stamp

/-!
# The canonical text of an instant

Many texts are read as one instant, with one offset or another and with more or fewer digits.  One
of them is in canonical form, and it is the one that is written in payloads.

That no other is rests on the digits: each part in canonical form is determined by the number that
is read from it, and the date by the day that it is.

## Main definitions

* `Instant.CanonicalYear`, `Instant.CanonicalFraction`, `Instant.Canonical`: the canonical form.
* `Moment.layout`: the text in canonical form that parts have.
* `Moment.Denotes`: the instant that parts denote, in days, seconds and nanoseconds.

## Main results

* `Moment.layout_of_read`: a text in canonical form is laid out like the parts read from it.
* `Moment.toInstant_eq_ok_iff`: parts are taken for the instant that they denote.
* `Instant.eq_wireText_iff`: the text of an instant is the only one in canonical form that is read
  as it.
-/

namespace ChargePoint

namespace Instant

/-! ### The canonical form -/

/-- A part in digits, of a width. -/
def IsNumber (width : Nat) (part : List Char) : Prop :=
  part.length = width ∧ ∀ c ∈ part, c.isDigit = true

/-- **A year in canonical form**: four digits, behind a minus before year zero; or as many more as
the number takes, behind a sign. -/
def CanonicalYear (text : List Char) : Prop :=
  ∃ width digits, IsNumber width digits ∧
    (width = 4 ∧ (text = digits ∨ text = '-' :: digits ∧ digitsValue 0 digits ≠ 0) ∨
      4 < width ∧ 10 ^ (width - 1) ≤ digitsValue 0 digits ∧
        (text = '-' :: digits ∨ text = '+' :: digits))

/-- **A fraction in canonical form**: none, or digits in threes, the last three of which are not all
zero. -/
def CanonicalFraction (text : List Char) : Prop :=
  text = [] ∨ ∃ width digits, IsNumber width digits ∧ text = '.' :: digits ∧
    (width = 3 ∨ width = 6 ∨ width = 9) ∧ digitsValue 0 digits % 1000 ≠ 0

/-- **The canonical form** of a written instant: in universal time, with two digits for each number
between the year and the fraction. -/
def Canonical (text : String) : Prop :=
  ∃ year month day hour minute second fraction,
    text.toList = year ++ '-' :: month ++ '-' :: day ++
      'T' :: hour ++ ':' :: minute ++ ':' :: second ++ fraction ++ ['Z'] ∧
    CanonicalYear year ∧
    (∀ part ∈ [month, day, hour, minute, second], IsNumber 2 part) ∧
    CanonicalFraction fraction

theorem isNumber_fixedDigits (width n : Nat) : IsNumber width (fixedDigits width n) :=
  ⟨length_fixedDigits .., fun _ => isDigit_of_mem_fixedDigits⟩

/-- Digits are those of a number. -/
theorem IsNumber.exists_eq {width : Nat} {part : List Char} (h : IsNumber width part) :
    ∃ n < 10 ^ width, part = fixedDigits width n := by
  obtain ⟨bound, same⟩ := fixedDigits_digitsValue h.2 h.1
  exact ⟨_, bound, same.symm⟩

/-! ### Years -/

theorem large_of_wide {size width : Nat} (wide : 4 < width) (needed : 10 ^ (width - 1) ≤ size) :
    10 ^ (4 : Nat) ≤ size :=
  Nat.le_trans (Nat.pow_le_pow_right (by decide) (by omega)) needed

/-- A year is written in canonical form. -/
theorem canonicalYear_yearText {year : Int} (bound : year.natAbs < 10 ^ (6 : Nat)) :
    CanonicalYear (yearText year) := by
  obtain ⟨fits, width⟩ := (eq_yearWidth_iff bound).1 rfl
  refine ⟨_, _, isNumber_fixedDigits (yearWidth year.natAbs) year.natAbs, ?_⟩
  rw [digitsValue_fixedDigits fits, yearText_eq]
  generalize fixedDigits _ _ = digits
  unfold yearSign
  rcases width with four | ⟨wide, needed⟩
  · rw [four] at fits
    by_cases before : year < 0
    · exact .inl ⟨four, .inr ⟨by rw [if_pos before]; rfl, by omega⟩⟩
    · exact .inl ⟨four, .inl (by rw [if_neg before, if_pos (by omega)]; rfl)⟩
  · have large := large_of_wide wide needed
    refine .inr ⟨wide, needed, ?_⟩
    by_cases before : year < 0
    · exact .inl (by rw [if_pos before]; rfl)
    · exact .inr (by rw [if_neg before, if_neg (by omega)]; rfl)

/-- **The year that a canonical text is read as** is written like that, unless it is out of bounds.
-/
theorem CanonicalYear.eq_yearText {text rest : List Char} (canonical : CanonicalYear text)
    (stop : Moment.NoDigit rest) {found : Moment.Found Int}
    (h : Moment.readYear (text ++ rest) = .ok found) :
    found.2 = rest ∧ (found.1.natAbs < 10 ^ (6 : Nat) → text = yearText found.1) := by
  obtain ⟨width, digits, ⟨size, all⟩, shape⟩ := canonical
  obtain ⟨fits, same⟩ := fixedDigits_digitsValue all size
  generalize value : digitsValue 0 digits = n at fits same shape
  have written {year : Int} (bound : year.natAbs < 10 ^ (6 : Nat)) (absolute : year.natAbs = n)
      (needed : width = 4 ∨ 4 < width ∧ 10 ^ (width - 1) ≤ n) :
      yearText year = yearSign year ++ digits := by
    have width := (eq_yearWidth_iff bound).2 (by rw [absolute]; exact ⟨fits, needed⟩)
    rw [yearText_eq, ← width, absolute, same]
  have signed {sign : Char} {year : Int} (known : sign = '-' ∨ sign = '+')
      (shape : text = sign :: digits) (needed : width = 4 ∨ 4 < width ∧ 10 ^ (width - 1) ≤ n)
      (sized : (if sign = '-' then -(n : Int) else n) = year) (behind : yearSign year = [sign]) :
      found.2 = rest ∧ (found.1.natAbs < 10 ^ (6 : Nat) → text = yearText found.1) := by
    have there : digits ≠ [] := List.ne_nil_of_length_pos (by omega)
    have absolute : year.natAbs = n := by
      rw [← sized]
      split <;> omega
    rw [← value] at sized
    rw [shape, Moment.readYear_signed known there all stop sized] at h
    split at h
    · cases h
      refine ⟨rfl, fun bound => ?_⟩
      rw [shape, written bound absolute needed, behind]
      rfl
    · cases h
  rcases shape with ⟨rfl, rfl | ⟨shape, some⟩⟩ | ⟨wide, needed, shape | shape⟩
  · have bound : (n : Int).natAbs < 10 ^ (6 : Nat) := by omega
    have year : yearText n = text := by
      rw [written bound (Int.natAbs_natCast n) (.inl rfl), yearSign, if_neg (by omega),
        if_pos (by omega)]
      rfl
    rw [← year, Moment.readYear_yearText bound stop] at h
    cases h
    exact ⟨rfl, fun _ => year.symm⟩
  · exact signed (.inl rfl) shape (.inl rfl) (if_pos rfl) (if_pos (by omega))
  · have large := large_of_wide wide needed
    exact signed (.inl rfl) shape (.inr ⟨wide, needed⟩) (if_pos rfl) (if_pos (by omega))
  · have large := large_of_wide wide needed
    refine signed (.inr rfl) shape (.inr ⟨wide, needed⟩) (if_neg (by decide)) ?_
    rw [yearSign, if_neg (by omega), if_neg (by omega)]

/-! ### Fractions -/

/-- A fraction is written in canonical form. -/
theorem canonicalFraction_fractionText {nano : Nat} (small : nano < 10 ^ (9 : Nat)) :
    CanonicalFraction (fractionText nano) := by
  rcases fractionText_spec small with ⟨-, text⟩ | ⟨size, digits, sizes, fits, -, needed, text⟩
  · exact .inl text
  · refine .inr ⟨size, _, isNumber_fixedDigits size digits, text, sizes, ?_⟩
    rwa [digitsValue_fixedDigits fits]

/-- A fraction in canonical form is that of some nanoseconds. -/
theorem CanonicalFraction.exists_eq {text : List Char} (canonical : CanonicalFraction text) :
    ∃ nano < 10 ^ (9 : Nat), text = fractionText nano := by
  rcases canonical with rfl | ⟨width, digits, ⟨size, all⟩, rfl, widths, needed⟩
  · exact ⟨0, by decide, rfl⟩
  · obtain ⟨fits, same⟩ := fixedDigits_digitsValue all size
    rw [← same]
    generalize digitsValue 0 digits = n at fits needed
    unfold fractionText
    rcases widths with rfl | rfl | rfl
    · refine ⟨n * 10 ^ (6 : Nat), by omega, ?_⟩
      rw [if_neg (by omega), if_pos (by omega), Nat.mul_div_cancel _ (by decide)]
    · refine ⟨n * 10 ^ (3 : Nat), by omega, ?_⟩
      rw [if_neg (by omega), if_neg (by omega), if_pos (by omega), Nat.mul_div_cancel _ (by decide)]
    · refine ⟨n, fits, ?_⟩
      rw [if_neg (by omega), if_neg (by omega), if_neg (by omega)]

end Instant

/-! ### Parts and their texts -/

namespace Moment

open Instant

/-- The text of parts in canonical form. -/
def layout (m : Moment) : List Char :=
  dateText m.date ++ 'T' :: fixedDigits 2 m.hour ++ ':' :: fixedDigits 2 m.minute ++
    ':' :: fixedDigits 2 m.second ++ fractionText m.nano ++ ['Z']

theorem readBounded_bind_eq_ok_iff {α : Type} {least greatest n : Nat} {rest : List Char}
    {f : Found Nat → Except TimeFault α} {a : α} (small : n < 10 ^ (2 : Nat)) :
    (readBounded least greatest (fixedDigits 2 n ++ rest) >>= f) = .ok a ↔
      (least ≤ n ∧ n ≤ greatest) ∧ f (n, rest) = .ok a := by
  rw [readBounded_eq small]
  split
  · rename_i within
    exact (and_iff_right within).symm
  · rename_i beyond
    constructor
    · intro h
      cases h
    · intro h
      exact absurd h.1 beyond

theorem canonical_layout {m : Moment} (year : m.date.year.natAbs < 10 ^ (6 : Nat))
    (nano : m.nano < 10 ^ (9 : Nat)) :
    Canonical (String.ofList m.layout) := by
  refine ⟨_, _, _, _, _, _, _, String.toList_ofList, canonicalYear_yearText year, ?_,
    canonicalFraction_fractionText nano⟩
  simp only [List.forall_mem_cons, List.not_mem_nil, false_implies, implies_true, and_true]
  exact ⟨isNumber_fixedDigits .., isNumber_fixedDigits .., isNumber_fixedDigits ..,
    isNumber_fixedDigits .., isNumber_fixedDigits ..⟩

/-- **A text in canonical form is laid out like the parts that are read from it.** -/
theorem layout_of_read {text : String} (canonical : Canonical text) {m : Moment}
    (read : Moment.read text = .ok m) (bound : m.date.year.natAbs < 10 ^ (6 : Nat)) :
    m.offset = 0 ∧ m.hour ≤ 23 ∧ m.minute ≤ 59 ∧ m.second ≤ 60 ∧ m.nano < 10 ^ (9 : Nat) ∧
      text.toList = m.layout := by
  obtain ⟨year, month, day, hour, minute, second, fraction, shape, hyear, numbers, hfraction⟩ :=
    canonical
  simp only [List.forall_mem_cons, List.not_mem_nil, false_implies, implies_true, and_true]
    at numbers
  obtain ⟨hmonth, hday, hhour, hminute, hsecond⟩ := numbers
  obtain ⟨month, smallMonth, rfl⟩ := hmonth.exists_eq
  obtain ⟨day, smallDay, rfl⟩ := hday.exists_eq
  obtain ⟨hour, smallHour, rfl⟩ := hhour.exists_eq
  obtain ⟨minute, smallMinute, rfl⟩ := hminute.exists_eq
  obtain ⟨second, smallSecond, rfl⟩ := hsecond.exists_eq
  obtain ⟨nano, smallNano, rfl⟩ := hfraction.exists_eq
  rw [Moment.read, shape] at read
  simp only [List.append_assoc, List.cons_append] at read
  obtain ⟨⟨date, _⟩, readDate, read⟩ := bind_eq_ok_iff.1 read
  obtain ⟨⟨y, _⟩, readYear, readDate⟩ := bind_eq_ok_iff.1 readDate
  obtain ⟨rfl, written⟩ := hyear.eq_yearText (noDigit_cons (by decide)) readYear
  dsimp only at readDate
  rw [readMark_cons (by decide), ok_bind, readBounded_bind_eq_ok_iff smallMonth] at readDate
  obtain ⟨-, readDate⟩ := readDate
  dsimp only at readDate
  rw [readMark_cons (by decide), ok_bind, readBounded_bind_eq_ok_iff smallDay] at readDate
  obtain ⟨-, made⟩ := readDate
  cases made
  dsimp only at read
  rw [readSeparator_cons, ok_bind, readBounded_bind_eq_ok_iff smallHour] at read
  obtain ⟨⟨-, hours⟩, read⟩ := read
  dsimp only at read
  rw [readMark_cons (by decide), ok_bind, readBounded_bind_eq_ok_iff smallMinute] at read
  obtain ⟨⟨-, minutes⟩, read⟩ := read
  dsimp only at read
  rw [readMark_cons (by decide), ok_bind, readBounded_bind_eq_ok_iff smallSecond] at read
  obtain ⟨⟨-, seconds⟩, read⟩ := read
  have zone : UniversalZone ['Z'] := universalZone_z
  dsimp only at read
  rw [readFraction_fractionText smallNano zone.noDigit zone.noPoint, ok_bind] at read
  dsimp only at read
  rw [zone.offset, ok_bind] at read
  cases read
  refine ⟨rfl, hours, minutes, seconds, smallNano, ?_⟩
  rw [shape, written bound, layout, dateText]

end Moment

/-! ### What parts denote -/

theorem Instant.ofUnix?_eq_some_iff {second : Int} {nano : Nat} {t : Instant} :
    ofUnix? second nano = some t ↔ t.second = second ∧ t.nano = nano := by
  constructor
  · intro h
    unfold ofUnix? at h
    split at h
    · cases h
      exact ⟨rfl, rfl⟩
    · cases h
  · rintro ⟨rfl, rfl⟩
    exact ofUnix?_self t

namespace Moment

open Instant

/-- **The instant that parts denote**: there is such a date, its days are counted from the beginning
of 1970, the offset is taken away, and the sixtieth second is the fifty-ninth with nanoseconds past
a thousand million. -/
structure Denotes (m : Moment) (t : Instant) : Prop where
  date : m.date.Valid
  second : t.second = 86400 * m.date.dayNumber +
    (3600 * m.hour + 60 * m.minute + if m.second = 60 then 59 else m.second : Nat) - m.offset
  nano : t.nano = m.nano + if m.second = 60 then 10 ^ (9 : Nat) else 0

/-- What a moment denotes is the instant of its seconds and nanoseconds, where there is one. -/
theorem denotes_iff {m : Moment} {t : Instant} (valid : m.date.Valid) :
    m.Denotes t ↔ ofUnix? (86400 * m.date.dayNumber +
        (3600 * m.hour + 60 * m.minute + if m.second = 60 then 59 else m.second : Nat) - m.offset)
      (m.nano + if m.second = 60 then 10 ^ (9 : Nat) else 0) = some t := by
  rw [ofUnix?_eq_some_iff]
  exact ⟨fun h => ⟨h.second, h.nano⟩, fun h => ⟨valid, h.1, h.2⟩⟩

/-- **Parts are taken for the instant that they denote**, if the year and the offset are within
bounds. -/
theorem toInstant_eq_ok_iff {m : Moment} {t : Instant} :
    m.toInstant = .ok t ↔
      (-262143 ≤ m.date.year ∧ m.date.year ≤ 262142) ∧ m.offset.natAbs < 86400 ∧ m.Denotes t := by
  have years : (decide (-262143 ≤ m.date.year) && decide (m.date.year ≤ 262142)) = true ↔
      -262143 ≤ m.date.year ∧ m.date.year ≤ 262142 := by
    rw [Bool.and_eq_true, decide_eq_true_iff, decide_eq_true_iff]
  rw [← years]
  unfold toInstant
  dsimp only
  split
  · rename_i undated
    exact ⟨nofun, fun h => absurd ⟨h.1, h.2.2.date⟩ undated⟩
  rename_i dated
  obtain ⟨inYears, valid⟩ := Decidable.not_not.1 dated
  rw [and_iff_right inYears]
  split
  · rename_i far
    exact ⟨nofun, fun h => absurd h.1 (Nat.not_lt.2 far)⟩
  rename_i near
  rw [and_iff_right (Nat.not_le.1 near), denotes_iff valid]
  split
  · rename_i found
    rw [found, Except.ok.injEq, Option.some.injEq]
  · rename_i none
    rw [none]
    exact ⟨nofun, nofun⟩

/-- **An instant is written as it is denoted**, by parts that are within bounds and in universal
time. -/
theorem wireText_eq_layout {m : Moment} {t : Instant} (denotes : m.Denotes t)
    (offset : m.offset = 0) (hour : m.hour ≤ 23) (minute : m.minute ≤ 59) (second : m.second ≤ 60)
    (nano : m.nano < 10 ^ (9 : Nat)) :
    t.wireText = String.ofList m.layout := by
  obtain ⟨valid, seconds, nanos⟩ := denotes
  have inDay :
      3600 * m.hour + 60 * m.minute + (if m.second = 60 then 59 else m.second) < 86400 := by
    split <;> omega
  generalize clock : 3600 * m.hour + 60 * m.minute + (if m.second = 60 then 59 else m.second) = n
    at seconds inDay
  have day : t.second / 86400 = m.date.dayNumber := by omega
  have ofDay : (t.second % 86400).toNat = n := by omega
  rw [wireText, stamp, day, Date.ofDayNumber_dayNumber valid, ofDay, layout]
  unfold clockText
  dsimp only
  by_cases leap : m.second = 60
  · rw [if_pos leap] at clock nanos
    rw [if_pos (by omega), if_pos (by omega), show n / 3600 = m.hour by omega,
      show n / 60 % 60 = m.minute by omega, show n % 60 + 1 = m.second by omega,
      show t.nano - 10 ^ (9 : Nat) = m.nano by omega]
    simp
  · rw [if_neg leap] at clock nanos
    rw [if_neg (by omega), if_neg (by omega), show n / 3600 = m.hour by omega,
      show n / 60 % 60 = m.minute by omega, show n % 60 + 0 = m.second by omega,
      show t.nano = m.nano by omega]
    simp

end Moment

/-! ### The canonical text -/

namespace Instant

/-- The text of an instant is in canonical form. -/
theorem canonical_wireText (t : Instant) : Canonical t.wireText := by
  have inDay : (t.second % 86400).toNat < 86400 := by omega
  have subsecond := t.subsecond
  have read := read_wireText t
  rw [Instant.read, wireText, Moment.read_stamp Moment.universalZone_z t, ok_bind] at read
  obtain ⟨years, -, denotes⟩ := Moment.toInstant_eq_ok_iff.1 read
  have nano :
      (if 10 ^ (9 : Nat) ≤ t.nano then t.nano - 10 ^ (9 : Nat) else t.nano) < 10 ^ (9 : Nat) := by
    split <;> omega
  have second :
      (t.second % 86400).toNat % 60 + (if 10 ^ (9 : Nat) ≤ t.nano then 1 else 0) ≤ 60 := by
    split <;> omega
  rw [Moment.wireText_eq_layout denotes rfl (by dsimp only; omega) (by dsimp only; omega) second
    nano]
  exact Moment.canonical_layout (by omega) nano

/-- **The text of an instant** is the only one in canonical form that is read as it. -/
theorem eq_wireText_iff {text : String} {t : Instant} :
    text = t.wireText ↔ Canonical text ∧ Instant.read text = .ok t := by
  constructor
  · rintro rfl
    exact ⟨canonical_wireText t, read_wireText t⟩
  · rintro ⟨canonical, h⟩
    obtain ⟨m, read, denotes⟩ := bind_eq_ok_iff.1 h
    obtain ⟨⟨least, greatest⟩, -, denotes⟩ := Moment.toInstant_eq_ok_iff.1 denotes
    obtain ⟨offset, hour, minute, second, nano, same⟩ :=
      Moment.layout_of_read canonical read (by omega)
    rw [Moment.wireText_eq_layout denotes offset hour minute second nano, ← same,
      String.ofList_toList]

end Instant

end ChargePoint
