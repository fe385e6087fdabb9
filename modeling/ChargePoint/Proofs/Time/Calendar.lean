import ChargePoint.Time.Calendar

/-!
# The calendar is a count of days

Every day number has a date, there is such a date, and its day number is the one it was found for.
Every date is found for its day number, and the date after it for the next.

A day of an era lies in one of four centuries, one of twenty-five leap cycles of that, and one of
four years of that; the last century of an era, the last cycle of a century and the last year of a
cycle are where the day over goes.

## Main definitions

* `Date.ofMarch`: the date of a day of a year that begins with March.
* `Date.next`: the next date.

## Main results

* `Date.yearOfEra_spec`: the century, the cycle, the year and the day of the year of a day.
* `Date.dayNumber_ofDayNumber`: the date of a day number has that day number.
* `Date.valid_ofDayNumber`: there is such a date.
* `Date.ofDayNumber_dayNumber`: a date is that of its day number.
* `Date.ofDayNumber_add_one`: the next day number is that of the next date.
-/

namespace ChargePoint

namespace Date

/-- **The place of a day in its era**: a day past the three hundred and sixty-fifth ends a leap
cycle, and if that cycle ends a century, the era. -/
theorem yearOfEra_spec {dayOfEra : Nat} (h : dayOfEra < 146097) :
    ∃ century cycle year day,
      yearOfEra dayOfEra = 100 * century + 4 * cycle + year ∧
      dayOfEra = 36524 * century + 1461 * cycle + 365 * year + day ∧
      century ≤ 3 ∧ cycle ≤ 24 ∧ year ≤ 3 ∧ day ≤ 365 ∧
      (day = 365 → year = 3 ∧ (cycle = 24 → century = 3)) := by
  simp only [yearOfEra]
  -- the last century of an era is a day longer than the others, hence the minimum
  generalize hc : min (dayOfEra / 36524) 3 = century
  obtain ⟨dayOfCentury, hd⟩ : ∃ d, dayOfEra = 36524 * century + d :=
    ⟨dayOfEra - 36524 * century, by omega⟩
  have inCentury : dayOfCentury ≤ 36524 ∧ (century < 3 → dayOfCentury < 36524) := by omega
  rw [show dayOfEra - 36524 * century = dayOfCentury by omega]
  generalize hk : dayOfCentury / 1461 = cycle
  obtain ⟨dayOfCycle, he⟩ : ∃ d, dayOfCentury = 1461 * cycle + d :=
    ⟨dayOfCentury - 1461 * cycle, by omega⟩
  have inCycle : dayOfCycle < 1461 := by omega
  rw [show dayOfCentury - 1461 * cycle = dayOfCycle by omega]
  generalize hy : min (dayOfCycle / 365) 3 = year
  obtain ⟨day, hf⟩ : ∃ d, dayOfCycle = 365 * year + d :=
    ⟨dayOfCycle - 365 * year, by omega⟩
  have inYear : day ≤ 365 ∧ (year < 3 → day < 365) := by omega
  refine ⟨century, cycle, year, day, rfl, ?_, ?_, ?_, ?_, inYear.1, ?_⟩
  · omega
  · omega
  · omega
  · omega
  · intro extra
    exact ⟨by omega, by omega⟩

/-! ### Years and months -/

theorem daysBeforeYear_place {era : Int} {century cycle year : Nat} (hc : century ≤ 3)
    (hk : cycle ≤ 24) (hy : year ≤ 3) :
    daysBeforeYear (400 * era + (100 * century + 4 * cycle + year)) =
      146097 * era + (36524 * century + 1461 * cycle + 365 * year) := by
  unfold daysBeforeYear
  have quarters : (400 * era + (100 * century + 4 * cycle + year)) / 4 =
      100 * era + (25 * century + cycle) := by omega
  have hundredths : (400 * era + (100 * century + 4 * cycle + year)) / 100 =
      4 * era + century := by omega
  have eras : (400 * era + (100 * century + 4 * cycle + year)) / 400 = era := by omega
  rw [quarters, hundredths, eras]
  omega

/-- A fourth year is a leap year, but of the hundredth only every fourth. -/
theorem isLeap_iff {year : Int} :
    isLeap year = true ↔ year % 4 = 0 ∧ (year % 100 ≠ 0 ∨ year % 400 = 0) := by
  simp [isLeap]

/-- The year that a leap cycle ends with has a leap day, unless the cycle ends a century that does
not end the era. -/
theorem isLeap_place {era : Int} {century cycle : Nat} (hk : cycle ≤ 24)
    (last : cycle = 24 → century = 3) :
    isLeap (400 * era + (100 * century + 4 * cycle + 3) + 1) = true :=
  isLeap_iff.2 ⟨by omega, by omega⟩

/-- A year that begins with March is as long as the next February makes it. -/
theorem daysBeforeYear_succ (year : Int) :
    daysBeforeYear (year + 1) =
      daysBeforeYear year + daysBeforeMonth 11 + daysInMonth (year + 1) 2 := by
  show _ = daysBeforeYear year + 337 + ((if isLeap (year + 1) then 29 else 28 : Nat) : Int)
  unfold daysBeforeYear
  by_cases leap : isLeap (year + 1) = true
  · rw [if_pos leap]
    have := isLeap_iff.1 leap
    omega
  · rw [if_neg leap]
    have := mt isLeap_iff.2 leap
    omega

theorem daysBeforeYear_mono {year year' : Int} (h : year ≤ year') :
    daysBeforeYear year ≤ daysBeforeYear year' := by
  unfold daysBeforeYear
  omega

theorem daysBeforeMonth_mono {month month' : Nat} (h : month ≤ month') :
    daysBeforeMonth month ≤ daysBeforeMonth month' := by
  unfold daysBeforeMonth
  omega

/-- The month of a day of the year that begins with March, and the day of the month. -/
theorem marchMonth_spec {day : Nat} (h : day ≤ 365) :
    (5 * day + 2) / 153 ≤ 11 ∧ daysBeforeMonth ((5 * day + 2) / 153) ≤ day ∧
      ((5 * day + 2) / 153 < 11 → day < daysBeforeMonth ((5 * day + 2) / 153 + 1)) := by
  unfold daysBeforeMonth
  omega

/-- The date with a year that begins with March, a month of it counted from March, and a day. -/
def ofMarch (marchYear : Int) (marchMonth day : Nat) : Date where
  year := if 10 ≤ marchMonth then marchYear + 1 else marchYear
  month := if 10 ≤ marchMonth then marchMonth - 9 else marchMonth + 3
  day := day

theorem marchYear_ofMarch {marchYear : Int} {marchMonth day : Nat} (h : marchMonth ≤ 11) :
    (ofMarch marchYear marchMonth day).marchYear = marchYear := by
  unfold Date.marchYear ofMarch
  dsimp only
  by_cases winter : 10 ≤ marchMonth
  · rw [if_pos winter, if_pos winter, if_pos (by omega), Int.add_sub_cancel]
  · rw [if_neg winter, if_neg winter, if_neg (by omega)]

theorem marchMonth_ofMarch {marchYear : Int} {marchMonth day : Nat} (h : marchMonth ≤ 11) :
    (ofMarch marchYear marchMonth day).marchMonth = marchMonth := by
  unfold Date.marchMonth ofMarch
  dsimp only
  by_cases winter : 10 ≤ marchMonth
  · rw [if_pos winter, if_pos (by omega)]
    omega
  · rw [if_neg winter, if_neg (by omega), Nat.add_sub_cancel]

theorem dayNumber_ofMarch {marchYear : Int} {marchMonth day : Nat} (h : marchMonth ≤ 11) :
    (ofMarch marchYear marchMonth day).dayNumber =
      daysBeforeYear marchYear + daysBeforeMonth marchMonth + day - 719469 := by
  rw [dayNumber, marchYear_ofMarch h, marchMonth_ofMarch h]
  rfl

/-- A day of a month of the year that begins with March: there is such a date if the month has the
day, and its last month has a twenty-ninth day in leap years. -/
theorem valid_ofMarch {marchYear : Int} {marchMonth day : Nat} (h : marchMonth ≤ 11)
    (first : 1 ≤ day) (inMonth : marchMonth < 11 → daysBeforeMonth marchMonth + day ≤
      daysBeforeMonth (marchMonth + 1))
    (inLast : marchMonth = 11 → day ≤ 29 ∧ (day = 29 → isLeap (marchYear + 1) = true)) :
    (ofMarch marchYear marchMonth day).Valid := by
  unfold daysBeforeMonth at inMonth
  unfold Valid ofMarch daysInMonth
  dsimp only
  by_cases winter : 10 ≤ marchMonth
  · rw [if_pos winter, if_pos winter]
    refine ⟨by omega, by omega, first, ?_⟩
    by_cases last : marchMonth = 11
    · obtain ⟨short, leap⟩ := inLast last
      rw [if_pos (by omega)]
      split
      · exact short
      · rename_i common
        have other : day ≠ 29 := fun same => common (leap same)
        omega
    · rw [if_neg (by omega), if_neg (by omega)]
      omega
  · rw [if_neg winter, if_neg winter]
    refine ⟨by omega, by omega, first, ?_⟩
    rw [if_neg (by omega)]
    split
    · omega
    · omega

/-- **The parts of a date**, from the era and the place in it. -/
theorem ofDayNumber_spec (n : Int) :
    ∃ era : Int, ∃ century cycle year day : Nat,
      n + 719468 = 146097 * era + (36524 * century + 1461 * cycle + 365 * year + day) ∧
      century ≤ 3 ∧ cycle ≤ 24 ∧ year ≤ 3 ∧ day ≤ 365 ∧
      (day = 365 → year = 3 ∧ (cycle = 24 → century = 3)) ∧
      ofDayNumber n = ofMarch (400 * era + (100 * century + 4 * cycle + year))
        ((5 * day + 2) / 153) (day - daysBeforeMonth ((5 * day + 2) / 153) + 1) := by
  have inEra : ((n + 719468) % 146097).toNat < 146097 := by omega
  obtain ⟨century, cycle, year, day, hyear, hday, hc, hk, hy, hd, last⟩ := yearOfEra_spec inEra
  refine ⟨(n + 719468) / 146097, century, cycle, year, day, by omega, hc, hk, hy, hd, last, ?_⟩
  -- the leap days before the year: one for each cycle, less one for each century
  have quarters : (100 * century + 4 * cycle + year) / 4 = 25 * century + cycle := by omega
  have hundredths : (100 * century + 4 * cycle + year) / 100 = century := by omega
  have dayOfYear : ((n + 719468) % 146097).toNat -
      (365 * (100 * century + 4 * cycle + year) + (100 * century + 4 * cycle + year) / 4 -
        (100 * century + 4 * cycle + year) / 100) = day := by
    rw [quarters, hundredths]
    omega
  unfold ofDayNumber
  dsimp only
  rw [hyear, dayOfYear]
  rfl

/-! ### Dates and day numbers -/

/-- **The date of a day number has that day number.** -/
theorem dayNumber_ofDayNumber (n : Int) : (ofDayNumber n).dayNumber = n := by
  obtain ⟨era, century, cycle, year, day, place, hc, hk, hy, hd, -, parts⟩ := ofDayNumber_spec n
  obtain ⟨months, before, -⟩ := marchMonth_spec hd
  rw [parts, dayNumber_ofMarch months, daysBeforeYear_place hc hk hy]
  omega

/-- **There is such a date.** -/
theorem valid_ofDayNumber (n : Int) : (ofDayNumber n).Valid := by
  obtain ⟨era, century, cycle, year, day, place, hc, hk, hy, hd, extra, parts⟩ := ofDayNumber_spec n
  obtain ⟨months, before, inMonth⟩ := marchMonth_spec hd
  rw [parts]
  refine valid_ofMarch months (by omega) (fun earlier => ?_) (fun last => ?_)
  · have := inMonth earlier
    omega
  · have before : daysBeforeMonth ((5 * day + 2) / 153) = 337 := by
      rw [last]
      rfl
    refine ⟨by omega, fun leapDay => ?_⟩
    obtain ⟨rfl, ends⟩ := extra (by omega)
    exact isLeap_place hk ends

/-- **The months of a year that begins with March**: the last is February, and the others are of one
length in every year. -/
theorem daysInMonth_eq {date : Date} (least : 1 ≤ date.month) (greatest : date.month ≤ 12) :
    date.marchMonth = 11 ∧ daysInMonth date.year date.month = daysInMonth (date.marchYear + 1) 2 ∨
      date.marchMonth < 11 ∧ daysBeforeMonth date.marchMonth + daysInMonth date.year date.month =
        daysBeforeMonth (date.marchMonth + 1) := by
  obtain ⟨year, month, day⟩ := date
  by_cases february : month = 2
  · subst february
    refine .inl ⟨rfl, ?_⟩
    show daysInMonth year 2 = daysInMonth (year - 1 + 1) 2
    rw [Int.sub_add_cancel]
  · have lengths : ∀ m ≤ 12, 1 ≤ m → m ≠ 2 → (if m ≤ 2 then m + 9 else m - 3) < 11 ∧
        daysBeforeMonth (if m ≤ 2 then m + 9 else m - 3) +
            (if m = 4 ∨ m = 6 ∨ m = 9 ∨ m = 11 then 30 else 31) =
          daysBeforeMonth ((if m ≤ 2 then m + 9 else m - 3) + 1) := by
      decide
    right
    unfold marchMonth daysInMonth
    rw [if_neg february]
    exact lengths month greatest least february

/-- **The place of a date** in its year that begins with March. -/
theorem Valid.place {date : Date} (valid : date.Valid) :
    date.marchMonth ≤ 11 ∧
      (date.marchMonth < 11 →
        daysBeforeMonth date.marchMonth + date.day ≤ daysBeforeMonth (date.marchMonth + 1)) ∧
      daysBeforeYear date.marchYear + daysBeforeMonth date.marchMonth + date.day ≤
        daysBeforeYear (date.marchYear + 1) := by
  obtain ⟨least, greatest, -, last⟩ := valid
  have year := daysBeforeYear_succ date.marchYear
  rcases daysInMonth_eq least greatest with ⟨february, size⟩ | ⟨earlier, size⟩
  · rw [february]
    exact ⟨Nat.le_refl _, by omega, by omega⟩
  · have before : daysBeforeMonth (date.marchMonth + 1) ≤ daysBeforeMonth 11 :=
      daysBeforeMonth_mono earlier
    exact ⟨by omega, by omega, by omega⟩

/-- A date is determined by its place. -/
theorem Valid.ofMarch_eq {date : Date} (valid : date.Valid) :
    ofMarch date.marchYear date.marchMonth date.day = date := by
  obtain ⟨year, month, day⟩ := date
  obtain ⟨least, greatest, -⟩ := valid
  unfold ofMarch marchYear marchMonth
  dsimp only at *
  by_cases winter : month ≤ 2
  · rw [if_pos winter, if_pos winter, if_pos (by omega), if_pos (by omega), Int.sub_add_cancel,
      Nat.add_sub_cancel]
  · rw [if_neg winter, if_neg winter, if_neg (by omega), if_neg (by omega),
      Nat.sub_add_cancel (by omega)]

/-- **No two dates have one day number.** -/
theorem eq_of_dayNumber_eq {date other : Date} (valid : date.Valid) (valid' : other.Valid)
    (same : date.dayNumber = other.dayNumber) : date = other := by
  unfold dayNumber at same
  obtain ⟨months, inMonth, inYear⟩ := valid.place
  obtain ⟨months', inMonth', inYear'⟩ := valid'.place
  have first := valid.2.2.1
  have first' := valid'.2.2.1
  have year : date.marchYear = other.marchYear := by
    rcases Int.lt_trichotomy date.marchYear other.marchYear with less | same | greater
    · have := daysBeforeYear_mono (Int.add_one_le_of_lt less)
      omega
    · exact same
    · have := daysBeforeYear_mono (Int.add_one_le_of_lt greater)
      omega
  rw [year] at same
  have month : date.marchMonth = other.marchMonth := by
    rcases Nat.lt_trichotomy date.marchMonth other.marchMonth with less | same | greater
    · have := daysBeforeMonth_mono (Nat.add_one_le_of_lt less)
      have := inMonth (by omega)
      omega
    · exact same
    · have := daysBeforeMonth_mono (Nat.add_one_le_of_lt greater)
      have := inMonth' (by omega)
      omega
  rw [month] at same
  have day : date.day = other.day := by omega
  rw [← valid.ofMarch_eq, ← valid'.ofMarch_eq, year, month, day]

/-- **The date of a date's day number is that date.** -/
theorem ofDayNumber_dayNumber {date : Date} (valid : date.Valid) :
    ofDayNumber date.dayNumber = date :=
  eq_of_dayNumber_eq (valid_ofDayNumber _) valid (dayNumber_ofDayNumber _)

/-- **The years of instants**: the days from the first of January of year `-262143` to the last of
December of year `262142`. -/
theorem year_ofDayNumber {n : Int} (least : -96465292 ≤ n) (greatest : n ≤ 95026236) :
    -262143 ≤ (ofDayNumber n).year ∧ (ofDayNumber n).year ≤ 262142 := by
  obtain ⟨era, century, cycle, year, day, place, hc, hk, hy, hd, -, parts⟩ := ofDayNumber_spec n
  rw [parts]
  unfold ofMarch
  dsimp only
  -- both bounds fall inside a year that begins with March: place by place down to that year
  have lastEra : era ≤ 655 := by omega
  have lastCentury : era = 655 → century ≤ 1 := by omega
  have lastCycle : era = 655 → century = 1 → cycle ≤ 10 := by omega
  have lastYear : era = 655 → century = 1 → cycle = 10 → year ≤ 2 := by omega
  split
  · omega
  · omega

/-! ### The next date -/

/-- The first day of the month after that of a date. -/
def monthAfter (date : Date) : Date :=
  if date.month < 12 then ⟨date.year, date.month + 1, 1⟩ else ⟨date.year + 1, 1, 1⟩

/-- The next date. -/
def next (date : Date) : Date :=
  if date.day < daysInMonth date.year date.month then { date with day := date.day + 1 }
  else date.monthAfter

/-- The month after is that of the next year, or the next of the year, counted from March. -/
theorem monthAfter_eq {date : Date} (least : 1 ≤ date.month) (greatest : date.month ≤ 12) :
    date.marchMonth = 11 ∧ date.monthAfter = ofMarch (date.marchYear + 1) 0 1 ∨
      date.marchMonth < 11 ∧ date.monthAfter = ofMarch date.marchYear (date.marchMonth + 1) 1 := by
  obtain ⟨year, month, day⟩ := date
  have months : month = 1 ∨ month = 2 ∨ 3 ≤ month ∧ month < 12 ∨ month = 12 := by
    dsimp only at least greatest
    omega
  unfold monthAfter marchYear marchMonth ofMarch
  rcases months with rfl | rfl | ⟨spring, winter⟩ | rfl
  · simp
  · simp
  · right
    dsimp only
    grind
  · simp

/-- **Day numbers count dates**: the next date has the next number. -/
theorem dayNumber_next {date : Date} (valid : date.Valid) :
    date.next.dayNumber = date.dayNumber + 1 := by
  obtain ⟨least, greatest, -, last⟩ := valid
  have number : date.dayNumber = daysBeforeYear date.marchYear + daysBeforeMonth date.marchMonth +
      date.day - 719469 := rfl
  unfold next
  by_cases inMonth : date.day < daysInMonth date.year date.month
  · rw [if_pos inMonth]
    show daysBeforeYear date.marchYear + daysBeforeMonth date.marchMonth +
      ((date.day + 1 : Nat) : Int) - 719469 = date.dayNumber + 1
    omega
  · have ends : date.day = daysInMonth date.year date.month := by omega
    rw [if_neg inMonth]
    rcases monthAfter_eq least greatest with ⟨february, after⟩ | ⟨earlier, after⟩
    · have year := daysBeforeYear_succ date.marchYear
      have size := (daysInMonth_eq least greatest).resolve_right (by omega)
      have start : daysBeforeMonth 0 = 0 := rfl
      rw [february] at number
      rw [after, dayNumber_ofMarch (by decide)]
      omega
    · have size := (daysInMonth_eq least greatest).resolve_left (by omega)
      rw [after, dayNumber_ofMarch (Nat.add_one_le_of_lt earlier)]
      omega

/-- The day after a day of the calendar is one. -/
theorem valid_next {date : Date} (valid : date.Valid) : date.next.Valid := by
  obtain ⟨least, greatest, first, -⟩ := valid
  have some (year : Int) (month : Nat) : 1 ≤ daysInMonth year month := by
    unfold daysInMonth
    split
    · split <;> decide
    · split <;> decide
  unfold next monthAfter
  split
  · rename_i inMonth
    exact ⟨least, greatest, Nat.le_add_left .., inMonth⟩
  · split
    · rename_i earlier
      exact ⟨Nat.le_add_left .., earlier, Nat.le_refl _, some ..⟩
    · exact ⟨Nat.le_refl _, Nat.le_add_left 1 11, Nat.le_refl _, some ..⟩

/-- **The next day number is that of the next date.** -/
theorem ofDayNumber_add_one (n : Int) : ofDayNumber (n + 1) = (ofDayNumber n).next := by
  have valid := valid_ofDayNumber n
  have number : (ofDayNumber n).next.dayNumber = n + 1 := by
    rw [dayNumber_next valid, dayNumber_ofDayNumber]
  rw [← number, ofDayNumber_dayNumber (valid_next valid)]

end Date

end ChargePoint
