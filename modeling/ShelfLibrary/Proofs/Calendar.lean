import Mathlib.Tactic
import ShelfLibrary.Time.Instant

/-!
# Dates and day numbers

An era of 400 years splits into centuries, spans of four years, years and days.  From these parts
the date of a day number is seen to be a day of the calendar, with the day number that it came from,
and every day of the calendar to be the date of its number.
-/

namespace ShelfLibrary.Date

/-- The parts of a day of an era: the day 365 of a year only ends a leap year. -/
structure IsDayOfEra (century span year day : Int) : Prop where
  /-- One of four centuries. -/
  ofCentury : 0 ≤ century ∧ century ≤ 3
  /-- One of 25 spans of four years. -/
  ofSpan : 0 ≤ span ∧ span ≤ 24
  /-- One of four years. -/
  ofYear : 0 ≤ year ∧ year ≤ 3
  /-- One of up to 366 days. -/
  ofDay : 0 ≤ day ∧ day ≤ 365
  /-- Only the last year of a span is longer, and of a century's spans the last only in the end. -/
  leap : day = 365 → year = 3 ∧ (span < 24 ∨ century = 3)

theorem exists_isDayOfEra (dayOfEra : Int) (least : 0 ≤ dayOfEra) (most : dayOfEra ≤ 146096) :
    ∃ century span year day, IsDayOfEra century span year day ∧
      dayOfEra = 36524 * century + 1461 * span + 365 * year + day := by
  generalize inCenturies : dayOfEra / 36524 - dayOfEra / 146096 = century
  generalize ofCentury : dayOfEra - 36524 * century = rest
  have full : century < 3 → rest < 36524 := by omega
  have centuries : 0 ≤ century ∧ century ≤ 3 ∧ 0 ≤ rest ∧ rest ≤ 36524 := by omega
  clear inCenturies
  generalize inSpans : rest / 1461 = span
  generalize ofSpan : rest - 1461 * span = left
  have spans : 0 ≤ span ∧ span ≤ 24 ∧ 0 ≤ left ∧ left ≤ 1460 := by omega
  have last : left = 1460 → span = 24 → century = 3 := by omega
  clear inSpans
  generalize inYears : left / 365 - left / 1460 = year
  exact ⟨century, span, year, left - 365 * year,
    ⟨by omega, by omega, by omega, by omega, by omega⟩, by omega⟩

/-- The year of an era from the day of the era. -/
theorem yearOfEra_eq {century span year day : Int} (parts : IsDayOfEra century span year day)
    {dayOfEra : Int} (sum : dayOfEra = 36524 * century + 1461 * span + 365 * year + day) :
    (dayOfEra - dayOfEra / 1460 + dayOfEra / 36524 - dayOfEra / 146096) / 365 =
      100 * century + 4 * span + year := by
  obtain ⟨⟨leastCentury, mostCentury⟩, ⟨leastSpan, mostSpan⟩, ⟨leastYear, mostYear⟩,
    ⟨leastDay, mostDay⟩, leap⟩ := parts
  have inCenturies : dayOfEra / 36524 - dayOfEra / 146096 = century := by
    have rest : 0 ≤ 1461 * span + 365 * year + day ∧ 1461 * span + 365 * year + day ≤ 36524 ∧
        (1461 * span + 365 * year + day = 36524 → century = 3) := by omega
    generalize amount : 1461 * span + 365 * year + day = left at rest
    rcases (by omega : left = 36524 ∨ left < 36524) with full | short <;> omega
  -- Spans of 1460 days fall behind the years by a day a span, and in the end by one more.
  obtain ⟨extra, inSpans, leastExtra, mostExtra, behind, level⟩ : ∃ extra,
      dayOfEra / 1460 = 25 * century + span + extra ∧ 0 ≤ extra ∧ extra ≤ 1 ∧
        (extra = 1 → 0 < day) ∧ (day = 365 → extra = 1) :=
    ⟨dayOfEra / 1460 - (25 * century + span), by omega, by omega, by omega, by omega, by omega⟩
  have days : dayOfEra - dayOfEra / 1460 + dayOfEra / 36524 - dayOfEra / 146096 =
      365 * (100 * century + 4 * span + year) + (day - extra) := by omega
  rw [days]
  omega

/-- The parts of a day number. -/
theorem exists_parts (day : Int) : ∃ era century span year dayOfYear,
    IsDayOfEra century span year dayOfYear ∧
      day + 719468 = 146097 * era + (36524 * century + 1461 * span + 365 * year + dayOfYear) := by
  obtain ⟨century, span, year, dayOfYear, parts, sum⟩ :=
    exists_isDayOfEra ((day + 719468) % 146097) (by omega) (by omega)
  exact ⟨(day + 719468) / 146097, century, span, year, dayOfYear, parts, by omega⟩

/-- The date of a day number, from the parts of the number. -/
theorem ofDay_eq {day era century span year dayOfYear : Int}
    (parts : IsDayOfEra century span year dayOfYear)
    (sum : day + 719468 = 146097 * era + (36524 * century + 1461 * span + 365 * year + dayOfYear)) :
    ofDay day =
      let fromMarch := (5 * dayOfYear + 2) / 153
      let month := if fromMarch < 10 then fromMarch + 3 else fromMarch - 9
      ⟨100 * century + 4 * span + year + era * 400 + (if month ≤ 2 then 1 else 0), month.toNat,
        (dayOfYear - (153 * fromMarch + 2) / 5 + 1).toNat⟩ := by
  obtain ⟨leastCentury, mostCentury⟩ := parts.ofCentury
  obtain ⟨leastSpan, mostSpan⟩ := parts.ofSpan
  obtain ⟨leastYear, mostYear⟩ := parts.ofYear
  have ofEra : (day + 719468) / 146097 = era := by
    have := parts.ofDay
    have := parts.leap
    omega
  have days : day + 719468 - era * 146097 =
      36524 * century + 1461 * span + 365 * year + dayOfYear := by omega
  have days' : 36524 * century + 1461 * span + 365 * year + dayOfYear -
      (365 * (100 * century + 4 * span + year) + (100 * century + 4 * span + year) / 4 -
        (100 * century + 4 * span + year) / 100) = dayOfYear := by omega
  unfold ofDay
  simp only [ofEra, days, yearOfEra_eq parts rfl, days']

/-- A day number is that of its date. -/
theorem toDay_ofDay (day : Int) : (ofDay day).toDay = day := by
  obtain ⟨era, century, span, year, dayOfYear, parts, sum⟩ := exists_parts day
  rw [ofDay_eq parts sum]
  obtain ⟨⟨leastCentury, mostCentury⟩, ⟨leastSpan, mostSpan⟩, ⟨leastYear, mostYear⟩,
    ⟨leastDay, mostDay⟩, -⟩ := parts
  simp only
  generalize atMonth : (5 * dayOfYear + 2) / 153 = fromMarch
  have months : 0 ≤ fromMarch ∧ fromMarch ≤ 11 := by omega
  obtain ⟨leastMonth, mostMonth⟩ := months
  have inEra : (100 * century + 4 * span + year + era * 400) / 400 = era := by omega
  have inSpans : (100 * century + 4 * span + year) / 4 = 25 * century + span := by omega
  have inCenturies : (100 * century + 4 * span + year) / 100 = century := by omega
  unfold toDay
  interval_cases fromMarch <;>
    norm_num [inEra, inSpans, inCenturies, add_sub_assoc] <;> omega

/-- The date of a day number is one that its year has. -/
theorem ofDay_inYear (day : Int) : 1 ≤ (ofDay day).month ∧ (ofDay day).month ≤ 12 ∧
    1 ≤ (ofDay day).day ∧ (ofDay day).day ≤ daysInMonth (ofDay day).year (ofDay day).month := by
  obtain ⟨era, century, span, year, dayOfYear, parts, sum⟩ := exists_parts day
  rw [ofDay_eq parts sum]
  obtain ⟨⟨leastCentury, mostCentury⟩, ⟨leastSpan, mostSpan⟩, ⟨leastYear, mostYear⟩,
    ⟨leastDay, mostDay⟩, leap⟩ := parts
  simp only
  generalize atMonth : (5 * dayOfYear + 2) / 153 = fromMarch
  have months : 0 ≤ fromMarch ∧ fromMarch ≤ 11 := by omega
  obtain ⟨leastMonth, mostMonth⟩ := months
  have february : dayOfYear ≤ 364 ∨
      isLeapYear (100 * century + 4 * span + year + era * 400 + 1) = true := by
    simp only [isLeapYear, Bool.and_eq_true, Bool.or_eq_true, beq_iff_eq, bne_iff_ne, ne_eq]
    omega
  interval_cases fromMarch <;> norm_num [daysInMonth]
  iterate 11 omega
  rcases february with short | leap
  · split <;> omega
  · rw [leap, if_pos rfl]
    omega

/-- The day of a year that runs from March: its month is the last one that begins no later, and only
the last day of a leap year is its 365th. -/
theorem dayOfYear_bounds {year fromMarch : Int} {month day : Nat} (leastMonth : 1 ≤ month)
    (mostMonth : month ≤ 12) (mostDay : day ≤ daysInMonth year month)
    (ofMonth : fromMarch = if month ≤ 2 then (month : Int) + 9 else month - 3) :
    (153 * fromMarch + 2) / 5 + day - 1 < (153 * (fromMarch + 1) + 2) / 5 ∧
      (153 * fromMarch + 2) / 5 + day - 1 ≤ 365 ∧
      ((153 * fromMarch + 2) / 5 + day - 1 = 365 → month = 2 ∧ isLeapYear year = true) := by
  have full : month = 2 → 29 ≤ day → isLeapYear year = true := by
    rintro rfl long
    by_contra usual
    rw [daysInMonth, if_pos rfl, if_neg usual] at mostDay
    omega
  have numbers : (153 * fromMarch + 2) / 5 + day - 1 < (153 * (fromMarch + 1) + 2) / 5 ∧
      (153 * fromMarch + 2) / 5 + day - 1 ≤ 365 ∧
      ((153 * fromMarch + 2) / 5 + day - 1 = 365 → month = 2 ∧ 29 ≤ day) := by
    unfold daysInMonth at mostDay
    subst ofMonth
    interval_cases month <;> norm_num at mostDay ⊢ <;>
      first | omega | (split at mostDay <;> omega)
  refine ⟨numbers.1, numbers.2.1, fun last => ?_⟩
  obtain ⟨february, long⟩ := numbers.2.2 last
  exact ⟨february, full february long⟩

/-- A day that its year has is the date of its day number. -/
theorem ofDay_toDay {date : Date} (month : 1 ≤ date.month ∧ date.month ≤ 12)
    (day : 1 ≤ date.day ∧ date.day ≤ daysInMonth date.year date.month) :
    ofDay date.toDay = date := by
  obtain ⟨year, month, day⟩ := date
  obtain ⟨leastMonth, mostMonth⟩ := month
  obtain ⟨leastDay, mostDay⟩ := day
  dsimp only at leastMonth mostMonth leastDay mostDay
  generalize ofYear : (if month ≤ 2 then year - 1 else year) = marchYear
  generalize ofMonth : (if month ≤ 2 then (month : Int) + 9 else month - 3) = fromMarch
  have ⟨inMonth, inYear, last⟩ := dayOfYear_bounds leastMonth mostMonth mostDay ofMonth.symm
  have months : 0 ≤ fromMarch := by split at ofMonth <;> omega
  have parts : IsDayOfEra (marchYear % 400 / 100) (marchYear % 100 / 4) (marchYear % 4)
      ((153 * fromMarch + 2) / 5 + day - 1) := by
    refine ⟨by omega, by omega, by omega, by omega, fun full => ?_⟩
    obtain ⟨rfl, leap⟩ := last full
    rw [if_pos le_rfl] at ofYear
    have rest : marchYear % 100 % 4 = marchYear % 4 := by omega
    simp only [isLeapYear, Bool.and_eq_true, Bool.or_eq_true, beq_iff_eq, bne_iff_ne, ne_eq] at leap
    omega
  have sum : toDay ⟨year, month, day⟩ + 719468 = 146097 * (marchYear / 400) +
      (36524 * (marchYear % 400 / 100) + 1461 * (marchYear % 100 / 4) + 365 * (marchYear % 4) +
        ((153 * fromMarch + 2) / 5 + day - 1)) := by
    unfold toDay
    simp only [ofYear, ofMonth]
    omega
  have back : (5 * ((153 * fromMarch + 2) / 5 + day - 1) + 2) / 153 = fromMarch := by omega
  rw [ofDay_eq parts sum]
  simp only [back, Date.mk.injEq]
  split at ofMonth <;> split at ofYear <;> split <;> split <;> omega

end ShelfLibrary.Date
