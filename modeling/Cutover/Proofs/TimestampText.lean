import Cutover.Proofs.NumeralText
import Cutover.Time.Reader
import Mathlib.Data.List.Basic
import Mathlib.Tactic.IntervalCases
import Mathlib.Tactic.SplitIfs

/-!
# Timestamps are read back from their texts

A reading of universal time in the years 1 to 9999 is read back from its wire form, to the microsecond:
main statement `Timestamp.IsWire.read_wireText`.

The day of a reading is found by dividing its number by the days of 400 years, of a year and of a month.
These divisions agree with the parts that the day has by counting (`Calendar.IsDayOfEra`), so every number
is the number of its day (`Calendar.dayNumber_ofDayNumber`), and every day is one of its month
(`Calendar.ofDayNumber_mem`), leap days as well.
-/

namespace Cutover

/-! ### Days by their numbers -/

namespace Calendar

/-- A day of an era of 400 years: its century, the four years in that, the year in those, and the day of
that year, counted from March. -/
structure IsDayOfEra (day century olympiad year dayOfYear : Int) : Prop where
  day_eq : day = 36524 * century + 1461 * olympiad + 365 * year + dayOfYear
  century_mem : 0 ≤ century ∧ century ≤ 3
  olympiad_mem : 0 ≤ olympiad ∧ olympiad ≤ 24
  year_mem : 0 ≤ year ∧ year ≤ 3
  dayOfYear_mem : 0 ≤ dayOfYear ∧ dayOfYear ≤ 365
  /-- The leap day ends the last of four years, but not a century unless that ends the era. -/
  leap : dayOfYear = 365 → year = 3 ∧ (olympiad = 24 → century = 3)

variable {day century olympiad year dayOfYear : Int}

theorem exists_isDayOfEra (h : 0 ≤ day) (hlt : day < 146097) :
    ∃ century olympiad year dayOfYear, IsDayOfEra day century olympiad year dayOfYear := by
  have hcentury : ∃ century rest, day = 36524 * century + rest ∧ 0 ≤ century ∧ century ≤ 3 ∧ 0 ≤ rest ∧
      (rest < 36524 ∨ rest = 36524 ∧ century = 3) := by
    by_cases hlast : day = 146096
    · exact ⟨3, 36524, by omega⟩
    · exact ⟨day / 36524, day % 36524, by omega⟩
  obtain ⟨century, rest, hday, hc, hc3, hr, hrest⟩ := hcentury
  have hyear : ∃ year dayOfYear, rest % 1461 = 365 * year + dayOfYear ∧ 0 ≤ year ∧ year ≤ 3 ∧
      0 ≤ dayOfYear ∧ (dayOfYear < 365 ∨ dayOfYear = 365 ∧ year = 3) := by
    by_cases hlast : rest % 1461 = 1460
    · exact ⟨3, 365, by omega⟩
    · exact ⟨rest % 1461 / 365, rest % 1461 % 365, by omega⟩
  obtain ⟨year, dayOfYear, hrem, hy, hy3, hd, hleap⟩ := hyear
  refine ⟨century, rest / 1461, year, dayOfYear, ?_, ⟨hc, hc3⟩, ?_, ⟨hy, hy3⟩, ?_, ?_⟩ <;> omega

/-- The year of a day in its era is found by division. -/
theorem IsDayOfEra.yearOfEra_eq (h : IsDayOfEra day century olympiad year dayOfYear) :
    (day - day / 1460 + day / 36524 - day / 146096) / 365 = 100 * century + 4 * olympiad + year := by
  obtain ⟨hday, hc, hk, hy, hd, hleap⟩ := h
  by_cases hlast : day = 146096
  · -- the leap day that ends the era
    have hlasts : century = 3 ∧ olympiad = 24 ∧ year = 3 := by omega
    obtain ⟨rfl, rfl, rfl⟩ := hlasts
    rw [hlast]
    decide
  · have hera : day / 146096 = 0 := by omega
    have hcentury : day / 36524 = century := by omega
    -- the days of the centuries before carry over into one more group of four years or not
    by_cases hover : 1460 ≤ 24 * century + olympiad + 365 * year + dayOfYear
    · have hshort : day / 1460 = 25 * century + olympiad + 1 := by omega
      omega
    · have hshort : day / 1460 = 25 * century + olympiad := by omega
      omega

/-- The day of the year is what is left of a day in its era. -/
theorem IsDayOfEra.dayOfYear_eq (h : IsDayOfEra day century olympiad year dayOfYear) :
    day - (365 * (100 * century + 4 * olympiad + year) +
      (100 * century + 4 * olympiad + year) / 4 - (100 * century + 4 * olympiad + year) / 100) =
        dayOfYear := by
  obtain ⟨hday, hc, hk, hy, _, _⟩ := h
  have hfour : (100 * century + 4 * olympiad + year) / 4 = 25 * century + olympiad := by omega
  have hhundred : (100 * century + 4 * olympiad + year) / 100 = century := by omega
  rw [hfour, hhundred, hday]
  omega

/-- The day with a number, from the parts of the day in its era. -/
theorem ofDayNumber_eq {number era : Int} (h : IsDayOfEra day century olympiad year dayOfYear)
    (hnumber : number + 719468 = era * 146097 + day) (hday : 0 ≤ day ∧ day < 146097) :
    ofDayNumber number =
      let years := 100 * century + 4 * olympiad + year + era * 400
      let month := (5 * dayOfYear + 2) / 153
      ⟨if month < 10 then years else years + 1, if month < 10 then month + 3 else month - 9,
        dayOfYear - (153 * month + 2) / 5 + 1⟩ := by
  have hera : (number + 719468) / 146097 = era := by omega
  have hrest : (number + 719468) % 146097 = day := by omega
  have hmonth : 0 ≤ (5 * dayOfYear + 2) / 153 ∧ (5 * dayOfYear + 2) / 153 ≤ 11 := by
    have hd := h.dayOfYear_mem
    omega
  simp only [ofDayNumber, hera, hrest, h.yearOfEra_eq, h.dayOfYear_eq]
  generalize (5 * dayOfYear + 2) / 153 = month at hmonth ⊢
  by_cases hlate : month < 10
  · rw [if_pos hlate, if_pos hlate, if_neg (by omega)]
  · rw [if_neg hlate, if_neg hlate, if_pos (by omega)]

/-- The number of a day, from its year since March and its month since March. -/
theorem dayNumber_eq {era yearOfEra month dayOfMonth : Int} (hmonth : 0 ≤ month ∧ month ≤ 11)
    (hyear : 0 ≤ yearOfEra ∧ yearOfEra < 400) :
    dayNumber ⟨if month < 10 then yearOfEra + era * 400 else yearOfEra + era * 400 + 1,
        if month < 10 then month + 3 else month - 9, dayOfMonth⟩ =
      era * 146097 + yearOfEra * 365 + yearOfEra / 4 - yearOfEra / 100 +
        ((153 * month + 2) / 5 + dayOfMonth - 1) - 719468 := by
  have hera : (yearOfEra + era * 400) / 400 = era := by omega
  have hrest : (yearOfEra + era * 400) % 400 = yearOfEra := by omega
  by_cases hlate : month < 10
  · have hnot : ¬ month + 3 ≤ 2 := by omega
    have hsame : month + 3 - 3 = month := by omega
    simp only [dayNumber, if_pos hlate, if_neg hnot, hsame, hera, hrest]
  · have hearly : month - 9 ≤ 2 := by omega
    have hsame : month - 9 + 9 = month := by omega
    have hbefore : yearOfEra + era * 400 + 1 - 1 = yearOfEra + era * 400 := by omega
    simp only [dayNumber, if_neg hlate, if_pos hearly, hsame, hbefore, hera, hrest]

/-- The day with a number has that number. -/
theorem dayNumber_ofDayNumber (number : Int) : dayNumber (ofDayNumber number) = number := by
  have hday : 0 ≤ (number + 719468) % 146097 ∧ (number + 719468) % 146097 < 146097 := by omega
  obtain ⟨century, olympiad, year, dayOfYear, h⟩ := exists_isDayOfEra hday.1 hday.2
  have hnumber : number + 719468 =
      (number + 719468) / 146097 * 146097 + (number + 719468) % 146097 := by omega
  have hsum := h.dayOfYear_eq
  have hmonth : 0 ≤ (5 * dayOfYear + 2) / 153 ∧ (5 * dayOfYear + 2) / 153 ≤ 11 := by
    have hd := h.dayOfYear_mem
    omega
  have hyear : 0 ≤ 100 * century + 4 * olympiad + year ∧ 100 * century + 4 * olympiad + year < 400 := by
    obtain ⟨_, hc, hk, hy, _, _⟩ := h
    omega
  rw [ofDayNumber_eq h hnumber hday]
  rw [dayNumber_eq hmonth hyear]
  -- what remains is linear in the year and the month
  generalize (100 * century + 4 * olympiad + year) = y at *
  generalize (5 * dayOfYear + 2) / 153 = m at *
  clear h
  omega

theorem isLeap_of {year : Int} (hfour : year % 4 = 0) (hcentury : year % 100 ≠ 0 ∨ year % 400 = 0) :
    isLeap year = true := by
  simp only [isLeap, Bool.and_eq_true, Bool.or_eq_true, beq_iff_eq, bne_iff_ne]
  exact ⟨hfour, hcentury⟩

/-- The year in which a leap day comes has one. -/
theorem IsDayOfEra.isLeap (h : IsDayOfEra day century olympiad year dayOfYear)
    (hday : dayOfYear = 365) (era : Int) :
    isLeap (100 * century + 4 * olympiad + year + era * 400 + 1) = true := by
  obtain ⟨rfl, hcentury⟩ := h.leap hday
  have hk := h.olympiad_mem
  by_cases hlast : olympiad = 24
  · rw [hlast, hcentury hlast]
    exact isLeap_of (by omega) (.inr (by omega))
  · exact isLeap_of (by omega) (.inl (by omega))

/-- A day of the year is a day of its month, both counted from March. -/
theorem dayOfMonth_mem {years month : Int} (hday : 0 ≤ dayOfYear ∧ dayOfYear ≤ 365)
    (hmonth : (5 * dayOfYear + 2) / 153 = month)
    (hleap : dayOfYear = 365 → isLeap (years + 1) = true) :
    1 ≤ dayOfYear - (153 * month + 2) / 5 + 1 ∧ dayOfYear - (153 * month + 2) / 5 + 1 ≤
      daysInMonth (if month < 10 then years else years + 1)
        (if month < 10 then month + 3 else month - 9) := by
  obtain ⟨hlow, hhigh⟩ : 0 ≤ month ∧ month ≤ 11 := by omega
  by_cases hlast : month = 11
  · -- the length of February depends on the year
    subst hlast
    by_cases hend : dayOfYear = 365
    · simp [daysInMonth, hleap hend, hend]
    · have hshort : 28 ≤ daysInMonth (years + 1) 2 := by
        rw [daysInMonth, if_pos rfl]
        split <;> omega
      simp
      omega
  · clear hleap
    interval_cases month <;> simp [daysInMonth] <;> omega

/-- The day with a number is a day of its month. -/
theorem ofDayNumber_mem (number : Int) :
    (1 ≤ (ofDayNumber number).month ∧ (ofDayNumber number).month ≤ 12) ∧
      1 ≤ (ofDayNumber number).day ∧ (ofDayNumber number).day ≤
        daysInMonth (ofDayNumber number).year (ofDayNumber number).month := by
  have hday : 0 ≤ (number + 719468) % 146097 ∧ (number + 719468) % 146097 < 146097 := by omega
  obtain ⟨century, olympiad, year, dayOfYear, h⟩ := exists_isDayOfEra hday.1 hday.2
  have hnumber : number + 719468 =
      (number + 719468) / 146097 * 146097 + (number + 719468) % 146097 := by omega
  rw [ofDayNumber_eq h hnumber hday]
  refine ⟨?_, dayOfMonth_mem h.dayOfYear_mem rfl fun hlast => h.isLeap hlast _⟩
  have hmonth : 0 ≤ (5 * dayOfYear + 2) / 153 ∧ (5 * dayOfYear + 2) / 153 ≤ 11 := by
    have hd := h.dayOfYear_mem
    omega
  dsimp only
  split <;> omega

theorem daysInMonth_le (year month : Int) : daysInMonth year month ≤ 31 := by
  rw [daysInMonth]
  split_ifs <;> decide

end Calendar

/-! ### The parts of a reading -/

namespace Timestamp

open Text

variable {n : Int} {count : Nat} {t : Timestamp}

theorem length_part (hcount : 0 < count) (h : 0 ≤ n) (hlt : n < (10 ^ count : Nat)) :
    (part count n).length = count := by
  refine Numeral.length_writePadded hcount (Int.ofNat_lt.mp ?_)
  rwa [Int.natAbs_of_nonneg h]

theorem all_isDigit_part (count : Nat) (n : Int) : (part count n).all Numeral.isDigit = true :=
  List.all_eq_true.mpr (Numeral.writePadded_digits count n.natAbs)

theorem read_part (count : Nat) (h : 0 ≤ n) : (Numeral.read (part count n) : Int) = n := by
  rw [part, Numeral.read_writePadded, Int.natAbs_of_nonneg h]

/-- A part of a reading is read back. -/
theorem digits?_part (count : Nat) (h : 0 ≤ n) : digits? (part count n) = some n := by
  rw [digits?, if_pos (all_isDigit_part count n), read_part count h]

theorem exists_part_two (h : 0 ≤ n) (hlt : n < 100) :
    ∃ a b, part 2 n = [a, b] ∧ digits? [a, b] = some n := by
  obtain ⟨a, b, hpart⟩ := List.length_eq_two.mp (length_part Nat.two_pos h hlt)
  exact ⟨a, b, hpart, hpart ▸ digits?_part 2 h⟩

theorem twoDigits?_part {most : Int} (h : 0 ≤ n) (hle : n ≤ most) (hmost : most < 100)
    (rest : List Char) : twoDigits? most (part 2 n ++ rest) = some (n, rest) := by
  obtain ⟨a, b, hpart, hdigits⟩ := exists_part_two h (by omega)
  rw [hpart, List.cons_append, List.singleton_append, twoDigits?, hdigits, Option.bind_some, if_pos hle]

/-- A day is read back in front of whatever follows. -/
theorem readDate_part {year month day : Int} (hyear : 0 ≤ year ∧ year < 10000)
    (hmonth : 1 ≤ month ∧ month ≤ 12) (hday : 1 ≤ day ∧ day ≤ Calendar.daysInMonth year month)
    (rest : List Char) :
    readDate (part 4 year ++ '-' :: (part 2 month ++ '-' :: (part 2 day ++ rest))) =
      .ok (⟨year, month, day⟩, rest) := by
  have hshort : day ≤ 31 := Int.le_trans hday.2 (Calendar.daysInMonth_le year month)
  have hlength : (part 4 year).length = 4 := length_part (by decide) hyear.1 hyear.2
  obtain ⟨y1, y2, y3, y4, hyears⟩ := List.length_eq_four.mp hlength
  have hreadYear : digits? [y1, y2, y3, y4] = some year := hyears ▸ digits?_part 4 hyear.1
  obtain ⟨m1, m2, hmonths, hreadMonth⟩ := exists_part_two (n := month) (by omega) (by omega)
  obtain ⟨d1, d2, hdays, hreadDay⟩ := exists_part_two (n := day) (by omega) (by omega)
  have hinYear : ¬(month < 1 ∨ 12 < month) := by omega
  have hinMonth : ¬(day < 1 ∨ Calendar.daysInMonth year month < day) := by omega
  have hlong : ¬rest.length + 1 + 1 + 1 + 1 + 1 + 1 + 1 + 1 + 1 + 1 < 10 := by omega
  rw [hyears, hmonths, hdays]
  simp [readDate, hreadYear, hreadMonth, hreadDay, hinYear, hinMonth, hlong]

/-- Six digits of a fraction stand for its microseconds. -/
theorem fractionMicros_part {micros : Int} (h : 0 ≤ micros ∧ micros < 1000000) :
    fractionMicros (part 6 micros) = micros := by
  have hlength : (part 6 micros).length = 6 := length_part (by decide) h.1 h.2
  rw [fractionMicros, List.take_append_of_le_length (Nat.le_of_eq hlength.symm),
    List.take_of_length_le (Nat.le_of_eq hlength), read_part 6 h.1]

/-- A time of day is read back in front of the zone, with or without a fraction of a second. -/
theorem readTime?_part {hour minute second micros : Int} (hhour : 0 ≤ hour ∧ hour ≤ 23)
    (hminute : 0 ≤ minute ∧ minute ≤ 59) (hsecond : 0 ≤ second ∧ second ≤ 59)
    (hmicros : 0 ≤ micros ∧ micros < 1000000) :
    readTime? (part 2 hour ++ ':' :: (part 2 minute ++
        ':' :: (part 2 second ++ (fractionText micros ++ ['Z'])))) =
      some ((hour * 60 + minute) * 60000000 + second * 1000000 + micros, ['Z']) := by
  have hreadHour (more : List Char) := twoDigits?_part hhour.1 hhour.2 (by decide) more
  have hreadMinute (more : List Char) := twoDigits?_part hminute.1 hminute.2 (by decide) more
  have hreadSecond (more : List Char) := twoDigits?_part hsecond.1 hsecond.2 (by decide) more
  rw [fractionText]
  split
  next hzero => simp [readTime?, hreadHour, hreadMinute, hreadSecond, hzero]
  next =>
    have hspan : (part 6 micros ++ ['Z']).span Numeral.isDigit = (part 6 micros, ['Z']) :=
      Numeral.span_digits (Numeral.writePadded_digits 6 _) (by rintro _ ⟨⟩; rfl)
    have hsome : (part 6 micros).isEmpty = false := by
      rw [List.isEmpty_eq_false_iff, List.ne_nil_iff_length_pos,
        length_part (by decide) hmicros.1 hmicros.2]
      decide
    simp only [readTime?, hreadHour, hreadMinute, hreadSecond, Option.bind_eq_bind, Option.bind_some,
      List.cons_append, decide_true, Bool.true_or, if_true, hspan, hsome, fractionMicros_part hmicros]
    simp

/-- A reading of universal time in the years 1 to 9999. -/
structure IsWire (t : Timestamp) : Prop where
  offset : t.offset = some 0
  year : 1 ≤ t.date.year ∧ t.date.year ≤ 9999

/-- The parts of a reading that are written. -/
theorem toList_wireText (h : t.offset = some 0) :
    t.wireText.toList = part 4 t.date.year ++ '-' :: (part 2 t.date.month ++
      '-' :: (part 2 t.date.day ++ 'T' :: (part 2 (t.timeOfDay / 1000000 / 3600) ++
        ':' :: (part 2 (t.timeOfDay / 1000000 / 60 % 60) ++
          ':' :: (part 2 (t.timeOfDay / 1000000 % 60) ++
            (fractionText (t.timeOfDay % 1000000) ++ ['Z'])))))) := by
  rw [wireText, localText, h]
  simp

theorem date_mem (t : Timestamp) : (1 ≤ t.date.month ∧ t.date.month ≤ 12) ∧
    1 ≤ t.date.day ∧ t.date.day ≤ Calendar.daysInMonth t.date.year t.date.month :=
  Calendar.ofDayNumber_mem _

/-- A reading is the one made of its parts. -/
theorem ofParts_date (t : Timestamp) : ofParts t.date t.timeOfDay t.offset = t := by
  rw [ofParts, date, Calendar.dayNumber_ofDayNumber, timeOfDay, Int.mul_comm, Int.mul_ediv_add_emod]

theorem IsWire.isValid (h : t.IsWire) : t.date.isValid = true := by
  obtain ⟨⟨hlow, hhigh⟩, hfirst, hlast⟩ := t.date_mem
  simp only [Calendar.Date.isValid, Bool.and_eq_true, decide_eq_true_eq]
  exact ⟨⟨⟨⟨⟨h.year.1, h.year.2⟩, hlow⟩, hhigh⟩, hfirst⟩, hlast⟩

/-- The time of day is read back. -/
theorem readTime?_timeOfDay (t : Timestamp) :
    readTime? (part 2 (t.timeOfDay / 1000000 / 3600) ++
        ':' :: (part 2 (t.timeOfDay / 1000000 / 60 % 60) ++
          ':' :: (part 2 (t.timeOfDay / 1000000 % 60) ++
            (fractionText (t.timeOfDay % 1000000) ++ ['Z'])))) = some (t.timeOfDay, ['Z']) := by
  have htime : 0 ≤ t.timeOfDay ∧ t.timeOfDay < 86400000000 := by
    rw [timeOfDay, dayMicros]
    omega
  have hsum : (t.timeOfDay / 1000000 / 3600 * 60 + t.timeOfDay / 1000000 / 60 % 60) * 60000000 +
      t.timeOfDay / 1000000 % 60 * 1000000 + t.timeOfDay % 1000000 = t.timeOfDay := by omega
  rw [readTime?_part (by omega) (by omega) (by omega) (by omega), hsum]

/-- A reading of universal time is read back from its wire form. -/
theorem IsWire.read_wireText (h : t.IsWire) : read t.wireText = .ok t := by
  have hyear : 0 ≤ t.date.year ∧ t.date.year < 10000 := by
    have hyear := h.year
    omega
  have hparts := ofParts_date t
  rw [h.offset] at hparts
  have hread : readDateTime? t.wireText.toList = some t := by
    rw [readDateTime?, toList_wireText h.offset, readDate_part hyear t.date_mem.1 t.date_mem.2]
    simp [readTime?_timeOfDay, readZone?, h.isValid, hparts]
  simp only [read, hread]

end Timestamp

end Cutover
