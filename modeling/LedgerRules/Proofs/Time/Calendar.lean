/-
# The calendar date of a day

A day number is taken apart into a year, a month and a day, and put together
again by another computation.  In between stand the cycles of the calendar: an
era of 400 years has four centuries, a century has leap cycles of four years,
and each of them is as long as the one before it but for its last day.  Where
the day of an era is written by its cycles (`Cycles`), both computations are
linear, so they undo each other (`ofCivil?_civil`), and years are in the order
of their first days (`year_lt_iff`).
-/

import LedgerRules.Time.Date

namespace LedgerRules
namespace Date

/-- A day of an era by centuries, leap cycles and years, each counted from
March: only the last year of a leap cycle has 366 days, and of a century that
ends an era. -/
structure Cycles (c q y d : Int) : Prop where
  century : 0 ≤ c ∧ c ≤ 3
  cycle : 0 ≤ q ∧ q ≤ 24
  year : 0 ≤ y ∧ y ≤ 3
  day : 0 ≤ d ∧ d ≤ 365
  leap : d = 365 → y = 3 ∧ (q ≠ 24 ∨ c = 3)

/-- Every day of an era can be counted so. -/
theorem exists_cycles (e : Int) (h0 : 0 ≤ e) (h1 : e < 146097) :
    ∃ c q y d : Int, e = 36524 * c + 1461 * q + 365 * y + d ∧ Cycles c q y d := by
  have hc : ∃ c r : Int, e = 36524 * c + r ∧ 0 ≤ c ∧ c ≤ 3 ∧ 0 ≤ r ∧ r ≤ 36524 ∧
      (r = 36524 → c = 3) := by
    by_cases h : e = 146096
    · exact ⟨3, 36524, by omega⟩
    · exact ⟨e / 36524, e % 36524, by omega⟩
  obtain ⟨c, r, he, hc0, hc3, hr0, hr1, hrc⟩ := hc
  have hy : ∃ y d : Int, r % 1461 = 365 * y + d ∧ 0 ≤ y ∧ y ≤ 3 ∧ 0 ≤ d ∧ d ≤ 365 ∧
      (d = 365 → y = 3) := by
    by_cases h : r % 1461 = 1460
    · exact ⟨3, 365, by omega⟩
    · exact ⟨r % 1461 / 365, r % 1461 % 365, by omega⟩
  obtain ⟨y, d, hyd, hy0, hy3, hd0, hd1, hdy⟩ := hy
  exact ⟨c, r / 1461, y, d, by omega, by omega, by omega, by omega, by omega, by omega⟩

variable {c q y d : Int}

/-- The year of the era comes out by the division that the calendar makes. -/
theorem Cycles.yearOfEra (h : Cycles c q y d) {e : Int}
    (he : e = 36524 * c + 1461 * q + 365 * y + d) :
    (e - e / 1460 + e / 36524 - e / 146096) / 365 = 100 * c + 4 * q + y := by
  obtain ⟨⟨hc0, hc3⟩, ⟨hq0, hq1⟩, ⟨hy0, hy3⟩, ⟨hd0, hd1⟩, hd⟩ := h
  have h1 : e / 146096 = if c = 3 ∧ q = 24 ∧ y = 3 ∧ d = 365 then 1 else 0 := by
    split <;> omega
  have h2 : e / 36524 = c + if c = 3 ∧ q = 24 ∧ y = 3 ∧ d = 365 then 1 else 0 := by
    split <;> omega
  rw [h1, h2]
  split <;> omega

/-- An era has 146097 days, so a day number splits into the era and a day of it. -/
theorem split_era (era : Int) {e : Int} (he0 : 0 ≤ e) (he1 : e < 146097) :
    (146097 * era + e) / 146097 = era ∧ (146097 * era + e) % 146097 = e := by
  omega

/-- The day of the year comes out as what the years before it leave. -/
theorem Cycles.dayOfYear (h : Cycles c q y d) {e : Int}
    (he : e = 36524 * c + 1461 * q + 365 * y + d) :
    e - (365 * (100 * c + 4 * q + y) + (100 * c + 4 * q + y) / 4 -
      (100 * c + 4 * q + y) / 100) = d := by
  obtain ⟨-, ⟨hq0, hq1⟩, ⟨hy0, hy3⟩, -, -⟩ := h
  have hfour : (100 * c + 4 * q + y) / 4 = 25 * c + q := by omega
  have hhundred : (100 * c + 4 * q + y) / 100 = c := by omega
  rw [hfour, hhundred]
  omega

/-- The year and the day in it, counted from March. -/
theorem Cycles.civil_eq (h : Cycles c q y d) (era : Int) {mp : Int} (hmp : mp = (5 * d + 2) / 153) :
    civil ⟨146097 * era + (36524 * c + 1461 * q + 365 * y + d) - 719468⟩ =
      ⟨if (if mp < 10 then mp + 3 else mp - 9) ≤ 2 then 100 * c + 4 * q + y + era * 400 + 1
        else 100 * c + 4 * q + y + era * 400,
        (if mp < 10 then mp + 3 else mp - 9).toNat, (d - (153 * mp + 2) / 5 + 1).toNat⟩ := by
  obtain ⟨e, he⟩ : ∃ e, e = 36524 * c + 1461 * q + 365 * y + d := ⟨_, rfl⟩
  have hyear := h.yearOfEra he
  have hday := h.dayOfYear he
  have hbounds : 0 ≤ e ∧ e < 146097 := by
    obtain ⟨hc, hq, hy, hd, -⟩ := h
    clear hyear hday
    omega
  obtain ⟨hera, hrest⟩ := split_era era hbounds.1 hbounds.2
  have hz : 146097 * era + (36524 * c + 1461 * q + 365 * y + d) - 719468 + 719468 =
      146097 * era + e := by rw [← he, Int.sub_add_cancel]
  unfold civil
  dsimp only
  rw [hz, hera, hrest, hyear, hday, ← hmp]

/-- Every day is one of the cycles of an era. -/
theorem exists_cycles_era (n : Int) : ∃ c q y d era : Int, Cycles c q y d ∧
    n = 146097 * era + (36524 * c + 1461 * q + 365 * y + d) - 719468 := by
  obtain ⟨c, q, y, d, he, hc⟩ := exists_cycles ((n + 719468) % 146097) (by omega) (by omega)
  exact ⟨c, q, y, d, (n + 719468) / 146097, hc, by omega⟩

/-- A month counted from March, and its first day in the year. -/
theorem month_bounds {d mp : Int} (hd : 0 ≤ d ∧ d ≤ 365) (hmp : mp = (5 * d + 2) / 153) :
    0 ≤ mp ∧ mp ≤ 11 ∧ (153 * mp + 2) / 5 ≤ d ∧ d < (153 * (mp + 1) + 2) / 5 := by
  omega

/-- The number of the day comes back from the calendar date. -/
theorem dayNumber_mk (c q y d era mp : Int) (hc : Cycles c q y d) (hmp : mp = (5 * d + 2) / 153)
    {month : Nat} (hmonth : (month : Int) = if mp < 10 then mp + 3 else mp - 9)
    {day : Nat} (hday : (day : Int) = d - (153 * mp + 2) / 5 + 1) :
    dayNumber ⟨if month ≤ 2 then 100 * c + 4 * q + y + era * 400 + 1
      else 100 * c + 4 * q + y + era * 400, month, day⟩ =
      146097 * era + (36524 * c + 1461 * q + 365 * y + d) - 719468 := by
  obtain ⟨hm0, hm1, -, -⟩ := month_bounds hc.day hmp
  have hmarch : ((month : Int) + 9) % 12 = mp := by
    rw [hmonth]
    split <;> omega
  have hyear : (if month ≤ 2 then
      (if month ≤ 2 then 100 * c + 4 * q + y + era * 400 + 1
        else 100 * c + 4 * q + y + era * 400) - 1
      else if month ≤ 2 then 100 * c + 4 * q + y + era * 400 + 1
        else 100 * c + 4 * q + y + era * 400) = 100 * c + 4 * q + y + era * 400 := by
    split <;> omega
  obtain ⟨⟨hc0, hc3⟩, ⟨hq0, hq1⟩, ⟨hy0, hy3⟩, -, -⟩ := hc
  have hera : (100 * c + 4 * q + y + era * 400) / 400 = era := by omega
  have hrest : (100 * c + 4 * q + y + era * 400) % 400 = 100 * c + 4 * q + y := by omega
  have hfour : (100 * c + 4 * q + y) / 4 = 25 * c + q := by omega
  have hhundred : (100 * c + 4 * q + y) / 100 = c := by omega
  unfold dayNumber
  dsimp only
  rw [hyear, hmarch, hera, hrest, hfour, hhundred, hday]
  omega

/-- No month is longer than it may be. -/
theorem le_monthLength (c q y d era mp : Int) (hc : Cycles c q y d) (hmp : mp = (5 * d + 2) / 153)
    {month : Nat} (hmonth : (month : Int) = if mp < 10 then mp + 3 else mp - 9)
    {day : Nat} (hday : (day : Int) = d - (153 * mp + 2) / 5 + 1) :
    day ≤ monthLength (if month ≤ 2 then 100 * c + 4 * q + y + era * 400 + 1
      else 100 * c + 4 * q + y + era * 400) month := by
  obtain ⟨hm0, hm1, -, hnext⟩ := month_bounds hc.day hmp
  by_cases hfeb : month = 2
  · have hmp11 : mp = 11 := by
      rw [hfeb] at hmonth
      split at hmonth <;> omega
    subst hmp11 hfeb
    rw [if_pos (Nat.le_refl 2)]
    unfold monthLength
    rw [if_pos rfl]
    split
    · have := hc.day
      omega
    · rename_i hleap
      have hd : d ≠ 365 := by
        intro hd
        obtain ⟨hy, hq⟩ := hc.leap hd
        refine hleap ?_
        unfold isLeap
        rw [Bool.and_eq_true, Bool.or_eq_true, beq_iff_eq, bne_iff_ne, beq_iff_eq]
        obtain ⟨hc, hq', -, -, -⟩ := hc
        omega
      have := hc.day
      omega
  · unfold monthLength
    rw [if_neg hfeb]
    split
    · rename_i hshort
      have hmp : mp = 1 ∨ mp = 3 ∨ mp = 6 ∨ mp = 8 := by
        split at hmonth <;> omega
      rcases hmp with rfl | rfl | rfl | rfl <;> omega
    · omega

/-- **A calendar date leads back to its date.** Both directions go by the same
cycles, so each part of the date is found again. -/
theorem ofCivil?_civil {date : Date} (h0 : minYear ≤ date.civil.year)
    (h1 : date.civil.year ≤ maxYear) : ofCivil? date.civil = some date := by
  obtain ⟨n⟩ := date
  obtain ⟨c, q, y, d, era, hc, hn⟩ := exists_cycles_era n
  obtain ⟨mp, hmp⟩ : ∃ mp, mp = (5 * d + 2) / 153 := ⟨_, rfl⟩
  obtain ⟨hm0, hm1, hfirst, -⟩ := month_bounds hc.day hmp
  obtain ⟨month, hmonth⟩ : ∃ month : Nat, (month : Int) = if mp < 10 then mp + 3 else mp - 9 :=
    ⟨(if mp < 10 then mp + 3 else mp - 9).toNat, by split <;> omega⟩
  obtain ⟨day, hday⟩ : ∃ day : Nat, (day : Int) = d - (153 * mp + 2) / 5 + 1 :=
    ⟨(d - (153 * mp + 2) / 5 + 1).toNat, by omega⟩
  have hcivil := hc.civil_eq era hmp
  rw [← hn, ← hmonth, ← hday, Int.toNat_natCast, Int.toNat_natCast] at hcivil
  have hlow : ((month : Int) ≤ 2) = (month ≤ 2) := by
    rw [eq_iff_iff]
    omega
  simp only [hlow] at hcivil
  have hnumber := dayNumber_mk c q y d era mp hc hmp hmonth hday
  have hlength := le_monthLength c q y d era mp hc hmp hmonth hday
  rw [hcivil] at h0 h1 ⊢
  unfold ofCivil?
  have hrange : 1 ≤ month ∧ month ≤ 12 ∧ 1 ≤ day := by
    clear hlength hnumber hcivil hn
    split at hmonth <;> omega
  rw [if_pos ⟨h0, h1, hrange.1, hrange.2.1, hrange.2.2, hlength⟩, hnumber, ← hn]

/-! ### Years -/

/-- A date by its cycles, and its year: from January on it is the one after the
year counted from March. -/
theorem exists_year (date : Date) : ∃ c q y d era : Int, Cycles c q y d ∧
    date.day = 146097 * era + (36524 * c + 1461 * q + 365 * y + d) - 719468 ∧
    date.civil.year = 100 * c + 4 * q + y + era * 400 + if 306 ≤ d then 1 else 0 := by
  obtain ⟨n⟩ := date
  obtain ⟨c, q, y, d, era, hc, hn⟩ := exists_cycles_era n
  obtain ⟨mp, hmp⟩ : ∃ mp, mp = (5 * d + 2) / 153 := ⟨_, rfl⟩
  obtain ⟨hm0, hm1, -, -⟩ := month_bounds hc.day hmp
  have hlow : ((if mp < 10 then mp + 3 else mp - 9) ≤ 2) = (306 ≤ d) := by
    rw [eq_iff_iff]
    split <;> omega
  refine ⟨c, q, y, d, era, hc, hn, ?_⟩
  rw [hn, hc.civil_eq era hmp]
  dsimp only
  simp only [hlow]
  split <;> omega

/-- The first of January of a year by its cycles. -/
theorem exists_january (year : Int) : ∃ c q y era : Int, Cycles c q y 306 ∧
    year = 100 * c + 4 * q + y + era * 400 + 1 ∧
    dayNumber ⟨year, 1, 1⟩ = 146097 * era + (36524 * c + 1461 * q + 365 * y + 306) - 719468 := by
  obtain ⟨r, era, hr, hr0, hr1⟩ : ∃ r era : Int, year = r + era * 400 + 1 ∧ 0 ≤ r ∧ r < 400 :=
    ⟨(year - 1) % 400, (year - 1) / 400, by omega⟩
  have hc : Cycles (r / 100) (r % 100 / 4) (r % 4) 306 :=
    ⟨by omega, by omega, by omega, by omega, by omega⟩
  have hsum : 100 * (r / 100) + 4 * (r % 100 / 4) + r % 4 = r := by omega
  have hnumber := @dayNumber_mk (r / 100) (r % 100 / 4) (r % 4) 306 era 10 hc (by decide)
    1 (by decide) 1 (by decide)
  rw [if_pos (by decide), hsum, ← hr] at hnumber
  exact ⟨r / 100, r % 100 / 4, r % 4, era, hc, by omega, hnumber⟩

/-- **A date lies before a year** if it lies before the first of January of that
year.  In this form the years of a cell are a range of days. -/
theorem year_lt_iff (date : Date) (year : Int) :
    date.civil.year < year ↔ date.day < dayNumber ⟨year, 1, 1⟩ := by
  obtain ⟨c, q, y, d, era, hc, hday, hyear⟩ := exists_year date
  obtain ⟨c', q', y', era', hc', rfl, hjanuary⟩ := exists_january year
  rw [hday, hyear, hjanuary]
  obtain ⟨⟨hc0, hc3⟩, ⟨hq0, hq1⟩, ⟨hy0, hy3⟩, ⟨hd0, hd1⟩, hd⟩ := hc
  obtain ⟨⟨hc0', hc3'⟩, ⟨hq0', hq1'⟩, ⟨hy0', hy3'⟩, -, -⟩ := hc'
  clear hday hyear hjanuary
  split <;> omega

end Date
end LedgerRules
