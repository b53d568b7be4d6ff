import Admission.Time.Calendar

/-!
The calendar and the count of days fit together. A date is told by the year that begins with its
last March, and by the day of that year (`ofMarch`). In which year of its era a day lies, a quotient
tells: it only grows from day to day, and steps up just where a year begins
(`plainDays_lt_iff`). So each day has a valid date (`isValid_ofDayNumber`), from which its number
can be told again (`dayNumber_ofDayNumber`).
-/

namespace Admission.Date

/-! ### The years of an era -/

/-- The days from the start of an era to the start of a year, both in March. -/
def yearStart (y : Int) : Int := 365 * y + y / 4 - y / 100 + y / 400

/-- The days of an era up to one of them, leap days left out. -/
def plainDays (e : Int) : Int := e - e / 1460 + e / 36524 - e / 146096

theorem plainDays_mono {e e' : Int} (h : e ≤ e') : plainDays e ≤ plainDays e' := by
  rw [plainDays, plainDays]
  omega

theorem plainDays_yearStart : ∀ y : Fin 400,
    plainDays (yearStart (y.val + 1) - 1) < 365 * (y.val + 1) ∧
      365 * (y.val + 1 : Int) ≤ plainDays (yearStart (y.val + 1)) := by
  decide +kernel

theorem plainDays_lt_iff {e y : Int} (h0 : 0 < y) (h1 : y ≤ 400) :
    plainDays e < 365 * y ↔ e < yearStart y := by
  obtain ⟨k, rfl⟩ : ∃ k : Fin 400, (k.val : Int) + 1 = y :=
    ⟨⟨(y - 1).toNat, by omega⟩, by simp only; omega⟩
  have hk := plainDays_yearStart k
  constructor
  · intro h
    refine Int.not_le.1 fun hge => ?_
    have hmono := plainDays_mono hge
    omega
  · intro h
    have hmono : plainDays e ≤ plainDays (yearStart (k.val + 1) - 1) :=
      plainDays_mono (by omega)
    omega

/-- A day of an era lies in the year that the quotient says. -/
theorem yearStart_le_and_lt {e y : Int} (h0 : 0 ≤ e) (h1 : e < daysPerEra)
    (hy : y = plainDays e / 365) : (0 ≤ y ∧ y < 400) ∧ yearStart y ≤ e ∧ e < yearStart (y + 1) := by
  have hlow : plainDays 0 ≤ plainDays e := plainDays_mono h0
  have hzero : plainDays 0 = 0 := rfl
  have hhigh : plainDays e < 365 * 400 := (plainDays_lt_iff (by omega) (by omega)).2 h1
  refine ⟨by omega, ?_, (plainDays_lt_iff (by omega) (by omega)).1 (by omega)⟩
  by_cases hfirst : y = 0
  · rw [hfirst]
    exact h0
  · refine Int.not_lt.1 fun hlt => ?_
    have := (plainDays_lt_iff (by omega) (by omega)).2 hlt
    omega

theorem yearStart_succ (y : Int) :
    yearStart (y + 1) = yearStart y + if isLeapYear (y + 1) then 366 else 365 := by
  have hleap : isLeapYear (y + 1) = true ↔
      (y + 1) % 4 = 0 ∧ ((y + 1) % 100 ≠ 0 ∨ (y + 1) % 400 = 0) := by
    simp [isLeapYear]
  have h4 : (y + 1) / 4 = y / 4 + if (y + 1) % 4 = 0 then 1 else 0 := by omega
  have h100 : (y + 1) / 100 = y / 100 + if (y + 1) % 100 = 0 then 1 else 0 := by omega
  have h400 : (y + 1) / 400 = y / 400 + if (y + 1) % 400 = 0 then 1 else 0 := by omega
  have hmod4 : (y + 1) % 100 = 0 → (y + 1) % 4 = 0 := by omega
  have hmod100 : (y + 1) % 400 = 0 → (y + 1) % 100 = 0 := by omega
  simp only [yearStart, h4, h100, h400, hleap]
  clear h4 h100 h400
  grind

theorem yearStart_mono {y y' : Int} (h : y ≤ y') : yearStart y ≤ yearStart y' := by
  rw [yearStart, yearStart]
  omega

theorem isLeapYear_add_era (y era : Int) : isLeapYear (y + era * 400) = isLeapYear y := by
  have h4 : (y + era * 400) % 4 = y % 4 := by omega
  have h100 : (y + era * 400) % 100 = y % 100 := by omega
  have h400 : (y + era * 400) % 400 = y % 400 := by omega
  rw [isLeapYear, isLeapYear, h4, h100, h400]

/-! ### The days of a year -/

/-- The date of a day of the year that begins in March of a calendar year. -/
def ofMarch (year dayOfYear : Int) : Date :=
  let marchMonth := (5 * dayOfYear + 2) / 153
  let month := if marchMonth < 10 then marchMonth + 3 else marchMonth - 9
  ⟨if month ≤ 2 then year + 1 else year, month.toNat,
    (dayOfYear - (153 * marchMonth + 2) / 5 + 1).toNat⟩

theorem daysInMonth_congr {y : Int} (y' : Int) {month : Nat}
    (h : month = 2 → isLeapYear y = isLeapYear y') :
    daysInMonth y month = daysInMonth y' month := by
  by_cases hm : month = 2
  · simp [daysInMonth, hm, h hm]
  · simp [daysInMonth, hm]

theorem daysInMonth_le (y : Int) (month : Nat) : daysInMonth y month ≤ 31 := by
  simp only [daysInMonth]
  repeat' split
  all_goals decide

theorem isValid_iff (d : Date) :
    d.isValid = true ↔
      1 ≤ d.month ∧ d.month ≤ 12 ∧ 1 ≤ d.day ∧ d.day ≤ daysInMonth d.year d.month := by
  simp only [isValid, Bool.and_eq_true, decide_eq_true_eq, and_assoc]

/-- Each day of a year lies in one of its months, the last one in a leap year only. -/
theorem day_ofMarch_le : ∀ d : Fin 366,
    let date := ofMarch 0 d.val
    1 ≤ date.month ∧ date.month ≤ 12 ∧ 1 ≤ date.day ∧ date.day ≤ daysInMonth 4 date.month ∧
      (d.val < 365 → date.day ≤ daysInMonth 1 date.month) := by
  decide +kernel

section OfMarch

variable {y d : Int} (h0 : 0 ≤ d) (h1 : d < 366)

include h0 h1

theorem year_ofMarch : (ofMarch y d).year = if d < 306 then y else y + 1 := by
  simp only [ofMarch]
  split <;> split <;> omega

theorem year_ofMarch_of_month_eq_two (h : (ofMarch y d).month = 2) :
    (ofMarch y d).year = y + 1 := by
  simp only [ofMarch] at h ⊢
  exact if_pos (by omega)

theorem isValid_ofMarch (hleap : d = 365 → isLeapYear (y + 1)) : (ofMarch y d).isValid := by
  have hyear : daysInMonth (ofMarch y d).year (ofMarch y d).month =
      daysInMonth (y + 1) (ofMarch y d).month :=
    daysInMonth_congr _ fun h => by rw [year_ofMarch_of_month_eq_two h0 h1 h]
  obtain ⟨k, rfl⟩ : ∃ k : Fin 366, (k.val : Int) = d := ⟨⟨d.toNat, by omega⟩, by simp only; omega⟩
  obtain ⟨hm1, hm12, hd1, hleapDays, hdays⟩ := day_ofMarch_le k
  have hle : (ofMarch 0 k).day ≤ daysInMonth (y + 1) (ofMarch 0 k).month := by
    by_cases hl : isLeapYear (y + 1)
    · rwa [daysInMonth_congr 4 fun _ => hl]
    · rw [daysInMonth_congr 1 fun _ => Bool.eq_false_iff.2 hl]
      refine hdays (Nat.lt_of_le_of_ne (Nat.le_of_lt_succ k.isLt) fun hk => hl (hleap ?_))
      rw [hk]
      rfl
  rw [isValid_iff, hyear]
  exact ⟨hm1, hm12, hd1, hle⟩

theorem dayNumber_ofMarch :
    (ofMarch y d).dayNumber = y / 400 * daysPerEra + yearStart (y % 400) + d - 719468 := by
  rw [dayNumber, ofMarch, yearStart]
  simp only
  split <;> split <;> simp only [daysPerEra] <;> omega

end OfMarch

/-! ### All days -/

/-- The year and the day of the year, both counted from March on, that the date of a day is
    told by. -/
theorem exists_ofMarch (n : Int) :
    ∃ y d : Int, 0 ≤ d ∧ d < 366 ∧ (d = 365 → isLeapYear (y + 1)) ∧ ofDayNumber n = ofMarch y d ∧
      n = y / 400 * daysPerEra + yearStart (y % 400) + d - 719468 := by
  obtain ⟨era, hera⟩ : ∃ era, (n + 719468) / daysPerEra = era := ⟨_, rfl⟩
  obtain ⟨e, he⟩ : ∃ e, (n + 719468) % daysPerEra = e := ⟨_, rfl⟩
  obtain ⟨y, hy⟩ : ∃ y, plainDays e / 365 = y := ⟨_, rfl⟩
  have h0 : 0 ≤ e := he ▸ Int.emod_nonneg _ (by decide)
  have h1 : e < daysPerEra := he ▸ Int.emod_lt_of_pos _ (by decide)
  have hsplit : era * daysPerEra + e = n + 719468 := by
    rw [← hera, ← he, Int.mul_comm]
    exact Int.mul_ediv_add_emod _ _
  obtain ⟨⟨hy0, hy400⟩, hstart, hend⟩ := yearStart_le_and_lt h0 h1 hy.symm
  have hyear : (y + era * 400) / 400 = era ∧ (y + era * 400) % 400 = y := by omega
  have hlast : yearStart y = 365 * y + y / 4 - y / 100 := by
    rw [yearStart]
    omega
  refine ⟨y + era * 400, e - yearStart y, by omega, ?_, ?_, ?_, ?_⟩
  · rw [yearStart_succ] at hend
    split at hend <;> omega
  · intro hd
    rw [yearStart_succ] at hend
    rw [show y + era * 400 + 1 = y + 1 + era * 400 by omega, isLeapYear_add_era]
    split at hend
    · assumption
    · omega
  · rw [hlast, ← hy, ← he, ← hera]
    rfl
  · rw [hyear.1, hyear.2]
    omega

theorem isValid_ofDayNumber (n : Int) : (ofDayNumber n).isValid := by
  obtain ⟨y, d, h0, h1, hleap, hof, -⟩ := exists_ofMarch n
  rw [hof]
  exact isValid_ofMarch h0 h1 hleap

/-- The number of a day can be told from its date. -/
theorem dayNumber_ofDayNumber (n : Int) : (ofDayNumber n).dayNumber = n := by
  obtain ⟨y, d, h0, h1, -, hof, hn⟩ := exists_ofMarch n
  rw [hof, dayNumber_ofMarch h0 h1, ← hn]

/-- The dates of the representable days lie in the representable years. -/
theorem year_ofDayNumber_bounds {n : Int} (hlow : -96465292 ≤ n) (hhigh : n ≤ 95026236) :
    -262143 ≤ (ofDayNumber n).year ∧ (ofDayNumber n).year ≤ 262142 := by
  obtain ⟨y, d, h0, h1, -, hof, hn⟩ := exists_ofMarch n
  rw [hof, year_ofMarch h0 h1]
  have hmod : 0 ≤ y % 400 ∧ y % 400 < 400 ∧ y = 400 * (y / 400) + y % 400 := by omega
  rw [daysPerEra] at hn
  generalize y / 400 = era, y % 400 = z at hn hmod
  have hfirst : 0 ≤ yearStart z := yearStart_mono hmod.1
  have hlast : yearStart z ≤ 146097 := yearStart_mono (Int.le_of_lt hmod.2.1)
  -- The first year is the year 256 of its era, the last one the year 142.
  have h255 : z ≤ 255 → yearStart z ≤ 93136 := yearStart_mono
  have h256 : z ≤ 256 → yearStart z ≤ 93502 := yearStart_mono
  have h142 : 142 ≤ z → 51864 ≤ yearStart z := yearStart_mono
  have h143 : 143 ≤ z → 52229 ≤ yearStart z := yearStart_mono
  constructor
  · split <;> omega
  · split <;> omega

end Admission.Date
