import Mathlib.Order.Monotone.Basic
import Mathlib.Tactic.IntervalCases
import PhraseFilter.Report.Date

/-!
# The Gregorian calendar

* `Date.IsLeap`, `Date.monthLength`, `Date.IsValid` : leap years, the lengths of months, and the dates of the calendar;
* `Date.dayNumber` : the days from 1970-01-01 to a date; `Date.dayNumber_next` : from a date to the next one
  (`Date.next`) it is one day;
* `Date.eq_of_dayNumber_eq` : no two dates of the calendar have the same number;
* `Date.exists_dayOfYear` : a day of an era, by its year and its day in that year; `Date.ofMarch` : the date of such a
  day;
* `Date.ofDay_eq_iff` : **`ofDay` gives the one date of the calendar with the number**; `Date.ofDay_succ` : so it
  follows the calendar from day to day.
-/

namespace PhraseFilter.Date

/-- Every fourth year has a leap day, but of those that are full centuries only every fourth has. -/
def IsLeap (year : Int) : Prop := year % 4 = 0 ∧ (year % 100 = 0 → year % 400 = 0)

instance (year : Int) : Decidable (IsLeap year) := inferInstanceAs (Decidable (_ ∧ _))

def monthLength (year : Int) : Nat → Nat
  | 2 => if IsLeap year then 29 else 28
  | 4 | 6 | 9 | 11 => 30
  | _ => 31

def yearLength (year : Int) : Nat := if IsLeap year then 366 else 365

structure IsValid (d : Date) : Prop where
  month : 1 ≤ d.month ∧ d.month ≤ 12
  day : 1 ≤ d.day ∧ d.day ≤ monthLength d.year d.month

def next (d : Date) : Date :=
  if d.day < monthLength d.year d.month then { d with day := d.day + 1 }
  else if d.month < 12 then ⟨d.year, d.month + 1, 1⟩
  else ⟨d.year + 1, 1, 1⟩

/-- The leap years from year 1 to the one before a year; for an earlier year, less those from it to year 0. -/
def leapsBefore (year : Int) : Int := (year - 1) / 4 - (year - 1) / 100 + (year - 1) / 400

/-- The days from the start of 1970 to the start of a year; negative for an earlier year. -/
def daysToYear (year : Int) : Int := 365 * (year - 1970) + (leapsBefore year - leapsBefore 1970)

/-- The days of a year before a month. -/
def daysToMonth (year : Int) : Nat → Nat
  | 0 | 1 => 0
  | m + 2 => daysToMonth year (m + 1) + monthLength year (m + 1)

/-- The days from 1970-01-01 to a date; negative for an earlier date. -/
def dayNumber (d : Date) : Int := daysToYear d.year + daysToMonth d.year d.month + (d.day - 1)

/-! ## Years and months -/

section Lengths

variable {year year' : Int} {month month' : Nat} {d d' : Date}

theorem daysToYear_succ (year : Int) : daysToYear (year + 1) = daysToYear year + yearLength year := by
  unfold daysToYear leapsBefore yearLength
  split
  · next h =>
    unfold IsLeap at h
    omega
  · next h =>
    unfold IsLeap at h
    omega

theorem daysToYear_mono (h : year ≤ year') : daysToYear year ≤ daysToYear year' := by
  unfold daysToYear leapsBefore
  omega

theorem daysToMonth_succ (year : Int) (h : 1 ≤ month) :
    daysToMonth year (month + 1) = daysToMonth year month + monthLength year month := by
  obtain ⟨m, rfl⟩ := Nat.exists_eq_add_of_le' h
  rfl

theorem daysToMonth_mono (year : Int) : Monotone (daysToMonth year) := by
  refine monotone_nat_of_le_succ fun m => ?_
  cases m with
  | zero => exact Nat.le_refl 0
  | succ m => exact Nat.le_add_right _ _

theorem daysToMonth_thirteen (year : Int) : daysToMonth year 13 = yearLength year := by
  simp only [daysToMonth, monthLength, yearLength]
  split <;> rfl

theorem IsValid.le_daysToMonth (h : d.IsValid) :
    daysToMonth d.year d.month + d.day ≤ daysToMonth d.year (d.month + 1) := by
  rw [daysToMonth_succ d.year h.month.1]
  exact Nat.add_le_add_left h.day.2 _

theorem IsValid.dayNumber_lt (h : d.IsValid) : d.dayNumber < daysToYear (d.year + 1) := by
  have hmonth := h.le_daysToMonth
  have hyear : daysToMonth d.year (d.month + 1) ≤ yearLength d.year := by
    rw [← daysToMonth_thirteen]
    exact daysToMonth_mono d.year (Nat.succ_le_succ h.month.2)
  rw [daysToYear_succ]
  unfold dayNumber
  omega

theorem IsValid.daysToYear_le (h : d.IsValid) : daysToYear d.year ≤ d.dayNumber := by
  have hday := h.day.1
  unfold dayNumber
  omega

theorem IsValid.dayNumber_lt_of_year (h : d.IsValid) (h' : d'.IsValid) (hyear : d.year < d'.year) :
    d.dayNumber < d'.dayNumber :=
  calc d.dayNumber < daysToYear (d.year + 1) := h.dayNumber_lt
    _ ≤ daysToYear d'.year := daysToYear_mono hyear
    _ ≤ d'.dayNumber := h'.daysToYear_le

theorem IsValid.dayNumber_lt_of_month (h : d.IsValid) (h' : d'.IsValid) (hyear : d.year = d'.year)
    (hmonth : d.month < d'.month) : d.dayNumber < d'.dayNumber := by
  have hnext := h.le_daysToMonth
  have hle := daysToMonth_mono d.year (Nat.succ_le_of_lt hmonth)
  have hday := h'.day.1
  unfold dayNumber
  rw [← hyear]
  rw [Nat.succ_eq_add_one] at hle
  omega

/-- **No two dates of the calendar have the same number.** -/
theorem eq_of_dayNumber_eq (h : d.IsValid) (h' : d'.IsValid) (heq : d.dayNumber = d'.dayNumber) : d = d' := by
  have hyear : d.year = d'.year := by
    rcases Int.lt_trichotomy d.year d'.year with hlt | hyear | hlt
    · exact absurd heq (Int.ne_of_lt (h.dayNumber_lt_of_year h' hlt))
    · exact hyear
    · exact absurd heq.symm (Int.ne_of_lt (h'.dayNumber_lt_of_year h hlt))
  have hmonth : d.month = d'.month := by
    rcases Nat.lt_trichotomy d.month d'.month with hlt | hmonth | hlt
    · exact absurd heq (Int.ne_of_lt (h.dayNumber_lt_of_month h' hyear hlt))
    · exact hmonth
    · exact absurd heq.symm (Int.ne_of_lt (h'.dayNumber_lt_of_month h hyear.symm hlt))
  obtain ⟨year, month, day⟩ := d
  obtain ⟨year', month', day'⟩ := d'
  simp only at hyear hmonth
  subst hyear hmonth
  have hday : day = day' := by
    simp only [dayNumber] at heq
    omega
  rw [hday]

theorem one_le_monthLength (year : Int) (month : Nat) : 1 ≤ monthLength year month := by
  unfold monthLength
  split
  · split <;> decide
  all_goals decide

theorem dayNumber_next (h : d.IsValid) : d.next.IsValid ∧ d.next.dayNumber = d.dayNumber + 1 := by
  obtain ⟨⟨hm, hm'⟩, hd, hd'⟩ := h
  unfold next
  split
  · next hlt =>
    refine ⟨⟨⟨hm, hm'⟩, Nat.succ_pos _, hlt⟩, ?_⟩
    simp only [dayNumber]
    omega
  · next hlast =>
    have hday : d.day = monthLength d.year d.month := Nat.le_antisymm hd' (Nat.le_of_not_lt hlast)
    split
    · next hlt =>
      refine ⟨⟨⟨Nat.succ_pos _, hlt⟩, Nat.le_refl 1, one_le_monthLength _ _⟩, ?_⟩
      simp only [dayNumber, daysToMonth_succ d.year hm]
      omega
    · next hdec =>
      have hmonth : d.month = 12 := Nat.le_antisymm hm' (Nat.le_of_not_lt hdec)
      have hlength : daysToMonth d.year 12 + monthLength d.year 12 = yearLength d.year := daysToMonth_thirteen d.year
      refine ⟨⟨⟨Nat.le_refl 1, Nat.le_add_left 1 11⟩, Nat.le_refl 1, one_le_monthLength _ _⟩, ?_⟩
      rw [hmonth] at hday
      simp only [dayNumber, daysToYear_succ, daysToMonth, hmonth] at hlength ⊢
      omega

end Lengths

/-! ## Eras -/

section Eras

/-- The year of an era that a day belongs to, by its century, its four years in the century, its year in these and the
day of that year. Only the last day of the era would make a century too long. -/
theorem yearOfEra_eq {c q y t : Nat} (hc : c ≤ 3) (hq : q ≤ 24) (hy : y ≤ 3) (ht : t ≤ 365) (hlong : t = 365 → y = 3)
    (hcentury : 1461 * q + 365 * y + t < 36524) :
    yearOfEra (36524 * c + (1461 * q + 365 * y + t)) = 100 * c + 4 * q + y := by
  have hcenturies : (36524 * c + (1461 * q + 365 * y + t)) / 36524 = c := by
    rw [Nat.mul_add_div (by decide), Nat.div_eq_of_lt hcentury, Nat.add_zero]
  have hlast : (36524 * c + (1461 * q + 365 * y + t)) / 146096 = 0 := Nat.div_eq_of_lt (by omega)
  have hfours : (36524 * c + (1461 * q + 365 * y + t)) / 1460 = 25 * c + q + (24 * c + q + 365 * y + t) / 1460 := by
    have hsplit : 36524 * c + (1461 * q + 365 * y + t) = 1460 * (25 * c + q) + (24 * c + q + 365 * y + t) := by omega
    rw [hsplit, Nat.mul_add_div (by decide)]
  -- The days that are over do not reach into the next year.
  have hrest : (24 * c + q + 365 * y + t) / 1460 ≤ t ∧ t ≤ 364 + (24 * c + q + 365 * y + t) / 1460 := by omega
  rw [yearOfEra, hcenturies, hlast, hfours, Nat.div_eq_iff (by decide)]
  omega

/-- A day of an era is the last one, or the day of a year in four years of a century of the era. -/
theorem exists_parts {n : Nat} (h : n < daysPerEra) :
    n = 146096 ∨ ∃ c q y t, c ≤ 3 ∧ q ≤ 24 ∧ y ≤ 3 ∧ t ≤ 365 ∧ (t = 365 → y = 3) ∧
      1461 * q + 365 * y + t < 36524 ∧ n = 36524 * c + (1461 * q + 365 * y + t) := by
  unfold daysPerEra at h
  refine or_iff_not_imp_left.mpr fun hlast => ⟨n / 36524, n % 36524 / 1461, min (n % 36524 % 1461 / 365) 3,
    n % 36524 % 1461 - 365 * min (n % 36524 % 1461 / 365) 3, ?_⟩
  omega

/-- A day of an era is a day of its year, which begins with March; only before a leap year has the year 366 days. -/
theorem exists_dayOfYear {n : Nat} (h : n < daysPerEra) :
    ∃ t, n = daysBefore (yearOfEra n) + t ∧ yearOfEra n ≤ 399 ∧ t ≤ 365 ∧
      (t = 365 → ∀ era : Int, IsLeap (400 * era + yearOfEra n + 1)) := by
  rcases exists_parts h with rfl | ⟨c, q, y, t, hc, hq, hy, ht, hlong, hcentury, rfl⟩
  · have hyear : yearOfEra 146096 = 399 := by decide
    rw [hyear]
    refine ⟨365, by decide, by decide, by decide, fun _ era => ?_⟩
    unfold IsLeap
    omega
  · rw [yearOfEra_eq hc hq hy ht hlong hcentury]
    have hfours : (100 * c + 4 * q + y) / 4 = 25 * c + q := by omega
    have hcenturies : (100 * c + 4 * q + y) / 100 = c := by omega
    refine ⟨t, ?_, by omega, ht, fun hlast era => ?_⟩
    · rw [daysBefore, hfours, hcenturies]
      omega
    · have hthird := hlong hlast
      unfold IsLeap
      omega

/-- The date of a day of a year that begins with March. -/
def ofMarch (year : Int) (t : Nat) : Date :=
  let month := (5 * t + 2) / 153
  ⟨year + if 10 ≤ month then 1 else 0, if 10 ≤ month then month - 9 else month + 3, t - (153 * month + 2) / 5 + 1⟩

theorem ofDay_eq (n : Int) : ofDay n =
    ofMarch (400 * (n + epoch).fdiv daysPerEra + yearOfEra ((n + epoch).fmod daysPerEra).toNat)
      (((n + epoch).fmod daysPerEra).toNat - daysBefore (yearOfEra ((n + epoch).fmod daysPerEra).toNat)) := rfl

/-- The months from March on have 31 and 30 days in turn, but August has 31 again; all but 306 days of the year come
before March. -/
theorem daysToMonth_march (year : Int) {m : Nat} (h : m < 10) :
    daysToMonth year (m + 3) + 306 = (153 * m + 2) / 5 + yearLength year ∧
      monthLength year (m + 3) = (153 * m + 155) / 5 - (153 * m + 2) / 5 := by
  interval_cases m <;> refine ⟨?_, rfl⟩ <;> by_cases hleap : IsLeap year <;>
    simp [daysToMonth, monthLength, yearLength, hleap]

/-- The date of a day of a year that begins with March is one of the calendar. The year begins 306 days before the next
January. -/
theorem dayNumber_ofMarch {year : Int} {t : Nat} (ht : t ≤ 365) (hleap : t = 365 → IsLeap (year + 1)) :
    (ofMarch year t).IsValid ∧ (ofMarch year t).dayNumber = daysToYear (year + 1) - 306 + t := by
  have hle : (5 * t + 2) / 153 ≤ 11 := by omega
  have hlow : 153 * ((5 * t + 2) / 153) ≤ 5 * t + 2 := Nat.mul_div_le _ _
  have hhigh : 5 * t + 2 < 153 * ((5 * t + 2) / 153) + 153 := Nat.lt_mul_div_succ _ (by decide)
  unfold ofMarch
  dsimp only
  generalize (5 * t + 2) / 153 = month at hle hlow hhigh ⊢
  by_cases hnext : 10 ≤ month
  · rw [if_pos hnext, if_pos hnext]
    obtain rfl | rfl : month = 10 ∨ month = 11 := by omega
    · refine ⟨⟨⟨Nat.le_refl 1, Nat.le_add_left 1 11⟩, Nat.succ_pos _, ?_⟩, ?_⟩
      · change t - 306 + 1 ≤ 31
        omega
      · change daysToYear (year + 1) + (0 : Nat) + ((t - 306 + 1 : Nat) - 1) = _
        omega
    · refine ⟨⟨⟨Nat.le_add_left 1 1, Nat.le_add_left 2 10⟩, Nat.succ_pos _, ?_⟩, ?_⟩
      · -- Only a leap year has the last of these days.
        change t - 337 + 1 ≤ if IsLeap (year + 1) then 29 else 28
        split
        · omega
        · next hcommon =>
          have hlast : t ≠ 365 := fun h => hcommon (hleap h)
          omega
      · change daysToYear (year + 1) + (31 : Nat) + ((t - 337 + 1 : Nat) - 1) = _
        omega
  · rw [if_neg hnext, if_neg hnext, Int.add_zero]
    obtain ⟨hdays, hlength⟩ := daysToMonth_march year (Nat.lt_of_not_le hnext)
    refine ⟨⟨⟨Nat.succ_pos _, ?_⟩, Nat.succ_pos _, ?_⟩, ?_⟩
    · change month + 3 ≤ 12
      omega
    · change t - (153 * month + 2) / 5 + 1 ≤ monthLength year (month + 3)
      rw [hlength]
      omega
    · simp only [dayNumber, daysToYear_succ]
      omega

theorem daysToYear_era (era : Int) {year : Nat} (h : year ≤ 399) :
    daysToYear (400 * era + year + 1) = daysPerEra * era + daysBefore year - epoch + 306 := by
  have hfours : (400 * era + year) / 4 = 100 * era + year / 4 := by omega
  have hcenturies : (400 * era + year) / 100 = 4 * era + year / 100 := by omega
  have heras : (400 * era + year) / 400 = era := by omega
  rw [daysToYear, leapsBefore, Int.add_sub_cancel, hfours, hcenturies, heras]
  unfold daysPerEra daysBefore epoch leapsBefore
  omega

/-- **The date of a day is one of the calendar, and has the number of the day.** -/
theorem dayNumber_ofDay (n : Int) : (ofDay n).IsValid ∧ (ofDay n).dayNumber = n := by
  have hpos : (0 : Int) < daysPerEra := by decide
  have hday := Int.fmod_nonneg_of_pos (n + epoch) hpos
  have hlt := Int.fmod_lt_of_pos (n + epoch) hpos
  have hera := Int.mul_fdiv_add_fmod (n + epoch) daysPerEra
  obtain ⟨dayOfEra, heq⟩ := Int.eq_ofNat_of_zero_le hday
  rw [heq] at hlt hera
  obtain ⟨t, ht, hyear, hle, hleap⟩ := exists_dayOfYear (Int.ofNat_lt.mp hlt)
  rw [ofDay_eq, heq, Int.toNat_natCast, Nat.sub_eq_of_eq_add' ht]
  obtain ⟨hvalid, hnumber⟩ := dayNumber_ofMarch hle fun h => hleap h _
  refine ⟨hvalid, ?_⟩
  rw [hnumber, daysToYear_era _ hyear]
  omega

/-- **`ofDay` gives the one date of the calendar with the number of the day.** -/
theorem ofDay_eq_iff {n : Int} {d : Date} : ofDay n = d ↔ d.IsValid ∧ d.dayNumber = n := by
  obtain ⟨hvalid, hnumber⟩ := dayNumber_ofDay n
  constructor
  · rintro rfl
    exact ⟨hvalid, hnumber⟩
  · rintro ⟨hd, hn⟩
    exact eq_of_dayNumber_eq hvalid hd (hnumber.trans hn.symm)

theorem ofDay_succ (n : Int) : ofDay (n + 1) = (ofDay n).next := by
  obtain ⟨hvalid, hnumber⟩ := dayNumber_ofDay n
  obtain ⟨hnext, hsucc⟩ := dayNumber_next hvalid
  exact ofDay_eq_iff.mpr ⟨hnext, by rw [hsucc, hnumber]⟩

example : ofDay 0 = ⟨1970, 1, 1⟩ := by decide

end Eras

end PhraseFilter.Date
