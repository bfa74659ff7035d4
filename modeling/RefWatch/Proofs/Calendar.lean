import Mathlib.Tactic.IntervalCases
import Mathlib.Tactic.SplitIfs
import RefWatch.Timestamp

namespace RefWatch.Timestamp

variable {t u : Timestamp} {year month day : Nat}

-- A moment that a calendar and a clock can show.
structure Valid (t : Timestamp) : Prop where
  year   : 1 ≤ t.year ∧ t.year ≤ 9999
  month  : 1 ≤ t.month ∧ t.month ≤ 12
  day    : 1 ≤ t.day ∧ t.day ≤ daysIn t.year t.month
  hour   : t.hour ≤ 23
  minute : t.minute ≤ 59
  second : t.second ≤ 59
  micros : t.micros ≤ 999999
  offset : ∀ o ∈ t.offset, o.natAbs < microsPerDay

instance (t : Timestamp) : Decidable t.Valid :=
  decidable_of_iff
    ((1 ≤ t.year ∧ t.year ≤ 9999) ∧ (1 ≤ t.month ∧ t.month ≤ 12) ∧
      (1 ≤ t.day ∧ t.day ≤ daysIn t.year t.month) ∧ t.hour ≤ 23 ∧ t.minute ≤ 59 ∧ t.second ≤ 59 ∧
      t.micros ≤ 999999 ∧ ∀ o ∈ t.offset, o.natAbs < microsPerDay) <| by
    constructor
    case mp => exact fun ⟨y, m, d, h, mi, s, u, o⟩ => ⟨y, m, d, h, mi, s, u, o⟩
    case mpr => exact fun ⟨y, m, d, h, mi, s, u, o⟩ => ⟨y, m, d, h, mi, s, u, o⟩

theorem daysIn_le (year month : Nat) : daysIn year month ≤ 31 := by
  unfold daysIn
  split_ifs <;> decide

-- The days before a year of an era, and before a month of a year.
def daysBefore (year : Nat) : Nat := 365 * year + year / 4 - year / 100

def daysBeforeMonth (month : Nat) : Nat := (153 * month + 2) / 5

-- A year ends with a leap day if the year after it, in which February lies, is a leap year.
structure InYear (year doy : Nat) : Prop where
  bound : doy ≤ 365
  leap  : doy = 365 → isLeap (year + 1)

theorem isLeap_iff : isLeap year ↔ year % 4 = 0 ∧ (year % 100 ≠ 0 ∨ year % 400 = 0) := by
  simp [isLeap]

-- Century, fourth year and year are apart, each with as many days as there are.
theorem yearOfEra_eq {century fourth rest doy : Nat} (hc : century < 4) (hf : fourth < 25) (hr : rest < 4)
    (hd : doy ≤ 365) (leap : doy = 365 → rest = 3 ∧ (fourth = 24 → century = 3)) :
    let doe := 36524 * century + 1461 * fourth + 365 * rest + doy
    (doe - doe / 1460 + doe / 36524 - doe / 146096) / 365 = 100 * century + 4 * fourth + rest := by
  intro doe
  have value : doe = 36524 * century + 1461 * fourth + 365 * rest + doy := rfl
  clear_value doe
  by_cases last : doe = 146096
  case pos =>
    rw [last] at value ⊢
    omega
  case neg =>
    have noDay : doe / 146096 = 0 := by omega
    have centuries : doe / 36524 = century := by omega
    rw [noDay, centuries]
    interval_cases century <;> interval_cases rest <;> omega

theorem yearOfEra_daysBefore {yoe doy : Nat} (hy : yoe < 400) (h : InYear yoe doy) :
    let doe := daysBefore yoe + doy
    (doe - doe / 1460 + doe / 36524 - doe / 146096) / 365 = yoe := by
  have leap : doy = 365 → yoe % 100 % 4 = 3 ∧ (yoe % 100 / 4 = 24 → yoe / 100 = 3) := by
    intro last
    have := isLeap_iff.mp (h.leap last)
    omega
  have parts := yearOfEra_eq (by omega : yoe / 100 < 4) (by omega : yoe % 100 / 4 < 25)
    (by omega : yoe % 100 % 4 < 4) h.bound leap
  have days : 36524 * (yoe / 100) + 1461 * (yoe % 100 / 4) + 365 * (yoe % 100 % 4) + doy =
      daysBefore yoe + doy := by
    rw [daysBefore]
    omega
  have year : 100 * (yoe / 100) + 4 * (yoe % 100 / 4) + yoe % 100 % 4 = yoe := by omega
  rwa [days, year] at parts

theorem dayOfEra_lt {yoe doy : Nat} (hy : yoe < 400) (h : InYear yoe doy) :
    daysBefore yoe + doy < 146097 := by
  have := h.bound
  rw [daysBefore]
  by_cases last : doy = 365
  case pos =>
    have := isLeap_iff.mp (h.leap last)
    omega
  case neg => omega

theorem month_daysBeforeMonth {m d : Nat} (hm : m < 12)
    (hd : daysBeforeMonth m + d < daysBeforeMonth (m + 1)) :
    (5 * (daysBeforeMonth m + d) + 2) / 153 = m := by
  unfold daysBeforeMonth at *
  interval_cases m <;> omega

theorem dateOf_of_inYear {era yoe m d : Nat} (hy : yoe < 400) (hm : m < 12)
    (hd : daysBeforeMonth m + d < daysBeforeMonth (m + 1)) (h : InYear yoe (daysBeforeMonth m + d)) :
    dateOf (146097 * era + (daysBefore yoe + (daysBeforeMonth m + d))) =
      (yoe + 400 * era + (if m < 10 then 0 else 1), if m < 10 then m + 3 else m - 9, d + 1) := by
  have inEra := dayOfEra_lt hy h
  have eras : (146097 * era + (daysBefore yoe + (daysBeforeMonth m + d))) / 146097 = era := by omega
  have rest : (146097 * era + (daysBefore yoe + (daysBeforeMonth m + d))) % 146097 =
      daysBefore yoe + (daysBeforeMonth m + d) := by omega
  have year := yearOfEra_daysBefore hy h
  have doy : daysBefore yoe + (daysBeforeMonth m + d) - (365 * yoe + yoe / 4 - yoe / 100) =
      daysBeforeMonth m + d := Nat.add_sub_cancel_left _ _
  have day : daysBeforeMonth m + d - (153 * m + 2) / 5 = d := Nat.add_sub_cancel_left _ _
  simp only [dateOf, eras, rest, year, doy, month_daysBeforeMonth hm hd, day]
  split_ifs <;> first | rfl | omega

def marchYear (year month : Nat) : Nat := if month ≤ 2 then year - 1 else year

def marchMonth (month : Nat) : Nat := if month ≤ 2 then month + 9 else month - 3

theorem dayNumber_eq (year month day : Nat) : dayNumber year month day =
    146097 * (marchYear year month / 400) + (daysBefore (marchYear year month % 400) +
      (daysBeforeMonth (marchMonth month) + (day - 1))) := by
  simp only [dayNumber, marchYear, marchMonth, daysBefore, daysBeforeMonth]
  omega

theorem marchMonth_lt (hm : 1 ≤ month ∧ month ≤ 12) : marchMonth month < 12 := by
  unfold marchMonth
  split_ifs <;> omega

-- The months but February have their days in every year.
theorem daysBeforeMonth_succ (hm : 1 ≤ month ∧ month ≤ 12) (other : month ≠ 2) (year : Nat) :
    daysBeforeMonth (marchMonth month + 1) = daysBeforeMonth (marchMonth month) + daysIn year month := by
  obtain ⟨first, last⟩ := hm
  interval_cases month <;> first | rfl | exact absurd rfl other

theorem daysIn_february (year : Nat) : daysIn year 2 = if isLeap year then 29 else 28 := rfl

theorem lt_daysBeforeMonth_succ (hm : 1 ≤ month ∧ month ≤ 12)
    (hd : 1 ≤ day ∧ day ≤ daysIn year month) :
    daysBeforeMonth (marchMonth month) + (day - 1) < daysBeforeMonth (marchMonth month + 1) := by
  by_cases february : month = 2
  case pos =>
    subst february
    have days : daysIn year 2 ≤ 29 := by
      rw [daysIn_february]
      split_ifs <;> decide
    show 337 + (day - 1) < 367
    omega
  case neg =>
    rw [daysBeforeMonth_succ hm february year]
    omega

theorem inYear_march (hm : 1 ≤ month ∧ month ≤ 12) (hy : 1 ≤ year)
    (hd : 1 ≤ day ∧ day ≤ daysIn year month) :
    InYear (marchYear year month % 400) (daysBeforeMonth (marchMonth month) + (day - 1)) := by
  by_cases february : month = 2
  case pos =>
    subst february
    rw [daysIn_february] at hd
    have days : daysBeforeMonth (marchMonth 2) = 337 := rfl
    have march : marchYear year 2 = year - 1 := rfl
    rw [days, march]
    by_cases leap : isLeap year
    case pos =>
      rw [if_pos leap] at hd
      refine ⟨by omega, fun _ => ?_⟩
      rw [isLeap_iff] at leap ⊢
      omega
    case neg =>
      rw [if_neg leap] at hd
      exact ⟨by omega, by omega⟩
  case neg =>
    have ends := lt_daysBeforeMonth_succ hm hd
    have march : marchMonth month < 11 := by
      unfold marchMonth
      split_ifs <;> omega
    have year : daysBeforeMonth (marchMonth month + 1) ≤ 337 := by
      unfold daysBeforeMonth
      omega
    exact ⟨by omega, by omega⟩

theorem dateOf_dayNumber (hm : 1 ≤ month ∧ month ≤ 12) (hy : 1 ≤ year)
    (hd : 1 ≤ day ∧ day ≤ daysIn year month) :
    dateOf (dayNumber year month day) = (year, month, day) := by
  rw [dayNumber_eq, dateOf_of_inYear (Nat.mod_lt _ (by decide)) (marchMonth_lt hm)
    (lt_daysBeforeMonth_succ hm hd) (inYear_march hm hy hd)]
  unfold marchYear marchMonth
  by_cases early : month ≤ 2
  case pos =>
    simp only [if_pos early, Prod.mk.injEq]
    split_ifs <;> omega
  case neg =>
    simp only [if_neg early, Prod.mk.injEq]
    split_ifs <;> omega

theorem ofWall_wall (h : t.Valid) : ofWall t.wall t.offset = t := by
  have total : (t.wall + (epochDay : Int) * microsPerDay).toNat =
      dayNumber t.year t.month t.day * microsPerDay +
        ((t.hour * 3600 + t.minute * 60 + t.second) * 1000000 + t.micros) := by
    simp only [wall, epochDay, microsPerDay, microsPerSecond]
    omega
  have ⟨hour, minute, second, micros⟩ :
      t.hour ≤ 23 ∧ t.minute ≤ 59 ∧ t.second ≤ 59 ∧ t.micros ≤ 999999 :=
    ⟨h.hour, h.minute, h.second, h.micros⟩
  have days : (t.wall + (epochDay : Int) * microsPerDay).toNat / microsPerDay =
      dayNumber t.year t.month t.day := by
    rw [total, microsPerDay]
    omega
  have rest : (t.wall + (epochDay : Int) * microsPerDay).toNat % microsPerDay =
      (t.hour * 3600 + t.minute * 60 + t.second) * 1000000 + t.micros := by
    rw [total, microsPerDay]
    omega
  simp only [ofWall, days, rest, dateOf_dayNumber h.month h.year.left h.day]
  obtain ⟨y, m, d, hh, mm, s, us, o⟩ := t
  simp only [mk.injEq, true_and, and_true]
  simp only at hour minute second micros
  omega

-- Two clocks with the same offset tell different moments apart.
theorem eq_of_wall_eq (ht : t.Valid) (hu : u.Valid) (offset : t.offset = u.offset) (wall : t.wall = u.wall) :
    t = u := by
  rw [← ofWall_wall ht, ← ofWall_wall hu, offset, wall]

end RefWatch.Timestamp
