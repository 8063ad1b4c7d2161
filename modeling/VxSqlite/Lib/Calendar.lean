import Mathlib.Algebra.BigOperators.Group.Finset.Basic
import Mathlib.Algebra.Order.BigOperators.Group.Finset
import Mathlib.Tactic.IntervalCases

/-!
# The Gregorian calendar by counting

The calendar is given by the number of days in each month, and the number of a date by counting
the days of the years, the months and the days before it. No formula with divisions enters the
definition, so that a formula of a program can be compared with it. Dates are ordered by year,
month and day, and `Date.dayNumber_lt_iff` says that this is the order of their numbers. The
Julian Day Number is what grows by one from each date to the next and has its value on one date;
`isJulianDayNumber_iff` says that counting gives it.
-/

namespace VxSqlite

/-- The years with a 29 February. -/
def IsLeap (year : Nat) : Prop := 4 ∣ year ∧ (¬ 100 ∣ year ∨ 400 ∣ year)

instance (year : Nat) : Decidable (IsLeap year) := inferInstanceAs (Decidable (_ ∧ _))

/-- The number of days in a month of a year, none where there is no such month. -/
def daysInMonth (year : Nat) : Nat → Nat
  | 2 => if IsLeap year then 29 else 28
  | 4 | 6 | 9 | 11 => 30
  | 1 | 3 | 5 | 7 | 8 | 10 | 12 => 31
  | _ => 0

/-- The days of the months of a year before the given one. -/
def daysBeforeMonth (year month : Nat) : Nat := ∑ i ∈ Finset.range month, daysInMonth year i

/-- The number of days in a year. -/
def daysInYear (year : Nat) : Nat := daysBeforeMonth year 13

/-- The days of the years from the year 0 up to the given one. -/
def daysBeforeYear (year : Nat) : Nat := ∑ i ∈ Finset.range year, daysInYear i

/-- A date of the Gregorian calendar. -/
structure Date where
  year : Nat
  month : Nat
  day : Nat
  day_pos : 1 ≤ day
  day_le : day ≤ daysInMonth year month
  deriving DecidableEq

/-- The Julian Day Number: days are counted from 1 January of the year 0, which has the number
1721060. -/
def Date.dayNumber (d : Date) : Nat :=
  1721059 + (daysBeforeYear d.year + (daysBeforeMonth d.year d.month + d.day))

/-- The order of the dates: by year, then by month, then by day. -/
def Date.Before (d e : Date) : Prop :=
  d.year < e.year ∨
    d.year = e.year ∧ (d.month < e.month ∨ d.month = e.month ∧ d.day < e.day)

/-! ## Counting -/

/-- A count within block `m` does not go past the start of a later block. -/
theorem sum_range_add_le (f : Nat → Nat) {m n x : Nat} (hx : x ≤ f m) (hmn : m < n) :
    ∑ i ∈ Finset.range m, f i + x ≤ ∑ i ∈ Finset.range n, f i := by
  have hblock : ∑ i ∈ Finset.range (m + 1), f i ≤ ∑ i ∈ Finset.range n, f i :=
    Finset.sum_le_sum_of_subset (Finset.range_subset_range.mpr hmn)
  rw [Finset.sum_range_succ] at hblock
  omega

theorem daysBeforeMonth_add_one (year month : Nat) :
    daysBeforeMonth year (month + 1) = daysBeforeMonth year month + daysInMonth year month :=
  Finset.sum_range_succ _ _

theorem daysBeforeYear_add_one (year : Nat) :
    daysBeforeYear (year + 1) = daysBeforeYear year + daysInYear year :=
  Finset.sum_range_succ _ _

/-- A month that has days is one of the twelve. -/
theorem daysInMonth_pos {year month : Nat} (h : 0 < daysInMonth year month) :
    1 ≤ month ∧ month ≤ 12 := by
  unfold daysInMonth at h
  split at h <;> omega

theorem daysInMonth_le (year month : Nat) : daysInMonth year month ≤ 31 := by
  unfold daysInMonth
  split
  · split <;> omega
  all_goals omega

theorem Date.month_bounds (d : Date) : 1 ≤ d.month ∧ d.month ≤ 12 :=
  daysInMonth_pos (Nat.lt_of_lt_of_le d.day_pos d.day_le)

/-- A date of the year is counted within the year. -/
theorem Date.dayOfYear_le (d : Date) :
    daysBeforeMonth d.year d.month + d.day ≤ daysInYear d.year :=
  sum_range_add_le _ d.day_le (Nat.lt_succ_of_le d.month_bounds.2)

theorem Date.dayNumber_lt_of_before {d e : Date} (h : d.Before e) : d.dayNumber < e.dayNumber := by
  have hday := e.day_pos
  unfold Date.dayNumber
  rcases h with hyear | ⟨hyear, hmonth | ⟨hmonth, hlt⟩⟩
  · have hcount : daysBeforeYear d.year + (daysBeforeMonth d.year d.month + d.day) ≤
        daysBeforeYear e.year := sum_range_add_le _ d.dayOfYear_le hyear
    omega
  · have hcount : daysBeforeMonth d.year d.month + d.day ≤ daysBeforeMonth d.year e.month :=
      sum_range_add_le _ d.day_le hmonth
    rw [← hyear]
    omega
  · rw [← hyear, ← hmonth]
    omega

theorem Date.before_trichotomy (d e : Date) : d.Before e ∨ d = e ∨ e.Before d := by
  obtain ⟨year, month, day, _, _⟩ := d
  obtain ⟨year', month', day', _, _⟩ := e
  simp only [Date.Before, Date.mk.injEq]
  omega

/-- The numbers of the dates are in the order of the dates. -/
theorem Date.dayNumber_lt_iff {d e : Date} : d.dayNumber < e.dayNumber ↔ d.Before e := by
  refine ⟨fun hlt => ?_, Date.dayNumber_lt_of_before⟩
  rcases d.before_trichotomy e with hbefore | rfl | hafter
  · exact hbefore
  · exact absurd hlt (lt_irrefl _)
  · exact absurd hlt (Date.dayNumber_lt_of_before hafter).asymm

/-- Different dates have different numbers. -/
theorem Date.dayNumber_inj {d e : Date} : d.dayNumber = e.dayNumber ↔ d = e := by
  refine ⟨fun heq => ?_, fun heq => heq ▸ rfl⟩
  rcases d.before_trichotomy e with hbefore | hsame | hafter
  · exact absurd heq (Date.dayNumber_lt_of_before hbefore).ne
  · exact hsame
  · exact absurd heq (Date.dayNumber_lt_of_before hafter).ne'

/-! ## Closed forms -/

theorem daysInYear_eq (year : Nat) : daysInYear year = 365 + if IsLeap year then 1 else 0 := by
  simp only [daysInYear, daysBeforeMonth, Finset.sum_range_succ, Finset.sum_range_zero, daysInMonth]
  split <;> rfl

/-- Every fourth year has a leap day, but not every hundredth, and yet every four hundredth. -/
theorem isLeap_count (year : Nat) :
    (if IsLeap year then 1 else 0) + (if 100 ∣ year then 1 else 0) =
      (if 4 ∣ year then 1 else 0) + if 400 ∣ year then 1 else 0 := by
  have hcentury : 100 ∣ year → 4 ∣ year := fun h => Nat.dvd_trans (by decide) h
  have hera : 400 ∣ year → 100 ∣ year := fun h => Nat.dvd_trans (by decide) h
  by_cases hleap : IsLeap year
  · rw [if_pos hleap, if_pos hleap.1]
    by_cases hhundred : 100 ∣ year
    · rw [if_pos hhundred, if_pos (hleap.2.resolve_left (not_not_intro hhundred))]
    · rw [if_neg hhundred, if_neg fun h => hhundred (hera h)]
  · rw [if_neg hleap]
    by_cases hfour : 4 ∣ year
    · have hhundred : 100 ∣ year := by
        by_contra hnot
        exact hleap ⟨hfour, Or.inl hnot⟩
      have hnotEra : ¬ 400 ∣ year := fun h => hleap ⟨hfour, Or.inr h⟩
      rw [if_pos hhundred, if_pos hfour, if_neg hnotEra]
    · have hhundred : ¬ 100 ∣ year := fun h => hfour (hcentury h)
      rw [if_neg hhundred, if_neg hfour, if_neg fun h => hhundred (hera h)]

/-- The days before a year, with a leap day for each leap year before it. -/
theorem daysBeforeYear_succ (year : Nat) :
    daysBeforeYear (year + 1) + year / 100 = 365 * (year + 1) + year / 4 + year / 400 + 1 := by
  induction year with
  | zero => rfl
  | succ year ih =>
      have hstep := daysBeforeYear_add_one (year + 1)
      have hcount := isLeap_count (year + 1)
      rw [daysInYear_eq] at hstep
      rw [Nat.succ_div, Nat.succ_div, Nat.succ_div]
      generalize year / 4 = fourths at ih ⊢
      generalize year / 100 = centuries at ih ⊢
      generalize year / 400 = eras at ih ⊢
      omega

/-- The days before a month: from March on a month has 30.6 days in the long run. -/
theorem daysBeforeMonth_eq (year : Nat) {month : Nat} (hlo : 1 ≤ month) (hhi : month ≤ 12) :
    daysBeforeMonth year month =
      if month ≤ 2 then 31 * (month - 1)
      else (153 * month - 457) / 5 + 59 + if IsLeap year then 1 else 0 := by
  have hfebruary : daysInMonth year 2 = 28 + if IsLeap year then 1 else 0 := by
    show (if IsLeap year then 29 else 28) = _
    split <;> rfl
  induction month, hlo using Nat.le_induction with
  | base => rfl
  | succ month hlo ih =>
      rw [daysBeforeMonth_add_one, ih (by omega)]
      rcases Nat.lt_trichotomy month 2 with hjanuary | rfl | hlate
      · obtain rfl : month = 1 := by omega
        rfl
      · rw [hfebruary, if_pos (show 2 ≤ 2 by omega), if_neg (show ¬ 2 + 1 ≤ 2 by omega)]
        omega
      · have hdays : (153 * month - 457) / 5 + daysInMonth year month =
            (153 * (month + 1) - 457) / 5 := by
          have hlt : month < 12 := hhi
          clear ih hhi hlo
          interval_cases month <;> rfl
        rw [if_neg (show ¬ month ≤ 2 by omega), if_neg (show ¬ month + 1 ≤ 2 by omega)]
        omega

/-- The year that a date belongs to if years begin in March, so that a leap day is their last. -/
def Date.marchYear (d : Date) : Int := if d.month ≤ 2 then (d.year : Int) - 1 else d.year

/-- The days from the beginning of March to the beginning of a month. -/
def daysFromMarch (month : Nat) : Int :=
  if month ≤ 2 then 31 * ((month : Int) - 1) + 306 else ((153 * month - 457) / 5 : Nat)

theorem Date.marchYear_ge (d : Date) : -1 ≤ d.marchYear := by
  unfold Date.marchYear
  split <;> omega

/-- The number of a date in closed form, with years that begin in March. -/
theorem Date.dayNumber_march (d : Date) :
    (d.dayNumber : Int) = 1721119 + (365 * d.marchYear + d.marchYear / 4 - d.marchYear / 100 +
      d.marchYear / 400) + daysFromMarch d.month + d.day := by
  obtain ⟨hlo, hhi⟩ := d.month_bounds
  have hmonth := daysBeforeMonth_eq d.year hlo hhi
  unfold Date.dayNumber Date.marchYear daysFromMarch
  by_cases hearly : d.month ≤ 2
  · rw [if_pos hearly] at hmonth
    rw [if_pos hearly, if_pos hearly]
    -- the year 0 begins in the March of a year before it
    rcases hyear : d.year with _ | year
    · have hzero : daysBeforeYear 0 = 0 := rfl
      rw [hyear] at hmonth
      omega
    · have hcount := daysBeforeYear_succ year
      rw [hyear] at hmonth
      omega
  · have hcount := daysBeforeYear_succ d.year
    have hstep := daysBeforeYear_add_one d.year
    rw [daysInYear_eq] at hstep
    rw [if_neg hearly] at hmonth
    rw [if_neg hearly, if_neg hearly]
    omega

/-! ## From one date to the next -/

theorem daysInMonth_ge_one (year : Nat) {month : Nat} (hlo : 1 ≤ month) (hhi : month ≤ 12) :
    1 ≤ daysInMonth year month := by
  rcases eq_or_ne month 2 with hfebruary | hother
  · rw [hfebruary]
    show 1 ≤ if IsLeap year then 29 else 28
    split <;> omega
  · have hlong : 30 ≤ daysInMonth year month := by
      revert hother
      interval_cases month <;> simp [daysInMonth]
    omega

theorem daysInMonth_january (year : Nat) : 1 ≤ daysInMonth year 1 := Nat.succ_pos 30

/-- 1 January of a year. -/
def Date.newYear (year : Nat) : Date := ⟨year, 1, 1, Nat.one_pos, daysInMonth_january year⟩

/-- The next date: the next day of the month, the first of the next month, or 1 January of the next
year. -/
def Date.next (d : Date) : Date :=
  if hday : d.day < daysInMonth d.year d.month then
    ⟨d.year, d.month, d.day + 1, Nat.succ_pos d.day, hday⟩
  else if hmonth : d.month < 12 then
    ⟨d.year, d.month + 1, 1, Nat.one_pos, daysInMonth_ge_one d.year (Nat.succ_pos d.month) hmonth⟩
  else .newYear (d.year + 1)

/-- The last day of a month is counted right before the first of the next month, and the last day of
December right before the next year. -/
theorem Date.dayNumber_next (d : Date) : d.next.dayNumber = d.dayNumber + 1 := by
  have hle := d.day_le
  have hmonths := daysBeforeMonth_add_one d.year d.month
  unfold Date.next
  by_cases hday : d.day < daysInMonth d.year d.month
  · rw [dif_pos hday]
    rfl
  have hlast : d.day = daysInMonth d.year d.month := by omega
  rw [dif_neg hday]
  by_cases hmonth : d.month < 12
  · rw [dif_pos hmonth]
    show 1721059 + (daysBeforeYear d.year + (daysBeforeMonth d.year (d.month + 1) + 1)) =
      1721059 + (daysBeforeYear d.year + (daysBeforeMonth d.year d.month + d.day)) + 1
    omega
  · have hdecember : d.month = 12 := by
      have hhi := d.month_bounds.2
      omega
    have hyears : daysBeforeYear (d.year + 1) =
        daysBeforeYear d.year + daysBeforeMonth d.year (12 + 1) := daysBeforeYear_add_one d.year
    rw [hdecember] at hmonths hlast
    rw [dif_neg hmonth]
    show 1721059 + (daysBeforeYear (d.year + 1) + (0 + 1)) =
      1721059 + (daysBeforeYear d.year + (daysBeforeMonth d.year d.month + d.day)) + 1
    rw [hdecember]
    omega

theorem Date.dayNumber_iterate_next (n : Nat) (d : Date) :
    (Date.next^[n] d).dayNumber = d.dayNumber + n := by
  induction n with
  | zero => rfl
  | succ n ih =>
      rw [Function.iterate_succ_apply', Date.dayNumber_next, ih]
      rfl

theorem Date.dayNumber_ge (d : Date) : 1721060 ≤ d.dayNumber := by
  have hday := d.day_pos
  unfold Date.dayNumber
  omega

/-- Every date is reached from the first one. -/
theorem Date.iterate_next_newYear (d : Date) :
    Date.next^[d.dayNumber - 1721060] (.newYear 0) = d := by
  have hfirst : (Date.newYear 0).dayNumber = 1721060 := rfl
  have hle := d.dayNumber_ge
  rw [← Date.dayNumber_inj, Date.dayNumber_iterate_next, hfirst]
  omega

theorem Date.dayNumber_newYear_2000 : (Date.newYear 2000).dayNumber = 2451545 := by
  have hcount := (Date.newYear 2000).dayNumber_march
  rw [show (Date.newYear 2000).marchYear = 1999 by rfl,
    show daysFromMarch (Date.newYear 2000).month = 306 by rfl,
    show ((Date.newYear 2000).day : Int) = 1 by rfl] at hcount
  omega

/-- A numbering of the dates is the Julian Day Number: it grows by one from each date to the next,
and 1 January 2000 has the number 2451545. -/
structure IsJulianDayNumber (number : Date → Int) : Prop where
  next : ∀ d : Date, number d.next = number d + 1
  newYear_2000 : number (.newYear 2000) = 2451545

/-- Along a run of dates a numbering that grows by one counts the steps. -/
theorem IsJulianDayNumber.iterate_next {number : Date → Int} (h : IsJulianDayNumber number)
    (n : Nat) (d : Date) : number (Date.next^[n] d) = number d + n := by
  induction n with
  | zero => simp
  | succ n ih =>
      rw [Function.iterate_succ_apply', h.next, ih, Nat.cast_succ, add_assoc]

/-- There is one Julian Day Number, and counting the days gives it. -/
theorem isJulianDayNumber_iff {number : Date → Int} :
    IsJulianDayNumber number ↔ ∀ d : Date, number d = d.dayNumber := by
  constructor
  · intro h d
    have hcount : ∀ e : Date, number e = number (.newYear 0) + (e.dayNumber - 1721060 : Nat) := by
      intro e
      have heq := h.iterate_next (e.dayNumber - 1721060) (.newYear 0)
      rwa [Date.iterate_next_newYear] at heq
    have hstart := hcount (.newYear 2000)
    rw [h.newYear_2000, Date.dayNumber_newYear_2000] at hstart
    have hd := hcount d
    have hle := d.dayNumber_ge
    omega
  · intro h
    refine ⟨fun d => ?_, ?_⟩
    · rw [h, h, Date.dayNumber_next]
      rfl
    · rw [h, Date.dayNumber_newYear_2000]
      rfl

end VxSqlite
