import VxSqlite.Flash
import VxSqlite.Lib.Calendar
import Mathlib.Algebra.Order.Floor.Ring
import Mathlib.Data.Rat.Floor
import Mathlib.Tactic.NormNum

/-!
# The current time

SQLite keeps a moment as `iJD`, the Julian Day Number in milliseconds, and gets the current one by
multiplying what `xCurrentTime` stores. The date functions of SQLite are embedded with their
`double` values as rationals; at the magnitudes of the calendar they are exact or far from the
next integer. Both day-number formulas, that of `computeJD` and that of `verixCurrentTime`, count
the days of the calendar. What `verixCurrentTime` makes of a clock reading is nevertheless the
noon of its date with the century dropped: it takes two digits of the year, and its integer
divisions leave nothing of the time.
-/

namespace VxSqlite

/-! ## The date functions of SQLite -/

/-- The cast of a `double` to an integer type: the fraction is cut off. -/
def truncate (x : ℚ) : Int := if 0 ≤ x then ⌊x⌋ else ⌈x⌉

/-- SQLite's `DateTime`. -/
structure DateTime where
  iJD : Int
  Y : Int
  M : Int
  D : Int
  h : Int
  m : Int
  tz : Int
  s : ℚ
  validYMD : Bool
  validHMS : Bool
  validJD : Bool
  validTZ : Bool

/-- A `DateTime` after `memset(p, 0, sizeof(*p))`. -/
def DateTime.zero : DateTime := ⟨0, 0, 0, 0, 0, 0, 0, 0, false, false, false, false⟩

/-- The sum `X1 + X2 + D + B` of `computeJD`. -/
def computeJDDays (Y M D : Int) : Int :=
  let (Y, M) := if M ≤ 2 then (Y - 1, M + 12) else (Y, M)
  let A := Y.tdiv 100
  let B := 2 - A + A.tdiv 4
  let X1 := (36525 * (Y + 4716)).tdiv 100
  let X2 := (306001 * (M + 1)).tdiv 10000
  X1 + X2 + D + B

/-- Convert from YYYY-MM-DD HH:MM:SS to the Julian Day Number. -/
def computeJD (p : DateTime) : DateTime :=
  if p.validJD then p
  else
    let (Y, M, D) := if p.validYMD then (p.Y, p.M, p.D) else (2000, 1, 1)
    let iJD := truncate (((computeJDDays Y M D : ℚ) - 1524.5) * 86400000)
    let p := { p with iJD := iJD, validJD := true }
    if p.validHMS then
      let p := { p with iJD := p.iJD + (p.h * 3600000 + p.m * 60000 + truncate (p.s * 1000)) }
      if p.validTZ then
        { p with
          iJD := p.iJD - p.tz * 60000
          validYMD := false
          validHMS := false
          validTZ := false }
      else p
    else p

/-- Compute the year, month and day from the Julian Day Number. -/
def computeYMD (p : DateTime) : DateTime :=
  if p.validYMD then p
  else if ¬ p.validJD then { p with Y := 2000, M := 1, D := 1, validYMD := true }
  else
    let Z := (p.iJD + 43200000).tdiv 86400000
    let A := truncate (((Z : ℚ) - 1867216.25) / 36524.25)
    let A := Z + 1 + A - A.tdiv 4
    let B := A + 1524
    let C := truncate (((B : ℚ) - 122.1) / 365.25)
    let D := (36525 * C).tdiv 100
    let E := truncate (((B - D : Int) : ℚ) / 30.6001)
    let X1 := truncate (30.6001 * (E : ℚ))
    let M := if E < 14 then E - 1 else E - 13
    { p with
      D := B - D - X1
      M := M
      Y := if M > 2 then C - 4716 else C - 4715
      validYMD := true }

/-- Compute the hour, minute and seconds from the Julian Day Number. -/
def computeHMS (p : DateTime) : DateTime :=
  if p.validHMS then p
  else
    let p := computeJD p
    let s := (p.iJD + 43200000).tmod 86400000
    let ps : ℚ := (s : ℚ) / 1000
    let s := truncate ps
    let ps := ps - s
    let h := s.tdiv 3600
    let s := s - h * 3600
    let m := s.tdiv 60
    { p with s := ps + (s - m * 60 : Int), h := h, m := m, validHMS := true }

def computeYMD_HMS (p : DateTime) : DateTime := computeHMS (computeYMD p)

variable {σ : Type}

/-- The result code, the current time in milliseconds, and the world after. The VFS has
`iVersion` 1, so SQLite falls back to `xCurrentTime`. -/
def sqlite3OsCurrentTimeInt64 (env : Env σ) (w : World σ) : Int × Int × World σ :=
  let r := verixCurrentTime env w
  (0, r.1 * 86400000, r.2)

/-- The current time of a statement, which asks for it once: `iCurrentTime` is 0 before. -/
def sqlite3StmtCurrentTime (env : Env σ) (iCurrentTime : Int) (w : World σ) : Int × World σ :=
  if iCurrentTime = 0 then
    let r := sqlite3OsCurrentTimeInt64 env w
    (if r.1 ≠ 0 then 0 else r.2.1, r.2.2)
  else (iCurrentTime, w)

/-- Set the time to the current time; `none` where that counts as an error. -/
def setDateTimeToCurrent (env : Env σ) (iCurrentTime : Int) (p : DateTime) (w : World σ) :
    Option DateTime × World σ :=
  let r := sqlite3StmtCurrentTime env iCurrentTime w
  (if r.1 > 0 then some { p with iJD := r.1, validJD := true } else none, r.2)

/-- The six numbers that `datetime('now')` prints in a fresh statement. -/
def datetimeNow (env : Env σ) (w : World σ) : Option (List Int) × World σ :=
  let r := setDateTimeToCurrent env 0 .zero w
  (r.1.map fun x =>
    let x := computeYMD_HMS x
    [x.Y, x.M, x.D, x.h, x.m, truncate x.s], r.2)

/-! ## What the clock shows -/

/-- A valid date of a four-digit year and a time of the day. -/
structure ClockReading extends Date where
  hour : Nat
  minute : Nat
  second : Nat
  year_le : year ≤ 9999
  hour_lt : hour < 24
  minute_lt : minute < 60
  second_lt : second < 60

/-- Two decimal digits. -/
def twoDigits (n : Nat) : CString := [UInt8.ofNat (48 + n / 10), UInt8.ofNat (48 + n % 10)]

namespace ClockReading

/-- The 14 digits `YYYYMMDDhhmmss` of `read_clock`. -/
def digits (r : ClockReading) : CString :=
  twoDigits (r.year / 100) ++ twoDigits (r.year % 100) ++ twoDigits r.month ++ twoDigits r.day ++
    twoDigits r.hour ++ twoDigits r.minute ++ twoDigits r.second

/-- The six fields as SQLite holds them. -/
def dateTime (r : ClockReading) : DateTime :=
  ⟨0, r.year, r.month, r.day, r.hour, r.minute, 0, r.second, true, true, false, false⟩

/-- The `iJD` that SQLite gives the six fields. -/
def iJD (r : ClockReading) : Int := (computeJD r.dateTime).iJD

/-- The six fields as `datetime()` prints them. -/
def fields (r : ClockReading) : List Int := [r.year, r.month, r.day, r.hour, r.minute, r.second]

/-- The order of the readings. -/
def Before (r r' : ClockReading) : Prop :=
  r.toDate.Before r'.toDate ∨ r.toDate = r'.toDate ∧
    3600 * r.hour + 60 * r.minute + r.second < 3600 * r'.hour + 60 * r'.minute + r'.second

/-- Dropping the century leaves a valid date: a leap year stays one. -/
theorem daysInMonth_le_mod (year month : Nat) :
    daysInMonth year month ≤ daysInMonth (year % 100) month := by
  have hleap : IsLeap year → IsLeap (year % 100) := by
    unfold IsLeap
    omega
  unfold daysInMonth
  split
  · by_cases hyear : IsLeap year
    · rw [if_pos hyear, if_pos (hleap hyear)]
    · rw [if_neg hyear]
      split <;> omega
  all_goals exact le_refl _

/-- The date with the century dropped. -/
def withoutCentury (r : ClockReading) : Date where
  year := r.year % 100
  month := r.month
  day := r.day
  day_pos := r.day_pos
  day_le := r.day_le.trans (daysInMonth_le_mod r.year r.month)

/-- The reading is in a year before 100, at noon. -/
def AtEarlyNoon (r : ClockReading) : Prop :=
  r.year < 100 ∧ r.hour = 12 ∧ r.minute = 0 ∧ r.second = 0

end ClockReading

/-! ## The two formulas count days -/

/-- The formula of `verixCurrentTime` counts the days of the calendar. -/
theorem verixJdn_eq (d : Date) : verixJdn d.year d.month d.day = d.dayNumber := by
  obtain ⟨hlo, hhi⟩ := d.month_bounds
  have hyear := d.marchYear_ge
  have ha : (14 - (d.month : Int)).tdiv 12 = if d.month ≤ 2 then 1 else 0 := by
    rw [Int.tdiv_eq_ediv_of_nonneg (by omega)]
    split <;> omega
  have hy : (d.year : Int) + 4800 - (14 - (d.month : Int)).tdiv 12 = d.marchYear + 4800 := by
    rw [ha, Date.marchYear]
    split <;> ring
  have hm : (153 * ((d.month : Int) + 12 * (14 - (d.month : Int)).tdiv 12 - 3) + 2).tdiv 5 =
      daysFromMarch d.month := by
    rw [ha, daysFromMarch]
    split
    · rw [Int.tdiv_eq_ediv_of_nonneg (by omega)]
      omega
    · rw [Int.tdiv_eq_ediv_of_nonneg (by omega)]
      omega
  have hpos : 0 ≤ d.marchYear + 4800 := by omega
  unfold verixJdn
  simp only [hy, hm, Int.tdiv_eq_ediv_of_nonneg hpos, d.dayNumber_march]
  omega

/-- Over every date of the calendar, the formula of `verixCurrentTime` grows by one from each date
to the next, is 2451545 on 1 January 2000, and so is the Julian Day Number and no other numbering;
different dates have different numbers. -/
theorem verixJdn_counts_days :
    (∀ d : Date, verixJdn d.next.year d.next.month d.next.day =
      verixJdn d.year d.month d.day + 1) ∧
    verixJdn 2000 1 1 = 2451545 ∧
    (∀ number : Date → Int, IsJulianDayNumber number ↔
      ∀ d : Date, number d = verixJdn d.year d.month d.day) ∧
    ∀ d e : Date, verixJdn d.year d.month d.day = verixJdn e.year e.month e.day ↔ d = e := by
  refine ⟨?_, rfl, ?_, ?_⟩
  · intro d
    rw [verixJdn_eq, verixJdn_eq, Date.dayNumber_next]
    rfl
  · intro number
    rw [isJulianDayNumber_iff]
    exact forall_congr' fun d => by rw [verixJdn_eq]
  · intro d e
    rw [verixJdn_eq, verixJdn_eq, ← Date.dayNumber_inj]
    exact Int.ofNat_inj

theorem truncate_intCast (n : Int) : truncate (n : ℚ) = n := by
  unfold truncate
  split <;> simp

theorem truncate_eq_of_nonneg {x : ℚ} {n : Int} (hn : 0 ≤ n) (hlo : (n : ℚ) ≤ x)
    (hhi : x < n + 1) : truncate x = n := by
  have hx : 0 ≤ x := le_trans (by exact_mod_cast hn) hlo
  rw [truncate, if_pos hx]
  exact Int.floor_eq_iff.mpr ⟨hlo, hhi⟩

theorem truncate_eq_of_neg {x : ℚ} {n : Int} (hn : n < 0) (hlo : (n : ℚ) - 1 < x)
    (hhi : x ≤ n) : truncate x = n := by
  have hx : ¬ 0 ≤ x := not_le.mpr (lt_of_le_of_lt hhi (by exact_mod_cast hn))
  rw [truncate, if_neg hx]
  exact Int.ceil_eq_iff.mpr ⟨hlo, hhi⟩

/-- Dividing by a positive number and cutting the fraction off, without the quotient. -/
theorem truncate_div_eq_of_nonneg {x d : ℚ} {n : Int} (hd : 0 < d) (hn : 0 ≤ n)
    (hlo : (n : ℚ) * d ≤ x) (hhi : x < (n + 1) * d) : truncate (x / d) = n := by
  apply truncate_eq_of_nonneg hn
  · exact (le_div_iff₀ hd).mpr hlo
  · exact (div_lt_iff₀ hd).mpr hhi

theorem truncate_div_eq_of_neg {x d : ℚ} {n : Int} (hd : 0 < d) (hn : n < 0)
    (hlo : ((n : ℚ) - 1) * d < x) (hhi : x ≤ n * d) : truncate (x / d) = n := by
  apply truncate_eq_of_neg hn
  · exact (lt_div_iff₀ hd).mpr hlo
  · exact (div_le_iff₀ hd).mpr hhi

theorem truncate_days (n : Int) :
    truncate (((n : ℚ) - 1524.5) * 86400000) = (2 * n - 3049) * 43200000 := by
  have hexact : ((n : ℚ) - 1524.5) * 86400000 = (((2 * n - 3049) * 43200000 : Int) : ℚ) := by
    push_cast
    ring
  rw [hexact, truncate_intCast]

/-- The formula of `computeJD` counts the days of the calendar. -/
theorem computeJDDays_eq (d : Date) : computeJDDays d.year d.month d.day = d.dayNumber + 1524 := by
  obtain ⟨hlo, hhi⟩ := d.month_bounds
  have hyear := d.marchYear_ge
  have hshift : (if (d.month : Int) ≤ 2 then ((d.year : Int) - 1, (d.month : Int) + 12)
      else ((d.year : Int), (d.month : Int))) =
        (d.marchYear, if d.month ≤ 2 then (d.month : Int) + 12 else d.month) := by
    unfold Date.marchYear
    by_cases hearly : d.month ≤ 2
    · rw [if_pos hearly, if_pos hearly, if_pos (by omega)]
    · rw [if_neg hearly, if_neg hearly, if_neg (by omega)]
  have hmonths : (306001 * ((if d.month ≤ 2 then (d.month : Int) + 12 else d.month) + 1)).tdiv
      10000 = daysFromMarch d.month + 122 := by
    unfold daysFromMarch
    split
    · rw [Int.tdiv_eq_ediv_of_nonneg (by omega)]
      omega
    · rw [Int.tdiv_eq_ediv_of_nonneg (by omega)]
      omega
  have hyears : (36525 * (d.marchYear + 4716)).tdiv 100 =
      365 * d.marchYear + d.marchYear / 4 + 1722519 := by
    rw [Int.tdiv_eq_ediv_of_nonneg (by omega)]
    omega
  -- cutting off and rounding down differ in the year -1, twice
  have hcenturies : -d.marchYear.tdiv 100 + (d.marchYear.tdiv 100).tdiv 4 =
      -(d.marchYear / 100) + d.marchYear / 400 := by
    rcases lt_or_ge d.marchYear 0 with hbefore | hsince
    · have heq : d.marchYear = -1 := by omega
      rw [heq]
      rfl
    · rw [Int.tdiv_eq_ediv_of_nonneg hsince, Int.tdiv_eq_ediv_of_nonneg (by omega)]
      omega
  unfold computeJDDays
  simp only [hshift, hmonths, hyears, d.dayNumber_march]
  omega

/-- The `iJD` of a reading: midnight is half a day before the number of the date. -/
theorem ClockReading.iJD_eq (r : ClockReading) :
    r.iJD = r.dayNumber * 86400000 +
      (((r.hour : Int) - 12) * 3600000 + r.minute * 60000 + r.second * 1000) := by
  have hseconds : truncate ((r.second : ℚ) * 1000) = r.second * 1000 := by
    have hcast : (r.second : ℚ) * 1000 = ((r.second * 1000 : Int) : ℚ) := by push_cast; ring
    rw [hcast, truncate_intCast]
  have hjd : r.iJD = truncate (((computeJDDays r.year r.month r.day : ℚ) - 1524.5) * 86400000) +
      (r.hour * 3600000 + r.minute * 60000 + truncate ((r.second : ℚ) * 1000)) := rfl
  rw [hjd, truncate_days, computeJDDays_eq, hseconds]
  ring

/-! ## Reading the fields back -/

/-- What the inverse of `computeJD` needs of the date `Y`, `M`, `D` with the number `N`, before the
year 100: `C` is the year and `E` the month as `computeYMD` counts them, and `X1` the days of the
months before. -/
structure CountedFields (N Y M D C E X1 : Int) : Prop where
  lo : 1721060 ≤ N
  hi : N ≤ 1757584
  days : N + 1522 = 36525 * C / 100 + X1 + D
  year_lo : 36525 * C + 12210 ≤ 100 * (N + 1522)
  year_hi : 100 * (N + 1522) < 36525 * (C + 1) + 12210
  month_lo : 306001 * E ≤ 10000 * (X1 + D)
  month_hi : 10000 * (X1 + D) < 306001 * (E + 1)
  months_lo : 10000 * X1 ≤ 306001 * E
  months_hi : 306001 * E < 10000 * (X1 + 1)
  month_eq : (if E < 14 then E - 1 else E - 13) = M
  year_eq : (if M > 2 then C - 4716 else C - 4715) = Y

theorem exists_countedFields (d : Date) (hyear : d.year < 100) :
    ∃ C E X1 : Int, 0 ≤ C ∧ 0 ≤ E ∧ 0 ≤ X1 ∧
      CountedFields d.dayNumber d.year d.month d.day C E X1 := by
  obtain ⟨hlo, hhi⟩ := d.month_bounds
  have hday := d.day_pos
  have hle := d.day_le
  have hcount := d.dayNumber_march
  have hlow := d.marchYear_ge
  have hmarch : d.marchYear = if d.month ≤ 2 then (d.year : Int) - 1 else d.year := rfl
  have hcenturies : d.marchYear / 100 = d.marchYear / 400 := by
    split at hmarch <;> omega
  generalize d.marchYear = y at *
  generalize d.dayNumber = N at *
  generalize d.month = month at *
  generalize d.year = year at *
  generalize d.day = day at *
  by_cases hearly : month ≤ 2
  · rw [if_pos hearly] at hmarch
    rw [daysFromMarch, if_pos hearly] at hcount
    refine ⟨y + 4716, month + 13, 31 * ((month : Int) - 1) + 428, by omega, by omega, by omega, ?_⟩
    have hfebruary : month = 2 → day ≤ 29 ∧ (day = 29 → 4 ∣ year) := by
      intro hmonth
      rw [hmonth, show daysInMonth year 2 = if IsLeap year then 29 else 28 from rfl] at hle
      split at hle
      · rename_i hleap
        exact ⟨hle, fun _ => hleap.1⟩
      · exact ⟨by omega, by omega⟩
    have hshort : day ≤ 31 := hle.trans (daysInMonth_le _ _)
    constructor <;> omega
  · rw [if_neg hearly] at hmarch
    rw [daysFromMarch, if_neg hearly] at hcount
    refine ⟨y + 4716, month + 1, ((153 * month - 457) / 5 : Nat) + 122, by omega, by omega,
      by omega, ?_⟩
    have hshort : day ≤ 31 := hle.trans (daysInMonth_le _ _)
    have hmonthHi : 10000 * (((153 * month - 457) / 5 : Nat) + 122 + (day : Int)) <
        306001 * (month + 1 + 1) := by
      interval_cases month <;> simp only [daysInMonth] at hle <;> omega
    constructor <;> omega

/-- Before the year 100 the calendar of `computeYMD` is two days behind the one without
centuries. -/
theorem computeYMD_century {N : Int} (hlo : 1721060 ≤ N) (hhi : N ≤ 1757584) :
    N + 1 + truncate (((N : ℚ) - 1867216.25) / 36524.25) -
      (truncate (((N : ℚ) - 1867216.25) / 36524.25)).tdiv 4 = N - 2 := by
  have hloRat : (1721060 : ℚ) ≤ N := by exact_mod_cast hlo
  have hhiRat : (N : ℚ) ≤ 1757584 := by exact_mod_cast hhi
  by_cases hera : N ≤ 1721119
  · have heraRat : (N : ℚ) ≤ 1721119 := by exact_mod_cast hera
    have hA : truncate (((N : ℚ) - 1867216.25) / 36524.25) = -4 := by
      apply truncate_div_eq_of_neg (by norm_num) (by omega)
      · push_cast
        linarith
      · push_cast
        linarith
    rw [hA, show (-4 : Int).tdiv 4 = -1 by rfl]
    omega
  · have heraRat : (1721120 : ℚ) ≤ N := by exact_mod_cast (by omega : 1721120 ≤ N)
    have hA : truncate (((N : ℚ) - 1867216.25) / 36524.25) = -3 := by
      apply truncate_div_eq_of_neg (by norm_num) (by omega)
      · push_cast
        linarith
      · push_cast
        linarith
    rw [hA, show (-3 : Int).tdiv 4 = 0 by rfl]
    omega

/-- Before the year 100, `computeYMD` reads a date back from the noon of its number. -/
theorem computeYMD_noon {N Y M D C E X1 : Int} (h : CountedFields N Y M D C E X1) (hC : 0 ≤ C)
    (hE : 0 ≤ E) (hX1 : 0 ≤ X1) (p : DateTime) (hJD : p.validJD = true)
    (hYMD : p.validYMD = false) (hnoon : p.iJD = N * 86400000) :
    computeYMD p = { p with Y := Y, M := M, D := D, validYMD := true } := by
  have hZ : (p.iJD + 43200000).tdiv 86400000 = N := by
    have hlo := h.lo
    rw [hnoon, Int.tdiv_eq_ediv_of_nonneg (by omega)]
    omega
  have hyear : truncate ((((N - 2 + 1524 : Int) : ℚ) - 122.1) / 365.25) = C := by
    have hlo : (36525 * C + 12210 : ℚ) ≤ 100 * (N + 1522) := by exact_mod_cast h.year_lo
    have hhi : (100 * (N + 1522) : ℚ) < 36525 * (C + 1) + 12210 := by exact_mod_cast h.year_hi
    apply truncate_div_eq_of_nonneg (by norm_num) hC
    · push_cast
      linarith
    · push_cast
      linarith
  have hdays : N - 2 + 1524 - 36525 * C / 100 = X1 + D := by
    have hcount := h.days
    omega
  have hmonth : truncate (((X1 + D : Int) : ℚ) / 30.6001) = E := by
    have hlo : (306001 * E : ℚ) ≤ 10000 * (X1 + D) := by exact_mod_cast h.month_lo
    have hhi : (10000 * (X1 + D) : ℚ) < 306001 * (E + 1) := by exact_mod_cast h.month_hi
    apply truncate_div_eq_of_nonneg (by norm_num) hE
    · push_cast
      linarith
    · push_cast
      linarith
  have hmonths : truncate (30.6001 * (E : ℚ)) = X1 := by
    have hlo : (10000 * X1 : ℚ) ≤ 306001 * E := by exact_mod_cast h.months_lo
    have hhi : (306001 * E : ℚ) < 10000 * (X1 + 1) := by exact_mod_cast h.months_hi
    apply truncate_eq_of_nonneg hX1
    · linarith
    · linarith
  have hD : (36525 * C).tdiv 100 = 36525 * C / 100 := Int.tdiv_eq_ediv_of_nonneg (by omega)
  unfold computeYMD
  simp only [hYMD, hJD, hZ, computeYMD_century h.lo h.hi, hyear, hD, hdays, hmonth, hmonths,
    h.month_eq, h.year_eq]
  simp

/-- `computeHMS` reads noon back. -/
theorem computeHMS_noon {N : Int} (hN : 0 ≤ N) (p : DateTime) (hJD : p.validJD = true)
    (hHMS : p.validHMS = false) (hnoon : p.iJD = N * 86400000) :
    computeHMS p = { p with h := 12, m := 0, s := 0, validHMS := true } := by
  have hjd : computeJD p = p := if_pos hJD
  have hs : (p.iJD + 43200000).tmod 86400000 = 43200000 := by
    rw [hnoon, Int.tmod_eq_emod_of_nonneg (by omega)]
    omega
  have hseconds : truncate (((43200000 : Int) : ℚ) / 1000) = 43200 := by
    rw [show ((43200000 : Int) : ℚ) / 1000 = ((43200 : Int) : ℚ) by norm_num, truncate_intCast]
  unfold computeHMS
  have hhour : (43200 : Int).tdiv 3600 = 12 := rfl
  have hminute : (43200 - 12 * 3600 : Int).tdiv 60 = 0 := rfl
  simp only [hHMS, hjd, hs, hseconds, hhour, hminute]
  norm_num

/-! ## What the port makes of a reading -/

variable {env : Env σ} {w w' : World σ}

/-- The clock shows `r`. -/
def Shows (env : Env σ) (w : World σ) (r : ClockReading) : Prop :=
  (env.sys .readClock (env.logPrintf w)).value = r.digits

theorem atoi_twoDigits {n : Nat} (hn : n < 100) :
    atoi ((twoDigits n).takeWhile (· ≠ 0)) = n := by
  interval_cases n <;> rfl

/-- The port stores the number of the date with the century dropped. -/
theorem verixCurrentTime_eq {r : ClockReading} (h : Shows env w r) :
    (verixCurrentTime env w).1 = r.withoutCentury.dayNumber := by
  have hmonth := r.month_bounds
  have hday : r.day ≤ 31 := r.day_le.trans (daysInMonth_le r.year r.month)
  have hhour := r.hour_lt
  have hminute := r.minute_lt
  have hsecond := r.second_lt
  show verixClockValue (env.sys .readClock (env.logPrintf w)).value = _
  rw [h]
  have hvalue : verixClockValue r.digits =
      verixJdn (atoi ((twoDigits (r.year % 100)).takeWhile (· ≠ 0)))
        (atoi ((twoDigits r.month).takeWhile (· ≠ 0)))
        (atoi ((twoDigits r.day).takeWhile (· ≠ 0))) +
      (atoi ((twoDigits r.hour).takeWhile (· ≠ 0)) - 12).tdiv 24 +
      (atoi ((twoDigits r.minute).takeWhile (· ≠ 0))).tdiv 1440 +
      (atoi ((twoDigits r.second).takeWhile (· ≠ 0))).tdiv 86400 := rfl
  rw [hvalue, atoi_twoDigits (Nat.mod_lt _ (by decide)), atoi_twoDigits (by omega),
    atoi_twoDigits (by omega), atoi_twoDigits (by omega), atoi_twoDigits (by omega),
    atoi_twoDigits (by omega), ← verixJdn_eq]
  have hnoHours : ((r.hour : Int) - 12).tdiv 24 = 0 := by
    rcases Nat.lt_or_ge r.hour 12 with hmorning | hafternoon
    · rw [show (r.hour : Int) - 12 = -(12 - r.hour) by ring, Int.neg_tdiv,
        Int.tdiv_eq_zero_of_lt (by omega) (by omega), neg_zero]
    · exact Int.tdiv_eq_zero_of_lt (by omega) (by omega)
  have hnoMinutes : (r.minute : Int).tdiv 1440 = 0 :=
    Int.tdiv_eq_zero_of_lt (by omega) (by omega)
  have hnoSeconds : (r.second : Int).tdiv 86400 = 0 :=
    Int.tdiv_eq_zero_of_lt (by omega) (by omega)
  rw [hnoHours, hnoMinutes, hnoSeconds, add_zero, add_zero, add_zero]
  rfl

/-- In a fresh statement `datetime('now')` prints noon of the date with the century dropped. -/
theorem datetimeNow_eq {r : ClockReading} (h : Shows env w r) :
    (datetimeNow env w).1 =
      some [((r.year % 100 : Nat) : Int), (r.month : Int), (r.day : Int), 12, 0, 0] := by
  let d := r.withoutCentury
  obtain ⟨C, E, X1, hC, hE, hX1, hcounted⟩ := exists_countedFields d (Nat.mod_lt _ (by decide))
  let now : DateTime := { DateTime.zero with iJD := d.dayNumber * 86400000, validJD := true }
  have hYMD : computeYMD now =
      { now with Y := (r.year % 100 : Nat), M := r.month, D := r.day, validYMD := true } :=
    computeYMD_noon hcounted hC hE hX1 now rfl rfl rfl
  have hlo := hcounted.lo
  have hHMS := computeHMS_noon (N := d.dayNumber) (by omega)
    { now with Y := (r.year % 100 : Nat), M := r.month, D := r.day, validYMD := true } rfl rfl rfl
  have hset : (setDateTimeToCurrent env 0 .zero w).1 = some now := by
    have htime : (sqlite3StmtCurrentTime env 0 w).1 = d.dayNumber * 86400000 := by
      show (verixCurrentTime env w).1 * 86400000 = _
      rw [verixCurrentTime_eq h]
    show (if (sqlite3StmtCurrentTime env 0 w).1 > 0 then some { DateTime.zero with
      iJD := (sqlite3StmtCurrentTime env 0 w).1, validJD := true } else none) = _
    rw [htime, if_pos (by omega)]
  show ((setDateTimeToCurrent env 0 .zero w).1.map _) = _
  rw [hset, Option.map_some, computeYMD_HMS, hYMD, hHMS]
  have hzero : truncate 0 = 0 := truncate_intCast 0
  show some [((r.year % 100 : Nat) : Int), (r.month : Int), (r.day : Int), 12, 0, truncate 0] = _
  rw [hzero]

/-- The reading is the noon of its date with the century dropped exactly at noon before the year
100. -/
theorem ClockReading.iJD_eq_iff (r : ClockReading) :
    r.withoutCentury.dayNumber * 86400000 = r.iJD ↔ r.AtEarlyNoon := by
  have hhour := r.hour_lt
  have hminute := r.minute_lt
  have hsecond := r.second_lt
  have hdate : r.withoutCentury = r.toDate ↔ r.year < 100 := by
    obtain ⟨⟨year, month, day, _, _⟩, hour, minute, second, _, _, _, _⟩ := r
    simp only [withoutCentury, Date.mk.injEq, and_true]
    omega
  rw [r.iJD_eq, AtEarlyNoon, ← hdate, ← Date.dayNumber_inj]
  omega

/-- For every reading, what the port stores is the reading's `iJD`, SQLite's current time is it, and
`datetime('now')` reads the clock back, each exactly if the reading is at noon before the year 100;
and for every later reading the port stores a larger value exactly if that reading's date is later
with the centuries dropped. -/
theorem current_time_iff (r r' : ClockReading) (h : Shows env w r) (h' : Shows env w' r') :
    ((verixCurrentTime env w).1 * 86400000 = r.iJD ↔ r.AtEarlyNoon) ∧
    ((sqlite3OsCurrentTimeInt64 env w).2.1 = r.iJD ↔ r.AtEarlyNoon) ∧
    ((datetimeNow env w).1 = some r.fields ↔ r.AtEarlyNoon) ∧
    (r.Before r' →
      ((verixCurrentTime env w).1 < (verixCurrentTime env w').1 ↔
        r.withoutCentury.Before r'.withoutCentury)) := by
  have hjulian : (verixCurrentTime env w).1 * 86400000 = r.iJD ↔ r.AtEarlyNoon := by
    rw [verixCurrentTime_eq h]
    exact r.iJD_eq_iff
  refine ⟨hjulian, hjulian, ?_, ?_⟩
  · rw [datetimeNow_eq h, ClockReading.fields, ClockReading.AtEarlyNoon]
    simp only [Option.some.injEq, List.cons.injEq, and_true, true_and]
    omega
  · intro _
    rw [verixCurrentTime_eq h, verixCurrentTime_eq h', ← Date.dayNumber_lt_iff]
    exact Int.ofNat_lt

/-- `flash` with a clock. -/
def clockedFlash (clock : Flash → CString) : Os Flash where
  call
    | .readClock, s => ⟨clock s, s, none⟩
    | c, s => flash.call c s

/-- The last second of 1999. -/
def lastSecond1999 : ClockReading :=
  ⟨⟨1999, 12, 31, by decide, by decide⟩, 23, 59, 59, by decide, by decide, by decide, by decide⟩

/-- The first second of 2000. -/
def firstSecond2000 : ClockReading :=
  ⟨⟨2000, 1, 1, by decide, by decide⟩, 0, 0, 0, by decide, by decide, by decide, by decide⟩

/-- A terminal whose clock shows the end of 1999 at tick 0 and the year 2000 from then on. -/
def turnOfCentury : Env Flash :=
  ⟨clockedFlash fun s => if s.ticks = 0 then lastSecond1999.digits else firstSecond2000.digits,
    .quiet, none, 64⟩

/-- The world at the given tick. -/
def World.atTick (ticks : Int) : World Flash :=
  .on { Flash.empty with ticks := ticks }

/-- `current_time_iff` over the turn of the century. -/
theorem current_time_iff_turn :
    ((verixCurrentTime turnOfCentury (.atTick 0)).1 * 86400000 = lastSecond1999.iJD ↔
      lastSecond1999.AtEarlyNoon) ∧
    ((sqlite3OsCurrentTimeInt64 turnOfCentury (.atTick 0)).2.1 = lastSecond1999.iJD ↔
      lastSecond1999.AtEarlyNoon) ∧
    ((datetimeNow turnOfCentury (.atTick 0)).1 = some lastSecond1999.fields ↔
      lastSecond1999.AtEarlyNoon) ∧
    ((verixCurrentTime turnOfCentury (.atTick 0)).1 <
        (verixCurrentTime turnOfCentury (.atTick 1)).1 ↔
      lastSecond1999.withoutCentury.Before firstSecond2000.withoutCentury) := by
  have h := @current_time_iff _ turnOfCentury (.atTick 0) (.atTick 1) lastSecond1999
    firstSecond2000 rfl rfl
  exact ⟨h.1, h.2.1, h.2.2.1, h.2.2.2 (Or.inl (Or.inl (by decide)))⟩

/-- In the last second of 1999 the port stores noon of 31 December of the year 99: not the
reading's `iJD`, and not what `datetime('now')` should print. A second later it stores a smaller
value. -/
theorem clock_turns_back :
    (verixCurrentTime turnOfCentury (.atTick 0)).1 * 86400000 ≠ lastSecond1999.iJD ∧
    (datetimeNow turnOfCentury (.atTick 0)).1 = some [99, 12, 31, 12, 0, 0] ∧
    lastSecond1999.Before firstSecond2000 ∧
    (verixCurrentTime turnOfCentury (.atTick 1)).1 <
      (verixCurrentTime turnOfCentury (.atTick 0)).1 := by
  have hlast : Shows turnOfCentury (.atTick 0) lastSecond1999 := rfl
  refine ⟨?_, datetimeNow_eq hlast, Or.inl (Or.inl (by decide)), by decide⟩
  rw [verixCurrentTime_eq hlast, Ne, ClockReading.iJD_eq_iff]
  intro hearly
  exact absurd hearly.1 (by decide)

end VxSqlite
