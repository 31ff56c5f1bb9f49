import MailboxSync.Time.Calendar
import Mathlib.Tactic.IntervalCases

/-!
# Dates and day numbers

`Calendar.ofDayNumber` gives the date whose day number it is given, and a date of the calendar
(`dayNumber_ofDayNumber`, `ofDayNumber_date`, `ofDayNumber_year`); so the fields of a number of microseconds are valid
and give it back (`Fields.micros_ofMicros`).

An era of 400 years is cut into centuries, these into runs of four years, these into years: `Split b s u v` says that a
day of an era is day `v` of year `u` of run `s` of century `b`, all counted from zero and the year from March.
-/

namespace MailboxSync.Calendar

/-- Day `doe` of an era is day `v` of year `u` of run `s` of century `b`. -/
structure Split (doe b s u v : Nat) : Prop where
  eq : doe = 36524 * b + 1461 * s + 365 * u + v
  century : b ≤ 3
  run : s ≤ 24
  year : u ≤ 3
  day : v ≤ 365
  /-- The last day of a leap year. -/
  leap : v = 365 → u = 3 ∧ (s < 24 ∨ b = 3)

theorem exists_split {doe : Nat} (h : doe < 146097) : ∃ b s u v, Split doe b s u v := by
  have hb : min (doe / 36524) 3 ≤ 3 := Nat.min_le_right _ _
  let b := min (doe / 36524) 3
  let r := doe - 36524 * b
  let s := r / 1461
  let t := r % 1461
  let u := min (t / 365) 3
  exact ⟨b, s, u, t - 365 * u, by omega, by omega, by omega, by omega, by omega, by omega⟩

theorem Split.div_run {doe b s u v : Nat} (h : Split doe b s u v) :
    ∃ extra ≤ 1, doe / 1460 = 25 * b + s + extra ∧ (v = 365 → extra = 1) ∧ extra ≤ v := by
  obtain ⟨eq, hb, hs, hu, hv, hl⟩ := h
  by_cases hlate : 1460 ≤ 24 * b + s + 365 * u + v
  · exact ⟨1, by omega, by omega, by omega, by omega⟩
  · exact ⟨0, by omega, by omega, by omega, by omega⟩

theorem Split.year_day {doe b s u v : Nat} (h : Split doe b s u v) :
    (doe - doe / 1460 + doe / 36524 - doe / 146096) / 365 = 100 * b + 4 * s + u ∧
      365 * (100 * b + 4 * s + u) + (100 * b + 4 * s + u) / 4 - (100 * b + 4 * s + u) / 100 + v = doe := by
  obtain ⟨extra, he, hrun, hlast, hle⟩ := h.div_run
  obtain ⟨eq, hb, hs, hu, hv, hl⟩ := h
  have hfour : (100 * b + 4 * s + u) / 4 = 25 * b + s := by omega
  have hcent : (100 * b + 4 * s + u) / 100 = b := by omega
  refine ⟨?_, by omega⟩
  by_cases hend : doe = 146096
  · omega
  · have h36524 : doe / 36524 = b := by omega
    have h146096 : doe / 146096 = 0 := by omega
    rw [h36524, h146096, hrun]
    omega

/-- Day `v` of the year that starts in March of year `y`. -/
def fromMarch (y v : Nat) : Nat × Nat × Nat :=
  let mp := (5 * v + 2) / 153
  let month := if mp < 10 then mp + 3 else mp - 9
  (y + (if month ≤ 2 then 1 else 0), month, v - (153 * mp + 2) / 5 + 1)

theorem ofDayNumber_eq (n : Nat) : ∃ era doe b s u v, n + epochShift = 146097 * era + doe ∧ Split doe b s u v ∧
    ofDayNumber n = fromMarch (400 * era + (100 * b + 4 * s + u)) v := by
  obtain ⟨b, s, u, v, h⟩ := exists_split (Nat.mod_lt (n + epochShift) (by decide : 146097 > 0))
  refine ⟨(n + epochShift) / 146097, _, b, s, u, v, by omega, h, ?_⟩
  obtain ⟨hyoe, hdoy⟩ := h.year_day
  have hv : (n + epochShift) % 146097 - (365 * (100 * b + 4 * s + u) + (100 * b + 4 * s + u) / 4 -
      (100 * b + 4 * s + u) / 100) = v := by omega
  simp only [ofDayNumber, fromMarch, hyoe, hv]
  rw [Nat.mul_comm 400]

theorem dayNumber_fromMarch (y : Nat) {v : Nat} (hv : v ≤ 365) :
    dayNumber (fromMarch y v).1 (fromMarch y v).2.1 (fromMarch y v).2.2 =
      365 * y + y / 4 - y / 100 + y / 400 + v - epochShift := by
  have hmp : (5 * v + 2) / 153 ≤ 11 := by omega
  have hday : (153 * ((5 * v + 2) / 153) + 2) / 5 ≤ v := by omega
  by_cases h : (5 * v + 2) / 153 < 10
  · have hm : ¬ (5 * v + 2) / 153 + 3 ≤ 2 := by omega
    simp only [fromMarch, dayNumber, if_pos h, if_neg hm, Nat.add_zero, Nat.add_sub_cancel]
    omega
  · have hm : (5 * v + 2) / 153 - 9 ≤ 2 := by omega
    have hback : (5 * v + 2) / 153 - 9 + 9 = (5 * v + 2) / 153 := by omega
    simp only [fromMarch, dayNumber, if_neg h, if_pos hm, Nat.add_sub_cancel, hback]
    omega

/-- **The date of a day number has that day number.** -/
theorem dayNumber_ofDayNumber (n : Nat) :
    dayNumber (ofDayNumber n).1 (ofDayNumber n).2.1 (ofDayNumber n).2.2 = n := by
  obtain ⟨era, doe, b, s, u, v, hn, h, heq⟩ := ofDayNumber_eq n
  obtain ⟨-, hdoe⟩ := h.year_day
  obtain ⟨-, hb, hs, hu, hv, -⟩ := h
  rw [heq, dayNumber_fromMarch _ hv]
  have h4 : (400 * era + (100 * b + 4 * s + u)) / 4 = 100 * era + (100 * b + 4 * s + u) / 4 := by omega
  have h100 : (400 * era + (100 * b + 4 * s + u)) / 100 = 4 * era + (100 * b + 4 * s + u) / 100 := by omega
  have h400 : (400 * era + (100 * b + 4 * s + u)) / 400 = era := by omega
  rw [h4, h100, h400]
  omega

theorem fromMarch_day_le {y v : Nat} (hv : v ≤ 365) (hleap : v = 365 → isLeap (y + 1)) :
    1 ≤ (fromMarch y v).2.1 ∧ (fromMarch y v).2.1 ≤ 12 ∧ 1 ≤ (fromMarch y v).2.2 ∧
      (fromMarch y v).2.2 ≤ daysInMonth (fromMarch y v).1 (fromMarch y v).2.1 := by
  have hmp : (5 * v + 2) / 153 ≤ 11 := by omega
  simp only [fromMarch]
  generalize hq : (5 * v + 2) / 153 = mp at hmp
  interval_cases mp <;> simp [daysInMonth] <;> try omega
  split <;> rename_i hl
  · omega
  · have : v ≠ 365 := fun h => hl (hleap h)
    omega

theorem Split.isLeap {doe b s u v : Nat} (h : Split doe b s u v) (hv : v = 365) (era : Nat) :
    isLeap (400 * era + (100 * b + 4 * s + u) + 1) := by
  obtain ⟨-, hb, hs, -, -, hl⟩ := h
  obtain ⟨rfl, hend⟩ := hl hv
  simp only [Calendar.isLeap, Bool.and_eq_true, Bool.or_eq_true, decide_eq_true_eq]
  omega

theorem ofDayNumber_year {n : Nat} (hn : n < dayCount) : 1 ≤ (ofDayNumber n).1 ∧ (ofDayNumber n).1 ≤ 9999 := by
  obtain ⟨era, doe, b, s, u, v, hz, h, heq⟩ := ofDayNumber_eq n
  obtain ⟨eq, hb, hs, hu, hv, -⟩ := h
  have hshift : epochShift = 306 := rfl
  have hcount : dayCount = 3652059 := rfl
  rw [heq]
  simp only [fromMarch]
  split <;> split <;> omega

theorem ofDayNumber_date (n : Nat) : 1 ≤ (ofDayNumber n).2.1 ∧ (ofDayNumber n).2.1 ≤ 12 ∧
    1 ≤ (ofDayNumber n).2.2 ∧ (ofDayNumber n).2.2 ≤ daysInMonth (ofDayNumber n).1 (ofDayNumber n).2.1 := by
  obtain ⟨era, doe, b, s, u, v, -, h, heq⟩ := ofDayNumber_eq n
  rw [heq]
  exact fromMarch_day_le h.day fun hv => h.isLeap hv era

/-! ## Fields -/

theorem Fields.ofMicros_valid {n : Nat} (hn : n < span) : (ofMicros n).Valid := by
  have hspan : span = dayCount * perDay := rfl
  have hd : n / perDay < dayCount := Nat.div_lt_of_lt_mul (by rw [Nat.mul_comm]; exact hspan ▸ hn)
  obtain ⟨hy, hy'⟩ := ofDayNumber_year hd
  obtain ⟨hm, hm', hday, hday'⟩ := ofDayNumber_date (n / perDay)
  refine ⟨hy, hy', hm, hm', hday, hday', ?_, ?_, ?_, ?_⟩ <;>
    simp only [ofMicros, perDay, perHour, perMinute, perSecond] <;> omega

/-- **The fields of a number of microseconds give it back.** -/
theorem Fields.micros_ofMicros (n : Nat) : (ofMicros n).micros = n := by
  have hday : dayNumber (ofMicros n).year (ofMicros n).month (ofMicros n).day = n / perDay := dayNumber_ofDayNumber _
  simp only [micros, hday]
  simp only [ofMicros, perDay, perHour, perMinute, perSecond]
  omega

end MailboxSync.Calendar
