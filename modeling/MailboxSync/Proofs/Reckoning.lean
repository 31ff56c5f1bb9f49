import MailboxSync.Proofs.Calendar
import Mathlib.Algebra.BigOperators.Intervals
import Mathlib.Algebra.Order.BigOperators.Group.Finset
import Mathlib.Order.Interval.Finset.Nat

/-!
# Counting the calendar out

* `countDays` — the days before a date, month after month by their lengths: the plain meaning of a day number, with
  which the arithmetic of `dayNumber` agrees (`dayNumber_eq_countDays`);
* `Fields.elapsed` — the microseconds before a date-time counted this way (`Fields.micros_eq_elapsed`);
* `Fields.micros_lt_iff` — one date-time is before another exactly if it is smaller field by field, the year first.
  So a valid date-time is given back by its microseconds (`Fields.ofMicros_micros`), and these stay below `span`.

Years, months and the units of the clock are all counted in blocks: a number is some block's start and a rest that
does not reach the next block, and then blocks are compared before rests (`block_lt_iff`).
-/

namespace MailboxSync.Calendar

/-! ## Blocks -/

theorem block_lt_iff {start : Nat → Nat} (hmono : Monotone start) {a b r q : Nat} (hr : start a + r < start (a + 1))
    (hq : start b + q < start (b + 1)) : start a + r < start b + q ↔ a < b ∨ a = b ∧ r < q := by
  rcases Nat.lt_trichotomy a b with h | rfl | h
  · have hab : start (a + 1) ≤ start b := hmono h
    exact iff_of_true (by omega) (.inl h)
  · simp
  · have hba : start (b + 1) ≤ start a := hmono h
    exact iff_of_false (by omega) (by omega)

theorem unit_lt_iff {size a b r q : Nat} (hr : r < size) (hq : q < size) :
    a * size + r < b * size + q ↔ a < b ∨ a = b ∧ r < q := by
  have hmono : Monotone fun n => n * size := fun _ _ h => Nat.mul_le_mul_right size h
  exact block_lt_iff hmono (by rw [Nat.succ_mul]; omega) (by rw [Nat.succ_mul]; omega)

/-! ## Days -/

def daysBeforeMonth (year month : Nat) : Nat := ∑ m ∈ Finset.Ico 1 month, daysInMonth year m

def daysBeforeYear (year : Nat) : Nat := ∑ y ∈ Finset.Ico 1 year, ∑ m ∈ Finset.Icc 1 12, daysInMonth y m

/-- Days before a date, the first being `0001-01-01`. -/
def countDays (year month day : Nat) : Nat := daysBeforeYear year + (daysBeforeMonth year month + (day - 1))

theorem daysBeforeMonth_mono (year : Nat) : Monotone (daysBeforeMonth year) := fun _ _ h =>
  Finset.sum_le_sum_of_subset (Finset.Ico_subset_Ico_right h)

theorem daysBeforeYear_mono : Monotone daysBeforeYear := fun _ _ h =>
  Finset.sum_le_sum_of_subset (Finset.Ico_subset_Ico_right h)

theorem daysBeforeMonth_succ (year : Nat) {month : Nat} (h : 1 ≤ month) :
    daysBeforeMonth year (month + 1) = daysBeforeMonth year month + daysInMonth year month :=
  Finset.sum_Ico_succ_top h _

theorem daysBeforeYear_succ {year : Nat} (h : 1 ≤ year) :
    daysBeforeYear (year + 1) = daysBeforeYear year + daysBeforeMonth year 13 := Finset.sum_Ico_succ_top h _

theorem daysBeforeMonth_eq (year : Nat) {month : Nat} (h₁ : 1 ≤ month) (h₁₃ : month ≤ 13) :
    daysBeforeMonth year month =
      if month ≤ 2 then 31 * (month - 1) else (153 * (month - 3) + 2) / 5 + 59 + (isLeap year).toNat := by
  induction month, h₁ using Nat.le_induction with
  | base => rfl
  | succ month h ih =>
    have hlast : month ≤ 12 := by omega
    rw [daysBeforeMonth_succ year h, ih (by omega)]
    unfold daysInMonth
    cases isLeap year <;> interval_cases month <;> rfl

theorem daysBeforeMonth_thirteen (year : Nat) : daysBeforeMonth year 13 = 365 + (isLeap year).toNat := by
  rw [daysBeforeMonth_eq year (by decide) le_rfl]
  rfl

theorem leapDays_succ (n : Nat) :
    (n + 1) / 4 - (n + 1) / 100 + (n + 1) / 400 = n / 4 - n / 100 + n / 400 + (isLeap (n + 1)).toNat := by
  have hle : n / 100 ≤ n / 4 := Nat.div_le_div_left (by decide) (by decide)
  have h₄ : 100 ∣ n + 1 → 4 ∣ n + 1 := Nat.dvd_trans (by decide)
  have h₁₀₀ : 400 ∣ n + 1 → 100 ∣ n + 1 := Nat.dvd_trans (by decide)
  have hleap : isLeap (n + 1) = decide (4 ∣ n + 1 ∧ (100 ∣ n + 1 → 400 ∣ n + 1)) := by
    simp [isLeap, Nat.dvd_iff_mod_eq_zero, imp_iff_not_or]
  rw [Nat.succ_div, Nat.succ_div, Nat.succ_div, hleap]
  by_cases h : 400 ∣ n + 1
  · simp [h, h₁₀₀ h, h₄ (h₁₀₀ h)]
    omega
  · by_cases h' : 100 ∣ n + 1
    · simp [h, h', h₄ h']
    · by_cases h'' : 4 ∣ n + 1 <;> simp [h, h', h'']
      omega

theorem daysBeforeYear_eq (n : Nat) : daysBeforeYear (n + 1) = 365 * n + (n / 4 - n / 100 + n / 400) := by
  induction n with
  | zero => rfl
  | succ n ih =>
    rw [daysBeforeYear_succ (Nat.le_add_left 1 n), ih, daysBeforeMonth_thirteen, leapDays_succ]
    omega

/-- **The arithmetic of day numbers counts the months out.** -/
theorem dayNumber_eq_countDays {year month day : Nat} (hy : 1 ≤ year) (hm : 1 ≤ month) (hm' : month ≤ 12) :
    dayNumber year month day = countDays year month day := by
  obtain ⟨n, rfl⟩ := Nat.exists_eq_add_of_le' hy
  have hleap := leapDays_succ n
  rw [countDays, daysBeforeYear_eq, daysBeforeMonth_eq _ hm (by omega)]
  unfold dayNumber epochShift
  split
  · have hmonth : (153 * (month + 9) + 2) / 5 = 306 + 31 * (month - 1) := by omega
    simp only [hmonth]
    omega
  · dsimp only
    omega

theorem date_lt {year month day : Nat} (hm : 1 ≤ month) (hm' : month ≤ 12) (hd : day ≤ daysInMonth year month)
    (hd' : 1 ≤ day) : daysBeforeMonth year month + (day - 1) < daysBeforeMonth year (month + 1) ∧
      daysBeforeMonth year month + (day - 1) < daysBeforeMonth year 13 := by
  have hnext := daysBeforeMonth_succ year hm
  have hlast : daysBeforeMonth year (month + 1) ≤ daysBeforeMonth year 13 := daysBeforeMonth_mono year (by omega)
  omega

/-! ## Date-times -/

namespace Fields

variable {f g : Fields}

def clock (f : Fields) : Nat :=
  f.hour * perHour + (f.minute * perMinute + (f.second * perSecond + f.micro))

/-- Microseconds before a date-time, its days counted out. -/
def elapsed (f : Fields) : Nat := countDays f.year f.month f.day * perDay + f.clock

def toList (f : Fields) : List Nat := [f.year, f.month, f.day, f.hour, f.minute, f.second, f.micro]

theorem toList_injective : Function.Injective toList := by
  intro f g h
  simp only [toList, List.cons.injEq] at h
  cases f
  cases g
  simp_all

/-- **Microseconds are counted from the calendar.** -/
theorem micros_eq_elapsed (h : f.Valid) : f.micros = f.elapsed := by
  obtain ⟨hy, -, hm, hm', -⟩ := h
  rw [micros, dayNumber_eq_countDays hy hm hm']
  simp only [elapsed, clock, Nat.add_assoc]

theorem clock_lt (h : f.Valid) : f.clock < perDay := by
  obtain ⟨-, -, -, -, -, -, hh, hmin, hs, hu⟩ := h
  simp only [clock, perDay, perHour, perMinute, perSecond] at *
  omega

theorem clock_lt_iff (hf : f.Valid) (hg : g.Valid) : f.clock < g.clock ↔
    [f.hour, f.minute, f.second, f.micro] < [g.hour, g.minute, g.second, g.micro] := by
  obtain ⟨-, -, -, -, -, -, -, hmin, hs, hu⟩ := hf
  obtain ⟨-, -, -, -, -, -, -, hmin', hs', hu'⟩ := hg
  simp only [clock, perHour, perMinute, perSecond] at *
  rw [unit_lt_iff (by omega) (by omega), unit_lt_iff (by omega) (by omega), unit_lt_iff hu hu']
  simp only [List.cons_lt_cons_iff, List.lt_irrefl, and_false, or_false]

theorem countDays_lt_iff (hf : f.Valid) (hg : g.Valid) :
    countDays f.year f.month f.day < countDays g.year g.month g.day ↔
      [f.year, f.month, f.day] < [g.year, g.month, g.day] := by
  obtain ⟨hy, -, hm, hm', hd, hd', -⟩ := hf
  obtain ⟨hy', -, hn, hn', he, he', -⟩ := hg
  obtain ⟨hf₁, hf₂⟩ := date_lt hm hm' hd' hd
  obtain ⟨hg₁, hg₂⟩ := date_lt hn hn' he' he
  rw [countDays, countDays, block_lt_iff daysBeforeYear_mono (by rw [daysBeforeYear_succ hy]; omega)
    (by rw [daysBeforeYear_succ hy']; omega)]
  simp only [List.cons_lt_cons_iff, List.lt_irrefl, and_false, or_false]
  refine or_congr_right (and_congr_right fun hyear => ?_)
  rw [← hyear] at hg₁ ⊢
  rw [block_lt_iff (daysBeforeMonth_mono _) hf₁ hg₁]
  omega

theorem date_eq_of_countDays (hf : f.Valid) (hg : g.Valid)
    (h : countDays f.year f.month f.day = countDays g.year g.month g.day) :
    f.year = g.year ∧ f.month = g.month ∧ f.day = g.day := by
  have hle := mt (countDays_lt_iff hg hf).2 (Nat.not_lt_of_ge h.le)
  have hge := mt (countDays_lt_iff hf hg).2 (Nat.not_lt_of_ge h.ge)
  simpa using le_antisymm (not_lt.1 hle) (not_lt.1 hge)

/-- **A date-time is before another exactly if it is smaller field by field, the year first.** -/
theorem micros_lt_iff (hf : f.Valid) (hg : g.Valid) : f.micros < g.micros ↔ f.toList < g.toList := by
  rw [micros_eq_elapsed hf, micros_eq_elapsed hg, elapsed, elapsed, unit_lt_iff (clock_lt hf) (clock_lt hg),
    clock_lt_iff hf hg]
  have hdays : countDays f.year f.month f.day = countDays g.year g.month g.day ↔
      f.year = g.year ∧ f.month = g.month ∧ f.day = g.day :=
    ⟨date_eq_of_countDays hf hg, fun ⟨hy, hm, hd⟩ => by rw [hy, hm, hd]⟩
  rw [countDays_lt_iff hf hg, hdays]
  simp only [toList, List.cons_lt_cons_iff, and_or_left, and_assoc, or_assoc, List.lt_irrefl, and_false, or_false]

theorem micros_lt_span (h : f.Valid) : f.micros < span := by
  have hclock := clock_lt h
  rw [micros_eq_elapsed h, elapsed]
  obtain ⟨hy, hy', hm, hm', hd, hd', -⟩ := h
  have hdate := (date_lt hm hm' hd' hd).2
  have hyear : daysBeforeYear (f.year + 1) ≤ daysBeforeYear 10000 := daysBeforeYear_mono (by omega)
  have hend : daysBeforeYear 10000 = dayCount := daysBeforeYear_eq 9999
  rw [daysBeforeYear_succ hy] at hyear
  have hdays : countDays f.year f.month f.day + 1 ≤ dayCount := by
    unfold countDays
    omega
  calc countDays f.year f.month f.day * perDay + f.clock
      < (countDays f.year f.month f.day + 1) * perDay := by rw [Nat.succ_mul]; omega
    _ ≤ span := Nat.mul_le_mul_right perDay hdays

/-- **A valid date-time is the one its microseconds give.** -/
theorem ofMicros_micros (h : f.Valid) : ofMicros f.micros = f := by
  have hv := ofMicros_valid (micros_lt_span h)
  have hle := mt (micros_lt_iff hv h).2 (by rw [micros_ofMicros]; exact Nat.lt_irrefl _)
  have hge := mt (micros_lt_iff h hv).2 (by rw [micros_ofMicros]; exact Nat.lt_irrefl _)
  exact toList_injective (le_antisymm (not_lt.1 hge) (not_lt.1 hle))

end Fields

end MailboxSync.Calendar
