import Mathlib.Tactic

/-! The Gregorian calendar carried back to 1 January of year 1, which is day 0. -/

namespace WallaBMC.Library.Gregorian

/-- The days before year `k + 1`. -/
def yearStart (k : ℕ) : ℕ := 365 * k + k / 4 + k / 400 - k / 100

def isLeap (year : ℕ) : Bool := year % 4 = 0 ∧ (year % 100 ≠ 0 ∨ year % 400 = 0)

/-- The days of the year before month `m`, counted from 0. -/
def monthStart (leap : Bool) : ℕ → ℕ
  | 0 => 0
  | 1 => 31
  | 2 => 59 + leap.toNat
  | 3 => 90 + leap.toNat
  | 4 => 120 + leap.toNat
  | 5 => 151 + leap.toNat
  | 6 => 181 + leap.toNat
  | 7 => 212 + leap.toNat
  | 8 => 243 + leap.toNat
  | 9 => 273 + leap.toNat
  | 10 => 304 + leap.toNat
  | 11 => 334 + leap.toNat
  | _ => 365 + leap.toNat

def yearsBefore (d : ℕ) : ℕ := Nat.findGreatest (fun k => yearStart k ≤ d) (d / 365)

def year (d : ℕ) : ℕ := yearsBefore d + 1

def dayOfYear (d : ℕ) : ℕ := d - yearStart (yearsBefore d)

/-- Counted from 0. -/
def month (d : ℕ) : ℕ :=
  Nat.findGreatest (fun m => monthStart (isLeap (year d)) m ≤ dayOfYear d) 11

def dayOfMonth (d : ℕ) : ℕ := dayOfYear d - monthStart (isLeap (year d)) (month d) + 1

/-- `month` is counted from 0. -/
def monthLength (year month : ℕ) : ℕ :=
  monthStart (isLeap year) (month + 1) - monthStart (isLeap year) month

def dayNumber (year month day : ℕ) : ℕ :=
  yearStart (year - 1) + monthStart (isLeap year) month + (day - 1)

variable (d : ℕ)

lemma succ_div_of_mod {k n : ℕ} (h : (k + 1) % n = 0) : (k + 1) / n = k / n + 1 :=
  Nat.succ_div_of_dvd (Nat.dvd_of_mod_eq_zero h)

lemma succ_div_of_mod_ne {k n : ℕ} (h : (k + 1) % n ≠ 0) : (k + 1) / n = k / n :=
  Nat.succ_div_of_not_dvd (fun hdvd => h (Nat.mod_eq_zero_of_dvd hdvd))

lemma yearStart_succ (k : ℕ) : yearStart (k + 1) = yearStart k + 365 + (isLeap (k + 1)).toNat := by
  have hcenturies : k / 100 ≤ k / 4 := by omega
  rw [yearStart, yearStart]
  by_cases hfour : (k + 1) % 4 = 0
  · by_cases hhundred : (k + 1) % 100 = 0
    · by_cases hfourHundred : (k + 1) % 400 = 0
      · have hleap : isLeap (k + 1) = true := by simp [isLeap, hfour, hfourHundred]
        rw [hleap, Bool.toNat_true, succ_div_of_mod hfour, succ_div_of_mod hhundred,
          succ_div_of_mod hfourHundred]
        omega
      · have hcommon : isLeap (k + 1) = false := by simp [isLeap, hhundred, hfourHundred]
        rw [hcommon, Bool.toNat_false, succ_div_of_mod hfour, succ_div_of_mod hhundred,
          succ_div_of_mod_ne hfourHundred]
        omega
    · have hleap : isLeap (k + 1) = true := by simp [isLeap, hfour, hhundred]
      have hfourHundred : (k + 1) % 400 ≠ 0 := by omega
      rw [hleap, Bool.toNat_true, succ_div_of_mod hfour, succ_div_of_mod_ne hhundred,
        succ_div_of_mod_ne hfourHundred]
      omega
  · have hcommon : isLeap (k + 1) = false := by simp [isLeap, hfour]
    have hhundred : (k + 1) % 100 ≠ 0 := by omega
    have hfourHundred : (k + 1) % 400 ≠ 0 := by omega
    rw [hcommon, Bool.toNat_false, succ_div_of_mod_ne hfour, succ_div_of_mod_ne hhundred,
      succ_div_of_mod_ne hfourHundred]
    omega

lemma yearStart_mono : Monotone yearStart := by
  apply monotone_nat_of_le_succ
  intro k
  rw [yearStart_succ]
  omega

lemma yearStart_le : yearStart (yearsBefore d) ≤ d :=
  Nat.findGreatest_spec (P := fun k => yearStart k ≤ d) (Nat.zero_le _) (Nat.zero_le _)

lemma lt_yearStart_succ : d < yearStart (yearsBefore d + 1) := by
  by_cases hbound : yearsBefore d + 1 ≤ d / 365
  · exact not_le.mp (Nat.findGreatest_is_greatest (P := fun k => yearStart k ≤ d)
      (Nat.lt_succ_self _) hbound)
  · have hlong : 365 * (yearsBefore d + 1) ≤ yearStart (yearsBefore d + 1) := by
      rw [yearStart]
      omega
    omega

lemma dayOfYear_lt : dayOfYear d < monthStart (isLeap (year d)) 12 := by
  have htwelve : monthStart (isLeap (year d)) 12 = 365 + (isLeap (year d)).toNat := rfl
  have hlow := yearStart_le d
  have hhigh := lt_yearStart_succ d
  rw [yearStart_succ] at hhigh
  rw [htwelve, dayOfYear, year]
  omega

lemma monthStart_le : monthStart (isLeap (year d)) (month d) ≤ dayOfYear d :=
  Nat.findGreatest_spec (P := fun m => monthStart (isLeap (year d)) m ≤ dayOfYear d)
    (Nat.zero_le _) (Nat.zero_le _)

lemma month_le : month d ≤ 11 := Nat.findGreatest_le 11

lemma lt_monthStart_succ : dayOfYear d < monthStart (isLeap (year d)) (month d + 1) := by
  rcases (month_le d).lt_or_eq with hlt | hlast
  · exact not_le.mp (Nat.findGreatest_is_greatest
      (P := fun m => monthStart (isLeap (year d)) m ≤ dayOfYear d) (Nat.lt_succ_self _) hlt)
  · rw [hlast]
    exact dayOfYear_lt d

lemma monthStart_succ_le (leap : Bool) {m : ℕ} (hm : m ≤ 11) :
    monthStart leap (m + 1) ≤ monthStart leap m + 31 := by
  have hleap := leap.toNat_le
  interval_cases m <;> simp only [monthStart] <;> omega

lemma dayOfMonth_le : dayOfMonth d ≤ 31 := by
  have hnext := lt_monthStart_succ d
  have hlong := monthStart_succ_le (isLeap (year d)) (month_le d)
  rw [dayOfMonth]
  omega

theorem dayNumber_date : dayNumber (year d) (month d) (dayOfMonth d) = d := by
  have hyear := yearStart_le d
  have hmonth := monthStart_le d
  rw [dayNumber, dayOfMonth, year, Nat.add_sub_cancel, Nat.add_sub_cancel]
  rw [year] at hmonth
  rw [dayOfYear] at hmonth ⊢
  omega

variable {d : ℕ} {k : ℕ}

lemma lt_year (h : yearStart k ≤ d) : k < year d := by
  have hbound : k ≤ d / 365 := by
    rw [yearStart] at h
    omega
  exact Nat.lt_succ_of_le (Nat.le_findGreatest hbound h)

lemma year_le (h : d < yearStart k) : year d ≤ k := by
  by_contra hlt
  have hle := yearStart_mono (Nat.le_of_lt_succ (not_le.mp hlt))
  exact absurd h (not_lt.mpr (hle.trans (yearStart_le d)))

example : (year 719162, month 719162, dayOfMonth 719162) = (1970, 0, 1) := by decide +kernel

end WallaBMC.Library.Gregorian
