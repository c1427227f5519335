import WallaBMC.Library.Gregorian
import WallaBMC.Library.Scan
import WallaBMC.Storage.Nvs

/-! The `DateTime` of the manager: `get_iso_time` writes it, `time_iso_to_ts` reads it, and what is read sets
the RTC and the clock. -/

namespace WallaBMC.Time

open Library Library.Scan Storage

structure Tm where
  year : ℤ
  mon : ℤ
  mday : ℤ
  hour : ℤ
  min : ℤ
  sec : ℤ
  deriving DecidableEq

structure Timespec where
  sec : ℤ
  nsec : ℤ
  deriving DecidableEq

/-- `gmtime` and `timeutil_timegm`. -/
structure Calendar where
  gmtime : ℤ → Tm
  timegm : Tm → ℤ

/-- From 1970 up to the end of year 9999. -/
def InRange (t : ℤ) : Prop := 0 ≤ t ∧ t < 253402300800

structure Tm.Proper (tm : Tm) : Prop where
  year : 70 ≤ tm.year ∧ tm.year < 8100
  mon : 0 ≤ tm.mon ∧ tm.mon < 12
  mday : 1 ≤ tm.mday ∧ tm.mday < 32
  hour : 0 ≤ tm.hour ∧ tm.hour < 24
  min : 0 ≤ tm.min ∧ tm.min < 60
  sec : 0 ≤ tm.sec ∧ tm.sec < 60

structure Calendar.Correct (cal : Calendar) : Prop where
  proper : ∀ t, InRange t → (cal.gmtime t).Proper
  inverse : ∀ t, InRange t → cal.timegm (cal.gmtime t) = t

def isoText (tm : Tm) (rest : List Char) : List Char :=
  Nat.toDigits 10 (tm.year + 1900).toNat ++ '-' :: (padded 2 (tm.mon + 1).toNat ++ '-' ::
    (padded 2 tm.mday.toNat ++ 'T' :: (padded 2 tm.hour.toNat ++ ':' ::
      (padded 2 tm.min.toNat ++ ':' :: (padded 2 tm.sec.toNat ++ rest)))))

/-- `strftime` with `"%Y-%m-%dT%H:%M:%SZ"`; a text that does not fit is not written. -/
def strftime (size : ℕ) (str : List Char) (tm : Tm) : List Char :=
  if (isoText tm ['Z']).length < size then isoText tm ['Z'] else str

/-- `str` is what the static buffer holds. -/
def getIsoTime (cal : Calendar) (str : List Char) (t : ℤ) : List Char :=
  strftime 30 str (cal.gmtime t)

/-- `"%d-%d-%dT%d:%d:%d.%3dZ"` -/
def isoFormat : List Directive :=
  [.int none, .lit '-', .int none, .lit '-', .int none, .lit 'T', .int none, .lit ':', .int none,
    .lit ':', .int none, .lit '.', .int (some 3), .lit 'Z']

def milliseconds (frac : ℤ) : ℤ :=
  if frac < 10 then frac * 100 else if frac < 100 then frac * 10 else frac

def timeIsoToTs (cal : Calendar) (str : List Char) : Except ℤ Timespec :=
  match sscanf isoFormat str with
  | [year, month, day, hour, minute, second, frac] =>
    if year < 1900 then .error (-einval)
    else if month < 1 then .error (-einval)
    else
      let epochSec := cal.timegm ⟨year - 1900, month - 1, day, hour, minute, second⟩
      if epochSec = -1 then .error (-einval)
      else .ok ⟨epochSec, milliseconds frac * 1000000⟩
  | _ => .error (-einval)

structure Clock where
  rtc : Option (Tm × ℤ)
  realtime : Timespec
  deriving DecidableEq

structure ClockFaults where
  deviceIsReady : Bool
  setTime : ℤ
  settime : ℤ

def rtcSetFromTimespec (cal : Calendar) (faults : ClockFaults) (ts : Timespec) (c : Clock) : ℤ × Clock :=
  if faults.deviceIsReady = false then (-enodev, c)
  else if faults.setTime < 0 then (faults.setTime, c)
  else (0, { c with rtc := some (cal.gmtime ts.sec, ts.nsec) })

def timeSetFromIsoStr (cal : Calendar) (faults : ClockFaults) (str : List Char) (c : Clock) : ℤ × Clock :=
  match timeIsoToTs cal str with
  | .error ret => (ret, c)
  | .ok ts =>
    let (ret, c) := rtcSetFromTimespec cal faults ts c
    if ret ≠ 0 then (ret, c)
    else if faults.settime ≠ 0 then (faults.settime, c)
    else (0, { c with realtime := ts })

/-- What GET returns for `t` is accepted by PATCH, as the second it was written for. -/
def RoundTrips (cal : Calendar) (str : List Char) (t : ℤ) : Prop :=
  ∃ ts, timeIsoToTs cal (getIsoTime cal str t) = .ok ts ∧ ts.sec = t

variable {cal : Calendar} {tm : Tm} {t n : ℤ} {str rest : List Char} {fmt : List Directive}

lemma sscanf_year (h : 0 ≤ n) (hrest : Apart rest) :
    sscanf (.int none :: fmt) (Nat.toDigits 10 n.toNat ++ rest) = n :: sscanf fmt rest := by
  have hdigits : ∀ c ∈ Nat.toDigits 10 n.toNat, c.isDigit = true :=
    fun c hc => Nat.isDigit_of_mem_toDigits (by norm_num) le_rfl hc
  have hscan : scanInt none (Nat.toDigits 10 n.toNat ++ rest) = _ :=
    scanInt_digits Nat.toDigits_ne_nil hdigits hrest (by simp)
  rw [Nat.ofDigitChars_ten_toDigits] at hscan
  rw [sscanf_int hscan, Int.toNat_of_nonneg h]

lemma sscanf_two (h : 0 ≤ n) (hn : n < 100) (hrest : Apart rest) :
    sscanf (.int none :: fmt) (padded 2 n.toNat ++ rest) = n :: sscanf fmt rest := by
  have hlt : n.toNat < 10 ^ 2 := by omega
  have hscan : scanInt none (padded 2 n.toNat ++ rest) = _ :=
    scanInt_padded (by norm_num) hlt hrest (by simp)
  rw [sscanf_int hscan, Int.toNat_of_nonneg h]

lemma sscanf_isoText (h : tm.Proper) (hrest : Apart rest) :
    sscanf isoFormat (isoText tm rest) =
      (tm.year + 1900) :: (tm.mon + 1) :: tm.mday :: tm.hour :: tm.min :: tm.sec ::
        sscanf [.lit '.', .int (some 3), .lit 'Z'] rest := by
  obtain ⟨hyear, hmon, hmday, hhour, hmin, hsec⟩ := h
  have hdash : ∀ rest, Apart ('-' :: rest) := fun rest => apart_cons (by decide)
  have hT : ∀ rest, Apart ('T' :: rest) := fun rest => apart_cons (by decide)
  have hcolon : ∀ rest, Apart (':' :: rest) := fun rest => apart_cons (by decide)
  rw [isoFormat, isoText, sscanf_year (by omega) (hdash _), sscanf_lit,
    sscanf_two (by omega) (by omega) (hdash _), sscanf_lit,
    sscanf_two (by omega) (by omega) (hT _), sscanf_lit,
    sscanf_two (by omega) (by omega) (hcolon _), sscanf_lit,
    sscanf_two (by omega) (by omega) (hcolon _), sscanf_lit,
    sscanf_two (by omega) (by omega) hrest]

lemma isoText_length (h : tm.Proper) (rest : List Char) :
    (isoText tm rest).length ≤ 19 + rest.length := by
  have hyear : (Nat.toDigits 10 (tm.year + 1900).toNat).length ≤ 4 := by
    rw [Nat.length_toDigits_le_iff (by norm_num) (by norm_num)]
    have hlt := h.year.2
    omega
  simp only [isoText, List.length_append, List.length_cons, padded_length]
  omega

lemma getIsoTime_eq (h : (cal.gmtime t).Proper) :
    getIsoTime cal str t = isoText (cal.gmtime t) ['Z'] := by
  have hlength := isoText_length h ['Z']
  rw [getIsoTime, strftime, if_pos (hlength.trans_lt (by norm_num))]

/-- The text has no fraction, so six values are converted and not seven. -/
lemma timeIsoToTs_written (h : (cal.gmtime t).Proper) :
    timeIsoToTs cal (getIsoTime cal str t) = .error (-einval) := by
  have hZ : Apart ['Z'] := apart_cons (by decide)
  have hscan := sscanf_isoText h hZ
  rw [sscanf_mismatch (by decide)] at hscan
  rw [getIsoTime_eq h, timeIsoToTs, hscan]

theorem datetime_not_read_back (h : cal.Correct) (str : List Char) (ht : InRange t) :
    ¬ RoundTrips cal str t := by
  rintro ⟨ts, hread, -⟩
  rw [timeIsoToTs_written (h.proper t ht)] at hread
  cases hread

/-- With one digit of a fraction the same text is accepted. -/
theorem timeIsoToTs_fraction (h : cal.Correct) (ht : InRange t) {d : ℕ} (hd : d < 10) :
    timeIsoToTs cal (isoText (cal.gmtime t) ('.' :: (padded 1 d ++ ['Z']))) =
      .ok ⟨t, d * 100000000⟩ := by
  have hproper := h.proper t ht
  have hfrac : scanInt (some 3) (padded 1 d ++ ['Z']) = some ((d : ℤ), ['Z']) :=
    scanInt_padded (by norm_num) (by simpa using hd) (apart_cons (by decide)) (by simp)
  have hdot : Apart ('.' :: (padded 1 d ++ ['Z'])) := apart_cons (by decide)
  have hscan := sscanf_isoText hproper hdot
  rw [sscanf_lit, sscanf_int hfrac, sscanf_lit, sscanf] at hscan
  have htm : (⟨(cal.gmtime t).year + 1900 - 1900, (cal.gmtime t).mon + 1 - 1, (cal.gmtime t).mday,
      (cal.gmtime t).hour, (cal.gmtime t).min, (cal.gmtime t).sec⟩ : Tm) = cal.gmtime t := by
    rw [add_sub_cancel_right, add_sub_cancel_right]
  have hyear : ¬ (cal.gmtime t).year + 1900 < 1900 := by
    have hlow := hproper.year.1
    omega
  have hmonth : ¬ (cal.gmtime t).mon + 1 < 1 := by
    have hlow := hproper.mon.1
    omega
  have hepoch : ¬ t = -1 := by
    have hlow := ht.1
    omega
  have hdigit : (d : ℤ) < 10 := by exact_mod_cast hd
  simp only [timeIsoToTs, hscan, if_neg hyear, if_neg hmonth, htm, h.inverse t ht, if_neg hepoch,
    milliseconds, if_pos hdigit]
  have hnsec : (d : ℤ) * 100 * 1000000 = d * 100000000 := by ring
  rw [hnsec]

section Gregorian

open Gregorian

/-- The days from year 1 to 1970. -/
def epochDay : ℕ := 719162

def gregorian : Calendar where
  gmtime t :=
    let d := epochDay + (t / 86400).toNat
    ⟨year d - 1900, month d, dayOfMonth d, t % 86400 / 3600, t % 3600 / 60, t % 60⟩
  timegm tm :=
    ((dayNumber (tm.year + 1900).toNat tm.mon.toNat tm.mday.toNat : ℤ) - epochDay) * 86400 +
      tm.hour * 3600 + tm.min * 60 + tm.sec

lemma gregorian_proper (ht : InRange t) : (gregorian.gmtime t).Proper := by
  obtain ⟨hlow, hhigh⟩ := ht
  have hstart : yearStart 1969 ≤ epochDay + (t / 86400).toNat := Nat.le_add_right ..
  have hend : epochDay + (t / 86400).toNat < yearStart 9999 := by
    have hdays : yearStart 9999 = 3652059 := rfl
    rw [hdays, epochDay]
    omega
  have hfirst := lt_year hstart
  have hlast := year_le hend
  have hmonth := month_le (epochDay + (t / 86400).toNat)
  have hday := dayOfMonth_le (epochDay + (t / 86400).toNat)
  have hpos : 1 ≤ dayOfMonth (epochDay + (t / 86400).toNat) := Nat.le_add_left ..
  constructor <;> simp only [gregorian] <;> omega

lemma gregorian_inverse (ht : InRange t) : gregorian.timegm (gregorian.gmtime t) = t := by
  have hlow := ht.1
  have hdate := dayNumber_date (epochDay + (t / 86400).toNat)
  simp only [gregorian, sub_add_cancel, Int.toNat_natCast, hdate]
  push_cast
  omega

theorem gregorian_correct : gregorian.Correct := ⟨fun _ => gregorian_proper, fun _ => gregorian_inverse⟩

theorem datetime_not_read_back_2026 : ¬ RoundTrips gregorian [] 1767225600 :=
  datetime_not_read_back gregorian_correct [] ⟨by decide, by decide⟩

theorem datetime_epoch_refused :
    getIsoTime gregorian [] 0 = "1970-01-01T00:00:00Z".toList ∧
      timeIsoToTs gregorian (getIsoTime gregorian [] 0) = .error (-einval) ∧
      ¬ RoundTrips gregorian [] 0 := by
  have htext : getIsoTime gregorian [] 0 = "1970-01-01T00:00:00Z".toList := by decide +kernel
  have hread : timeIsoToTs gregorian (getIsoTime gregorian [] 0) = .error (-einval) := by
    rw [htext]
    decide +kernel
  refine ⟨htext, hread, ?_⟩
  rintro ⟨ts, hok, -⟩
  rw [hread] at hok
  cases hok

end Gregorian

end WallaBMC.Time
