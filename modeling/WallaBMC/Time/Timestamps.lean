import WallaBMC.Library.Numerals
import WallaBMC.Time.Iso

/-! The texts that `time_iso_to_ts` accepts and what it makes of them, against the timestamps it is for. -/

namespace WallaBMC.Time

open Library Library.Scan Library.Gregorian Storage

/-- `YYYY-MM-DDThh:mm:ss.fZ` -/
structure Timestamp where
  year : Digits
  month : Digits
  day : Digits
  hour : Digits
  minute : Digits
  second : Digits
  frac : Digits
  year_length : year.chars.length = 4
  month_length : month.chars.length = 2
  day_length : day.chars.length = 2
  hour_length : hour.chars.length = 2
  minute_length : minute.chars.length = 2
  second_length : second.chars.length = 2
  frac_length : frac.chars.length ≤ 3
  month_range : 1 ≤ month.value ∧ month.value ≤ 12
  day_range : 1 ≤ day.value ∧ day.value ≤ monthLength year.value (month.value - 1)
  hour_le : hour.value ≤ 23
  minute_le : minute.value ≤ 59
  second_le : second.value ≤ 60

def Timestamp.text (t : Timestamp) : List Char :=
  t.year.chars ++ '-' :: (t.month.chars ++ '-' :: (t.day.chars ++ 'T' :: (t.hour.chars ++ ':' ::
    (t.minute.chars ++ ':' :: (t.second.chars ++ '.' :: (t.frac.chars ++ ['Z']))))))

def Timestamp.unixTime (t : Timestamp) : ℤ :=
  ((dayNumber t.year.value (t.month.value - 1) t.day.value : ℤ) - epochDay) * 86400 +
    t.hour.value * 3600 + t.minute.value * 60 + t.second.value

/-- The digits behind the point as a part of a second. -/
def Timestamp.nanoseconds (t : Timestamp) : ℤ := t.frac.value * 10 ^ (9 - t.frac.chars.length)

/-- Any text that gives all seven conversions. -/
@[ext]
structure Reading where
  year : Numeral
  month : Numeral
  day : Numeral
  hour : Numeral
  minute : Numeral
  second : Numeral
  frac : Numeral
  tail : List Char
  frac_fits : frac.Fits (some 3)
  frac_ends : frac.Ends (some 3) tail

def Reading.text (r : Reading) : List Char :=
  r.year.text ++ '-' :: (r.month.text ++ '-' :: (r.day.text ++ 'T' :: (r.hour.text ++ ':' ::
    (r.minute.text ++ ':' :: (r.second.text ++ '.' :: (r.frac.text ++ r.tail))))))

def Reading.numerals (r : Reading) : List Numeral :=
  [r.year, r.month, r.day, r.hour, r.minute, r.second, r.frac]

def Reading.tm (r : Reading) : Tm :=
  ⟨r.year.value - 1900, r.month.value - 1, r.day.value, r.hour.value, r.minute.value, r.second.value⟩

def Reading.timespec (cal : Calendar) (r : Reading) : Timespec :=
  ⟨cal.timegm r.tm, milliseconds r.frac.value * 1000000⟩

/-- The checks behind the conversion. -/
structure Reading.Passes (cal : Calendar) (r : Reading) : Prop where
  year : 1900 ≤ r.year.value
  month : 1 ≤ r.month.value
  epoch : cal.timegm r.tm ≠ -1

inductive Reading.Deviates (r : Reading) : Prop
  | blank (h : ∃ l ∈ r.numerals, l.blanks ≠ [])
  | signed (h : ∃ l ∈ r.numerals, l.signs ≠ [])
  | year (h : r.year.digits.chars.length ≠ 4)
  | twoDigits (h : ∃ l ∈ [r.month, r.day, r.hour, r.minute, r.second], l.digits.chars.length ≠ 2)
  | month (h : 12 < r.month.value)
  | day (h : r.day.value < 1 ∨
      (monthLength r.year.digits.value (r.month.digits.value - 1) : ℤ) < r.day.value)
  | hour (h : 23 < r.hour.value)
  | minute (h : 59 < r.minute.value)
  | second (h : 60 < r.second.value)
  | tail (h : r.tail ≠ ['Z'])

def Timestamp.reading (t : Timestamp) : Reading where
  year := t.year.numeral
  month := t.month.numeral
  day := t.day.numeral
  hour := t.hour.numeral
  minute := t.minute.numeral
  second := t.second.numeral
  frac := t.frac.numeral
  tail := ['Z']
  frac_fits := by
    rintro _ ⟨⟩
    rw [Digits.numeral_length]
    exact t.frac_length
  frac_ends := .inl (apart_cons rfl)

/-- `timeutil_timegm` on the timestamps from 1970 on. -/
def Calendar.CountsSeconds (cal : Calendar) : Prop :=
  ∀ t : Timestamp, 1970 ≤ t.year.value → cal.timegm t.reading.tm = t.unixTime

variable {cal : Calendar} {str : List Char} {ts : Timespec} {r r' : Reading} {t : Timestamp}

lemma Timestamp.reading_text (t : Timestamp) : t.reading.text = t.text := rfl

theorem Reading.text_injective (h : r.text = r'.text) : r = r' := by
  obtain ⟨hyear, h⟩ := Numeral.unique_lit rfl h
  obtain ⟨hmonth, h⟩ := Numeral.unique_lit rfl h
  obtain ⟨hday, h⟩ := Numeral.unique_lit rfl h
  obtain ⟨hhour, h⟩ := Numeral.unique_lit rfl h
  obtain ⟨hminute, h⟩ := Numeral.unique_lit rfl h
  obtain ⟨hsecond, h⟩ := Numeral.unique_lit rfl h
  obtain ⟨hfrac, htail⟩ := Numeral.unique h r.frac_fits r.frac_ends r'.frac_fits r'.frac_ends
  cases r
  cases r'
  congr

theorem sscanf_reading {year month day hour minute second frac : ℤ} :
    sscanf isoFormat str = [year, month, day, hour, minute, second, frac] ↔
      ∃ r : Reading, r.text = str ∧
        r.numerals.map Numeral.value = [year, month, day, hour, minute, second, frac] := by
  simp only [isoFormat]
  rw [sscanf_int_lit rfl]
  constructor
  · rintro ⟨year, _, rfl, rfl, hmonth⟩
    obtain ⟨month, _, rfl, rfl, hday⟩ := (sscanf_int_lit rfl).mp hmonth
    obtain ⟨day, _, rfl, rfl, hhour⟩ := (sscanf_int_lit rfl).mp hday
    obtain ⟨hour, _, rfl, rfl, hminute⟩ := (sscanf_int_lit rfl).mp hhour
    obtain ⟨minute, _, rfl, rfl, hsecond⟩ := (sscanf_int_lit rfl).mp hminute
    obtain ⟨second, _, rfl, rfl, hfrac⟩ := (sscanf_int_lit rfl).mp hsecond
    obtain ⟨frac, tail, rfl, rfl, hfits, hends, -⟩ := sscanf_int_iff.mp hfrac
    exact ⟨⟨year, month, day, hour, minute, second, frac, tail, hfits, hends⟩, rfl, rfl⟩
  · rintro ⟨r, rfl, h⟩
    have hfrac : sscanf [.int (some 3), .lit 'Z'] (r.frac.text ++ r.tail) = [r.frac.value] := by
      refine sscanf_int_iff.mpr ⟨r.frac, r.tail, rfl, rfl, r.frac_fits, r.frac_ends, ?_⟩
      cases r.tail with
      | nil => rfl
      | cons c tail => simp [sscanf]
    simp only [Reading.numerals, List.map_cons, List.map_nil, List.cons.injEq, and_true] at h
    obtain ⟨rfl, rfl, rfl, rfl, rfl, rfl, rfl⟩ := h
    refine ⟨r.year, _, rfl, rfl, ?_⟩
    refine (sscanf_int_lit rfl).mpr ⟨r.month, _, rfl, rfl, ?_⟩
    refine (sscanf_int_lit rfl).mpr ⟨r.day, _, rfl, rfl, ?_⟩
    refine (sscanf_int_lit rfl).mpr ⟨r.hour, _, rfl, rfl, ?_⟩
    refine (sscanf_int_lit rfl).mpr ⟨r.minute, _, rfl, rfl, ?_⟩
    exact (sscanf_int_lit rfl).mpr ⟨r.second, _, rfl, rfl, hfrac⟩

theorem timeIsoToTs_eq_ok :
    timeIsoToTs cal str = .ok ts ↔ ∃ r : Reading, r.text = str ∧ r.Passes cal ∧ ts = r.timespec cal := by
  constructor
  · intro h
    rw [timeIsoToTs] at h
    split at h
    · rename_i year month day hour minute second frac hscan
      obtain ⟨r, htext, hvalues⟩ := sscanf_reading.mp hscan
      simp only [Reading.numerals, List.map_cons, List.map_nil, List.cons.injEq, and_true] at hvalues
      obtain ⟨rfl, rfl, rfl, rfl, rfl, rfl, rfl⟩ := hvalues
      dsimp only at h
      split_ifs at h with hyear hmonth hepoch
      exact ⟨r, htext, ⟨not_lt.mp hyear, not_lt.mp hmonth, hepoch⟩, (Except.ok.inj h).symm⟩
    · cases h
  · rintro ⟨r, rfl, hpasses, rfl⟩
    have hepoch := hpasses.epoch
    simp only [Reading.tm] at hepoch
    have hscan := sscanf_reading.mpr ⟨r, rfl, rfl⟩
    simp only [timeIsoToTs, hscan, if_neg (not_lt.mpr hpasses.year), if_neg (not_lt.mpr hpasses.month),
      if_neg hepoch]
    rfl

lemma timeIsoToTs_error {ret : ℤ} (h : timeIsoToTs cal str = .error ret) : ret = -einval := by
  rw [timeIsoToTs] at h
  split at h
  · dsimp only at h
    split_ifs at h <;> exact (Except.error.inj h).symm
  · exact (Except.error.inj h).symm

/-- The scale goes by the value, so zeros in front of a later digit are lost. -/
lemma milliseconds_eq_iff {ds : Digits} (h : ds.chars.length ≤ 3) :
    milliseconds ds.value * 1000000 = ds.value * 10 ^ (9 - ds.chars.length) ↔
      ds.chars.length = 1 ∨ ds.chars.head? ≠ some '0' ∨ ∀ c ∈ ds.chars, c = '0' := by
  obtain ⟨chars, hne, hdigit⟩ := ds
  rcases chars with _ | ⟨a, _ | ⟨b, _ | ⟨c, _ | ⟨d, chars⟩⟩⟩⟩
  · exact absurd rfl hne
  · obtain ⟨x, hx, ha, -⟩ := exists_digit (hdigit a (by simp))
    have hvalue : Nat.ofDigitChars 10 [a] 0 = x := by
      rw [Nat.ofDigitChars_cons, Nat.ofDigitChars_nil, ha, mul_zero, zero_add]
    simp only [Digits.value, hvalue, List.length_singleton, true_or, iff_true]
    rw [milliseconds, if_pos (by omega)]
    omega
  · obtain ⟨x, hx, ha, hzero⟩ := exists_digit (hdigit a (by simp))
    obtain ⟨y, hy, hb, hzero'⟩ := exists_digit (hdigit b (by simp))
    have hvalue : Nat.ofDigitChars 10 [a, b] 0 = 10 * x + y := by
      rw [Nat.ofDigitChars_cons, Nat.ofDigitChars_cons, Nat.ofDigitChars_nil, ha, hb, mul_zero, zero_add]
    have hall : (∀ c ∈ [a, b], c = '0') ↔ x = 0 ∧ y = 0 := by simp [hzero, hzero']
    simp only [Digits.value, hvalue, hall, List.length_cons, List.length_nil, List.head?_cons, ne_eq,
      Option.some.injEq, hzero, milliseconds]
    omega
  · obtain ⟨x, hx, ha, hzero⟩ := exists_digit (hdigit a (by simp))
    obtain ⟨y, hy, hb, hzero'⟩ := exists_digit (hdigit b (by simp))
    obtain ⟨z, hz, hc, hzero''⟩ := exists_digit (hdigit c (by simp))
    have hvalue : Nat.ofDigitChars 10 [a, b, c] 0 = 10 * (10 * x + y) + z := by
      rw [Nat.ofDigitChars_cons, Nat.ofDigitChars_cons, Nat.ofDigitChars_cons, Nat.ofDigitChars_nil, ha, hb, hc,
        mul_zero, zero_add]
    have hall : (∀ d ∈ [a, b, c], d = '0') ↔ x = 0 ∧ y = 0 ∧ z = 0 := by simp [hzero, hzero', hzero'']
    simp only [Digits.value, hvalue, hall, List.length_cons, List.length_nil, List.head?_cons, ne_eq,
      Option.some.injEq, hzero, milliseconds]
    omega
  · simp only [List.length_cons] at h
    omega

lemma Timestamp.unixTime_nonneg (hyear : 1970 ≤ t.year.value) : 0 ≤ t.unixTime := by
  have hepoch : epochDay = yearStart 1969 := rfl
  have hstart : yearStart 1969 ≤ yearStart (t.year.value - 1) := yearStart_mono (by omega)
  have hday : yearStart (t.year.value - 1) ≤ dayNumber t.year.value (t.month.value - 1) t.day.value :=
    (Nat.le_add_right _ _).trans (Nat.le_add_right _ _)
  rw [unixTime]
  omega

lemma Timestamp.reading_passes (h : cal.CountsSeconds) (hyear : 1970 ≤ t.year.value) : t.reading.Passes cal := by
  have hmonth := t.month_range.1
  constructor
  · have hvalue : t.reading.year.value = t.year.value := t.year.numeral_value
    omega
  · have hvalue : t.reading.month.value = t.month.value := t.month.numeral_value
    omega
  · have hnonneg := t.unixTime_nonneg hyear
    rw [h t hyear]
    omega

lemma timeIsoToTs_timestamp (h : cal.CountsSeconds) (hyear : 1970 ≤ t.year.value) :
    timeIsoToTs cal t.text = .ok ⟨t.unixTime, milliseconds t.frac.value * 1000000⟩ := by
  have hfrac : t.reading.frac.value = t.frac.value := t.frac.numeral_value
  refine timeIsoToTs_eq_ok.mpr ⟨t.reading, t.reading_text, t.reading_passes h hyear, ?_⟩
  rw [Reading.timespec, h t hyear, hfrac]

/-- The fraction is read to its value unless a zero stands in front of another digit of it. -/
theorem timestamp_value_iff (cal : Calendar) (h : cal.CountsSeconds) (t : Timestamp) (hyear : 1970 ≤ t.year.value) :
    timeIsoToTs cal t.text = .ok ⟨t.unixTime, t.nanoseconds⟩ ↔
      t.frac.chars.length = 1 ∨ t.frac.chars.head? ≠ some '0' ∨ ∀ c ∈ t.frac.chars, c = '0' := by
  rw [timeIsoToTs_timestamp h hyear, ← milliseconds_eq_iff t.frac_length]
  simp only [Except.ok.injEq, Timespec.mk.injEq, true_and]
  rfl

lemma gregorian_countsSeconds : gregorian.CountsSeconds := by
  intro t hyear
  have hmonth := t.month_range.1
  have hyearValue : t.reading.tm.year = t.year.value - 1900 := congrArg (· - 1900) t.year.numeral_value
  have hmonthValue : t.reading.tm.mon = t.month.value - 1 := congrArg (· - 1) t.month.numeral_value
  have hday : t.reading.tm.mday = t.day.value := t.day.numeral_value
  have hhour : t.reading.tm.hour = t.hour.value := t.hour.numeral_value
  have hminute : t.reading.tm.min = t.minute.value := t.minute.numeral_value
  have hsecond : t.reading.tm.sec = t.second.value := t.second.numeral_value
  have hyearNat : (t.reading.tm.year + 1900).toNat = t.year.value := by omega
  have hmonthNat : t.reading.tm.mon.toNat = t.month.value - 1 := by omega
  have hdayNat : t.reading.tm.mday.toNat = t.day.value := by omega
  simp only [gregorian, Timestamp.unixTime, hyearNat, hmonthNat, hdayNat, hhour, hminute, hsecond]

/-- Noon of 29 February 2024, and a fraction. -/
def leapDay (frac : Digits) (h : frac.chars.length ≤ 3) : Timestamp where
  year := ⟨['2', '0', '2', '4'], List.cons_ne_nil _ _, by simp⟩
  month := ⟨['0', '2'], List.cons_ne_nil _ _, by simp⟩
  day := ⟨['2', '9'], List.cons_ne_nil _ _, by simp⟩
  hour := ⟨['1', '2'], List.cons_ne_nil _ _, by simp⟩
  minute := ⟨['0', '0'], List.cons_ne_nil _ _, by simp⟩
  second := ⟨['0', '0'], List.cons_ne_nil _ _, by simp⟩
  frac := frac
  year_length := rfl
  month_length := rfl
  day_length := rfl
  hour_length := rfl
  minute_length := rfl
  second_length := rfl
  frac_length := h
  month_range := by decide
  day_range := by decide
  hour_le := by decide
  minute_le := by decide
  second_le := by decide

def leapDayMilli : Timestamp := leapDay ⟨['2', '5', '0'], List.cons_ne_nil _ _, by simp⟩ (by decide)

def leapDayEarly : Timestamp := leapDay ⟨['0', '5', '0'], List.cons_ne_nil _ _, by simp⟩ (by decide)

theorem timestamp_value_milli :
    timeIsoToTs gregorian leapDayMilli.text = .ok ⟨leapDayMilli.unixTime, leapDayMilli.nanoseconds⟩ :=
  (timestamp_value_iff gregorian gregorian_countsSeconds leapDayMilli (by decide)).mpr (.inr (.inl (by decide)))

theorem timestamp_zero_lost :
    leapDayEarly.text = "2024-02-29T12:00:00.050Z".toList ∧ leapDayEarly.nanoseconds = 50000000 ∧
      timeIsoToTs gregorian leapDayEarly.text = .ok ⟨1709208000, 500000000⟩ ∧
      timeIsoToTs gregorian leapDayEarly.text ≠ .ok ⟨leapDayEarly.unixTime, leapDayEarly.nanoseconds⟩ := by
  have hread : timeIsoToTs gregorian leapDayEarly.text = .ok ⟨1709208000, 500000000⟩ := by decide +kernel
  refine ⟨rfl, rfl, hread, ?_⟩
  rw [hread]
  decide +kernel

lemma Timestamp.reading_conforms (t : Timestamp) : ¬ t.reading.Deviates := by
  have hvalue : ∀ ds : Digits, ds.numeral.value = ds.value := Digits.numeral_value
  rintro (⟨l, hl, hblank⟩ | ⟨l, hl, hsign⟩ | hyear | ⟨l, hl, htwo⟩ | hmonth | hday | hhour | hminute | hsecond | htail)
  · simp only [Reading.numerals, Timestamp.reading, List.mem_cons, List.not_mem_nil, or_false] at hl
    rcases hl with rfl | rfl | rfl | rfl | rfl | rfl | rfl <;> exact hblank rfl
  · simp only [Reading.numerals, Timestamp.reading, List.mem_cons, List.not_mem_nil, or_false] at hl
    rcases hl with rfl | rfl | rfl | rfl | rfl | rfl | rfl <;> exact hsign rfl
  · exact hyear t.year_length
  · simp only [Timestamp.reading, List.mem_cons, List.not_mem_nil, or_false] at hl
    rcases hl with rfl | rfl | rfl | rfl | rfl
    · exact htwo t.month_length
    · exact htwo t.day_length
    · exact htwo t.hour_length
    · exact htwo t.minute_length
    · exact htwo t.second_length
  · have hle := t.month_range.2
    rw [Timestamp.reading, hvalue] at hmonth
    omega
  · obtain ⟨hlow, hhigh⟩ := t.day_range
    simp only [Timestamp.reading, hvalue] at hday
    simp only [Digits.numeral] at hday
    omega
  · have hle := t.hour_le
    rw [Timestamp.reading, hvalue] at hhour
    omega
  · have hle := t.minute_le
    rw [Timestamp.reading, hvalue] at hminute
    omega
  · have hle := t.second_le
    rw [Timestamp.reading, hvalue] at hsecond
    omega
  · exact htail rfl

lemma Reading.timestamp (hpasses : r.Passes cal) (h : ¬ r.Deviates) : ∃ t : Timestamp, t.reading = r := by
  have hplain : ∀ l ∈ r.numerals, l.digits.numeral = l := by
    intro l hl
    apply Numeral.eq_numeral
    · by_contra hblank
      exact h (.blank ⟨l, hl, hblank⟩)
    · by_contra hsign
      exact h (.signed ⟨l, hl, hsign⟩)
  have hvalue : ∀ l ∈ r.numerals, l.value = l.digits.value := by
    intro l hl
    rw [← hplain l hl, Digits.numeral_value]
    rfl
  have htwo : ∀ l ∈ [r.month, r.day, r.hour, r.minute, r.second], l.digits.chars.length = 2 := by
    intro l hl
    by_contra hlength
    exact h (.twoDigits ⟨l, hl, hlength⟩)
  have hmonth := hvalue r.month (by simp [numerals])
  have hday := hvalue r.day (by simp [numerals])
  have hhour := hvalue r.hour (by simp [numerals])
  have hminute := hvalue r.minute (by simp [numerals])
  have hsecond := hvalue r.second (by simp [numerals])
  have hfirst := hpasses.month
  refine ⟨⟨r.year.digits, r.month.digits, r.day.digits, r.hour.digits, r.minute.digits, r.second.digits,
    r.frac.digits, ?_, htwo _ (by simp), htwo _ (by simp), htwo _ (by simp), htwo _ (by simp), htwo _ (by simp),
    ?_, ⟨?_, ?_⟩, ⟨?_, ?_⟩, ?_, ?_, ?_⟩, ?_⟩
  · by_contra hyear
    exact h (.year hyear)
  · have hfits := r.frac_fits 3 rfl
    rw [Numeral.length] at hfits
    omega
  · omega
  · by_contra hlast
    exact h (.month (by omega))
  · by_contra hlow
    exact h (.day (.inl (by omega)))
  · by_contra hlast
    exact h (.day (.inr (by omega)))
  · by_contra hlast
    exact h (.hour (by omega))
  · by_contra hlast
    exact h (.minute (by omega))
  · by_contra hlast
    exact h (.second (by omega))
  · have htail : ['Z'] = r.tail := by
      by_contra hother
      exact h (.tail (Ne.symm hother))
    apply Reading.ext
    · exact hplain r.year (by simp [numerals])
    · exact hplain r.month (by simp [numerals])
    · exact hplain r.day (by simp [numerals])
    · exact hplain r.hour (by simp [numerals])
    · exact hplain r.minute (by simp [numerals])
    · exact hplain r.second (by simp [numerals])
    · exact hplain r.frac (by simp [numerals])
    · exact htail

lemma milliseconds_range {n : ℕ} (h : n < 1000) :
    0 ≤ milliseconds n * 1000000 ∧ milliseconds n * 1000000 ≤ 999999999 := by
  rw [milliseconds]
  split_ifs <;> omega

/-- Only timestamps are accepted of `str` unless it passes the checks in one of the ways to deviate. -/
theorem accepts_timestamps_iff (cal : Calendar) (str : List Char) :
    (∀ ts, timeIsoToTs cal str = .ok ts →
        (∃ t : Timestamp, t.text = str) ∧ 0 ≤ ts.nsec ∧ ts.nsec ≤ 999999999) ↔
      ∀ r : Reading, r.text = str → r.Passes cal → ¬ r.Deviates := by
  constructor
  · rintro h r rfl hpasses
    obtain ⟨⟨t, htext⟩, -⟩ := h _ (timeIsoToTs_eq_ok.mpr ⟨r, rfl, hpasses, rfl⟩)
    rw [← Reading.text_injective (t.reading_text.trans htext)]
    exact t.reading_conforms
  · intro h ts haccepted
    obtain ⟨r, htext, hpasses, rfl⟩ := timeIsoToTs_eq_ok.mp haccepted
    obtain ⟨t, rfl⟩ := r.timestamp hpasses (h r htext hpasses)
    refine ⟨⟨t, htext⟩, ?_⟩
    have hfrac : t.reading.frac.value = t.frac.value := t.frac.numeral_value
    have hlt : t.frac.value < 1000 := t.frac.value_lt.trans_le (Nat.pow_le_pow_right (by norm_num) t.frac_length)
    rw [Reading.timespec, hfrac]
    exact milliseconds_range hlt

/-- The offset of another zone is taken for UTC. -/
theorem offset_accepted :
    timeIsoToTs gregorian "2024-02-29T12:00:00.0+02:00".toList = .ok ⟨1709208000, 0⟩ ∧
      ¬ ∃ t : Timestamp, t.text = "2024-02-29T12:00:00.0+02:00".toList := by
  constructor
  · decide +kernel
  · rintro ⟨t, htext⟩
    have hlast := congrArg List.getLast? htext
    simp [Timestamp.text, List.getLast?_append, List.getLast?_cons] at hlast

end WallaBMC.Time
