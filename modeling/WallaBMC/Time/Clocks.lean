import WallaBMC.Time.Timestamps

/-! The RTC and the system clock, which one text sets one after the other. -/

namespace WallaBMC.Time

open Library.Scan Storage

/-- What the text asks for. -/
def Reading.clock (cal : Calendar) (r : Reading) : Clock :=
  ⟨some (cal.gmtime (r.timespec cal).sec, (r.timespec cal).nsec), r.timespec cal⟩

/-- Both clocks are at the instant of the text, or an error has left both as they were. -/
def MovesTogether (cal : Calendar) (faults : ClockFaults) (str : List Char) (c : Clock) : Prop :=
  (∃ r : Reading, r.text = str ∧ timeSetFromIsoStr cal faults str c = (0, r.clock cal)) ∨
    (timeSetFromIsoStr cal faults str c).1 ≠ 0 ∧ (timeSetFromIsoStr cal faults str c).2 = c

def Timespec.Normal (ts : Timespec) : Prop := 0 ≤ ts.nsec ∧ ts.nsec ≤ 999999999

/-- The RTC driver takes every time, and the system clock those with a part of a second. -/
structure ClockFaults.OnlyAbnormal (cal : Calendar) (str : List Char) (faults : ClockFaults) : Prop where
  setTime : 0 ≤ faults.setTime
  settime : ∀ ts, timeIsoToTs cal str = .ok ts → (faults.settime = 0 ↔ ts.Normal)

variable {cal : Calendar} {faults : ClockFaults} {str : List Char} {c : Clock} {r : Reading}

/-- Three characters of a fraction leave nothing above the range. -/
lemma Reading.normal_iff (r : Reading) : (r.timespec cal).Normal ↔ 0 ≤ r.frac.value := by
  have hlength : r.frac.digits.chars.length ≤ 3 := (Nat.le_add_left _ _).trans (r.frac_fits 3 rfl)
  have hvalue : r.frac.digits.value < 1000 :=
    r.frac.digits.value_lt.trans_le (Nat.pow_le_pow_right (by norm_num) hlength)
  have hupper : r.frac.value < 1000 := by
    rw [Numeral.value, sign]
    split_ifs <;> omega
  simp only [Timespec.Normal, Reading.timespec, milliseconds]
  split_ifs <;> omega

lemma timeSetFromIsoStr_refused {ret : ℤ} (h : timeIsoToTs cal str = .error ret) (c : Clock) :
    timeSetFromIsoStr cal faults str c = (-(einval : ℤ), c) := by
  rw [timeSetFromIsoStr, h, timeIsoToTs_error h]

lemma timeSetFromIsoStr_notReady (h : faults.deviceIsReady = false) (hpasses : r.Passes cal) (c : Clock) :
    timeSetFromIsoStr cal faults r.text c = (-(enodev : ℤ), c) := by
  have haccepted := timeIsoToTs_eq_ok.mpr ⟨r, rfl, hpasses, rfl⟩
  simp only [timeSetFromIsoStr, haccepted, rtcSetFromTimespec, if_pos h]
  rfl

lemma timeSetFromIsoStr_ready (h : faults.deviceIsReady = true) (hset : 0 ≤ faults.setTime)
    (hpasses : r.Passes cal) (c : Clock) :
    timeSetFromIsoStr cal faults r.text c =
      if faults.settime = 0 then (0, r.clock cal) else (faults.settime, { c with rtc := (r.clock cal).rtc }) := by
  have haccepted := timeIsoToTs_eq_ok.mpr ⟨r, rfl, hpasses, rfl⟩
  have hready : ¬ faults.deviceIsReady = false := by
    rw [h]
    exact Bool.noConfusion
  simp only [timeSetFromIsoStr, haccepted, rtcSetFromTimespec, if_neg hready, if_neg (not_lt.mpr hset),
    ne_eq, not_true_eq_false, if_false]
  split_ifs <;> rfl

lemma movesTogether_kept {ret : ℤ} (hret : ret ≠ 0) (h : timeSetFromIsoStr cal faults str c = (ret, c)) :
    MovesTogether cal faults str c := by
  refine .inr ⟨?_, ?_⟩
  · rw [h]
    exact hret
  · rw [h]

lemma movesTogether_ready (h : faults.deviceIsReady = true) (hset : 0 ≤ faults.setTime) (hpasses : r.Passes cal) :
    MovesTogether cal faults r.text c ↔ faults.settime = 0 ∨ c.rtc = (r.clock cal).rtc := by
  have hrun := timeSetFromIsoStr_ready h hset hpasses c
  by_cases hzero : faults.settime = 0
  · rw [if_pos hzero] at hrun
    exact iff_of_true (.inl ⟨r, rfl, hrun⟩) (.inl hzero)
  · rw [if_neg hzero] at hrun
    constructor
    · rintro (⟨r', -, hboth⟩ | ⟨-, hkept⟩)
      · rw [hrun] at hboth
        exact absurd (congrArg Prod.fst hboth) hzero
      · rw [hrun] at hkept
        exact .inr (congrArg Clock.rtc hkept).symm
    · rintro (hset | hthere)
      · exact absurd hset hzero
      · rw [← hthere] at hrun
        exact movesTogether_kept hzero hrun

/-- A minus sign in the fraction moves the RTC alone, unless the RTC is there already. -/
theorem movesTogether_iff (cal : Calendar) (faults : ClockFaults) (str : List Char) (c : Clock)
    (h : faults.OnlyAbnormal cal str) :
    MovesTogether cal faults str c ↔
      ∀ r : Reading, r.text = str → r.Passes cal → r.frac.value < 0 → faults.deviceIsReady = true →
        c.rtc = (r.clock cal).rtc := by
  cases haccepted : timeIsoToTs cal str with
  | error ret =>
    refine iff_of_true (movesTogether_kept (by decide) (timeSetFromIsoStr_refused haccepted c)) ?_
    intro r htext hpasses
    rw [timeIsoToTs_eq_ok.mpr ⟨r, htext, hpasses, rfl⟩] at haccepted
    cases haccepted
  | ok ts =>
    have hsettime := h.settime ts haccepted
    obtain ⟨r, rfl, hpasses, rfl⟩ := timeIsoToTs_eq_ok.mp haccepted
    rw [r.normal_iff] at hsettime
    cases hready : faults.deviceIsReady with
    | false =>
      refine iff_of_true (movesTogether_kept (by decide) (timeSetFromIsoStr_notReady hready hpasses c)) ?_
      rintro r' - - - ⟨⟩
    | true =>
      rw [movesTogether_ready hready h.setTime hpasses, hsettime, or_iff_not_imp_left, not_le]
      constructor
      · intro hthere r' htext _ hneg _
        rw [Reading.text_injective htext] at hneg ⊢
        exact hthere hneg
      · intro hthere hneg
        exact hthere r rfl hpasses hneg rfl

lemma onlyAbnormal_milli : (⟨true, 0, 0⟩ : ClockFaults).OnlyAbnormal gregorian leapDayMilli.text := by
  constructor
  · exact le_rfl
  · intro ts haccepted
    rw [timeIsoToTs_timestamp gregorian_countsSeconds (by decide)] at haccepted
    obtain rfl := Except.ok.inj haccepted
    exact iff_of_true rfl ⟨by decide, by decide⟩

theorem movesTogether_milli :
    MovesTogether gregorian ⟨true, 0, 0⟩ leapDayMilli.text ⟨none, ⟨0, 0⟩⟩ :=
  (movesTogether_iff gregorian ⟨true, 0, 0⟩ leapDayMilli.text ⟨none, ⟨0, 0⟩⟩ onlyAbnormal_milli).mpr (by
    intro r htext _ hneg
    rw [Reading.text_injective (htext.trans leapDayMilli.reading_text.symm)] at hneg
    exact absurd hneg (by decide))

/-- The RTC is set to a time half a second short of nothing, and the system clock refuses it. -/
theorem rtc_moves_alone :
    (⟨true, 0, -einval⟩ : ClockFaults).OnlyAbnormal gregorian "2024-02-29T12:00:00.-5Z".toList ∧
      ¬ MovesTogether gregorian ⟨true, 0, -einval⟩ "2024-02-29T12:00:00.-5Z".toList ⟨none, ⟨0, 0⟩⟩ := by
  have haccepted : timeIsoToTs gregorian "2024-02-29T12:00:00.-5Z".toList = .ok ⟨1709208000, -500000000⟩ := by
    decide +kernel
  constructor
  · constructor
    · exact le_rfl
    · rw [haccepted]
      rintro _ ⟨⟩
      simp [Timespec.Normal, einval]
  · obtain ⟨r, htext, hpasses, -⟩ := timeIsoToTs_eq_ok.mp haccepted
    rw [← htext, movesTogether_ready rfl le_rfl hpasses]
    rintro (hzero | hthere)
    · exact absurd hzero (by decide)
    · exact absurd hthere.symm (Option.some_ne_none _)

end WallaBMC.Time
