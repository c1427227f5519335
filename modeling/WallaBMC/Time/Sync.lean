import WallaBMC.Library.Runs
import WallaBMC.Time.Clocks

/-! The RTC beside the system clock over whole runs: `rtc_init` sets the clock from the RTC at boot, SNTP and the
`DateTime` of the manager set both, one after the other. -/

namespace WallaBMC.Time

open Library.Runs Storage

def enodata : Errno := 61

structure RtcFaults where
  deviceIsReady : Bool
  getTime : Option Errno
  setTime : ℤ
  getAgain : Option Errno
  settime : ℤ

def rtcGetTime (fault : Option Errno) (c : Clock) : Except ℤ (Tm × ℤ) :=
  match fault, c.rtc with
  | some errno, _ => .error (-errno)
  | none, none => .error (-enodata)
  | none, some tm => .ok tm

def newYear2026 : Tm := ⟨2026 - 1900, 0, 1, 0, 0, 0⟩

/-- The reading of `rtc_init`, which gives a time to an RTC without one. -/
def rtcRead (faults : RtcFaults) (c : Clock) : Except ℤ (Tm × ℤ) × Clock :=
  match rtcGetTime faults.getTime c with
  | .ok tm => (.ok tm, c)
  | .error ret =>
    if ret = -enodata then
      if faults.setTime < 0 then (.error faults.setTime, c)
      else
        let c := { c with rtc := some (newYear2026, 0) }
        (rtcGetTime faults.getAgain c, c)
    else (.error ret, c)

def sysClockSettime (settime : ℤ) (ts : Timespec) (c : Clock) : ℤ × Clock :=
  if settime = 0 then (0, { c with realtime := ts }) else (settime, c)

def rtcInit (cal : Calendar) (faults : RtcFaults) (c : Clock) : ℤ × Clock :=
  if faults.deviceIsReady = false then (0, c)
  else
    match rtcRead faults c with
    | (.error ret, c) => (ret, c)
    | (.ok tm, c) =>
      let sec := cal.timegm tm.1
      if sec = -1 then (-einval, c) else sysClockSettime faults.settime ⟨sec, tm.2⟩ c

def rtcSetFromClock (cal : Calendar) (faults : ClockFaults) (gettime : ℤ) (c : Clock) : ℤ × Clock :=
  if gettime ≠ 0 then (gettime, c) else rtcSetFromTimespec cal faults c.realtime c

structure SntpTime where
  seconds : UInt64
  fraction : UInt32

def SntpTime.timespec (ts : SntpTime) : Timespec :=
  ⟨ts.seconds.toInt64.toInt, ((ts.fraction.toNat * 1000000000) >>> 32 : ℕ)⟩

/-- A failing update of the RTC is not reported. -/
def sntpSetClocks (cal : Calendar) (faults : ClockFaults) (gettime : ℤ) (ts : SntpTime) (c : Clock) : ℤ × Clock :=
  let (ret, c) := sysClockSettime faults.settime ts.timespec c
  if ret < 0 then (ret, c) else (0, (rtcSetFromClock cal faults gettime c).2)

/-- `CLOCK_REALTIME` starts at zero, the RTC runs on. -/
def Clock.reset (c : Clock) : Clock := { c with realtime := ⟨0, 0⟩ }

inductive ClockEvent
  | setDateTime (faults : ClockFaults) (str : List Char)
  | sntp (faults : ClockFaults) (gettime : ℤ) (ts : SntpTime)
  | pass (seconds : ℕ)
  | restart (faults : RtcFaults)

def clockStep (cal : Calendar) (c : Clock) : ClockEvent → Clock × ℤ
  | .setDateTime faults str =>
    let (ret, c) := timeSetFromIsoStr cal faults str c
    (c, ret)
  | .sntp faults gettime ts =>
    let (ret, c) := sntpSetClocks cal faults gettime ts c
    (c, ret)
  | .pass seconds =>
    (⟨c.rtc.map (fun t => (cal.gmtime (cal.timegm t.1 + seconds), t.2)),
      ⟨c.realtime.sec + seconds, c.realtime.nsec⟩⟩, 0)
  | .restart faults =>
    let (ret, c) := rtcInit cal faults c.reset
    (c, ret)

/-- The RTC, if it has a time, shows that of the system clock. -/
def Agree (cal : Calendar) (c : Clock) : Prop := ∀ t ∈ c.rtc, t = (cal.gmtime c.realtime.sec, c.realtime.nsec)

structure RtcFaults.Works (faults : RtcFaults) : Prop where
  deviceIsReady : faults.deviceIsReady = true
  getTime : faults.getTime = none
  setTime : 0 ≤ faults.setTime
  getAgain : faults.getAgain = none
  settime : faults.settime = 0

/-- No time is before 1970 or after 9999. -/
def Ordinary (cal : Calendar) (c : Clock) : ClockEvent → Prop
  | .setDateTime _ str => ∀ ts, timeIsoToTs cal str = .ok ts → InRange ts.sec
  | .sntp _ _ ts => InRange ts.timespec.sec
  | .pass seconds => InRange (c.realtime.sec + seconds) ∧ ∀ t ∈ c.rtc, InRange (cal.timegm t.1 + seconds)
  | .restart _ => True

def Unset (faults : RtcFaults) (c : Clock) : Prop :=
  faults.deviceIsReady = false ∨ faults.settime ≠ 0 ∨ ∃ ret, (rtcRead faults c.reset).1 = .error ret

def rtcBooted (faults : RtcFaults) (c : Clock) : Option (Tm × ℤ) :=
  if faults.deviceIsReady = false then c.rtc else (rtcRead faults c.reset).2.rtc

/-- One of the clocks is set to another time and the other one is not. -/
def Diverts (cal : Calendar) (c : Clock) : ClockEvent → Prop
  | .setDateTime faults str => ∃ ts, timeIsoToTs cal str = .ok ts ∧ faults.deviceIsReady = true ∧
      0 ≤ faults.setTime ∧ faults.settime ≠ 0 ∧
        (cal.gmtime ts.sec, ts.nsec) ≠ (cal.gmtime c.realtime.sec, c.realtime.nsec)
  | .sntp faults gettime ts => faults.settime = 0 ∧
      (gettime ≠ 0 ∨ faults.deviceIsReady = false ∨ faults.setTime < 0) ∧
        ∃ t ∈ c.rtc, t ≠ (cal.gmtime ts.timespec.sec, ts.timespec.nsec)
  | .pass _ => False
  | .restart faults => Unset faults c ∧ ∃ t ∈ rtcBooted faults c, t ≠ (cal.gmtime 0, 0)

structure Sane (cal : Calendar) (c : Clock) : Prop where
  realtime : InRange c.realtime.sec
  rtc : ∀ t ∈ c.rtc, ∃ sec, InRange sec ∧ t.1 = cal.gmtime sec

structure Calendar.Dated (cal : Calendar) : Prop extends cal.Correct where
  newYear : cal.gmtime 1767225600 = newYear2026

variable {cal : Calendar} {c : Clock} {e : ClockEvent} {t : ℤ} {ts : Timespec}

lemma sane_set (h : Sane cal c) (hts : InRange ts.sec) : Sane cal { c with realtime := ts } := ⟨hts, h.rtc⟩

lemma sane_rtc (h : Sane cal c) (ht : InRange t) (nsec : ℤ) :
    Sane cal { c with rtc := some (cal.gmtime t, nsec) } := by
  refine ⟨h.realtime, ?_⟩
  rintro _ ⟨⟩
  exact ⟨t, ht, rfl⟩

lemma sane_rtcSetFromTimespec (h : Sane cal c) (faults : ClockFaults) (hts : InRange ts.sec) :
    Sane cal (rtcSetFromTimespec cal faults ts c).2 := by
  rw [rtcSetFromTimespec]
  split_ifs
  · exact h
  · exact h
  · exact sane_rtc h hts ts.nsec

lemma sane_setDateTime (h : Sane cal c) {faults : ClockFaults} {str : List Char}
    (hordinary : Ordinary cal c (.setDateTime faults str)) : Sane cal (timeSetFromIsoStr cal faults str c).2 := by
  rw [timeSetFromIsoStr]
  cases hread : timeIsoToTs cal str with
  | error ret => exact h
  | ok ts =>
    have hrtc := sane_rtcSetFromTimespec h faults (hordinary ts hread)
    dsimp only
    split_ifs
    · exact hrtc
    · exact hrtc
    · exact sane_set hrtc (hordinary ts hread)

lemma sane_sntp (h : Sane cal c) (faults : ClockFaults) (gettime : ℤ) {ts : SntpTime} (hts : InRange ts.timespec.sec) :
    Sane cal (sntpSetClocks cal faults gettime ts c).2 := by
  rw [sntpSetClocks, sysClockSettime]
  by_cases hset : faults.settime = 0
  · simp only [hset, if_true, lt_self_iff_false, if_false, rtcSetFromClock]
    split_ifs
    · exact sane_set h hts
    · exact sane_rtcSetFromTimespec (sane_set h hts) faults hts
  · simp only [hset, if_false, rtcSetFromClock]
    split_ifs
    · exact h
    · exact h
    · exact sane_rtcSetFromTimespec h faults h.realtime

lemma sane_pass {seconds : ℕ} (hordinary : Ordinary cal c (.pass seconds)) :
    Sane cal (clockStep cal c (.pass seconds)).1 := by
  obtain ⟨hrealtime, hrtc⟩ := hordinary
  refine ⟨hrealtime, ?_⟩
  intro t ht
  obtain ⟨before, hbefore, rfl⟩ := Option.map_eq_some_iff.mp ht
  exact ⟨_, hrtc before hbefore, rfl⟩

lemma sane_reset (h : Sane cal c) : Sane cal c.reset := ⟨⟨le_rfl, show (0 : ℤ) < 253402300800 by decide⟩, h.rtc⟩

lemma rtcGetTime_ok {fault : Option Errno} {tm : Tm × ℤ} (h : rtcGetTime fault c = .ok tm) : c.rtc = some tm := by
  unfold rtcGetTime at h
  split at h
  · cases h
  · cases h
  · cases h
    assumption

lemma rtcRead_ok {faults : RtcFaults} {tm : Tm × ℤ} (h : (rtcRead faults c).1 = .ok tm) :
    (rtcRead faults c).2.rtc = some tm := by
  rw [rtcRead] at h ⊢
  cases hget : rtcGetTime faults.getTime c with
  | ok first =>
    rw [hget] at h
    cases h
    exact rtcGetTime_ok hget
  | error ret =>
    rw [hget] at h
    dsimp only at h ⊢
    split_ifs at h ⊢
    exact rtcGetTime_ok h

lemma rtcRead_realtime (faults : RtcFaults) (c : Clock) : (rtcRead faults c).2.realtime = c.realtime := by
  rw [rtcRead]
  cases rtcGetTime faults.getTime c with
  | ok tm => rfl
  | error ret =>
    dsimp only
    split_ifs <;> rfl

lemma sane_rtcRead (hcal : cal.Dated) (h : Sane cal c) (faults : RtcFaults) : Sane cal (rtcRead faults c).2 := by
  have hyear : Sane cal { c with rtc := some (newYear2026, 0) } := by
    rw [← hcal.newYear]
    exact sane_rtc h ⟨by decide, by decide⟩ 0
  rw [rtcRead]
  cases rtcGetTime faults.getTime c with
  | ok tm => exact h
  | error ret =>
    dsimp only
    split_ifs
    · exact h
    · exact hyear
    · exact h

/-- A time in range is not taken for the error of `timeutil_timegm`. -/
lemma rtcInit_read (hcal : cal.Dated) (h : Sane cal c) {faults : RtcFaults} (hready : faults.deviceIsReady = true)
    {tm : Tm × ℤ} (hread : (rtcRead faults c.reset).1 = .ok tm) :
    ∃ sec, InRange sec ∧ tm.1 = cal.gmtime sec ∧
      rtcInit cal faults c.reset = sysClockSettime faults.settime ⟨sec, tm.2⟩ (rtcRead faults c.reset).2 := by
  obtain ⟨sec, hsec, htm⟩ := (sane_rtcRead hcal (sane_reset h) faults).rtc tm (rtcRead_ok hread)
  refine ⟨sec, hsec, htm, ?_⟩
  have hne : sec ≠ -1 := by
    have hlow := hsec.1
    omega
  have hnot : ¬ faults.deviceIsReady = false := by
    rw [hready]
    exact Bool.noConfusion
  have hpair : rtcRead faults c.reset = (.ok tm, (rtcRead faults c.reset).2) := Prod.ext hread rfl
  rw [rtcInit, if_neg hnot, hpair]
  simp only [htm, hcal.inverse sec hsec, if_neg hne]

lemma agree_zero {clock : Clock} (hzero : clock.realtime = ⟨0, 0⟩) :
    Agree cal clock ↔ ¬ ∃ t ∈ clock.rtc, t ≠ (cal.gmtime 0, 0) := by
  simp only [Agree, hzero, not_exists, not_and, not_not]

lemma rtcInit_agree (hcal : cal.Dated) (h : Sane cal c) (faults : RtcFaults) :
    Sane cal (rtcInit cal faults c.reset).2 ∧
      (Agree cal (rtcInit cal faults c.reset).2 ↔ ¬ Diverts cal c (.restart faults)) := by
  have hsane := sane_rtcRead hcal (sane_reset h) faults
  have hrealtime : (rtcRead faults c.reset).2.realtime = ⟨0, 0⟩ := rtcRead_realtime faults c.reset
  rw [Diverts, rtcBooted]
  by_cases hready : faults.deviceIsReady = false
  · have hunset : Unset faults c := .inl hready
    rw [rtcInit, if_pos hready, if_pos hready]
    refine ⟨sane_reset h, ?_⟩
    rw [agree_zero rfl, and_iff_right hunset]
    rfl
  · rw [if_neg hready]
    cases hread : (rtcRead faults c.reset).1 with
    | error ret =>
      have hunset : Unset faults c := .inr (.inr ⟨ret, hread⟩)
      have hinit : rtcInit cal faults c.reset = (ret, (rtcRead faults c.reset).2) := by
        have hpair : rtcRead faults c.reset = (.error ret, (rtcRead faults c.reset).2) := Prod.ext hread rfl
        rw [rtcInit, if_neg hready, hpair]
      rw [hinit, and_iff_right hunset]
      exact ⟨hsane, agree_zero hrealtime⟩
    | ok tm =>
      obtain ⟨sec, hsec, htm, hinit⟩ := rtcInit_read hcal h (Bool.of_not_eq_false hready) hread
      rw [hinit, sysClockSettime]
      by_cases hset : faults.settime = 0
      · rw [if_pos hset]
        refine ⟨sane_set hsane hsec, iff_of_true ?_ ?_⟩
        · intro t ht
          obtain rfl := Option.some.inj ((rtcRead_ok hread).symm.trans ht)
          exact Prod.ext htm rfl
        · rintro ⟨hnot | hne | ⟨ret, herror⟩, -⟩
          · exact hready hnot
          · exact hne hset
          · rw [hread] at herror
            cases herror
      · have hunset : Unset faults c := .inr (.inl hset)
        rw [if_neg hset, and_iff_right hunset]
        exact ⟨hsane, agree_zero hrealtime⟩

lemma rtcRead_works {faults : RtcFaults} (h : faults.Works) (c : Clock) : ∃ tm, (rtcRead faults c).1 = .ok tm := by
  obtain ⟨rtc, realtime⟩ := c
  rw [rtcRead, h.getTime]
  cases rtc with
  | some tm => exact ⟨tm, rfl⟩
  | none => exact ⟨(newYear2026, 0), by simp [rtcGetTime, h.setTime.not_gt, h.getAgain]⟩

lemma rtcInit_works (hcal : cal.Dated) {faults : RtcFaults} (hfaults : faults.Works) (h : Sane cal c) :
    (rtcInit cal faults c.reset).1 = 0 ∧ Sane cal (rtcInit cal faults c.reset).2 ∧
      Agree cal (rtcInit cal faults c.reset).2 := by
  obtain ⟨tm, hread⟩ := rtcRead_works hfaults c.reset
  obtain ⟨sec, -, -, hinit⟩ := rtcInit_read hcal h hfaults.deviceIsReady hread
  obtain ⟨hsane, hagree⟩ := rtcInit_agree hcal h faults
  refine ⟨?_, hsane, hagree.mpr ?_⟩
  · rw [hinit, sysClockSettime, if_pos hfaults.settime]
  · rintro ⟨hnot | hne | ⟨ret, herror⟩, -⟩
    · rw [hfaults.deviceIsReady] at hnot
      cases hnot
    · exact hne hfaults.settime
    · rw [hread] at herror
      cases herror

lemma sane_step (hcal : cal.Dated) (h : Sane cal c) (hordinary : Ordinary cal c e) :
    Sane cal (clockStep cal c e).1 := by
  cases e with
  | setDateTime faults str => exact sane_setDateTime h hordinary
  | sntp faults gettime ts => exact sane_sntp h faults gettime hordinary
  | pass seconds => exact sane_pass hordinary
  | restart faults => exact (rtcInit_agree hcal h faults).1

lemma agree_set (cal : Calendar) (ts : Timespec) :
    Agree cal ⟨some (cal.gmtime ts.sec, ts.nsec), ts⟩ := by
  rintro _ ⟨⟩
  rfl

lemma rtcSetFromTimespec_done (cal : Calendar) {faults : ClockFaults} (hready : faults.deviceIsReady = true)
    (hset : 0 ≤ faults.setTime) (ts : Timespec) (c : Clock) :
    rtcSetFromTimespec cal faults ts c = (0, { c with rtc := some (cal.gmtime ts.sec, ts.nsec) }) := by
  simp [rtcSetFromTimespec, hready, hset.not_gt]

lemma rtcSetFromTimespec_refused (cal : Calendar) {faults : ClockFaults}
    (h : faults.deviceIsReady = false ∨ faults.setTime < 0) (ts : Timespec) (c : Clock) :
    ∃ ret, ret ≠ 0 ∧ rtcSetFromTimespec cal faults ts c = (ret, c) := by
  rw [rtcSetFromTimespec]
  split_ifs with hready hset
  · exact ⟨_, (errno_neg enodev).ne, rfl⟩
  · exact ⟨_, hset.ne, rfl⟩
  · exact absurd h (by simp [hready, hset])

lemma agree_setDateTime (h : Agree cal c) (faults : ClockFaults) (str : List Char) :
    Agree cal (timeSetFromIsoStr cal faults str c).2 ↔ ¬ Diverts cal c (.setDateTime faults str) := by
  rw [timeSetFromIsoStr]
  cases hread : timeIsoToTs cal str with
  | error ret =>
    refine iff_of_true h ?_
    rintro ⟨ts, hok, -⟩
    rw [hread] at hok
    cases hok
  | ok ts =>
    have hdiverts : Diverts cal c (.setDateTime faults str) ↔ faults.deviceIsReady = true ∧ 0 ≤ faults.setTime ∧
        faults.settime ≠ 0 ∧ (cal.gmtime ts.sec, ts.nsec) ≠ (cal.gmtime c.realtime.sec, c.realtime.nsec) := by
      simp only [Diverts, hread, Except.ok.injEq, exists_eq_left']
    have hagree : ∀ t, Agree cal { c with rtc := some t } ↔ t = (cal.gmtime c.realtime.sec, c.realtime.nsec) :=
      fun t => ⟨fun hall => hall t rfl, fun heq _ ht => (Option.some.inj ht) ▸ heq⟩
    rw [hdiverts]
    by_cases hrefused : faults.deviceIsReady = false ∨ faults.setTime < 0
    · obtain ⟨ret, hret, hsame⟩ := rtcSetFromTimespec_refused cal hrefused ts c
      simp only [hsame, if_pos hret]
      refine iff_of_true h ?_
      rintro ⟨hready, hset, -⟩
      rcases hrefused with hnot | hneg
      · rw [hready] at hnot
        cases hnot
      · exact hneg.not_ge hset
    · obtain ⟨hready, hset⟩ := not_or.mp hrefused
      rw [Bool.not_eq_false] at hready
      rw [not_lt] at hset
      have hdone := rtcSetFromTimespec_done cal hready hset ts c
      by_cases hsettime : faults.settime = 0
      · simpa [hdone, hsettime] using agree_set cal ts
      · simp [hdone, hready, hset, hsettime, hagree]

lemma agree_sntp (h : Agree cal c) (faults : ClockFaults) (gettime : ℤ) (ts : SntpTime) :
    Agree cal (sntpSetClocks cal faults gettime ts c).2 ↔ ¬ Diverts cal c (.sntp faults gettime ts) := by
  have hkept : Agree cal { c with realtime := ts.timespec } ↔
      ¬ ∃ t ∈ c.rtc, t ≠ (cal.gmtime ts.timespec.sec, ts.timespec.nsec) := by
    simp only [Agree, not_exists, not_and, not_not]
  rw [sntpSetClocks, sysClockSettime, Diverts]
  by_cases hset : faults.settime = 0
  · simp only [hset, if_true, lt_self_iff_false, if_false, true_and, rtcSetFromClock]
    by_cases hgettime : gettime = 0
    · by_cases hrefused : faults.deviceIsReady = false ∨ faults.setTime < 0
      · obtain ⟨ret, -, hsame⟩ :=
          rtcSetFromTimespec_refused cal hrefused ts.timespec { c with realtime := ts.timespec }
        simpa [hgettime, hsame, hrefused] using hkept
      · obtain ⟨hready, hrtc⟩ := not_or.mp hrefused
        rw [Bool.not_eq_false] at hready
        rw [not_lt] at hrtc
        have hdone := rtcSetFromTimespec_done cal hready hrtc ts.timespec { c with realtime := ts.timespec }
        simpa [hgettime, hdone, hready, hrtc.not_gt] using agree_set cal ts.timespec
    · simpa [hgettime] using hkept
  · have hclock : Agree cal (rtcSetFromClock cal faults gettime c).2 := by
      rw [rtcSetFromClock, rtcSetFromTimespec]
      split_ifs
      · exact h
      · exact h
      · exact h
      · exact agree_set cal c.realtime
    refine iff_of_true ?_ (fun hdiverts => hset hdiverts.1)
    rw [if_neg hset]
    dsimp only
    split_ifs
    · exact h
    · exact hclock

lemma agree_pass (hcal : cal.Dated) (hs : Sane cal c) (h : Agree cal c) (seconds : ℕ) :
    Agree cal (clockStep cal c (.pass seconds)).1 := by
  intro t ht
  obtain ⟨before, hbefore, rfl⟩ := Option.map_eq_some_iff.mp ht
  rw [h before hbefore, hcal.inverse _ hs.realtime]
  rfl

lemma agree_step_iff (hcal : cal.Dated) (hs : Sane cal c) (h : Agree cal c) (hordinary : Ordinary cal c e) :
    Agree cal (clockStep cal c e).1 ↔ ¬ Diverts cal c e := by
  cases e with
  | setDateTime faults str => exact agree_setDateTime h faults str
  | sntp faults gettime ts => exact agree_sntp h faults gettime ts
  | pass seconds => exact iff_of_true (agree_pass hcal hs h seconds) id
  | restart faults => exact (rtcInit_agree hcal hs faults).2

lemma gregorian_dated : gregorian.Dated := ⟨gregorian_correct, by decide +kernel⟩

def rtcWorking : RtcFaults := ⟨true, none, 0, none, 0⟩

lemma rtcWorking_works : rtcWorking.Works := ⟨rfl, rfl, le_rfl, rfl, rfl⟩

/-- The RTC refuses the time of the first answer of the server and takes that of the second. -/
def syncedTwice : List ClockEvent :=
  [.sntp ⟨true, -eio, 0⟩ 0 ⟨1767225600, 0x80000000⟩, .sntp ⟨true, 0, 0⟩ 0 ⟨1767225660, 0⟩]

end WallaBMC.Time
