import WallaBMC.Config.Services

/-! The pace of the NTP queries while `start_ntp`, `stop_ntp` and the handler of the work take turns. -/

namespace WallaBMC.Config

open Library.Runs

def Services.setNet (s : Services) (net : Net) : Services := { s with state := { s.state with net := net } }

/-- `sntpOk` is the success of the handler that ends, or that `stop_ntp` waits for. -/
inductive PollEvent
  | startNtp
  | stopNtp (sntpOk : Bool)
  | workStart
  | workEnd (sntpOk : Bool)

/-- A run of the handler that has ended, with the delay that it gave to `k_work_schedule`. -/
structure PollRun where
  sntpOk : Bool
  delay : ℕ

def pollRun (sntpOk : Bool) (s : Services) : Option PollRun :=
  if s.running then some ⟨sntpOk, (s.ntp.queried sntpOk).intervalSec⟩ else none

def pollStep (s : Services) : PollEvent → Services × Option PollRun
  | .startNtp => (s.setNet (startNtp s.state.net).2, none)
  | .stopNtp sntpOk =>
    if s.running && s.ntp.started then
      let t := s.setNtp (s.ntp.queried sntpOk)
      ({ t.setNet (stopNtp t.state.net).2 with running := false }, pollRun sntpOk s)
    else (s.setNet (stopNtp s.state.net).2, none)
  | .workStart => (ntpSyncWorkHandlerStart s, none)
  | .workEnd sntpOk => (ntpSyncWorkHandlerEnd sntpOk s, pollRun sntpOk s)

def PollEvent.sntpOk : PollEvent → Bool
  | stopNtp sntpOk => sntpOk
  | workEnd sntpOk => sntpOk
  | _ => false

/-- Six hours after a success and a minute after a failure. -/
def Paced (s : Services) (e : PollEvent) : Prop :=
  ∀ run, (pollStep s e).2 = some run →
    run.delay = (if run.sntpOk then 6 * 60 * 60 else 60) ∧
      (e = .workEnd run.sntpOk → (pollStep s e).1.ntp.work = some run.delay)

/-- No run succeeds that finds `ntp_synced` set. -/
def OnlyFirstSync (s : Services) (e : PollEvent) : Prop :=
  s.running = true → e.sntpOk = true → s.ntp.synced = false

instance (s : Services) (e : PollEvent) : Decidable (OnlyFirstSync s e) :=
  inferInstanceAs (Decidable (_ → _ → _))

/-- While the handler runs the interval is the minute it began with. -/
structure Services.Polls (s : Services) : Prop where
  timed : Timed s.ntp s.running
  minute : s.running = true → s.ntp.intervalSec = 60

variable {s : Services} {sntpOk : Bool}

lemma Services.Polls.started (h : s.Polls) (hrunning : s.running = true) : s.ntp.started = true := by
  have htimed := h.timed
  rw [Timed, hrunning, Bool.or_true] at htimed
  exact htimed.symm

lemma polls_start (h : s.Polls) : (s.setNet (startNtp s.state.net).2).Polls := by
  obtain ⟨-, htimed, -⟩ := startNtp_spec h.timed
  refine ⟨htimed, ?_⟩
  intro hrunning
  have hkept : (startNtp s.state.net).2.ntp.intervalSec = s.ntp.intervalSec := by
    rw [startNtp]
    split_ifs <;> rfl
  exact hkept.trans (h.minute hrunning)

lemma polls_stop (h : s.Polls) (hidle : s.running = false) : (s.setNet (stopNtp s.state.net).2).Polls := by
  obtain ⟨-, htimed, -⟩ := stopNtp_spec h.timed
  rw [hidle, Bool.false_and] at htimed
  refine ⟨?_, ?_⟩
  · rw [← hidle] at htimed
    exact htimed
  · intro hrunning
    rw [show s.running = true from hrunning] at hidle
    cases hidle

lemma polls_workStart (h : s.Polls) : (ntpSyncWorkHandlerStart s).Polls := by
  have htimed := h.timed
  rw [ntpSyncWorkHandlerStart]
  split_ifs with hwork
  · rw [Timed, hwork, Bool.true_or] at htimed
    exact ⟨htimed, fun _ => rfl⟩
  · exact h

lemma polls_workEnd (h : s.Polls) (sntpOk : Bool) : (ntpSyncWorkHandlerEnd sntpOk s).Polls := by
  rw [ntpSyncWorkHandlerEnd]
  split_ifs with hrunning
  · refine ⟨?_, ?_⟩
    · exact (h.started hrunning).symm.trans (Ntp.started_queried _ _).symm
    · rintro ⟨⟩
  · exact h

lemma polls_cancelled (h : s.ntp.started = true) (sntpOk : Bool) :
    { (s.setNtp (s.ntp.queried sntpOk)).setNet (stopNtp (s.setNtp (s.ntp.queried sntpOk)).state.net).2 with
      running := false }.Polls := by
  have hstarted : (s.setNtp (s.ntp.queried sntpOk)).state.net.ntp.started = true :=
    (Ntp.started_queried _ _).trans h
  have hstop : ¬ (!(s.setNtp (s.ntp.queried sntpOk)).state.net.ntp.started) = true := by
    rw [hstarted]
    exact Bool.false_ne_true
  rw [stopNtp, if_neg hstop]
  refine ⟨rfl, ?_⟩
  rintro ⟨⟩

lemma polls_step (h : s.Polls) (e : PollEvent) : (pollStep s e).1.Polls := by
  cases e with
  | startNtp => exact polls_start h
  | workStart => exact polls_workStart h
  | workEnd sntpOk => exact polls_workEnd h sntpOk
  | stopNtp sntpOk =>
    rw [pollStep]
    cases hrunning : s.running with
    | false => exact polls_stop h hrunning
    | true =>
      rw [h.started hrunning]
      exact polls_cancelled (h.started hrunning) sntpOk

lemma interval_queried (h : s.Polls) (hrunning : s.running = true) (sntpOk : Bool) :
    (s.ntp.queried sntpOk).intervalSec = (if sntpOk then 6 * 60 * 60 else 60) ↔
      (sntpOk = true → s.ntp.synced = false) := by
  have hminute := h.minute hrunning
  cases sntpOk with
  | false => simp [Ntp.queried, hminute]
  | true =>
    cases hsynced : s.ntp.synced with
    | false => simp [Ntp.queried, hsynced]
    | true => simp [Ntp.queried, hsynced, hminute]

lemma paced_idle {e : PollEvent} (hnone : (pollStep s e).2 = none) : Paced s e := by
  intro run hrun
  rw [hnone] at hrun
  cases hrun

lemma paced_ended (h : s.Polls) (hrunning : s.running = true) {e : PollEvent}
    (hrun : (pollStep s e).2 = pollRun e.sntpOk s)
    (hwork : e = .workEnd e.sntpOk → (pollStep s e).1.ntp.work = some (s.ntp.queried e.sntpOk).intervalSec) :
    Paced s e ↔ OnlyFirstSync s e := by
  rw [pollRun, if_pos hrunning] at hrun
  rw [OnlyFirstSync, ← interval_queried h hrunning]
  constructor
  · intro hpaced _
    exact (hpaced _ hrun).1
  · intro hdelay run hsome
    rw [hrun] at hsome
    obtain rfl := Option.some.inj hsome
    exact ⟨hdelay hrunning, hwork⟩

lemma paced_iff (h : s.Polls) (e : PollEvent) : Paced s e ↔ OnlyFirstSync s e := by
  cases hrunning : s.running with
  | false =>
    refine iff_of_true (paced_idle ?_) ?_
    · cases e with
      | stopNtp sntpOk => simp [pollStep, hrunning]
      | workEnd sntpOk => simp [pollStep, pollRun, hrunning]
      | _ => rfl
    · intro hrun
      rw [hrunning] at hrun
      cases hrun
  | true =>
    cases e with
    | stopNtp sntpOk =>
      apply paced_ended h hrunning
      · simp [pollStep, hrunning, h.started hrunning, PollEvent.sntpOk]
      · rintro ⟨⟩
    | workEnd sntpOk =>
      apply paced_ended h hrunning rfl
      intro _
      rw [pollStep, ntpSyncWorkHandlerEnd, if_pos hrunning]
      rfl
    | _ =>
      refine iff_of_true (paced_idle rfl) ?_
      rintro - ⟨⟩

/-- Every later run that succeeds is taken for one that failed. -/
theorem polling_paced_iff (state : State) (h : state.net.ntp = .reset) (events : List PollEvent) :
    Along pollStep Paced ⟨state, false⟩ events ↔ Along pollStep OnlyFirstSync ⟨state, false⟩ events := by
  have hreset : Services.Polls ⟨state, false⟩ := by
    refine ⟨?_, ?_⟩
    · rw [Timed, Services.ntp, h]
      rfl
    · rintro ⟨⟩
  exact along_congr (fun s e hs _ => polls_step hs e) (fun s e hs => paced_iff hs e) hreset

theorem polling_paced_once :
    Along pollStep Paced ⟨sampleLoaded, false⟩
      [.startNtp, .workStart, .workEnd false, .workStart, .workEnd true, .workStart, .stopNtp false] :=
  (polling_paced_iff sampleLoaded rfl _).mpr (by decide +kernel)

theorem second_sync_paced_as_failed :
    ¬ Along pollStep Paced ⟨sampleLoaded, false⟩ [.startNtp, .workStart, .workEnd true, .workStart, .workEnd true] := by
  rintro ⟨-, -, -, -, hpaced, -⟩
  exact absurd (hpaced ⟨true, 60⟩ rfl).1 (by decide)

end WallaBMC.Config
