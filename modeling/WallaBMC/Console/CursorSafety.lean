import WallaBMC.Console.Receiver

/-! Reader cursors stay within the received part of the log as long as no read of a full log finds
more than one log size of handed-over bytes that were not received. Those are the bytes outstanding
with the UART and the ones it gave up: every refused chunk, and what a restart leaves unreported. -/

namespace WallaBMC.Console

open Library.Runs

/-- Bytes reported, outstanding and given up, counted from the events alone. -/
structure Tally where
  reported : ℕ
  outstanding : ℕ
  givenUp : ℕ

namespace Tally

variable (config : LogSize)

def handOver (ret : ℤ) (t : Tally) : Tally :=
  if 0 ≤ ret then { t with outstanding := t.outstanding + uartRxBufSize config }
  else { t with givenUp := t.givenUp + uartRxBufSize config }

def restart (t : Tally) : Tally := ⟨t.reported, 0, t.givenUp + t.outstanding⟩

def start (ret : ℤ) : Tally := Tally.handOver config ret ⟨0, 0, 0⟩

variable {ι : Type*}

def step (t : Tally) : Event ι → Tally × Unit
  | .uart (.rxRdy len) _ => (⟨t.reported + len, t.outstanding - len, t.givenUp⟩, ())
  | .uart .rxBufRequest ret => (t.handOver config ret, ())
  | .uart .rxDisabled ret => (t.restart.handOver config ret, ())
  | _ => (t, ())

/-- At a read of the full log, at most one log size is outstanding or given up. -/
def WithinLog (t : Tally) : Event ι → Prop
  | .read _ _ => t.reported < config.bytes ∨ t.givenUp + t.outstanding ≤ config.bytes
  | _ => True

instance (t : Tally) : (e : Event ι) → Decidable (WithinLog config t e)
  | .read _ _ => inferInstanceAs (Decidable (_ ∨ _))
  | .store _ | .uart _ _ | .openAtStart _ | .openAtEnd _ => isTrue trivial

lemma handOver_cases (config : LogSize) (ret : ℤ) (t : Tally) :
    t.handOver config ret = ⟨t.reported, t.outstanding + uartRxBufSize config, t.givenUp⟩ ∧ 0 ≤ ret ∨
      t.handOver config ret = ⟨t.reported, t.outstanding, t.givenUp + uartRxBufSize config⟩ ∧ ret < 0 := by
  by_cases h : 0 ≤ ret
  · exact .inl ⟨if_pos h, h⟩
  · exact .inr ⟨if_neg h, by omega⟩

end Tally

namespace System

variable {ι : Type*} (config : LogSize)

def CursorsInside (s : System ι) : Prop :=
  ∀ r pos, s.cursor r = some pos → pos.toNat ≤ s.log.received.toNat

/-- A read starts in the received part, computes no underflow, returns no byte beyond `received`, is
not refused with `-EINVAL` and leaves its cursor inside. -/
def SafeRead (s : System ι) : Event ι → Prop
  | .read r n => ∀ pos, s.cursor r = some pos →
    let res := hostConsoleRead s.log (fun _ => 0) n pos
    (windowStart s.log).toNat ≤ s.log.received.toNat ∧
      RoundsInside s.log n n
        ⟨if windowStart s.log > pos then windowStart s.log else pos, 0, fun _ => 0, []⟩ ∧
      readFrom s.log pos + res.ret ≤ s.log.received.toNat ∧
      res.ret ≠ -einval ∧ res.ppos.toNat ≤ s.log.received.toNat
  | _ => True

def Safe (s : System ι) (e : Event ι) : Prop := CursorsInside s ∧ SafeRead s e

/-- The window that a read computes starts in the received part. -/
def WindowInside (s : System ι) : Event ι → Prop
  | .read _ _ => (windowStart s.log).toNat ≤ s.log.received.toNat
  | _ => True

structure Accounted (s : System ι) (t : Tally) : Prop where
  size_eq : s.log.size = config
  received_eq : s.log.received.toNat = s.reported.length
  reported_eq : s.reported.length = t.reported
  outstanding_eq : s.outstanding = t.outstanding
  allocated_eq : s.log.allocated.toNat = t.reported + t.outstanding + t.givenUp

variable {config} {s : System ι} {t : Tally} {e : Event ι} {r : ι} {pos : UInt64}

lemma Accounted.handed (h : Accounted config s t) :
    s.reported.length + s.outstanding ≤ s.log.allocated.toNat := by
  rw [h.reported_eq, h.outstanding_eq, h.allocated_eq]
  exact Nat.le_add_right _ _

lemma accounted_storeByte (h : Accounted config s t) (b : UInt8) :
    Accounted config (s.storeByte b) t := by
  cases hf : s.uart.free with
  | nil => simpa only [storeByte, hf] using h
  | cons a free =>
    have hout := h.outstanding_eq
    refine ⟨?_, ?_, ?_, ?_, ?_⟩ <;> simp only [storeByte, hf]
    · exact h.size_eq
    · exact h.received_eq
    · exact h.reported_eq
    · simp only [outstanding, hf, List.length_cons, List.length_append, List.length_nil] at hout ⊢
      omega
    · exact h.allocated_eq

lemma accounted_rxRdy (h : Accounted config s t) {len : ℕ} (hlen : len ≤ s.uart.pending.length)
    (ret : ℤ) : Accounted config (s.onUart config (.rxRdy len) ret)
      ⟨t.reported + len, t.outstanding - len, t.givenUp⟩ := by
  have hout := h.outstanding_eq
  have hreported := h.reported_eq
  have hreceived := h.received_eq
  have hallocated := h.allocated_eq
  have hlt := s.log.allocated.toNat_lt
  simp only [outstanding] at hout
  have hadd : (s.log.received + UInt64.ofNat len).toNat = s.log.received.toNat + len :=
    toNat_add_ofNat _ (by omega)
  rw [onUart_rxRdy]
  refine ⟨h.size_eq, ?_, ?_, ?_, ?_⟩
  · simp only [hadd, List.length_append, List.length_take]
    omega
  · simp only [List.length_append, List.length_take]
    omega
  · simp only [outstanding, List.length_drop]
    omega
  · dsimp only
    omega

lemma accounted_restart (h : Accounted config s t) :
    Accounted config { s with uart := ⟨[], []⟩ } t.restart :=
  ⟨h.size_eq, h.received_eq, h.reported_eq, rfl, h.allocated_eq.trans (by simp only [Tally.restart]; omega)⟩

lemma accounted_handOver (h : Accounted config s t) (ret : ℤ)
    (hwrap : s.log.allocated.toNat + uartRxBufSize config < 2 ^ 64) :
    Accounted config (s.onUart config .rxBufRequest ret) (t.handOver config ret) := by
  have hout := h.outstanding_eq
  have hallocated : (s.log.allocated + UInt64.ofNat (uartRxBufSize config)).toNat =
      t.reported + t.outstanding + t.givenUp + uartRxBufSize config := by
    rw [toNat_add_ofNat _ hwrap, h.allocated_eq]
  rcases t.handOver_cases config ret with ⟨heq, hret⟩ | ⟨heq, hret⟩
  · rw [heq, onUart_request hret]
    refine ⟨h.size_eq, h.received_eq, h.reported_eq, ?_, ?_⟩
    · simp only [withChunk, outstanding, List.length_append, List.length_range'] at hout ⊢
      omega
    · simp only [withChunk, hallocated]
      omega
  · rw [heq, onUart_request_refused hret]
    exact ⟨h.size_eq, h.received_eq, h.reported_eq, hout, hallocated.trans (by dsimp only; omega)⟩

lemma accounted_onUart (h : Accounted config s t) {evt : UartEvent} {ret : ℤ}
    (hp : s.uart.canRaise evt) (hw : NoWrap config s (.uart evt ret)) :
    Accounted config (s.onUart config evt ret) (t.step config (.uart evt ret : Event ι)).1 := by
  cases evt with
  | rxRdy len => exact accounted_rxRdy h (by simpa [Uart.canRaise] using hp) ret
  | rxBufRequest => exact accounted_handOver h ret (hw rfl)
  | rxDisabled =>
    rw [onUart_restart_request]
    exact accounted_handOver (accounted_restart h) ret (hw rfl)
  | rxBufReleased | rxStopped | txDone | txAborted =>
    rw [onUart_other (by simp) rfl]
    exact h

lemma Accounted.windowStart_le (h : Accounted config s t) :
    (windowStart s.log).toNat ≤ s.log.received.toNat ↔
      t.reported < config.bytes ∨ t.givenUp + t.outstanding ≤ config.bytes := by
  have hsize := congrArg LogSize.bytes h.size_eq
  have hallocated := h.allocated_eq
  have hreceived := h.received_eq.trans h.reported_eq
  by_cases hfirst : t.reported < config.bytes
  · rw [windowStart_first (by omega)]
    simp [hfirst]
  · rw [toNat_windowStart_wrapped (by omega) (by omega)]
    omega

lemma Accounted.windowStart_le_allocated (h : Accounted config s t) :
    (windowStart s.log).toNat ≤ s.log.allocated.toNat := by
  have hsize := congrArg LogSize.bytes h.size_eq
  have hhanded := h.handed
  have hreceived := h.received_eq
  by_cases hfirst : s.log.received.toNat < config.bytes
  · rw [windowStart_first (by omega)]
    exact Nat.zero_le _
  · rw [toNat_windowStart_wrapped (by omega) (by omega)]
    exact Nat.sub_le _ _

lemma safe_hostConsoleRead (hpos : pos.toNat ≤ s.log.received.toNat)
    (hw : (windowStart s.log).toNat ≤ s.log.received.toNat) (n : ℕ) :
    let res := hostConsoleRead s.log (fun _ => 0) n pos
    readFrom s.log pos + res.ret ≤ s.log.received.toNat ∧
      res.ret ≠ -einval ∧ res.ppos.toNat ≤ s.log.received.toNat := by
  have hspec := consoleLogRead_spec (fun _ => 0) n hpos hw
  have hfrom : readFrom s.log pos ≤ s.log.received.toNat := max_le hpos hw
  have hcount : readFrom s.log pos + readCount s.log n pos ≤ s.log.received.toNat := by
    rw [readCount]
    omega
  simp only [hostConsoleRead]
  rw [hspec.ret_eq, hspec.ppos_eq]
  exact ⟨by exact_mod_cast hcount, by simp only [einval]; omega, hcount⟩

lemma accounted_init (logBuffer : ℕ → UInt8) (ret : ℤ) :
    Accounted config (init config logBuffer ret : System ι) (.start config ret) := by
  have hlt := uartRxBufSize_lt config
  have hzero : Accounted config (⟨⟨0, 0, config, logBuffer⟩, ⟨[], []⟩, [], fun _ => none⟩ : System ι)
      ⟨0, 0, 0⟩ := ⟨rfl, rfl, rfl, rfl, rfl⟩
  have hfirst : Accounted config (onUart config _ .rxDisabled ret) (.start config ret) :=
    accounted_onUart hzero rfl fun _ => by
      change 0 + uartRxBufSize config < 2 ^ 64
      omega
  exact hfirst

lemma received_mono_onUart (h : Accounted config s t) {evt : UartEvent} (hp : s.uart.canRaise evt)
    (ret : ℤ) : s.log.received.toNat ≤ (s.onUart config evt ret).log.received.toNat := by
  rcases onUart_cases config s evt ret with ⟨len, rfl⟩ | ⟨-, u, -, -, heq⟩ | heq
  · rw [(accounted_rxRdy h (by simpa [Uart.canRaise] using hp) ret).received_eq, h.received_eq,
      onUart_rxRdy]
    simp
  · rw [heq]
  · rw [heq]

lemma safeRead_of_windowInside (h : CursorsInside s) (hw : WindowInside s e) : SafeRead s e := by
  cases e with
  | read r n =>
    intro pos hc
    have hpos := h r pos hc
    refine ⟨hw, roundsInside _ _ _ _ ?_, safe_hostConsoleRead hpos hw n⟩
    rw [toNat_pos]
    exact max_le hpos hw
  | store b => trivial
  | uart evt ret => trivial
  | openAtStart r | openAtEnd r => trivial

lemma windowInside_of_safeRead (hp : Possible s e) (hs : SafeRead s e) : WindowInside s e := by
  cases e with
  | read r n =>
    obtain ⟨pos, hc⟩ := Option.ne_none_iff_exists'.mp hp
    exact (hs pos hc).1
  | store b => trivial
  | uart evt ret => trivial
  | openAtStart r | openAtEnd r => trivial

lemma windowInside_iff (h : Accounted config s t) : WindowInside s e ↔ t.WithinLog config e := by
  cases e with
  | read r n => exact h.windowStart_le
  | store b => exact Iff.rfl
  | uart evt ret => exact Iff.rfl
  | openAtStart r | openAtEnd r => exact Iff.rfl

section

variable [DecidableEq ι]

lemma accounted_setCursor (h : Accounted config s t) (r : ι) (pos : UInt64) :
    Accounted config (s.setCursor r pos) t :=
  ⟨h.size_eq, h.received_eq, h.reported_eq, h.outstanding_eq, h.allocated_eq⟩

lemma accounted_step (h : Accounted config s t) (hp : Possible s e) (hw : NoWrap config s e) :
    Accounted config (s.step config e).1 (t.step config e).1 := by
  cases e with
  | store b => exact accounted_storeByte h b
  | uart evt ret => exact accounted_onUart h hp hw
  | openAtStart r | openAtEnd r => exact accounted_setCursor h r _
  | read r n =>
    obtain ⟨pos, hc⟩ := Option.ne_none_iff_exists'.mp hp
    rw [step_read hc]
    exact accounted_setCursor h r _

lemma cursorsInside_setCursor (h : CursorsInside s) (hpos : pos.toNat ≤ s.log.received.toNat) :
    CursorsInside (s.setCursor r pos) := by
  intro r' pos' hc
  by_cases hr : r' = r
  · subst hr
    rw [setCursor_self, Option.some.injEq] at hc
    exact hc ▸ hpos
  · rw [setCursor_of_ne hr] at hc
    exact h r' pos' hc

lemma cursorsInside_step (ha : Accounted config s t) (h : CursorsInside s) (hp : Possible s e)
    (hs : SafeRead s e) : CursorsInside (s.step config e).1 := by
  cases e with
  | store b =>
    cases hf : s.uart.free with
    | nil => simpa only [step, storeByte, hf] using h
    | cons a free => simpa only [step, storeByte, hf, CursorsInside] using h
  | uart evt ret =>
    intro r pos hc
    exact (h r pos hc).trans (received_mono_onUart ha hp ret)
  | openAtStart r => exact cursorsInside_setCursor h (Nat.zero_le _)
  | openAtEnd r => exact cursorsInside_setCursor h le_rfl
  | read r n =>
    obtain ⟨pos, hc⟩ := Option.ne_none_iff_exists'.mp hp
    rw [step_read hc]
    exact cursorsInside_setCursor h (hs pos hc).2.2.2.2

structure Contained (config : LogSize) (s : System ι) : Prop where
  accounted : ∃ t, Accounted config s t
  cursors : CursorsInside s

lemma contained_step (h : Contained config s) (hp : Possible s e) (hw : NoWrap config s e)
    (hin : WindowInside s e) : Contained config (s.step config e).1 := by
  obtain ⟨t, ht⟩ := h.accounted
  exact ⟨⟨_, accounted_step ht hp hw⟩,
    cursorsInside_step ht h.cursors hp (safeRead_of_windowInside h.cursors hin)⟩

variable {logBuffer : ℕ → UInt8} {ret : ℤ} {es : List (Event ι)}

lemma safe_iff_windowInside
    (hes : Along (step config) (fun s e => Possible s e ∧ NoWrap config s e)
      (init config logBuffer ret) es) :
    (Along (step config) Safe (init config logBuffer ret) es ∧
      CursorsInside (exec (step config) (init config logBuffer ret) es)) ↔
    Along (step config) WindowInside (init config logBuffer ret) es := by
  constructor
  · rintro ⟨hsafe, -⟩
    exact (along_and.mpr ⟨hes, hsafe⟩).mono fun s e h => windowInside_of_safeRead h.1.1 h.2.2
  · intro hinside
    have hall := along_and.mpr ⟨hes, hinside⟩
    have hinit : Contained config (init config logBuffer ret : System ι) :=
      ⟨⟨_, accounted_init logBuffer ret⟩, by simp [CursorsInside, init, uartRxStart]⟩
    refine ⟨along_invariant ?_ ?_ hinit hall, (exec_invariant ?_ hinit hall).cursors⟩
    · exact fun s e hs ho => contained_step hs ho.1.1 ho.1.2 ho.2
    · exact fun s e hs ho => ⟨hs.cursors, safeRead_of_windowInside hs.cursors ho.2⟩
    · exact fun s e hs ho => contained_step hs ho.1.1 ho.1.2 ho.2

theorem cursor_safety (logBuffer : ℕ → UInt8) (ret : ℤ) (es : List (Event ι))
    (hes : Along (step config) (fun s e => Possible s e ∧ NoWrap config s e)
      (init config logBuffer ret) es) :
    (Along (step config) Safe (init config logBuffer ret) es ∧
      CursorsInside (exec (step config) (init config logBuffer ret) es)) ↔
    Along (Tally.step config) (Tally.WithinLog config) (Tally.start config ret) es := by
  rw [safe_iff_windowInside hes]
  apply along_iff_along _ (accounted_init logBuffer ret) hes (along_true _ es)
  rintro s t e ht ⟨hp, hw⟩ -
  exact ⟨accounted_step ht hp hw, windowInside_iff ht⟩

end

-- Sixteen chunks filled and reported, the next one handed over.
def fullLog : List (Event ℕ) :=
  (List.replicate 16 [.store 1, .store 2, .store 3, .store 4, .uart (.rxRdy 4) 0,
    .uart .rxBufRequest 0]).flatten

theorem cursor_safety_fullLog :
    Along (step kconfigMinLog) Safe (init kconfigMinLog (fun _ => 0) 0)
      (fullLog ++ [.openAtStart 0, .read 0 80]) ∧
    CursorsInside (exec (step kconfigMinLog) (init kconfigMinLog (fun _ => 0) 0)
      (fullLog ++ [.openAtStart 0, .read 0 80])) :=
  (cursor_safety _ 0 _ (by decide +kernel)).mpr (by decide +kernel)

-- Sixteen restarts follow, during which nothing is received.
def restartsOnFullLog : List (Event ℕ) :=
  fullLog ++ List.replicate 16 (.uart .rxDisabled 0)

theorem cursor_unsafe_restartsOnFullLog :
    ¬ ∀ (config : LogSize) (logBuffer : ℕ → UInt8) (ret : ℤ) (es : List (Event ℕ)),
      16 ∣ config.bytes → Along (step config) Possible (init config logBuffer ret) es →
      Along (step config) Safe (init config logBuffer ret) es ∧
        CursorsInside (exec (step config) (init config logBuffer ret) es) := by
  intro h
  have hs := (h kconfigMinLog (fun _ => 0) 0 (restartsOnFullLog ++ [.openAtStart 0, .read 0 1])
    (by decide) (by decide +kernel)).1
  have hread := ((along_append.mp hs).2.2.1.2 0 (setCursor_self ..)).1
  revert hread
  decide +kernel

end System

end WallaBMC.Console
