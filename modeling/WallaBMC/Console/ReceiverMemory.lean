import WallaBMC.Console.Alignment

/-! Readers and the part of the buffer the UART is still to fill. `console_log_read` hides the oldest
part of the log once `received` reaches the log size, but `allocated` gets there up to two chunks
earlier, and until then the chunks in flight lap the start of the log. -/

namespace WallaBMC.Console

open Library.Runs Library.Ring

/-- No byte copied comes from the place of a position that is handed over and not yet received. -/
def KeepsOff (log : ConsoleLog) (res : ReadResult) : Prop :=
  ∀ a ∈ res.sources, ∀ i, log.received.toNat ≤ i → i < log.allocated.toNat →
    a ≠ i % log.size.bytes

namespace System

variable {ι : Type*} {config : LogSize} {s : System ι} {pos : UInt64}

lemma Aligned.window_lapped (h : Aligned config s)
    (hwin : config.bytes ≤ s.log.received.toNat ∨ s.log.allocated.toNat ≤ config.bytes ∨
      s.log.allocated.toNat - config.bytes ≤ pos.toNat) :
    s.log.allocated.toNat ≤ readFrom s.log pos + config.bytes := by
  rcases hwin with hfull | hfirst | hlate
  · have hw := h.windowStart_full (h.received_eq ▸ hfull)
    have := le_max_right pos.toNat (windowStart s.log).toNat
    rw [readFrom]
    omega
  · omega
  · have := le_max_left pos.toNat (windowStart s.log).toNat
    rw [readFrom]
    omega

theorem Aligned.keepsOff_iff (h16 : 16 ∣ config.bytes) (h : Aligned config s)
    (hpos : pos.toNat ≤ s.log.received.toNat) (buf : ℕ → UInt8) (n : ℕ) :
    KeepsOff s.log (consoleLogRead s.log buf n pos) ↔
      config.bytes ≤ s.log.received.toNat ∨ s.log.allocated.toNat ≤ config.bytes ∨
        s.log.allocated.toNat - config.bytes ≤ pos.toNat ∨ n = 0 := by
  have hsize := congrArg LogSize.bytes h.size_eq
  have hspec := consoleLogRead_spec buf n hpos (h.windowStart_le h16)
  rw [KeepsOff, hspec.sources_eq, hsize]
  constructor
  · intro hoff
    by_contra hcon
    simp only [not_or, not_le] at hcon
    obtain ⟨hfirst, hlap, hearly, hn⟩ := hcon
    have hchunks := size_eq_chunks h16
    have hall := h.allocated_eq
    have hin := h.inflight
    have hrec := h.received_eq
    -- Position `pos` is readable, and its place is that of the handed-over position `pos + size`.
    have hfrom : readFrom s.log pos = pos.toNat := by
      rw [readFrom, h.windowStart_first (by omega)]
      exact max_eq_left (Nat.zero_le _)
    have hcount : 0 < readCount s.log n pos := by
      rw [readCount, hfrom]
      omega
    apply hoff (pos.toNat % config.bytes) _ (pos.toNat + config.bytes) (by omega) (by omega)
    · exact (Nat.add_mod_right _ _).symm
    · rw [hfrom]
      exact mem_slots.mpr ⟨pos.toNat, le_rfl, by omega, rfl⟩
  · intro hcond a ha i hlo hhi
    obtain ⟨p, hp, hp', rfl⟩ := mem_slots.mp ha
    have hcount : readCount s.log n pos ≤ s.log.received.toNat - readFrom s.log pos :=
      Nat.min_le_right _ _
    have hwin : s.log.allocated.toNat ≤ readFrom s.log pos + config.bytes := by
      apply h.window_lapped
      rcases hcond with hc | hc | hc | rfl
      · exact .inl hc
      · exact .inr (.inl hc)
      · exact .inr (.inr hc)
      · rw [readCount, Nat.zero_min] at hp'
        omega
    exact mod_ne_of_lt (by omega) (by omega)

variable [DecidableEq ι]

theorem read_keepsOff_receiver_iff (h16 : 16 ∣ config.bytes) (logBuffer : ℕ → UInt8) (ret : ℤ)
    (hret : 0 ≤ ret) (es : List (Event ι))
    (hes : Along (step config) (fun s e => RestartFree config s e ∧ NoWrap config s e)
      (init config logBuffer ret) es) (buf : ℕ → UInt8) (n : ℕ) (pos : UInt64)
    (hpos : pos.toNat ≤ (exec (step config) (init config logBuffer ret) es).log.received.toNat) :
    let log := (exec (step config) (init config logBuffer ret) es).log
    KeepsOff log (consoleLogRead log buf n pos) ↔
      config.bytes ≤ log.received.toNat ∨ log.allocated.toNat ≤ config.bytes ∨
        log.allocated.toNat - config.bytes ≤ pos.toNat ∨ n = 0 := by
  have haligned : Aligned config (exec (step config) (init config logBuffer ret) es) :=
    aligned_exec h16 (aligned_init h16 logBuffer hret)
      (hes.mono fun _ _ h => ⟨h.1.1, h.1.lossless h.2⟩)
  exact haligned.keepsOff_iff h16 hpos buf n

def firstLap : List (Event ℕ) :=
  .uart .rxBufRequest 0 :: (List.replicate 15 [.store 1, .store 2, .store 3, .store 4,
    .uart (.rxRdy 4) 0, .uart .rxBufRequest 0]).flatten

theorem read_keepsOff_receiver_firstLap :
    let log := (exec (step kconfigMinLog) (init kconfigMinLog (fun _ => 0) 0) firstLap).log
    KeepsOff log (consoleLogRead log (fun _ => 0) 80 4) ↔
      kconfigMinLog.bytes ≤ log.received.toNat ∨ log.allocated.toNat ≤ kconfigMinLog.bytes ∨
        log.allocated.toNat - kconfigMinLog.bytes ≤ (4 : UInt64).toNat ∨ 80 = 0 :=
  read_keepsOff_receiver_iff (by decide) _ 0 le_rfl firstLap (by decide +kernel) _ 80 4
    (by decide +kernel)

theorem read_from_receiver_firstLap :
    ¬ ∀ (config : LogSize) (logBuffer : ℕ → UInt8) (ret : ℤ) (es : List (Event ℕ)),
      16 ∣ config.bytes → 0 ≤ ret →
      Along (step config) (RestartFree config) (init config logBuffer ret) es →
      ∀ (buf : ℕ → UInt8) (n : ℕ) (pos : UInt64),
        pos.toNat ≤ (exec (step config) (init config logBuffer ret) es).log.received.toNat →
        let log := (exec (step config) (init config logBuffer ret) es).log
        KeepsOff log (consoleLogRead log buf n pos) := by
  intro h
  have hoff := h kconfigMinLog (fun _ => 0) 0 firstLap (by decide) le_rfl (by decide +kernel)
    (fun _ => 0) 1 0 (by decide +kernel)
  exact hoff 0 (by decide +kernel) 64 (by decide +kernel) (by decide +kernel) (by decide +kernel)

end System

end WallaBMC.Console
