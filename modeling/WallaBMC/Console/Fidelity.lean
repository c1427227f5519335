import WallaBMC.Console.Alignment

/-! Reading the log gives back the bytes the UART reported, unless a restart of the receiver gives up
part of a chunk: `uart_rx_start` goes on at `allocated` and never moves `received` along. -/

namespace WallaBMC.Console

open Library.Runs Library.Ring

namespace System

variable {ι : Type*} (config : LogSize)

/-- Every byte a read returns for stream position `i` is the `i`-th byte the UART reported. The last
byte returned is the one just before the new cursor. -/
def Faithful (s : System ι) : Prop :=
  ∀ (buf : ℕ → UInt8) (n : ℕ) (pos : UInt64), pos.toNat ≤ s.log.received.toNat →
    let res := consoleLogRead s.log buf n pos
    ∀ j < res.bytes.length, res.bytes[j]? = s.reported[res.ppos.toNat - res.bytes.length + j]?

/-- The DMA enters the second lap of the buffer only after the whole first lap has been reported. -/
def NotLapping (s : System ι) : Event ι → Prop
  | .store _ => s.stored.length < config.bytes ∨ config.bytes ≤ s.reported.length
  | _ => True

instance (s : System ι) : (e : Event ι) → Decidable (NotLapping config s e)
  | .store _ => inferInstanceAs (Decidable (_ ∨ _))
  | .uart _ _ | .openAtStart _ | .openAtEnd _ | .read _ _ => isTrue trivial

structure Sound (s : System ι) : Prop extends Aligned config s where
  unlapped : Unlapped config s

variable {config} {s : System ι} {e : Event ι}

lemma Aligned.faithful (h16 : 16 ∣ config.bytes) (h : Aligned config s)
    (hlap : Unlapped config s) : Faithful s := by
  intro buf n pos hpos res j hj
  have hspec : ReadSpec s.log buf n pos res := consoleLogRead_spec buf n hpos (h.windowStart_le h16)
  have hbytes : res.bytes = _ := h.read_bytes h16 hlap hpos buf n
  have hfrom : res.ppos.toNat - res.bytes.length = readFrom s.log pos := by
    rw [hspec.bytes_length, hspec.ppos_eq, Nat.add_sub_cancel]
  rw [hspec.bytes_length] at hj
  rw [hfrom, hbytes, List.getElem?_take_of_lt hj, List.getElem?_drop]

lemma unlapped_storeByte (h : Unlapped config s) (b : UInt8)
    (hn : NotLapping config s (.store b)) : Unlapped config (s.storeByte b) := by
  cases hf : s.uart.free with
  | nil => simpa only [storeByte, hf] using h
  | cons a free =>
    simp only [Unlapped, storeByte, hf, stored_length, List.length_append,
      List.length_singleton] at hn ⊢
    simp only [NotLapping, stored_length] at hn
    omega

lemma unlapped_onUart (h : Unlapped config s) (evt : UartEvent) (ret : ℤ) :
    Unlapped config (s.onUart config evt ret) := by
  rcases onUart_cases config s evt ret with ⟨len, rfl⟩ | ⟨-, u, hu, -, heq⟩ | heq
  · simp only [Unlapped, onUart_rxRdy, stored, List.append_assoc, List.take_append_drop,
      List.length_append] at h ⊢
    omega
  · rw [heq]
    simp only [Unlapped, stored_length] at h ⊢
    omega
  · rwa [heq]

lemma sound_init (h16 : 16 ∣ config.bytes) (logBuffer : ℕ → UInt8) {ret : ℤ} (h : 0 ≤ ret) :
    Sound config (init config logBuffer ret : System ι) := by
  refine ⟨aligned_init h16 logBuffer h, Or.inl ?_⟩
  rw [init_accepted logBuffer h]
  exact Nat.zero_le _

section

variable [DecidableEq ι]

lemma unlapped_step (h : Unlapped config s) (hp : Possible s e) (hn : NotLapping config s e) :
    Unlapped config (s.step config e).1 := by
  cases e with
  | store b => exact unlapped_storeByte h b hn
  | uart evt ret => exact unlapped_onUart h evt ret
  | openAtStart r | openAtEnd r => exact h
  | read r n =>
    obtain ⟨pos, hc⟩ := Option.ne_none_iff_exists'.mp hp
    rw [step_read hc]
    exact h

lemma sound_step (h16 : 16 ∣ config.bytes) (h : Sound config s) (hp : Protocol config s e)
    (hl : Lossless config s e) (hn : NotLapping config s e) : Sound config (s.step config e).1 :=
  ⟨aligned_step h16 h.toAligned hp hl, unlapped_step h.unlapped hp.1 hn⟩

theorem console_log_faithful (h16 : 16 ∣ config.bytes) (logBuffer : ℕ → UInt8) (ret : ℤ)
    (hret : 0 ≤ ret) (es : List (Event ι))
    (hes : Along (step config)
      (fun s e => Protocol config s e ∧ Lossless config s e ∧ NotLapping config s e)
      (init config logBuffer ret) es) :
    Faithful (exec (step config) (init config logBuffer ret) es) := by
  have hend : Sound config (exec (step config) (init config logBuffer ret) es) :=
    exec_invariant (fun _ _ hs ⟨hp, hl, hn⟩ => sound_step h16 hs hp hl hn) (sound_init h16 logBuffer hret) hes
  exact hend.toAligned.faithful h16 hend.unlapped

end

lemma exists_other_byte (a : UInt8) : ∃ b, b ≠ a := by
  by_cases h : a = 0
  · exact ⟨1, by rw [h]; decide⟩
  · exact ⟨0, Ne.symm h⟩

lemma Faithful.last_byte (hf : Faithful s) {pos : UInt64}
    (hrecv : s.log.received.toNat = pos.toNat + 1) (hwin : (windowStart s.log).toNat ≤ pos.toNat) :
    s.reported[pos.toNat]? = some (s.log.logBuffer (pos.toNat % s.log.size.bytes)) := by
  have hpos : pos.toNat ≤ s.log.received.toNat := by omega
  have hspec := consoleLogRead_spec (fun _ => 0) 1 hpos (by omega)
  have hfrom : readFrom s.log pos = pos.toNat := by rw [readFrom]; omega
  have hcount : readCount s.log 1 pos = 1 := by rw [readCount, hfrom]; omega
  have hread := hf (fun _ => 0) 1 pos hpos 0 (by rw [hspec.bytes_length, hcount]; decide)
  rw [hspec.bytes_length, hspec.ppos_eq, hfrom, hcount, hspec.bytes, hspec.sources_eq, hfrom, hcount,
    slots_succ] at hread
  simpa using hread.symm

lemma restart_byte (s : System ι) (hchunk : 0 < uartRxBufSize config) {ret : ℤ} (hret : 0 ≤ ret) (b : UInt8) :
    ∃ u : Uart, ((s.onUart config .rxDisabled ret).storeByte b).onUart config (.rxRdy 1) 0 =
      ⟨⟨s.log.allocated + UInt64.ofNat (uartRxBufSize config), s.log.received + UInt64.ofNat 1,
        s.log.size, Function.update s.log.logBuffer (s.log.allocated % s.log.sizeU64).toNat b⟩, u,
        s.reported ++ [b], s.cursor⟩ := by
  have hstart : s.onUart config .rxDisabled ret =
      withChunk config { s with uart := ⟨[], []⟩ } := onUart_restart hret
  have hfree : (s.onUart config .rxDisabled ret).uart.free =
      (s.log.allocated % s.log.sizeU64).toNat ::
        List.range' ((s.log.allocated % s.log.sizeU64).toNat + 1) (uartRxBufSize config - 1) := by
    rw [hstart, ← List.range'_succ, Nat.sub_add_cancel hchunk]
    rfl
  refine ⟨⟨List.range' ((s.log.allocated % s.log.sizeU64).toNat + 1) (uartRxBufSize config - 1), []⟩,
    ?_⟩
  simp only [storeByte, hfree, onUart_rxRdy]
  rw [hstart]
  rfl

theorem restart_unfaithful (h16 : 16 ∣ config.bytes) (h : Aligned config s)
    (hgive : 0 < s.outstanding) {ret : ℤ} (hret : 0 ≤ ret)
    (hwrap : s.log.allocated.toNat + uartRxBufSize config < 2 ^ 64) :
    ∃ b, ¬ Faithful (((s.onUart config .rxDisabled ret).storeByte b).onUart config (.rxRdy 1) 0) := by
  have hsize := size_eq_chunks h16
  have hall := h.allocated_eq
  have hrec := h.received_eq
  have hin := h.inflight
  have hsz := congrArg LogSize.bytes h.size_eq
  -- The next byte goes to the place of `allocated`, but is read at that of `received`, another one.
  have hne : s.log.received.toNat % config.bytes ≠ s.log.allocated.toNat % config.bytes :=
    mod_ne_of_lt (by omega) (by omega)
  obtain ⟨b, hb⟩ := exists_other_byte (s.log.logBuffer (s.log.received.toNat % config.bytes))
  refine ⟨b, fun hf => ?_⟩
  obtain ⟨u, hstate⟩ := restart_byte s (chunk_pos h16) hret b
  rw [hstate] at hf
  let log : ConsoleLog := ⟨s.log.allocated + UInt64.ofNat (uartRxBufSize config),
    s.log.received + UInt64.ofNat 1, s.log.size,
    Function.update s.log.logBuffer (s.log.allocated % s.log.sizeU64).toNat b⟩
  have hlog : log.size.bytes = config.bytes := hsz
  have hrecv : log.received.toNat = s.log.received.toNat + 1 := toNat_add_ofNat _ (by omega)
  have hallo : log.allocated.toNat = s.log.allocated.toNat + uartRxBufSize config :=
    toNat_add_ofNat _ hwrap
  have hwin : (windowStart log).toNat ≤ s.log.received.toNat := by
    by_cases hfull : config.bytes ≤ s.log.received.toNat + 1
    · rw [toNat_windowStart_wrapped (by omega) (by omega)]
      omega
    · rw [Console.windowStart_first (by omega)]
      exact Nat.zero_le _
  have hread := hf.last_byte hrecv hwin
  rw [hrec, List.getElem?_append_right le_rfl, Nat.sub_self, List.getElem?_singleton, ← hrec] at hread
  have hoff : (s.log.allocated % s.log.sizeU64).toNat = s.log.allocated.toNat % config.bytes := by
    rw [toNat_off, hsz]
  simp only [hsz, hoff, Function.update_of_ne hne, if_true, Option.some.injEq] at hread
  exact hb hread

def alignedRestart : List (Event ℕ) :=
  [.store 1, .store 2, .store 3, .store 4, .uart (.rxRdy 4) 0, .uart .rxStopped 0,
    .uart .rxDisabled 0, .store 5, .uart (.rxRdy 1) 0]

theorem console_log_faithful_alignedRestart :
    Faithful (exec (step kconfigMinLog) (init kconfigMinLog (fun _ => 0) 0) alignedRestart) :=
  console_log_faithful (by decide) _ 0 le_rfl _ (by decide)

def lossyRestart : List (Event ℕ) :=
  [.uart .rxBufRequest 0, .store 1, .store 2, .uart (.rxRdy 2) 0, .uart .rxStopped 0,
    .uart .rxDisabled 0, .store 3, .uart (.rxRdy 1) 0]

theorem console_log_unfaithful_lossyRestart :
    ¬ ∀ (config : LogSize) (logBuffer : ℕ → UInt8) (ret : ℤ) (es : List (Event ℕ)),
      16 ∣ config.bytes → 0 ≤ ret →
      Along (step config) (Protocol config) (init config logBuffer ret) es →
      Faithful (exec (step config) (init config logBuffer ret) es) := by
  intro h
  have hf := h kconfigMinLog (fun _ => 0) 0 lossyRestart (by decide) le_rfl (by decide)
  have hread := hf (fun _ => 0) 1 2 (by decide) 0 (by decide)
  revert hread
  decide

end System

end WallaBMC.Console
