import WallaBMC.Console.Receiver

/-! As long as no chunk is refused or given up and no counter wraps, byte `i` of the stream is stored
at offset `i % size`, and a read returns the reported bytes. -/

namespace WallaBMC.Console

open Library.Runs Library.Ring

namespace System

variable {ι : Type*} (config : LogSize)

def Lossless (s : System ι) (e : Event ι) : Prop :=
  NoWrap config s e ∧ (e.restarts → s.outstanding = 0)

instance (s : System ι) (e : Event ι) : Decidable (Lossless config s e) :=
  inferInstanceAs (Decidable (_ ∧ _))

structure Aligned (s : System ι) : Prop where
  size_eq : s.log.size = config
  received_eq : s.log.received.toNat = s.reported.length
  allocated_eq : s.log.allocated.toNat = s.reported.length + s.outstanding
  inflight : s.outstanding ≤ 2 * uartRxBufSize config
  whole : uartRxBufSize config ∣ s.log.allocated.toNat
  free_eq : s.uart.free = slots config.bytes s.stored.length s.uart.free.length
  keeps : Keeps config.bytes s.log.logBuffer s.stored

variable {config} {s : System ι} {e : Event ι} {r : ι} {pos : UInt64} {b : UInt8} {n : ℕ}

lemma RestartFree.lossless (he : RestartFree config s e) (hw : NoWrap config s e) :
    Lossless config s e :=
  ⟨hw, fun hr => by simp [he.2] at hr⟩

lemma size_eq_chunks (h : 16 ∣ config.bytes) : config.bytes = 16 * uartRxBufSize config := by
  rw [uartRxBufSize, Nat.mul_div_cancel' h]

lemma chunk_pos (h : 16 ∣ config.bytes) : 0 < uartRxBufSize config := by
  have := config.pos
  have := size_eq_chunks h
  omega

lemma stored_length (s : System ι) :
    s.stored.length = s.reported.length + s.uart.pending.length := by
  simp [stored]

lemma Aligned.free_end (h : Aligned config s) :
    s.stored.length + s.uart.free.length = s.log.allocated.toNat := by
  have := h.allocated_eq
  simp only [stored_length, outstanding] at *
  omega

lemma chunk_fits (h16 : 16 ∣ config.bytes) {a : ℕ} (ha : uartRxBufSize config ∣ a) :
    a % config.bytes + uartRxBufSize config ≤ config.bytes :=
  mod_add_le config.pos (Dvd.intro_left 16 (size_eq_chunks h16).symm) ha

lemma aligned_withChunk (h16 : 16 ∣ config.bytes) (h : Aligned config s)
    (hroom : s.outstanding ≤ uartRxBufSize config)
    (hwrap : s.log.allocated.toNat + uartRxBufSize config < 2 ^ 64) :
    Aligned config (s.withChunk config) := by
  have hadd := toNat_add_ofNat s.log.allocated hwrap
  have hout : (s.withChunk config).outstanding = s.outstanding + uartRxBufSize config := by
    simp [outstanding, withChunk, Nat.add_assoc]
  have hoff : (s.log.allocated % s.log.sizeU64).toNat = s.log.allocated.toNat % config.bytes := by
    rw [toNat_off, h.size_eq]
  constructor
  · exact h.size_eq
  · exact h.received_eq
  · rw [hout, withChunk, hadd, h.allocated_eq, Nat.add_assoc]
  · omega
  · simp only [withChunk, hadd]
    exact Nat.dvd_add h.whole dvd_rfl
  · have hnew : slots config.bytes s.log.allocated.toNat (uartRxBufSize config) =
        List.range' (s.log.allocated.toNat % config.bytes) (uartRxBufSize config) :=
      slots_contiguous (chunk_fits h16 h.whole)
    simp only [withChunk, hoff, stored, List.length_append, List.length_range']
    rw [← hnew, slots_append]
    have hfree := h.free_eq
    have hend := h.free_end
    simp only [stored, List.length_append] at hfree hend
    rw [← hfree, hend]
  · exact h.keeps

lemma aligned_storeByte (h : Aligned config s) (b : UInt8) :
    Aligned config (s.storeByte b) := by
  cases hf : s.uart.free with
  | nil => simpa only [storeByte, hf] using h
  | cons a free =>
    have hfree := h.free_eq
    rw [hf, List.length_cons, slots_succ, List.cons.injEq] at hfree
    have hout : (s.storeByte b).outstanding = s.outstanding := by
      simp only [storeByte, hf, outstanding, List.length_append, List.length_cons, List.length_nil]
      omega
    have hstored : (s.storeByte b).stored = s.stored ++ [b] := by simp [storeByte, hf, stored]
    have hlog : (s.storeByte b).log =
        { s.log with logBuffer := Function.update s.log.logBuffer a b } := by
      simp only [storeByte, hf]
    have hrep : (s.storeByte b).reported = s.reported := by simp only [storeByte, hf]
    have huart : (s.storeByte b).uart.free = free := by simp only [storeByte, hf]
    constructor
    · rw [hlog, ← h.size_eq]
    · rw [hlog, hrep, ← h.received_eq]
    · rw [hlog, hrep, hout, ← h.allocated_eq]
    · rw [hout]
      exact h.inflight
    · rw [hlog]
      exact h.whole
    · rw [huart, hstored, List.length_append, List.length_singleton]
      exact hfree.2
    · rw [hlog, hstored, hfree.1]
      exact h.keeps.push b

lemma aligned_rxRdy (h : Aligned config s) (hn : n ≤ s.uart.pending.length) (ret : ℤ) :
    Aligned config (s.onUart config (.rxRdy n) ret) := by
  have hall := h.allocated_eq
  have hlt := s.log.allocated.toNat_lt
  have hrec := h.received_eq
  have hstored : (s.onUart config (.rxRdy n) ret).stored = s.stored := by
    simp [onUart_rxRdy, stored]
  simp only [outstanding] at hall
  have hout : (s.onUart config (.rxRdy n) ret).outstanding + n = s.outstanding := by
    simp only [onUart_rxRdy, outstanding, List.length_drop]
    omega
  have hadd : (s.log.received + UInt64.ofNat n).toNat = s.log.received.toNat + n :=
    toNat_add_ofNat _ (by omega)
  constructor
  · exact h.size_eq
  · simp only [onUart_rxRdy, hadd, List.length_append, List.length_take]
    omega
  · have hlen : (s.onUart config (.rxRdy n) ret).reported.length = s.reported.length + n := by
      simp only [onUart_rxRdy, List.length_append, List.length_take]
      omega
    rw [hlen]
    have := h.allocated_eq
    simp only [onUart_rxRdy] at hout ⊢
    omega
  · have := h.inflight
    omega
  · exact h.whole
  · rw [hstored]
    exact h.free_eq
  · rw [hstored]
    exact h.keeps

lemma aligned_onUart (h16 : 16 ∣ config.bytes) (h : Aligned config s) {evt : UartEvent} {ret : ℤ}
    (hp : Protocol config s (.uart evt ret)) (hl : Lossless config s (.uart evt ret)) :
    Aligned config (s.onUart config evt ret) := by
  obtain ⟨hraise, hpipe, hacc⟩ := hp
  obtain ⟨hwrap, hrestart⟩ := hl
  cases evt with
  | rxRdy len => exact aligned_rxRdy h (by simpa [Possible, Uart.canRaise] using hraise) ret
  | rxBufRequest =>
    rw [onUart_request (by simpa [Event.accepted] using hacc rfl)]
    exact aligned_withChunk h16 h (hpipe rfl) (hwrap rfl)
  | rxDisabled =>
    have hout := hrestart rfl
    rw [onUart_restart (by simpa [Event.accepted] using hacc rfl), uart_eq_nil hout]
    exact aligned_withChunk h16 h (by omega) (hwrap rfl)
  | rxBufReleased | rxStopped | txDone | txAborted =>
    rwa [onUart_other (by simp) rfl]

lemma aligned_init (h16 : 16 ∣ config.bytes) (logBuffer : ℕ → UInt8) {ret : ℤ} (h : 0 ≤ ret) :
    Aligned config (init config logBuffer ret : System ι) := by
  rw [init_accepted logBuffer h]
  have := uartRxBufSize_lt config
  refine aligned_withChunk h16 ⟨rfl, rfl, rfl, Nat.zero_le _, dvd_zero _, rfl, keeps_nil⟩
    (Nat.zero_le _) ?_
  change 0 + uartRxBufSize config < 2 ^ 64
  omega

lemma Aligned.windowStart_full (h : Aligned config s) (hfull : config.bytes ≤ s.reported.length) :
    (windowStart s.log).toNat = s.log.allocated.toNat - config.bytes := by
  have hall := h.allocated_eq
  have hsize := congrArg LogSize.bytes h.size_eq
  rw [toNat_windowStart_wrapped (by rw [hsize, h.received_eq]; exact hfull) (by omega), hsize]

lemma Aligned.windowStart_first (h : Aligned config s) (hfirst : s.reported.length < config.bytes) :
    (windowStart s.log).toNat = 0 := by
  rw [Console.windowStart_first (by rw [h.size_eq, h.received_eq]; exact hfirst)]
  rfl

/-- Once a byte has been received, one is readable. -/
lemma Aligned.windowStart_lt (h16 : 16 ∣ config.bytes) (h : Aligned config s) (hpos : 0 < s.log.received.toNat) :
    (windowStart s.log).toNat < s.log.received.toNat := by
  by_cases hfull : config.bytes ≤ s.reported.length
  · have hs := size_eq_chunks h16
    have := chunk_pos h16
    have := h.inflight
    have := h.allocated_eq
    have := h.received_eq
    rw [h.windowStart_full hfull]
    omega
  · rw [h.windowStart_first (by omega)]
    exact hpos

lemma Aligned.windowStart_le (h16 : 16 ∣ config.bytes) (h : Aligned config s) :
    (windowStart s.log).toNat ≤ s.log.received.toNat := by
  by_cases hzero : s.log.received.toNat = 0
  · have hempty : s.reported.length = 0 := h.received_eq.symm.trans hzero
    rw [h.windowStart_first (by rw [hempty]; exact config.pos)]
    exact Nat.zero_le _
  · exact (h.windowStart_lt h16 (Nat.pos_of_ne_zero hzero)).le

/-- The DMA has not lapped the part of the log that is readable before the first wrap. -/
def Unlapped (config : LogSize) (s : System ι) : Prop :=
  s.stored.length ≤ config.bytes ∨ config.bytes ≤ s.reported.length

theorem Aligned.read_bytes (h16 : 16 ∣ config.bytes) (h : Aligned config s)
    (hlap : Unlapped config s) (hpos : pos.toNat ≤ s.log.received.toNat) (buf : ℕ → UInt8) (n : ℕ) :
    (consoleLogRead s.log buf n pos).bytes =
      (s.reported.drop (readFrom s.log pos)).take (readCount s.log n pos) := by
  have hws := h.windowStart_le h16
  have hspec := consoleLogRead_spec buf n hpos hws
  have hfrom : readFrom s.log pos ≤ s.reported.length := by
    rw [← h.received_eq]
    exact max_le hpos hws
  have hcount : readFrom s.log pos + readCount s.log n pos ≤ s.reported.length := by
    simp only [readCount, h.received_eq]
    omega
  have hlo : s.stored.length ≤ readFrom s.log pos + config.bytes := by
    rcases hlap with hlap | hlap
    · omega
    · have hw := h.windowStart_full hlap
      have hend := h.free_end
      have := le_max_right pos.toNat (windowStart s.log).toNat
      rw [readFrom]
      omega
  have hslice := h.keeps.slice hlo
    (hcount.trans (by simp [stored]))
  rw [hspec.bytes, hspec.sources_eq, h.size_eq, hslice, stored,
    List.drop_append_of_le_length hfrom, List.take_append_of_le_length]
  rw [List.length_drop]
  omega

section

variable [DecidableEq ι]

lemma aligned_setCursor (h : Aligned config s) : Aligned config (s.setCursor r pos) :=
  ⟨h.size_eq, h.received_eq, h.allocated_eq, h.inflight, h.whole, h.free_eq, h.keeps⟩

lemma aligned_step (h16 : 16 ∣ config.bytes) (h : Aligned config s) (hp : Protocol config s e)
    (hl : Lossless config s e) : Aligned config (s.step config e).1 := by
  cases e with
  | store b => exact aligned_storeByte h b
  | uart evt ret => exact aligned_onUart h16 h hp hl
  | openAtStart r => exact aligned_setCursor h
  | openAtEnd r => exact aligned_setCursor h
  | read r n =>
    obtain ⟨pos, hc⟩ := Option.ne_none_iff_exists'.mp hp.1
    rw [step_read hc]
    exact aligned_setCursor h

theorem aligned_exec (h16 : 16 ∣ config.bytes) {es : List (Event ι)} (h : Aligned config s)
    (hes : Along (step config) (fun s e => Protocol config s e ∧ Lossless config s e) s es) :
    Aligned config (exec (step config) s es) :=
  exec_invariant (fun _ _ hs ho => aligned_step h16 hs ho.1 ho.2) h hes

end

end System

end WallaBMC.Console
