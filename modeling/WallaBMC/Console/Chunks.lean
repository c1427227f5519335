import WallaBMC.Console.Log
import WallaBMC.Library.Ring
import WallaBMC.Library.Runs

/-! Where the chunks handed to the UART lie. The offset is the 64-bit `allocated` modulo the log size,
so a chunk stays inside when the chunk length divides the log size, and past the range of `allocated`
when it also divides `2 ^ 64`. -/

namespace WallaBMC.Console

open Library.Runs Library.Ring

def UartCall.chunk : UartCall → Option (ℕ × ℕ)
  | .rxEnable off len _ => some (off, len)
  | .rxBufRsp off len => some (off, len)
  | .eventPost _ | .txSemGive => none

def driverCalls (config : LogSize) (logBuffer : ℕ → UInt8) (res : InitResults)
    (evts : List UartEvent) : List UartCall :=
  match consoleLoggerInit config logBuffer res with
  | .error _ => []
  | .ok (log, calls) => calls ++ (trace (uartCallback config) log evts).flatMap (fun v => v.output)

def chunks (config : LogSize) (logBuffer : ℕ → UInt8) (res : InitResults)
    (evts : List UartEvent) : List (ℕ × ℕ) :=
  (driverCalls config logBuffer res evts).filterMap UartCall.chunk

def Apart (c d : ℕ × ℕ) : Prop := c.1 + c.2 ≤ d.1 ∨ d.1 + d.2 ≤ c.1

/-- Every chunk lies in the log buffer and is apart from the one handed over just before it. -/
def InBuffer (config : LogSize) (cs : List (ℕ × ℕ)) : Prop :=
  (∀ c ∈ cs, c.1 + c.2 ≤ config.bytes) ∧ cs.IsChain Apart

def chunkAt (config : LogSize) (k : ℕ) : ℕ × ℕ :=
  (k * uartRxBufSize config % 2 ^ 64 % config.bytes, uartRxBufSize config)

def UartEvent.handsOver : UartEvent → Bool
  | .rxDisabled | .rxBufRequest => true
  | _ => false

variable {config : LogSize} {log : ConsoleLog} {k : ℕ}

structure HandedOver (config : LogSize) (log : ConsoleLog) (k : ℕ) : Prop where
  size_eq : log.size = config
  allocated_eq : log.allocated = UInt64.ofNat (k * uartRxBufSize config)

lemma HandedOver.off (h : HandedOver config log k) :
    ((log.allocated % log.sizeU64).toNat, uartRxBufSize config) = chunkAt config k := by
  rw [toNat_off, h.size_eq, h.allocated_eq, UInt64.toNat_ofNat', chunkAt]

lemma HandedOver.next (h : HandedOver config log k) :
    HandedOver config { log with
      allocated := log.allocated + UInt64.ofNat (uartRxBufSize config) } (k + 1) := by
  refine ⟨h.size_eq, ?_⟩
  rw [h.allocated_eq, ← UInt64.ofNat_add, Nat.succ_mul]

lemma HandedOver.callback (h : HandedOver config log k) (evt : UartEvent) :
    HandedOver config (uartCallback config log evt).1 (k + evt.handsOver.toNat) ∧
      (uartCallback config log evt).2.filterMap UartCall.chunk =
        (List.range' k evt.handsOver.toNat).map (chunkAt config) := by
  cases evt with
  | rxDisabled | rxBufRequest => exact ⟨h.next, congrArg (fun c => [c]) h.off⟩
  | rxRdy len => exact ⟨⟨h.size_eq, h.allocated_eq⟩, rfl⟩
  | rxBufReleased | rxStopped | txDone | txAborted => exact ⟨h, rfl⟩

lemma HandedOver.trace (h : HandedOver config log k) (evts : List UartEvent) :
    ((trace (uartCallback config) log evts).flatMap (fun v => v.output)).filterMap UartCall.chunk =
      (List.range' k (evts.countP UartEvent.handsOver)).map (chunkAt config) := by
  induction evts generalizing log k with
  | nil => rfl
  | cons evt evts ih =>
    obtain ⟨hnext, hcalls⟩ := h.callback evt
    have hcount : (evt :: evts).countP UartEvent.handsOver =
        evt.handsOver.toNat + evts.countP UartEvent.handsOver := by
      cases hh : evt.handsOver <;> simp [hh, Nat.add_comm]
    rw [trace_cons, List.flatMap_cons, List.filterMap_append, ih hnext, hcalls, hcount,
      ← List.map_append, List.range'_append_1]

lemma consoleLoggerInit_ok {logBuffer : ℕ → UInt8} {res : InitResults} {out : ConsoleLog × List UartCall}
    (h : consoleLoggerInit config logBuffer res = .ok out) :
    out = uartRxStart config ⟨0, 0, config, logBuffer⟩ := by
  unfold consoleLoggerInit consoleLoggerInit.enable at h
  grind

lemma chunks_ok (config : LogSize) (logBuffer : ℕ → UInt8) {res : InitResults}
    (evts : List UartEvent) {out : ConsoleLog × List UartCall}
    (h : consoleLoggerInit config logBuffer res = .ok out) :
    chunks config logBuffer res evts =
      (List.range (evts.countP UartEvent.handsOver + 1)).map (chunkAt config) := by
  have h₀ : HandedOver config ⟨0, 0, config, logBuffer⟩ 0 := ⟨rfl, by rw [Nat.zero_mul]; rfl⟩
  have hcalls : driverCalls config logBuffer res evts =
      (trace (uartCallback config) ⟨0, 0, config, logBuffer⟩ (.rxDisabled :: evts)).flatMap
        (fun v => v.output) := by
    rw [driverCalls, h, consoleLoggerInit_ok h]
    rfl
  rw [chunks, hcalls, h₀.trace, List.countP_cons_of_pos rfl, List.range_eq_range']

lemma inBuffer_iff (n : ℕ) : InBuffer config ((List.range n).map (chunkAt config)) ↔
    (∀ k < n, (chunkAt config k).1 + uartRxBufSize config ≤ config.bytes) ∧
      ∀ k, k + 1 < n → Apart (chunkAt config k) (chunkAt config (k + 1)) := by
  apply and_congr
  · simp [chunkAt]
  · rw [List.isChain_iff_getElem]
    simp

lemma apart_of_ne (hdvd : uartRxBufSize config ∣ config.bytes) {a b : ℕ}
    (ha : uartRxBufSize config ∣ a) (hb : uartRxBufSize config ∣ b)
    (hne : a % config.bytes ≠ b % config.bytes) :
    Apart (a % config.bytes, uartRxBufSize config) (b % config.bytes, uartRxBufSize config) :=
  disjoint_of_dvd ((Nat.dvd_mod_iff hdvd).mpr ha) ((Nat.dvd_mod_iff hdvd).mpr hb) hne

-- `2 ^ j` is a chunk length and `m` the number of chunks in the log, which Kconfig leaves below 20.
lemma last_chunk_offset : ∀ j < 13, ∀ m < 20, 2 ≤ j → m * 2 ^ j / 16 = 2 ^ j →
    ¬ m * 2 ^ j ∣ 2 ^ 64 - 2 ^ j := by
  decide +kernel

section

variable (hlo : 64 ≤ config.bytes) (hhi : config.bytes ≤ 65536)

include hlo

lemma dvd_of_fits (hfit : (chunkAt config (config.bytes / uartRxBufSize config)).1 +
    uartRxBufSize config ≤ config.bytes) : uartRxBufSize config ∣ config.bytes := by
  have hsmall := config.fits
  have hc : 0 < uartRxBufSize config := by
    rw [uartRxBufSize]
    omega
  have hdiv := Nat.div_mul_le_self config.bytes (uartRxBufSize config)
  have hmod := Nat.mod_lt config.bytes hc
  have hsum := Nat.div_add_mod' config.bytes (uartRxBufSize config)
  by_contra hndvd
  have hpos : 0 < config.bytes % uartRxBufSize config :=
    Nat.pos_of_ne_zero fun h => hndvd (Nat.dvd_of_mod_eq_zero h)
  rw [chunkAt, Nat.mod_eq_of_lt (by omega : _ < 2 ^ 64), Nat.mod_eq_of_lt (by omega)] at hfit
  omega

lemma chunk_lt : uartRxBufSize config < config.bytes := by
  rw [uartRxBufSize]
  omega

lemma apart_unwrapped (hdvd : uartRxBufSize config ∣ config.bytes) {a : ℕ}
    (ha : uartRxBufSize config ∣ a) : Apart (a % config.bytes, uartRxBufSize config)
      ((a + uartRxBufSize config) % config.bytes, uartRxBufSize config) := by
  have hlt := chunk_lt hlo
  have hpos : 0 < uartRxBufSize config := Nat.pos_of_dvd_of_pos hdvd config.pos
  exact apart_of_ne hdvd ha (Nat.dvd_add ha dvd_rfl) (mod_ne_of_lt (by omega) (by omega))

include hhi

lemma last_chunk_ne (hdvd : uartRxBufSize config ∣ config.bytes)
    (hpow : ∃ j, uartRxBufSize config = 2 ^ j) :
    (2 ^ 64 - uartRxBufSize config) % config.bytes ≠ 0 := by
  obtain ⟨j, hj⟩ := hpow
  obtain ⟨m, hm⟩ := hdvd
  have hc : uartRxBufSize config = config.bytes / 16 := rfl
  rw [hj] at hc hm ⊢
  have hj2 : 2 ≤ j := (Nat.pow_le_pow_iff_right (by decide : 1 < 2)).mp (by omega : 2 ^ 2 ≤ 2 ^ j)
  have hj12 : j < 13 := (Nat.pow_lt_pow_iff_right (by decide : 1 < 2)).mp (by omega : 2 ^ j < 2 ^ 13)
  have hm20 : m < 20 := by
    by_contra hge
    have := Nat.mul_le_mul_left (2 ^ j) (not_lt.mp hge)
    omega
  rw [Nat.mul_comm] at hm
  rw [hm] at hc ⊢
  exact fun h => last_chunk_offset j hj12 m hm20 hj2 hc.symm (Nat.dvd_of_mod_eq_zero h)

lemma chunk_dvd_range (hpow : ∃ j, uartRxBufSize config = 2 ^ j) :
    uartRxBufSize config ∣ 2 ^ 64 := by
  obtain ⟨j, hj⟩ := hpow
  have hlt := chunk_lt hlo
  have hj64 : 2 ^ j < 2 ^ 64 := by omega
  rw [hj]
  exact Nat.pow_dvd_pow 2 ((Nat.pow_lt_pow_iff_right (by decide : 1 < 2)).mp hj64).le

lemma apart_pow (hdvd : uartRxBufSize config ∣ config.bytes)
    (hpow : ∃ j, uartRxBufSize config = 2 ^ j) (k : ℕ) :
    Apart (chunkAt config k) (chunkAt config (k + 1)) := by
  have hlast := last_chunk_ne hlo hhi hdvd hpow
  have hcpos : 0 < uartRxBufSize config := Nat.pos_of_dvd_of_pos hdvd config.pos
  have hlt := chunk_lt hlo
  have h64 := chunk_dvd_range hlo hhi hpow
  have ha : uartRxBufSize config ∣ k * uartRxBufSize config % 2 ^ 64 :=
    (Nat.dvd_mod_iff h64).mpr (Nat.dvd_mul_left _ _)
  have hnext : (k + 1) * uartRxBufSize config % 2 ^ 64 =
      (k * uartRxBufSize config % 2 ^ 64 + uartRxBufSize config) % 2 ^ 64 := by
    rw [Nat.succ_mul, Nat.mod_add_mod]
  simp only [chunkAt, hnext]
  have hmod := Nat.mod_lt (k * uartRxBufSize config) (by decide : 0 < 2 ^ 64)
  set a := k * uartRxBufSize config % 2 ^ 64
  rcases Nat.lt_or_ge (a + uartRxBufSize config) (2 ^ 64) with hin | hout
  · rw [Nat.mod_eq_of_lt hin]
    exact apart_unwrapped hlo hdvd ha
  · -- `allocated` goes back to 0: the chunk before it is the last one below `2 ^ 64`
    have hend : a + uartRxBufSize config = 2 ^ 64 := by
      have := Nat.le_of_dvd (by omega) (Nat.dvd_sub h64 ha)
      omega
    rw [hend, Nat.mod_self]
    apply apart_of_ne hdvd ha (dvd_zero _)
    rw [Nat.zero_mod, show a = 2 ^ 64 - uartRxBufSize config by omega]
    exact hlast

lemma pow_of_fits (hdvd : uartRxBufSize config ∣ config.bytes)
    (hfit : ∀ k, (chunkAt config k).1 + uartRxBufSize config ≤ config.bytes) :
    ∃ j, uartRxBufSize config = 2 ^ j := by
  set c := uartRxBufSize config with hc
  have hcle : c ≤ 4096 := by
    rw [hc, uartRxBufSize]
    omega
  have hcpos : 0 < c := Nat.pos_of_dvd_of_pos hdvd config.pos
  have hg : 0 < c.gcd (2 ^ 64) := Nat.gcd_pos_of_pos_left _ hcpos
  have hgc : c.gcd (2 ^ 64) ≤ c := Nat.gcd_le_left _ hcpos
  have hgs : c.gcd (2 ^ 64) ∣ config.bytes - c.gcd (2 ^ 64) :=
    Nat.dvd_sub ((Nat.gcd_dvd_left _ _).trans hdvd) dvd_rfl
  obtain ⟨k, hk⟩ := exists_mul_mod_eq (by omega) (by omega) hgs
  have hlast := hfit k
  rw [chunkAt, ← hc, hk, Nat.mod_eq_of_lt (by omega)] at hlast
  have hdvd64 : c ∣ 2 ^ 64 := Nat.gcd_eq_left_iff_dvd.mp (by omega)
  obtain ⟨j, -, hj⟩ := (Nat.dvd_prime_pow Nat.prime_two).mp hdvd64
  exact ⟨j, hj⟩

omit hhi in
lemma inBuffer_unwrapped (hdvd : uartRxBufSize config ∣ config.bytes) {n : ℕ}
    (hn : n * uartRxBufSize config ≤ 2 ^ 64) :
    InBuffer config ((List.range n).map (chunkAt config)) := by
  have hcpos : 0 < uartRxBufSize config := Nat.pos_of_dvd_of_pos hdvd config.pos
  have hbelow : ∀ k < n, k * uartRxBufSize config % 2 ^ 64 = k * uartRxBufSize config := by
    intro k hk
    have := Nat.mul_le_mul_right (uartRxBufSize config) (Nat.succ_le_of_lt hk)
    rw [Nat.succ_mul] at this
    exact Nat.mod_eq_of_lt (by omega)
  refine (inBuffer_iff n).mpr ⟨fun k hk => ?_, fun k hk => ?_⟩
  · rw [chunkAt, hbelow k hk]
    exact mod_add_le config.pos hdvd (Nat.dvd_mul_left _ _)
  · rw [chunkAt, chunkAt, hbelow k (by omega), hbelow (k + 1) hk, Nat.succ_mul]
    exact apart_unwrapped hlo hdvd (Nat.dvd_mul_left _ _)

lemma inBuffer_pow (hdvd : uartRxBufSize config ∣ config.bytes)
    (hpow : ∃ j, uartRxBufSize config = 2 ^ j) (n : ℕ) :
    InBuffer config ((List.range n).map (chunkAt config)) := by
  refine (inBuffer_iff n).mpr ⟨fun k _ => ?_, fun k _ => apart_pow hlo hhi hdvd hpow k⟩
  have h64 := chunk_dvd_range hlo hhi hpow
  exact mod_add_le config.pos hdvd ((Nat.dvd_mod_iff h64).mpr (Nat.dvd_mul_left _ _))

end

def initOk : InitResults := ⟨true, none, 0, 0⟩

def requests (n : ℕ) : List UartEvent := List.replicate n .rxBufRequest

lemma chunks_requests (logBuffer : ℕ → UInt8) (n : ℕ) :
    chunks config logBuffer initOk (requests n) = (List.range (n + 1)).map (chunkAt config) := by
  have hcount : (requests n).countP UartEvent.handsOver = n := by
    rw [requests, List.countP_replicate]
    exact if_pos rfl
  rw [chunks_ok config logBuffer (requests n) rfl, hcount]

lemma inBuffer_chunks (logBuffer : ℕ → UInt8) (res : InitResults) (evts : List UartEvent)
    (h : ∀ n, (chunks config logBuffer res evts).length = n →
      InBuffer config ((List.range n).map (chunkAt config))) :
    InBuffer config (chunks config logBuffer res evts) := by
  cases hinit : consoleLoggerInit config logBuffer res with
  | error e => simp [chunks, driverCalls, hinit, InBuffer]
  | ok out =>
    have hchunks := chunks_ok config logBuffer evts hinit
    rw [hchunks] at h ⊢
    exact h _ (by simp)

theorem dma_inBuffer_iff (hlo : 64 ≤ config.bytes) (hhi : config.bytes ≤ 65536) :
    ((∀ logBuffer res evts, InBuffer config (chunks config logBuffer res evts)) ↔
      uartRxBufSize config ∣ config.bytes ∧ ∃ j, uartRxBufSize config = 2 ^ j) ∧
    ((∀ logBuffer res evts,
        (chunks config logBuffer res evts).length * uartRxBufSize config ≤ 2 ^ 64 →
        InBuffer config (chunks config logBuffer res evts)) ↔
      uartRxBufSize config ∣ config.bytes) := by
  have hlt := chunk_lt hlo
  -- The chunk that crosses the end, if any, is handed over before `allocated` reaches the log size.
  have hcross : (∀ logBuffer res evts,
      (chunks config logBuffer res evts).length * uartRxBufSize config ≤ 2 ^ 64 →
      InBuffer config (chunks config logBuffer res evts)) →
      uartRxBufSize config ∣ config.bytes := by
    intro h
    have hk := h (fun _ => 0) initOk (requests (config.bytes / uartRxBufSize config))
    rw [chunks_requests, inBuffer_iff] at hk
    refine dvd_of_fits hlo ((hk ?_).1 _ (Nat.lt_succ_self _))
    have := Nat.div_mul_le_self config.bytes (uartRxBufSize config)
    rw [List.length_map, List.length_range, Nat.succ_mul]
    omega
  constructor
  · constructor
    · intro h
      have hdvd := hcross fun logBuffer res evts _ => h logBuffer res evts
      refine ⟨hdvd, pow_of_fits hlo hhi hdvd fun k => ?_⟩
      have hk := h (fun _ => 0) initOk (requests k)
      rw [chunks_requests, inBuffer_iff] at hk
      exact hk.1 k (Nat.lt_succ_self k)
    · rintro ⟨hdvd, hpow⟩ logBuffer res evts
      exact inBuffer_chunks logBuffer res evts fun n _ => inBuffer_pow hlo hhi hdvd hpow n
  · constructor
    · exact hcross
    · intro hdvd logBuffer res evts hlen
      exact inBuffer_chunks logBuffer res evts fun n hn => inBuffer_unwrapped hlo hdvd (hn ▸ hlen)

theorem dma_inBuffer_iff_kconfigMin :
    ((∀ logBuffer res evts, InBuffer kconfigMinLog (chunks kconfigMinLog logBuffer res evts)) ↔
      uartRxBufSize kconfigMinLog ∣ kconfigMinLog.bytes ∧ ∃ j, uartRxBufSize kconfigMinLog = 2 ^ j) ∧
    ((∀ logBuffer res evts,
        (chunks kconfigMinLog logBuffer res evts).length * uartRxBufSize kconfigMinLog ≤ 2 ^ 64 →
        InBuffer kconfigMinLog (chunks kconfigMinLog logBuffer res evts)) ↔
      uartRxBufSize kconfigMinLog ∣ kconfigMinLog.bytes) :=
  dma_inBuffer_iff (by decide) (by decide)

theorem dma_outside_65 :
    ¬ ∀ config : LogSize, 64 ≤ config.bytes → config.bytes ≤ 65536 →
      ∀ logBuffer res evts, InBuffer config (chunks config logBuffer res evts) := by
  intro h
  -- The chunks have 4 bytes, and the seventeenth is `[64, 68)`.
  have hin := h ⟨65, by decide, by decide⟩ (by decide) (by decide) (fun _ => 0) initOk (requests 16)
  exact absurd (hin.1 (64, 4) (by decide +kernel)) (by decide)

end WallaBMC.Console
