import WallaBMC.Console.Read
import WallaBMC.Library.Runs

/-! The UART receiver, the console log and its readers as one system. The UART stores each received
byte by DMA at the next free place of its chunks, in hand-over order, and reports bytes later:
`reported` is the stream of all bytes reported so far, `stored` has the pending ones as well. -/

namespace WallaBMC.Console

open Library.Runs

/-- `free` lists the `log_buffer` offsets of the handed-over chunks still to be filled, `pending`
the bytes stored but not yet reported. -/
structure Uart where
  free : List ℕ
  pending : List UInt8

structure System (ι : Type*) where
  log : ConsoleLog
  uart : Uart
  reported : List UInt8
  cursor : ι → Option UInt64

/-- `ret` is the answer of the UART to the hand-over call that the callback makes, if any. -/
inductive Event (ι : Type*)
  | store (b : UInt8)
  | uart (evt : UartEvent) (ret : ℤ)
  | openAtStart (r : ι)
  | openAtEnd (r : ι)
  | read (r : ι) (size : ℕ)

/-- What the UART has done itself when it raises an event. Ending reception gives up its chunks. -/
def Uart.raise (u : Uart) : UartEvent → Uart
  | .rxRdy len => { u with pending := u.pending.drop len }
  | .rxDisabled => ⟨[], []⟩
  | _ => u

def Uart.reports (u : Uart) : UartEvent → List UInt8
  | .rxRdy len => u.pending.take len
  | _ => []

def Uart.answer (ret : ℤ) (u : Uart) : UartCall → Uart
  | .rxEnable off len _ | .rxBufRsp off len =>
    if 0 ≤ ret then { u with free := u.free ++ List.range' off len } else u
  | _ => u

def Uart.answers (ret : ℤ) (u : Uart) (calls : List UartCall) : Uart := calls.foldl (Uart.answer ret) u

def Uart.canRaise (u : Uart) : UartEvent → Bool
  | .rxRdy len => len ≤ u.pending.length
  | _ => true

namespace Event

variable {ι : Type*}

def asksChunk : Event ι → Bool
  | .uart .rxBufRequest _ => true
  | _ => false

def restarts : Event ι → Bool
  | .uart .rxDisabled _ => true
  | _ => false

def handsOver (e : Event ι) : Bool := e.asksChunk || e.restarts

def accepted : Event ι → Bool
  | .uart _ ret => 0 ≤ ret
  | _ => true

end Event

namespace System

variable {ι : Type*} [DecidableEq ι] (config : LogSize)

/-- The state `consoleLoggerInit` leaves behind when no step of it fails before `uart_rx_start`;
`ret` is the answer of `uart_rx_enable`. -/
def init (logBuffer : ℕ → UInt8) (ret : ℤ) : System ι :=
  let (log, calls) := uartRxStart config ⟨0, 0, config, logBuffer⟩
  ⟨log, Uart.answers ret ⟨[], []⟩ calls, [], fun _ => none⟩

def setCursor (s : System ι) (r : ι) (pos : UInt64) : System ι :=
  { s with cursor := Function.update s.cursor r (some pos) }

def storeByte (s : System ι) (b : UInt8) : System ι :=
  match s.uart.free with
  | [] => s
  | a :: free =>
    { s with
      log := { s.log with logBuffer := Function.update s.log.logBuffer a b }
      uart := ⟨free, s.uart.pending ++ [b]⟩ }

def onUart (s : System ι) (evt : UartEvent) (ret : ℤ) : System ι :=
  let (log, calls) := uartCallback config s.log evt
  { s with
    log := log
    uart := Uart.answers ret (s.uart.raise evt) calls
    reported := s.reported ++ s.uart.reports evt }

def readAt (s : System ι) (r : ι) (size : ℕ) : Option ReadResult :=
  (s.cursor r).map (hostConsoleRead s.log (fun _ => 0) size)

def step (s : System ι) : Event ι → System ι × Option ReadResult
  | .store b => (s.storeByte b, none)
  | .uart evt ret => (s.onUart config evt ret, none)
  | .openAtStart r => (s.setCursor r 0, none)
  | .openAtEnd r => (s.setCursor r (hostConsoleSeekEnd s.log), none)
  | .read r size =>
    match s.readAt r size with
    | none => (s, none)
    | some res => (s.setCursor r res.ppos, some res)

/-- What can happen next: the UART stores only into its chunks and reports only what it stored, and
a reader is opened before it reads, once. -/
def Possible (s : System ι) : Event ι → Prop
  | .store _ => s.uart.free ≠ []
  | .uart evt _ => s.uart.canRaise evt
  | .openAtStart r | .openAtEnd r => s.cursor r = none
  | .read r _ => s.cursor r ≠ none

instance (s : System ι) : (e : Event ι) → Decidable (Possible s e)
  | .store _ => inferInstanceAs (Decidable (_ ≠ _))
  | .uart _ _ => inferInstanceAs (Decidable (_ = _))
  | .openAtStart _ | .openAtEnd _ => inferInstanceAs (Decidable (_ = _))
  | .read _ _ => inferInstanceAs (Decidable (_ ≠ _))

def NoWrap (s : System ι) (e : Event ι) : Prop :=
  e.handsOver → s.log.allocated.toNat + uartRxBufSize config < 2 ^ 64

instance (s : System ι) (e : Event ι) : Decidable (NoWrap config s e) :=
  inferInstanceAs (Decidable (_ → _))

def outstanding (s : System ι) : ℕ := s.uart.pending.length + s.uart.free.length

/-- The UART asks for a chunk only when at most one is outstanding, so that two are in flight. -/
def Pipelined (s : System ι) (e : Event ι) : Prop :=
  e.asksChunk → s.outstanding ≤ uartRxBufSize config

instance (s : System ι) (e : Event ι) : Decidable (Pipelined config s e) :=
  inferInstanceAs (Decidable (_ → _))

def Protocol (s : System ι) (e : Event ι) : Prop :=
  Possible s e ∧ Pipelined config s e ∧ (e.handsOver → e.accepted)

instance (s : System ι) (e : Event ι) : Decidable (Protocol config s e) :=
  inferInstanceAs (Decidable (_ ∧ _ ∧ _))

def RestartFree (s : System ι) (e : Event ι) : Prop := Protocol config s e ∧ e.restarts = false

instance (s : System ι) (e : Event ι) : Decidable (RestartFree config s e) :=
  inferInstanceAs (Decidable (_ ∧ _))

def stored (s : System ι) : List UInt8 := s.reported ++ s.uart.pending

def withChunk (s : System ι) : System ι :=
  { s with
    log := { s.log with allocated := s.log.allocated + UInt64.ofNat (uartRxBufSize config) }
    uart := ⟨s.uart.free ++
      List.range' (s.log.allocated % s.log.sizeU64).toNat (uartRxBufSize config), s.uart.pending⟩ }

variable {config} {s : System ι} {r : ι} {n : ℕ} {pos : UInt64}

omit [DecidableEq ι] in
lemma readAt_open (h : s.cursor r = some pos) (n : ℕ) :
    s.readAt r n = some (hostConsoleRead s.log (fun _ => 0) n pos) := by
  simp [readAt, h]

lemma step_read (h : s.cursor r = some pos) (n : ℕ) :
    s.step config (.read r n) =
      (s.setCursor r (hostConsoleRead s.log (fun _ => 0) n pos).ppos,
        some (hostConsoleRead s.log (fun _ => 0) n pos)) := by
  simp only [step, readAt_open h]

@[simp] lemma setCursor_reported : (s.setCursor r pos).reported = s.reported := rfl

lemma setCursor_self : (s.setCursor r pos).cursor r = some pos := by simp [setCursor]

lemma setCursor_of_ne {r' : ι} (h : r' ≠ r) : (s.setCursor r pos).cursor r' = s.cursor r' := by
  simp [setCursor, h]

lemma step_reported (config : LogSize) (s : System ι) (e : Event ι) :
    ∃ more, (s.step config e).1.reported = s.reported ++ more := by
  cases e with
  | store b =>
    refine ⟨[], ?_⟩
    simp only [step, storeByte, List.append_nil]
    split <;> rfl
  | uart evt ret => exact ⟨s.uart.reports evt, rfl⟩
  | openAtStart r | openAtEnd r => exact ⟨[], (List.append_nil _).symm⟩
  | read r n =>
    refine ⟨[], ?_⟩
    simp only [step, List.append_nil]
    split <;> rfl

lemma step_allocated (config : LogSize) (s : System ι) (e : Event ι) :
    (s.step config e).1.log.allocated = s.log.allocated ∨
      e.handsOver = true ∧
        (s.step config e).1.log.allocated = s.log.allocated + UInt64.ofNat (uartRxBufSize config) := by
  cases e with
  | store b =>
    left
    simp only [step, storeByte]
    split <;> rfl
  | uart evt ret =>
    cases evt with
    | rxBufRequest | rxDisabled => exact .inr ⟨rfl, rfl⟩
    | _ => exact .inl rfl
  | openAtStart r | openAtEnd r => exact .inl rfl
  | read r n =>
    left
    simp only [step]
    split <;> rfl

section

omit [DecidableEq ι]

lemma init_accepted (logBuffer : ℕ → UInt8) {ret : ℤ} (h : 0 ≤ ret) :
    (init config logBuffer ret : System ι) =
      withChunk config ⟨⟨0, 0, config, logBuffer⟩, ⟨[], []⟩, [], fun _ => none⟩ := by
  simp [init, uartRxStart, Uart.answers, Uart.answer, withChunk, h]

lemma onUart_rxRdy (s : System ι) (len : ℕ) (ret : ℤ) :
    s.onUart config (.rxRdy len) ret =
      { s with
        log := { s.log with received := s.log.received + UInt64.ofNat len }
        uart := ⟨s.uart.free, s.uart.pending.drop len⟩
        reported := s.reported ++ s.uart.pending.take len } := rfl

lemma onUart_request {ret : ℤ} (h : 0 ≤ ret) :
    s.onUart config .rxBufRequest ret = s.withChunk config := by
  simp [onUart, uartCallback, uartRxAllocate, Uart.raise, Uart.reports, Uart.answers, Uart.answer,
    withChunk, h]

lemma onUart_request_refused {ret : ℤ} (h : ret < 0) :
    s.onUart config .rxBufRequest ret = { s with
      log := { s.log with
        allocated := s.log.allocated + UInt64.ofNat (uartRxBufSize config) } } := by
  simp [onUart, uartCallback, uartRxAllocate, Uart.raise, Uart.reports, Uart.answers, Uart.answer,
    Int.not_le.mpr h]

lemma onUart_restart_request (ret : ℤ) :
    s.onUart config .rxDisabled ret =
      ({ s with uart := ⟨[], []⟩ } : System ι).onUart config .rxBufRequest ret := by
  simp [onUart, uartCallback, uartRxAllocate, uartRxStart, Uart.raise, Uart.reports, Uart.answers,
    Uart.answer]

lemma onUart_restart {ret : ℤ} (h : 0 ≤ ret) :
    s.onUart config .rxDisabled ret = withChunk config { s with uart := ⟨[], []⟩ } := by
  simp [onUart, uartCallback, uartRxStart, Uart.raise, Uart.reports, Uart.answers, Uart.answer,
    withChunk, h]

lemma uart_eq_nil (hout : s.outstanding = 0) : { s with uart := ⟨[], []⟩ } = s := by
  rcases s with ⟨log, ⟨free, pending⟩, reported, cursor⟩
  simp only [outstanding, Nat.add_eq_zero_iff, List.length_eq_zero_iff] at hout
  rw [hout.1, hout.2]

lemma onUart_other {evt : UartEvent} {ret : ℤ} (hr : ∀ len, evt ≠ .rxRdy len)
    (hh : (Event.uart evt ret : Event ι).handsOver = false) : s.onUart config evt ret = s := by
  cases evt with
  | rxRdy len => exact absurd rfl (hr len)
  | rxBufRequest | rxDisabled => simp [Event.handsOver, Event.asksChunk, Event.restarts] at hh
  | rxBufReleased | rxStopped | txDone | txAborted =>
    simp [onUart, uartCallback, Uart.raise, Uart.reports, Uart.answers, Uart.answer]

lemma onUart_cases (config : LogSize) (s : System ι) (evt : UartEvent) (ret : ℤ) :
    (∃ len, evt = .rxRdy len) ∨
      ((Event.uart evt ret : Event ι).handsOver ∧
        ∃ u : Uart, u.pending.length ≤ s.uart.pending.length ∧
          u.pending.length + u.free.length ≤ s.outstanding + uartRxBufSize config ∧
          s.onUart config evt ret = ⟨{ s.log with
            allocated := s.log.allocated + UInt64.ofNat (uartRxBufSize config) }, u, s.reported,
            s.cursor⟩) ∨
      s.onUart config evt ret = s := by
  cases evt with
  | rxRdy len => exact .inl ⟨len, rfl⟩
  | rxBufRequest =>
    refine .inr (.inl ⟨rfl, ?_⟩)
    by_cases h : 0 ≤ ret
    · exact ⟨(withChunk config s).uart, le_rfl, by simp [withChunk, outstanding, Nat.add_assoc],
        onUart_request h⟩
    · refine ⟨s.uart, le_rfl, Nat.le_add_right _ _, ?_⟩
      simp [onUart, uartCallback, uartRxAllocate, Uart.raise, Uart.reports, Uart.answers,
        Uart.answer, h]
  | rxDisabled =>
    refine .inr (.inl ⟨rfl, ?_⟩)
    by_cases h : 0 ≤ ret
    · exact ⟨(withChunk config { s with uart := ⟨[], []⟩ }).uart, by simp [withChunk],
        by simp [withChunk], onUart_restart h⟩
    · refine ⟨⟨[], []⟩, Nat.zero_le _, Nat.zero_le _, ?_⟩
      simp [onUart, uartCallback, uartRxStart, Uart.raise, Uart.reports, Uart.answers,
        Uart.answer, h]
  | rxBufReleased | rxStopped | txDone | txAborted =>
    exact .inr (.inr (onUart_other (by simp) rfl))

end

end System

end WallaBMC.Console
