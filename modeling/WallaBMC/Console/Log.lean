import Mathlib.Tactic

/-! The host console log of `console_logger.c`: a circular buffer that the UART fills by DMA, chunk
by chunk. `LogSize` is `CONFIG_APP_CONSOLE_LOG_SIZE`, which is `sizeof(log_buffer)` and has to fit the
`int` of `log->size`; memory is addressed relative to `log_buffer`. Functions return the driver and
kernel calls they make, in order. -/

namespace WallaBMC.Console

structure LogSize where
  bytes : ℕ
  pos : 0 < bytes
  fits : bytes < 2 ^ 31

def kconfigMinLog : LogSize := ⟨64, by decide, by decide⟩

def uartRxBufSize (config : LogSize) : ℕ := config.bytes / 16

def uartRxDelayUs : ℕ := 50000

def eventConsoleLogData : ℕ := 0x0001

structure ConsoleLog where
  allocated : UInt64
  received : UInt64
  size : LogSize
  logBuffer : ℕ → UInt8

inductive UartCall
  | rxEnable (off len timeout : ℕ)
  | rxBufRsp (off len : ℕ)
  | eventPost (mask : ℕ)
  | txSemGive
  deriving DecidableEq

inductive UartEvent
  | rxRdy (len : ℕ)
  | rxBufRequest
  | rxBufReleased
  | rxDisabled
  | rxStopped
  | txDone
  | txAborted
  deriving DecidableEq

def ConsoleLog.sizeU64 (log : ConsoleLog) : UInt64 := UInt64.ofNat log.size.bytes

def uartRxReady (len : ℕ) (log : ConsoleLog) : ConsoleLog × List UartCall :=
  ({ log with received := log.received + UInt64.ofNat len }, [.eventPost eventConsoleLogData])

-- The return value of `uart_rx_buf_rsp` is only logged: `allocated` has moved either way.
def uartRxAllocate (config : LogSize) (log : ConsoleLog) : ConsoleLog × List UartCall :=
  let off := (log.allocated % log.sizeU64).toNat
  ({ log with allocated := log.allocated + UInt64.ofNat (uartRxBufSize config) },
    [.rxBufRsp off (uartRxBufSize config)])

def uartRxStart (config : LogSize) (log : ConsoleLog) : ConsoleLog × List UartCall :=
  let off := (log.allocated % log.sizeU64).toNat
  ({ log with allocated := log.allocated + UInt64.ofNat (uartRxBufSize config) },
    [.rxEnable off (uartRxBufSize config) uartRxDelayUs])

def uartCallback (config : LogSize) (log : ConsoleLog) : UartEvent → ConsoleLog × List UartCall
  | .rxRdy len => uartRxReady len log
  | .rxDisabled => uartRxStart config log
  | .rxBufRequest => uartRxAllocate config log
  | .rxStopped => (log, [])
  | .txDone => (log, [.txSemGive])
  | _ => (log, [])

structure InitResults where
  deviceReady : Bool
  muxsel : Option (Bool × ℤ)
  configure : ℤ
  callbackSet : ℤ

-- On `.error`, a negative return, `main` does not start the bridges.
def consoleLoggerInit (config : LogSize) (logBuffer : ℕ → UInt8) (res : InitResults) :
    Except ℤ (ConsoleLog × List UartCall) :=
  if !res.deviceReady then .error (-1)
  else
    let log : ConsoleLog := ⟨0, 0, config, logBuffer⟩
    match res.muxsel with
    | some (false, _) => .error (-1)
    | some (true, ret) => if ret < 0 then .error ret else enable log
    | none => enable log
where
  enable (log : ConsoleLog) : Except ℤ (ConsoleLog × List UartCall) :=
    if res.configure < 0 then .error (-1)
    else if res.callbackSet < 0 then .error res.callbackSet
    else .ok (uartRxStart config log)

def hostConsoleSeekEnd (log : ConsoleLog) : UInt64 := log.received

section

variable {config : LogSize} {log : ConsoleLog} {n : ℕ}

lemma LogSize.toNat_ofNat (size : LogSize) : (UInt64.ofNat size.bytes).toNat = size.bytes := by
  have := size.fits
  rw [UInt64.toNat_ofNat', Nat.mod_eq_of_lt (by omega)]

@[simp] lemma toNat_sizeU64 : log.sizeU64.toNat = log.size.bytes := log.size.toNat_ofNat

lemma uartRxBufSize_lt (config : LogSize) : uartRxBufSize config < 2 ^ 31 := by
  have := config.fits
  simp only [uartRxBufSize]
  omega

lemma toNat_add_ofNat (a : UInt64) (h : a.toNat + n < 2 ^ 64) :
    (a + UInt64.ofNat n).toNat = a.toNat + n := by
  rw [UInt64.toNat_add, UInt64.toNat_ofNat', Nat.mod_eq_of_lt (by omega : n < 2 ^ 64),
    Nat.mod_eq_of_lt h]

lemma toNat_sub (a b : UInt64) (h : b.toNat ≤ a.toNat) : (a - b).toNat = a.toNat - b.toNat :=
  UInt64.toNat_sub_of_le a b (UInt64.le_iff_toNat_le.mpr h)

lemma toNat_off (log : ConsoleLog) (a : UInt64) :
    (a % log.sizeU64).toNat = a.toNat % log.size.bytes := by
  rw [UInt64.toNat_mod, toNat_sizeU64]

end

end WallaBMC.Console
