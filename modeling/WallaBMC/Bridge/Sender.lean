import WallaBMC.Console.Read
import WallaBMC.Library.EventFlags

/-! The loop that both `socket_send_thread` functions share, up to the sending of a chunk, which is a `task` of
the bridge. One step is one access to what other threads can see. Connections are counted as they are
accepted, and a descriptor stands for the connection that has its number. The fields `owner` and `bufPos` are
not in the code: the connection that is active when `buf` is read, and the stream position of its first byte. -/

namespace WallaBMC.Bridge

open Console Library.EventFlags

abbrev Conn := ℕ

inductive Sender
  | telnet
  | websocket
  deriving DecidableEq

instance : Fintype Sender := ⟨{.telnet, .websocket}, fun b => by cases b <;> decide⟩

inductive EventBit
  | consoleLogData
  | websocketClient
  | telnetClient
  deriving DecidableEq

instance : Fintype EventBit :=
  ⟨{.consoleLogData, .websocketClient, .telnetClient}, fun b => by cases b <;> decide⟩

def EventBit.mask : EventBit → ℕ
  | consoleLogData => eventConsoleLogData
  | websocketClient => 0x0002
  | telnetClient => 0x0004

def eventBits (mask : ℕ) : Finset EventBit := Finset.univ.filter (fun b => mask &&& b.mask ≠ 0)

abbrev Events := Flags Sender EventBit

inductive Pc (σ : Type*)
  | top
  | enterWait (mask : Finset EventBit)
  | blocked
  | testNew
  | reset
  | clearNew
  | read
  | send (task : σ)
  deriving DecidableEq

structure Link (σ : Type*) where
  fd : Option Conn
  newClient : Bool
  pc : Pc σ
  pos : UInt64
  buf : List UInt8
  owner : Option Conn
  bufPos : ℕ

def bufSize : ℕ := 64

namespace Sender

def clientEvent : Sender → EventBit
  | telnet => .telnetClient
  | websocket => .websocketClient

/-- Whereas websocket clients get all history, telnet clients only send subsequent console output. -/
def firstPos (log : ConsoleLog) : Sender → UInt64
  | telnet => hostConsoleSeekEnd log
  | websocket => 0

end Sender

namespace Link

variable {σ : Type*}

def init : Link σ := ⟨none, false, .top, 0, [], none, 0⟩

def readLog (b : Sender) (task : σ) (log : ConsoleLog) (link : Link σ) : Link σ :=
  let res := hostConsoleRead log (fun _ => 0) bufSize link.pos
  { link with
    pc :=
      if res.ret < 0 then .top
      else if res.ret = 0 then .enterWait {b.clientEvent, .consoleLogData}
      else .send task
    pos := res.ppos
    buf := res.bytes
    owner := link.fd
    bufPos := readFrom log link.pos }

-- The websocket thread clears `new_client` before it resets `pos`, which no other thread sees.
def loopStep (b : Sender) (task : σ) (log : ConsoleLog) (events : Events) (link : Link σ) :
    Link σ × Events :=
  match link.pc with
  | .top =>
    ({ link with pc := if link.fd = none then .enterWait {b.clientEvent} else .testNew }, events)
  | .enterWait mask =>
    let (returned, events) := events.wait b mask
    ({ link with pc := if returned then .top else .blocked }, events)
  | .blocked => ({ link with pc := if events.waiting b = none then .top else .blocked }, events)
  | .testNew => ({ link with pc := if link.newClient then .reset else .read }, events)
  | .reset => ({ link with pos := b.firstPos log, pc := .clearNew }, events)
  | .clearNew => ({ link with newClient := false, pc := .read }, events)
  | .read => (link.readLog b task log, events)
  | .send _ => (link, events)

variable {b : Sender} {task task' : σ} {log : ConsoleLog} {events : Events} {link : Link σ}

lemma readLog_send (h : (link.readLog b task log).pc = .send task') : task' = task := by
  simp only [readLog] at h
  split_ifs at h
  cases h
  rfl

lemma readLog_pc (b : Sender) (task : σ)
    (h : ReadSpec log (fun _ => 0) bufSize link.pos (hostConsoleRead log (fun _ => 0) bufSize link.pos)) :
    (link.readLog b task log).pc =
      if readCount log bufSize link.pos = 0 then .enterWait {b.clientEvent, .consoleLogData} else .send task := by
  simp only [readLog, h.ret_eq]
  rw [if_neg (by omega)]
  split_ifs with hret hcount hcount
  · rfl
  · exact absurd (Int.natCast_eq_zero.mp hret) hcount
  · exact absurd (Int.natCast_eq_zero.mpr hcount) hret
  · rfl

@[simp] lemma loopStep_fd : (link.loopStep b task log events).1.fd = link.fd := by
  rw [loopStep]
  split <;> rfl

lemma loopStep_send (hloop : ∀ task, link.pc ≠ .send task)
    (h : (link.loopStep b task log events).1.pc = .send task') : link.pc = .read ∧ task' = task := by
  rw [loopStep] at h
  cases hpc : link.pc with
  | read =>
    rw [hpc] at h
    exact ⟨rfl, readLog_send h⟩
  | send task => exact absurd hpc (hloop task)
  | top | enterWait mask | blocked | testNew =>
    simp only [hpc] at h
    split_ifs at h
  | reset | clearNew =>
    simp only [hpc] at h
    cases h

end Link

/-- Why a connection is ended: an error or its end, reported on the descriptor that was used (none stands for
-1), or a newer client. -/
inductive Cause
  | reported (d : Option Conn)
  | newer (k : Conn)
  deriving DecidableEq

structure Ending where
  conn : Conn
  cause : Cause
  deriving DecidableEq

def ending (fd : Option Conn) (cause : Cause) : Option Ending := fd.map (fun conn => ⟨conn, cause⟩)

end WallaBMC.Bridge
