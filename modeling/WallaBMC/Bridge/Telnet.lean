import WallaBMC.Bridge.Sender

/-! The bridge of `console_bridge.c`: its send thread, and the daemon thread that accepts clients and receives
from them, one after the other. `ret` is what a `send` or `recv` returns. -/

namespace WallaBMC.Bridge

open Library.EventFlags

inductive TelnetTask
  | testFd
  | sendFd
  | sending (d : Option Conn)
  | shut (d : Option Conn)
  | clear (d : Option Conn)
  deriving DecidableEq

inductive DaemonPc
  | accept
  | setFd (k : Conn)
  | setNew (k : Conn)
  | post (k : Conn)
  | testFd (k : Conn)
  | recvFd (k : Conn)
  | receiving (k : Conn) (d : Option Conn)
  | shut (k : Conn) (d : Option Conn)
  | clear (k : Conn) (d : Option Conn)
  | close (k : Conn)
  deriving DecidableEq

structure Telnet where
  link : Link TelnetTask
  daemon : DaemonPc
  accepted : ℕ

namespace Telnet

def init : Telnet := ⟨.init, .accept, 0⟩

def goto (t : Telnet) (pc : Pc TelnetTask) : Telnet := { t with link := { t.link with pc := pc } }

def daemonGoto (t : Telnet) (pc : DaemonPc) : Telnet := { t with daemon := pc }

def clearFd (t : Telnet) : Telnet := { t with link := { t.link with fd := none } }

def setFd (t : Telnet) (k : Conn) : Telnet := { t with link := { t.link with fd := some k } }

def setNew (t : Telnet) : Telnet := { t with link := { t.link with newClient := true } }

def sendStep (ret : ℤ) (t : Telnet) : TelnetTask → Telnet × Option Ending
  | .testFd => (t.goto (if t.link.fd = none then .top else .send .sendFd), none)
  | .sendFd => (t.goto (.send (.sending t.link.fd)), none)
  | .sending d => (t.goto (if d = none ∨ ret ≤ 0 then .send (.shut d) else .top), none)
  | .shut d => (t.goto (.send (.clear d)), ending t.link.fd (.reported d))
  | .clear d => (t.clearFd.goto .top, ending t.link.fd (.reported d))

def socketSendThread (ret : ℤ) (log : Console.ConsoleLog) (events : Events) (t : Telnet) :
    Telnet × Events × Option Ending :=
  match t.link.pc with
  | .send task =>
    let (t, ended) := t.sendStep ret task
    (t, events, ended)
  | _ =>
    let (link, events) := t.link.loopStep .telnet .testFd log events
    ({ t with link := link }, events, none)

lemma socketSendThread_send {ret : ℤ} {log : Console.ConsoleLog} {events : Events} {t : Telnet} {task : TelnetTask}
    (h : t.link.pc = .send task) :
    t.socketSendThread ret log events = ((t.sendStep ret task).1, events, (t.sendStep ret task).2) := by
  rw [socketSendThread, h]

lemma socketSendThread_loop {ret : ℤ} {log : Console.ConsoleLog} {events : Events} {t : Telnet}
    (h : ∀ task, t.link.pc ≠ .send task) :
    t.socketSendThread ret log events =
      ({ t with link := (t.link.loopStep .telnet .testFd log events).1 },
        (t.link.loopStep .telnet .testFd log events).2, none) := by
  rw [socketSendThread]
  split
  · exact absurd ‹_› (h _)
  · rfl

def acceptClient (t : Telnet) : Telnet :=
  match t.daemon with
  | .accept => { t with daemon := .setFd t.accepted, accepted := t.accepted + 1 }
  | _ => t

def handleClient (ret : ℤ) (events : Events) (t : Telnet) : Telnet × Events × Option Ending :=
  match t.daemon with
  | .accept => (t, events, none)
  | .setFd k => ((t.setFd k).daemonGoto (.setNew k), events, none)
  | .setNew k => (t.setNew.daemonGoto (.post k), events, none)
  | .post k => (t.daemonGoto (.testFd k), events.post {.telnetClient}, none)
  | .testFd k => (t.daemonGoto (if t.link.fd = none then .close k else .recvFd k), events, none)
  | .recvFd k => (t.daemonGoto (.receiving k t.link.fd), events, none)
  | .receiving k d => (t.daemonGoto (if d = none ∨ ret ≤ 0 then .shut k d else .testFd k), events, none)
  | .shut k d => (t.daemonGoto (.clear k d), events, ending t.link.fd (.reported d))
  | .clear k d => (t.clearFd.daemonGoto (.close k), events, ending t.link.fd (.reported d))
  | .close k => (t.daemonGoto .accept, events, if t.link.fd = some k then ending (some k) (.reported (some k)) else none)

def connecting (t : Telnet) : Bool :=
  match t.daemon with
  | .setNew _ | .post _ => true
  | _ => false

end Telnet

end WallaBMC.Bridge
