import WallaBMC.Bridge.Sender

/-! The bridge of `console_bridge_ws.c`: its send thread, the callback of the socket service and the HTTP
handler that installs an authenticated client. `registered` is the descriptor that the socket service
polls, and `number` the `int` by which a connection is known. Once a websocket is unregistered its number
may be given to the next one, also while `fds[0].fd` still holds it. `ret` is what `websocket_send_msg` or `net_socket_service_register` returns. -/

namespace WallaBMC.Bridge

open Library.EventFlags

inductive EndStage
  | serviceUnregister
  | websocketUnregister
  | clearFd
  deriving DecidableEq

/-- `copied` is that of the thread, `inner` that of `ws_send`. -/
inductive WsTask
  | again (copied : ℕ)
  | wsSend (copied : ℕ)
  | sendFd (copied inner : ℕ)
  | sending (copied inner : ℕ) (d : Option Conn)
  | endInside (stage : EndStage) (copied inner : ℕ) (d : Option Conn)
  | endAfter (stage : EndStage) (d : Option Conn)
  | sleep (copied : ℕ)
  deriving DecidableEq

inductive ServicePc
  | idle
  | testError (e : Conn)
  | testIn (e : Conn)
  | recvFd
  | receiving (d : Option Conn)
  | ending (stage : EndStage) (d : Option Conn)
  deriving DecidableEq

inductive HttpPc
  | idle
  | testOld (k : Conn)
  | ending (stage : EndStage) (k : Conn)
  | setFd (k : Conn)
  | setNew (k : Conn)
  | register (k : Conn)
  | post (k : Conn)
  | errorTest (k : Conn)
  | errorClose (k : Conn)
  | errorClear (k : Conn)
  deriving DecidableEq

inductive RecvResult
  | data
  | again
  | failed
  | closed
  deriving DecidableEq

/-- Bytes that `websocket_send_msg` has taken for a connection. -/
structure Piece where
  conn : Conn
  owner : Option Conn
  pos : ℕ
  bytes : List UInt8
  deriving DecidableEq

structure Websocket where
  link : Link WsTask
  registered : Option Conn
  service : ServicePc
  http : HttpPc
  accepted : ℕ
  number : Conn → ℕ

namespace Websocket

def init : Websocket := ⟨.init, none, .idle, .idle, 0, fun _ => 0⟩

def goto (ws : Websocket) (pc : Pc WsTask) : Websocket := { ws with link := { ws.link with pc := pc } }

def serviceGoto (ws : Websocket) (pc : ServicePc) : Websocket := { ws with service := pc }

def httpGoto (ws : Websocket) (pc : HttpPc) : Websocket := { ws with http := pc }

def clearFd (ws : Websocket) : Websocket := { ws with link := { ws.link with fd := none } }

def setFd (ws : Websocket) (k : Conn) : Websocket := { ws with link := { ws.link with fd := some k } }

def setNew (ws : Websocket) : Websocket := { ws with link := { ws.link with newClient := true } }

def register (ws : Websocket) (k : Option Conn) : Websocket := { ws with registered := k }

def wsEndClientConnection (cause : Cause) (ws : Websocket) : EndStage → Websocket × Option Ending
  | .serviceUnregister =>
    (ws.register none, if ws.registered = ws.link.fd then ending ws.link.fd cause else none)
  | .websocketUnregister => (ws, ending ws.link.fd cause)
  | .clearFd => (ws.clearFd, ending ws.link.fd cause)

def afterInside (ws : Websocket) (copied inner : ℕ) (d : Option Conn) : Pc WsTask :=
  if inner = 0 then .send (.endAfter .serviceUnregister d)
  else if copied + inner < ws.link.buf.length then .send (.sleep (copied + inner))
  else .top

def sendStep (ret : ℤ) (ws : Websocket) : WsTask → Websocket × Option Ending × Option Piece
  | .again copied => (ws.goto (if ws.link.fd = none then .top else .send (.wsSend copied)), none, none)
  | .wsSend copied =>
    (ws.goto (.send (if ws.link.fd = none then .endAfter .serviceUnregister none else .sendFd copied 0)),
      none, none)
  | .sendFd copied inner => (ws.goto (.send (.sending copied inner ws.link.fd)), none, none)
  | .sending copied inner d =>
    match d with
    | none => (ws.goto (.send (.endInside .serviceUnregister copied inner none)), none, none)
    | some conn =>
      if ret < 0 then (ws.goto (.send (.endInside .serviceUnregister copied inner (some conn))), none, none)
      else
        let sent := (ws.link.buf.drop (copied + inner)).take ret.toNat
        let pc : Pc WsTask :=
          if copied + (inner + sent.length) < ws.link.buf.length then .send (.sendFd copied (inner + sent.length))
          else .top
        (ws.goto pc, none, some ⟨conn, ws.link.owner, ws.link.bufPos + (copied + inner), sent⟩)
  | .endInside stage copied inner d =>
    let (ws, ended) := ws.wsEndClientConnection (.reported d) stage
    let pc : Pc WsTask :=
      match stage with
      | .serviceUnregister => .send (.endInside .websocketUnregister copied inner d)
      | .websocketUnregister => .send (.endInside .clearFd copied inner d)
      | .clearFd => ws.afterInside copied inner d
    (ws.goto pc, ended, none)
  | .endAfter stage d =>
    let (ws, ended) := ws.wsEndClientConnection (.reported d) stage
    let pc : Pc WsTask :=
      match stage with
      | .serviceUnregister => .send (.endAfter .websocketUnregister d)
      | .websocketUnregister => .send (.endAfter .clearFd d)
      | .clearFd => .top
    (ws.goto pc, ended, none)
  | .sleep copied => (ws.goto (.send (.again copied)), none, none)

def socketSendThread (ret : ℤ) (log : Console.ConsoleLog) (events : Events) (ws : Websocket) :
    Websocket × Events × Option Ending × Option Piece :=
  match ws.link.pc with
  | .send task =>
    let (ws, ended, piece) := ws.sendStep ret task
    (ws, events, ended, piece)
  | _ =>
    let (link, events) := ws.link.loopStep .websocket (.again 0) log events
    ({ ws with link := link }, events, none, none)

lemma socketSendThread_send {ret : ℤ} {log : Console.ConsoleLog} {events : Events} {ws : Websocket} {task : WsTask}
    (h : ws.link.pc = .send task) :
    ws.socketSendThread ret log events =
      ((ws.sendStep ret task).1, events, (ws.sendStep ret task).2.1, (ws.sendStep ret task).2.2) := by
  rw [socketSendThread, h]

lemma socketSendThread_loop {ret : ℤ} {log : Console.ConsoleLog} {events : Events} {ws : Websocket}
    (h : ∀ task, ws.link.pc ≠ .send task) :
    ws.socketSendThread ret log events =
      ({ ws with link := (ws.link.loopStep .websocket (.again 0) log events).1 },
        (ws.link.loopStep .websocket (.again 0) log events).2, none, none) := by
  rw [socketSendThread]
  split
  · exact absurd ‹_› (h _)
  · rfl

/-- An event on descriptor `e`: `ZSOCK_POLLERR` or `ZSOCK_POLLNVAL`, or `ZSOCK_POLLIN`. -/
def pollEvent (e : Conn) (error : Bool) (ws : Websocket) : Websocket :=
  match ws.service with
  | .idle => ws.serviceGoto (if error then .testError e else .testIn e)
  | _ => ws

/-- `evt->event.fd == ws->fds[0].fd`. -/
def sameNumber (ws : Websocket) (e : Conn) : Bool := ws.link.fd.map ws.number = some (ws.number e)

def wsServerCb (res : RecvResult) (ws : Websocket) : Websocket × Option Ending :=
  match ws.service with
  | .idle => (ws, none)
  | .testError e =>
    (ws.serviceGoto (if ws.sameNumber e then .ending .serviceUnregister (some e) else .idle), none)
  | .testIn e => (ws.serviceGoto (if ws.sameNumber e then .recvFd else .idle), none)
  | .recvFd => (ws.serviceGoto (.receiving ws.link.fd), none)
  | .receiving d =>
    let pc : ServicePc :=
      match res with
      | .data => if d = none then .ending .serviceUnregister d else .idle
      | .again => .idle
      | .failed | .closed => .ending .serviceUnregister d
    (ws.serviceGoto pc, none)
  | .ending stage d =>
    let (ws, ended) := ws.wsEndClientConnection (.reported d) stage
    let pc : ServicePc :=
      match stage with
      | .serviceUnregister => .ending .websocketUnregister d
      | .websocketUnregister => .ending .clearFd d
      | .clearFd => .idle
    (ws.serviceGoto pc, ended)

/-- What the descriptor `d` stands for when the next client gets this number. -/
def reused (ws : Websocket) (number : ℕ) (d : Option Conn) : Option Conn :=
  if d.map ws.number = some number then some ws.accepted else d

def acceptClient (number : ℕ) (ws : Websocket) : Websocket :=
  match ws.http with
  | .idle =>
    { ws with
      link := { ws.link with fd := ws.reused number ws.link.fd }
      registered := ws.reused number ws.registered
      http := .testOld ws.accepted
      accepted := ws.accepted + 1
      number := Function.update ws.number ws.accepted number }
  | _ => ws

def consoleWsHttpCb (ret : ℤ) (events : Events) (ws : Websocket) : Websocket × Events × Option Ending :=
  match ws.http with
  | .idle => (ws, events, none)
  | .testOld k =>
    (ws.httpGoto (if ws.link.fd = none then .setFd k else .ending .serviceUnregister k), events, none)
  | .ending stage k =>
    let (ws, ended) := ws.wsEndClientConnection (.newer k) stage
    let pc : HttpPc :=
      match stage with
      | .serviceUnregister => .ending .websocketUnregister k
      | .websocketUnregister => .ending .clearFd k
      | .clearFd => .setFd k
    (ws.httpGoto pc, events, ended)
  | .setFd k => ((ws.setFd k).httpGoto (.setNew k), events, none)
  | .setNew k => (ws.setNew.httpGoto (.register k), events, none)
  | .register k =>
    if ret < 0 then (ws.httpGoto (.errorTest k), events, none)
    else ((ws.register ws.link.fd).httpGoto (.post k), events, none)
  | .post _ => (ws.httpGoto .idle, events.post {.websocketClient}, none)
  | .errorTest k => (ws.httpGoto (if ws.link.fd = none then .idle else .errorClose k), events, none)
  | .errorClose k => (ws.httpGoto (.errorClear k), events, ending ws.link.fd (.reported (some k)))
  | .errorClear k => (ws.clearFd.httpGoto .idle, events, ending ws.link.fd (.reported (some k)))

/-- The number is not the one that `fds[0].fd` holds. -/
def NumberFree (ws : Websocket) (number : ℕ) : Prop := ws.link.fd.map ws.number ≠ some number

instance (ws : Websocket) (number : ℕ) : Decidable (ws.NumberFree number) := inferInstanceAs (Decidable (_ ≠ _))

lemma reused_fd {number : ℕ} {ws : Websocket} (h : ws.NumberFree number) :
    ws.reused number ws.link.fd = ws.link.fd := if_neg h

lemma reused_eq_none {d : Option Conn} {number : ℕ} {ws : Websocket} (h : d = none) : ws.reused number d = none := by
  rw [h]
  rfl

def connecting (ws : Websocket) : Bool :=
  match ws.http with
  | .setNew _ | .register _ | .post _ | .errorTest _ | .errorClose _ | .errorClear _ => true
  | _ => false

end Websocket

end WallaBMC.Bridge
