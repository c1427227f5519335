import WallaBMC.Bridge.Telnet
import WallaBMC.Bridge.Websocket
import WallaBMC.Console.Receiver

/-! Both bridges, the event object they share and the console log. `sent` and `opened` are not in the code: the
bytes taken for each websocket connection, and the oldest byte that was available when the first bytes
were read for it. -/

namespace WallaBMC.Bridge

open Console Library.EventFlags Library.Runs

structure World where
  console : System Empty
  events : Events
  telnet : Telnet
  ws : Websocket
  sent : Conn → List Piece
  opened : Conn → Option ℕ

/-- `ret` and `res` are what the calls of the step return, and `number` is the new descriptor. -/
inductive Action
  | console (e : Console.Event Empty)
  | telnetSender (ret : ℤ)
  | telnetAccept
  | telnetDaemon (ret : ℤ)
  | wsSender (ret : ℤ)
  | wsPoll (e : Conn) (error : Bool)
  | wsService (res : RecvResult)
  | wsAccept (number : ℕ)
  | wsHttp (ret : ℤ)

def postCall (events : Events) : UartCall → Events
  | .eventPost mask => events.post (eventBits mask)
  | _ => events

namespace World

variable (config : LogSize)

def init (logBuffer : ℕ → UInt8) (ret : ℤ) : World where
  console := System.init config logBuffer ret
  events := .idle
  telnet := .init
  ws := .init
  sent _ := []
  opened _ := none

def consoleStep (w : World) (e : Console.Event Empty) : World :=
  let calls := match e with
    | .uart evt _ => (uartCallback config w.console.log evt).2
    | _ => []
  { w with
    console := (w.console.step config e).1
    events := calls.foldl postCall w.events }

def recordPiece (w : World) (piece : Option Piece) : World :=
  match piece with
  | none => w
  | some piece => { w with sent := Function.update w.sent piece.conn (w.sent piece.conn ++ [piece]) }

/-- Records the first read for a connection that finds bytes. -/
def recordRead (w : World) : World :=
  match w.ws.link.pc, w.ws.link.fd with
  | .read, some conn =>
    let res := hostConsoleRead w.console.log (fun _ => 0) bufSize w.ws.link.pos
    if 0 < res.ret ∧ w.opened conn = none then
      { w with opened := Function.update w.opened conn (some (windowStart w.console.log).toNat) }
    else w
  | _, _ => w

def step (w : World) : Action → World × Option Ending
  | .console e => (w.consoleStep config e, none)
  | .telnetSender ret =>
    let (telnet, events, ended) := w.telnet.socketSendThread ret w.console.log w.events
    ({ w with telnet := telnet, events := events }, ended)
  | .telnetAccept => ({ w with telnet := w.telnet.acceptClient }, none)
  | .telnetDaemon ret =>
    let (telnet, events, ended) := w.telnet.handleClient ret w.events
    ({ w with telnet := telnet, events := events }, ended)
  | .wsSender ret =>
    let (ws, events, ended, piece) := w.ws.socketSendThread ret w.console.log w.events
    ({ w.recordRead with ws := ws, events := events }.recordPiece piece, ended)
  | .wsPoll e error => ({ w with ws := w.ws.pollEvent e error }, none)
  | .wsService res =>
    let (ws, ended) := w.ws.wsServerCb res
    ({ w with ws := ws }, ended)
  | .wsAccept number => ({ w with ws := w.ws.acceptClient number }, none)
  | .wsHttp ret =>
    let (ws, events, ended) := w.ws.consoleWsHttpCb ret w.events
    ({ w with ws := ws, events := events }, ended)

def afterRun (actions : List Action) : World := exec (step kconfigMinLog) (init kconfigMinLog (fun _ => 0) 0) actions

variable {config} {w : World}

@[simp] lemma recordPiece_console (piece : Option Piece) : (w.recordPiece piece).console = w.console := by
  cases piece <;> rfl

@[simp] lemma recordPiece_events (piece : Option Piece) : (w.recordPiece piece).events = w.events := by
  cases piece <;> rfl

@[simp] lemma recordPiece_telnet (piece : Option Piece) : (w.recordPiece piece).telnet = w.telnet := by
  cases piece <;> rfl

@[simp] lemma recordPiece_ws (piece : Option Piece) : (w.recordPiece piece).ws = w.ws := by
  cases piece <;> rfl

@[simp] lemma recordPiece_opened (piece : Option Piece) : (w.recordPiece piece).opened = w.opened := by
  cases piece <;> rfl

lemma recordRead_eq (w : World) : ∃ opened, w.recordRead = { w with opened := opened } := by
  rw [recordRead]
  split
  · dsimp only
    split_ifs
    · exact ⟨_, rfl⟩
    · exact ⟨w.opened, rfl⟩
  · exact ⟨w.opened, rfl⟩

@[simp] lemma recordRead_console : w.recordRead.console = w.console := by
  obtain ⟨opened, h⟩ := w.recordRead_eq
  rw [h]

@[simp] lemma recordRead_telnet : w.recordRead.telnet = w.telnet := by
  obtain ⟨opened, h⟩ := w.recordRead_eq
  rw [h]

@[simp] lemma recordRead_sent : w.recordRead.sent = w.sent := by
  obtain ⟨opened, h⟩ := w.recordRead_eq
  rw [h]

section WsSender

variable (config w) (ret : ℤ)

@[simp] lemma wsSender_console : (w.step config (.wsSender ret)).1.console = w.console := by
  simp [step]

@[simp] lemma wsSender_telnet : (w.step config (.wsSender ret)).1.telnet = w.telnet := by
  simp [step]

@[simp] lemma wsSender_events : (w.step config (.wsSender ret)).1.events =
    (w.ws.socketSendThread ret w.console.log w.events).2.1 := by
  simp [step]

@[simp] lemma wsSender_ws : (w.step config (.wsSender ret)).1.ws =
    (w.ws.socketSendThread ret w.console.log w.events).1 := by
  simp [step]

end WsSender

lemma console_events_other {e : Console.Event Empty} (h : ∀ len ret, e ≠ .uart (.rxRdy len) ret) :
    (w.consoleStep config e).events = w.events := by
  cases e with
  | uart evt ret =>
    cases evt with
    | rxRdy len => exact absurd rfl (h len ret)
    | _ => rfl
  | _ => rfl

lemma console_received_other {e : Console.Event Empty} (h : ∀ len ret, e ≠ .uart (.rxRdy len) ret) :
    (w.consoleStep config e).console.log.received = w.console.log.received := by
  cases e with
  | store b =>
    simp only [consoleStep, System.step, System.storeByte]
    split <;> rfl
  | uart evt ret =>
    cases evt with
    | rxRdy len => exact absurd rfl (h len ret)
    | _ => rfl
  | openAtStart r | openAtEnd r | read r => exact r.elim

end World

end WallaBMC.Bridge
