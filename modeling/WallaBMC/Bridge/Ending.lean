import WallaBMC.Bridge.World
import WallaBMC.Library.Runs

/-! For whose sake the bridges end a connection. Error handling acts on the descriptor that is active by then, and
not on the one that failed. -/

namespace WallaBMC.Bridge

open Console Library.Runs

/-- The cause is about this connection, or is a newer one. -/
def Ending.Own (e : Ending) : Prop :=
  match e.cause with
  | .reported d => d = some e.conn
  | .newer k => e.conn < k

instance (e : Ending) : Decidable e.Own := by
  unfold Ending.Own
  cases e.cause <;> infer_instance

/-- Nothing else has become active. -/
def InPlace (fd d : Option Conn) : Prop := fd = none ∨ fd = d

instance (fd d : Option Conn) : Decidable (InPlace fd d) := inferInstanceAs (Decidable (_ ∨ _))

lemma InPlace.none (d : Option Conn) : InPlace Option.none d := .inl rfl

lemma InPlace.refl (d : Option Conn) : InPlace d d := .inr rfl

lemma InPlace.own {fd d : Option Conn} (h : InPlace fd d) {e : Ending}
    (he : ending fd (.reported d) = some e) : e.Own := by
  obtain ⟨conn, hfd, rfl⟩ := Option.map_eq_some_iff.mp he
  rcases h with hnone | hsame
  · rw [hnone] at hfd
    cases hfd
  · exact hsame.symm.trans hfd

namespace Telnet

def SendOk (fd : Option Conn) : Pc TelnetTask → Prop
  | .send (.shut d) | .send (.clear d) => InPlace fd d
  | _ => True

def DaemonOk (fd : Option Conn) : DaemonPc → Prop
  | .accept | .setFd _ | .close _ => fd = none
  | .setNew k | .post k | .testFd k | .recvFd k => InPlace fd (some k)
  | .receiving k d | .shut k d | .clear k d => InPlace fd d ∧ InPlace d (some k)

structure Ok (t : Telnet) : Prop where
  send : SendOk t.link.fd t.link.pc
  daemon : DaemonOk t.link.fd t.daemon

def handlesError (t : Telnet) : Bool :=
  match t.link.pc with
  | .send (.shut _) | .send (.clear _) => true
  | _ => false

/-- A failed `send` finds nothing else active. -/
def FailsInPlace (t : Telnet) (ret : ℤ) : Prop :=
  match t.link.pc with
  | .send (.sending d) => d = none ∨ ret ≤ 0 → InPlace t.link.fd d
  | _ => True

instance (t : Telnet) (ret : ℤ) : Decidable (t.FailsInPlace ret) := by
  unfold FailsInPlace
  split <;> infer_instance

/-- No client becomes active while the send thread handles an error. -/
def InstallsApart (t : Telnet) : Prop :=
  match t.daemon with
  | .setFd _ => t.handlesError = false
  | _ => True

instance (t : Telnet) : Decidable t.InstallsApart := by
  unfold InstallsApart
  split <;> infer_instance

variable {t : Telnet} {fd : Option Conn}

lemma sendOk_none (pc : Pc TelnetTask) (h : SendOk fd pc) : SendOk none pc := by
  cases pc with
  | send task => cases task <;> first | trivial | exact InPlace.none _
  | _ => trivial

lemma daemonOk_none (pc : DaemonPc) (h : DaemonOk fd pc) : DaemonOk none pc := by
  cases pc with
  | accept | setFd | close => rfl
  | setNew | post | testFd | recvFd => exact InPlace.none _
  | receiving k d | shut k d | clear k d => exact ⟨InPlace.none _, h.2⟩

lemma sendOk_apart {pc : Pc TelnetTask} (fd : Option Conn) (h : t.link.pc = pc) (hapart : t.handlesError = false) :
    SendOk fd pc := by
  cases pc with
  | send task =>
    cases task with
    | shut d | clear d =>
      rw [handlesError, h] at hapart
      cases hapart
    | _ => trivial
  | _ => trivial

lemma ok_init : init.Ok := ⟨trivial, rfl⟩

theorem ok_sendStep {ret : ℤ} {task : TelnetTask} (h : t.Ok) (hpc : t.link.pc = .send task)
    (hfails : t.FailsInPlace ret) :
    (t.sendStep ret task).1.Ok ∧ ∀ e, (t.sendStep ret task).2 = some e → e.Own := by
  have hsend := h.send
  rw [hpc] at hsend
  cases task with
  | testFd =>
    refine ⟨⟨?_, h.daemon⟩, nofun⟩
    simp only [sendStep, goto]
    split_ifs <;> trivial
  | sendFd => exact ⟨⟨trivial, h.daemon⟩, nofun⟩
  | sending d =>
    refine ⟨⟨?_, h.daemon⟩, nofun⟩
    simp only [sendStep, goto]
    split_ifs with hfailed
    · rw [FailsInPlace, hpc] at hfails
      exact hfails hfailed
    · trivial
  | shut d => exact ⟨⟨hsend, h.daemon⟩, fun e he => hsend.own he⟩
  | clear d => exact ⟨⟨trivial, daemonOk_none _ h.daemon⟩, fun e he => hsend.own he⟩

theorem ok_socketSendThread {ret : ℤ} {log : ConsoleLog} {events : Events} (h : t.Ok)
    (hfails : t.FailsInPlace ret) :
    (t.socketSendThread ret log events).1.Ok ∧
      ∀ e, (t.socketSendThread ret log events).2.2 = some e → e.Own := by
  by_cases hsend : ∃ task, t.link.pc = .send task
  · obtain ⟨task, hpc⟩ := hsend
    rw [socketSendThread_send hpc]
    exact ok_sendStep h hpc hfails
  · have hloop : ∀ task, t.link.pc ≠ .send task := fun task hpc => hsend ⟨task, hpc⟩
    rw [socketSendThread_loop hloop]
    refine ⟨⟨?_, ?_⟩, nofun⟩
    · cases hpc : (t.link.loopStep .telnet .testFd log events).1.pc with
      | send task =>
        rw [(Link.loopStep_send hloop hpc).2]
        trivial
      | _ => trivial
    · rw [Link.loopStep_fd]
      exact h.daemon

theorem ok_handleClient {ret : ℤ} {events : Events} (h : t.Ok) (hinstalls : t.InstallsApart) :
    (t.handleClient ret events).1.Ok ∧ ∀ e, (t.handleClient ret events).2.2 = some e → e.Own := by
  have hdaemon := h.daemon
  rw [handleClient]
  cases hpc : t.daemon with
  | accept => exact ⟨h, nofun⟩
  | setFd k =>
    rw [InstallsApart, hpc] at hinstalls
    exact ⟨⟨sendOk_apart _ rfl hinstalls, InPlace.refl _⟩, nofun⟩
  | setNew k | post k =>
    rw [hpc] at hdaemon
    exact ⟨⟨h.send, hdaemon⟩, nofun⟩
  | testFd k =>
    rw [hpc] at hdaemon
    refine ⟨⟨h.send, ?_⟩, nofun⟩
    simp only [daemonGoto]
    split_ifs with hfd
    · exact hfd
    · exact hdaemon
  | recvFd k =>
    rw [hpc] at hdaemon
    exact ⟨⟨h.send, InPlace.refl _, hdaemon⟩, nofun⟩
  | receiving k d =>
    rw [hpc] at hdaemon
    refine ⟨⟨h.send, ?_⟩, nofun⟩
    simp only [daemonGoto]
    split_ifs with hfailed
    · exact hdaemon
    · rcases hdaemon.2 with hnone | hsame
      · exact absurd (.inl hnone) hfailed
      · have hactive : InPlace t.link.fd d := hdaemon.1
        rwa [hsame] at hactive
  | shut k d =>
    rw [hpc] at hdaemon
    exact ⟨⟨h.send, hdaemon⟩, fun e he => hdaemon.1.own he⟩
  | clear k d =>
    rw [hpc] at hdaemon
    exact ⟨⟨sendOk_none _ h.send, rfl⟩, fun e he => hdaemon.1.own he⟩
  | close k =>
    rw [hpc] at hdaemon
    have hfd : t.link.fd = none := hdaemon
    refine ⟨⟨h.send, hfd⟩, fun e he => ?_⟩
    rw [hfd] at he
    cases he

lemma ok_acceptClient (h : t.Ok) : t.acceptClient.Ok := by
  rw [acceptClient]
  split
  · have hdaemon := h.daemon
    rw [‹t.daemon = .accept›] at hdaemon
    exact ⟨h.send, hdaemon⟩
  · exact h

end Telnet

namespace Websocket

def SendOk (fd : Option Conn) : Pc WsTask → Prop
  | .send (.endInside _ _ _ d) | .send (.endAfter _ d) => InPlace fd d
  | _ => True

def ServiceOk (fd : Option Conn) : ServicePc → Prop
  | .ending _ d => InPlace fd d
  | _ => True

def HttpOk (fd : Option Conn) (accepted : ℕ) : HttpPc → Prop
  | .idle => ∀ conn, fd = some conn → conn < accepted
  | .testOld k | .ending _ k | .setFd k => k < accepted ∧ ∀ conn, fd = some conn → conn < k
  | .setNew k | .register k | .post k | .errorTest k | .errorClose k | .errorClear k =>
    k < accepted ∧ InPlace fd (some k)

structure Ok (ws : Websocket) : Prop where
  send : SendOk ws.link.fd ws.link.pc
  service : ServiceOk ws.link.fd ws.service
  http : HttpOk ws.link.fd ws.accepted ws.http

def handlesError (ws : Websocket) : Bool :=
  (match ws.link.pc with
    | .send (.endInside _ _ _ _) | .send (.endAfter _ _) => true
    | _ => false) ||
  match ws.service with
  | .ending _ _ => true
  | _ => false

/-- A failed `websocket_send_msg` finds nothing else active. -/
def FailsInPlace (ws : Websocket) (ret : ℤ) : Prop :=
  match ws.link.pc with
  | .send (.sending _ _ d) => d = none ∨ ret < 0 → InPlace ws.link.fd d
  | _ => True

instance (ws : Websocket) (ret : ℤ) : Decidable (ws.FailsInPlace ret) := by
  unfold FailsInPlace
  split <;> infer_instance

def RecvFailsInPlace (ws : Websocket) (res : RecvResult) : Prop :=
  match ws.service with
  | .receiving d => d = none ∨ res = .failed ∨ res = .closed → InPlace ws.link.fd d
  | _ => True

instance (ws : Websocket) (res : RecvResult) : Decidable (ws.RecvFailsInPlace res) := by
  unfold RecvFailsInPlace
  split <;> infer_instance

/-- An error that was polled is not taken for one of another connection with the same number. -/
def PolledInPlace (ws : Websocket) : Prop :=
  match ws.service with
  | .testError e => ws.sameNumber e → ws.link.fd = some e
  | _ => True

instance (ws : Websocket) : Decidable ws.PolledInPlace := by
  unfold PolledInPlace
  split <;> infer_instance

def InstallsApart (ws : Websocket) : Prop :=
  match ws.http with
  | .setFd _ => ws.handlesError = false
  | _ => True

instance (ws : Websocket) : Decidable ws.InstallsApart := by
  unfold InstallsApart
  split <;> infer_instance

variable {ws : Websocket} {fd : Option Conn} {accepted : ℕ}

lemma sendOk_none (pc : Pc WsTask) (h : SendOk fd pc) : SendOk none pc := by
  cases pc with
  | send task => cases task <;> first | trivial | exact InPlace.none _
  | _ => trivial

lemma serviceOk_none (pc : ServicePc) (h : ServiceOk fd pc) : ServiceOk none pc := by
  cases pc with
  | ending stage d => exact InPlace.none d
  | _ => trivial

lemma httpOk_none (pc : HttpPc) (h : HttpOk fd accepted pc) : HttpOk none accepted pc := by
  cases pc with
  | idle => nofun
  | testOld k | ending stage k | setFd k => exact ⟨h.1, nofun⟩
  | setNew k | register k | post k | errorTest k | errorClose k | errorClear k => exact ⟨h.1, InPlace.none _⟩

lemma sendOk_apart (fd : Option Conn) (hapart : ws.handlesError = false) : SendOk fd ws.link.pc := by
  rw [handlesError, Bool.or_eq_false_iff] at hapart
  cases hpc : ws.link.pc with
  | send task =>
    cases task with
    | endInside stage copied inner d | endAfter stage d =>
      rw [hpc] at hapart
      cases hapart.1
    | _ => trivial
  | _ => trivial

lemma serviceOk_apart (fd : Option Conn) (hapart : ws.handlesError = false) : ServiceOk fd ws.service := by
  rw [handlesError, Bool.or_eq_false_iff] at hapart
  cases hpc : ws.service with
  | ending stage d =>
    rw [hpc] at hapart
    cases hapart.2
  | _ => trivial

lemma ok_init : init.Ok := ⟨trivial, trivial, nofun⟩

lemma endClient_ending {cause : Cause} {stage : EndStage} {e : Ending}
    (he : (ws.wsEndClientConnection cause stage).2 = some e) : ending ws.link.fd cause = some e := by
  cases stage with
  | serviceUnregister =>
    simp only [wsEndClientConnection] at he
    split_ifs at he
    exact he
  | websocketUnregister | clearFd => exact he

lemma endClient_fd (cause : Cause) (stage : EndStage) :
    (ws.wsEndClientConnection cause stage).1.link.fd = ws.link.fd ∨
      (ws.wsEndClientConnection cause stage).1.link.fd = none := by
  cases stage with
  | serviceUnregister | websocketUnregister => exact .inl rfl
  | clearFd => exact .inr rfl

lemma endClient_rest (cause : Cause) (stage : EndStage) :
    (ws.wsEndClientConnection cause stage).1.service = ws.service ∧
      (ws.wsEndClientConnection cause stage).1.http = ws.http ∧
      (ws.wsEndClientConnection cause stage).1.accepted = ws.accepted ∧
      (ws.wsEndClientConnection cause stage).1.link.pc = ws.link.pc := by
  cases stage <;> exact ⟨rfl, rfl, rfl, rfl⟩

lemma ok_endClient (h : ws.Ok) (cause : Cause) (stage : EndStage) :
    (ws.wsEndClientConnection cause stage).1.Ok := by
  obtain ⟨hservice, hhttp, haccepted, hpc⟩ := ws.endClient_rest cause stage
  rcases ws.endClient_fd cause stage with hfd | hfd
  · exact ⟨by rw [hfd, hpc]; exact h.send, by rw [hfd, hservice]; exact h.service,
      by rw [hfd, haccepted, hhttp]; exact h.http⟩
  · exact ⟨by rw [hfd, hpc]; exact sendOk_none _ h.send, by rw [hfd, hservice]; exact serviceOk_none _ h.service,
      by rw [hfd, haccepted, hhttp]; exact httpOk_none _ h.http⟩

lemma ok_goto (h : ws.Ok) {pc : Pc WsTask} (hpc : SendOk ws.link.fd pc) : (ws.goto pc).Ok :=
  ⟨hpc, h.service, h.http⟩

lemma ok_serviceGoto (h : ws.Ok) {pc : ServicePc} (hpc : ServiceOk ws.link.fd pc) : (ws.serviceGoto pc).Ok :=
  ⟨h.send, hpc, h.http⟩

lemma ok_httpGoto (h : ws.Ok) {pc : HttpPc} (hpc : HttpOk ws.link.fd ws.accepted pc) : (ws.httpGoto pc).Ok :=
  ⟨h.send, h.service, hpc⟩

lemma inPlace_endClient (ws : Websocket) {d : Option Conn} (h : InPlace ws.link.fd d) (cause : Cause)
    (stage : EndStage) :
    InPlace (ws.wsEndClientConnection cause stage).1.link.fd d := by
  rcases ws.endClient_fd cause stage with hfd | hfd
  · rwa [hfd]
  · exact .inl hfd

lemma sendOk_afterInside (copied inner : ℕ) {d : Option Conn} (h : InPlace ws.link.fd d) :
    SendOk ws.link.fd (ws.afterInside copied inner d) := by
  rw [afterInside]
  split_ifs
  · exact h
  · trivial
  · trivial

theorem ok_sendStep {ret : ℤ} {task : WsTask} (h : ws.Ok) (hpc : ws.link.pc = .send task)
    (hfails : ws.FailsInPlace ret) :
    (ws.sendStep ret task).1.Ok ∧ ∀ e, (ws.sendStep ret task).2.1 = some e → e.Own := by
  have hsend := h.send
  rw [hpc] at hsend
  cases task with
  | again copied =>
    refine ⟨ok_goto h ?_, nofun⟩
    split_ifs <;> trivial
  | wsSend copied =>
    refine ⟨ok_goto h ?_, nofun⟩
    split_ifs with hfd
    · exact .inl hfd
    · trivial
  | sendFd copied inner | sleep copied => exact ⟨ok_goto h trivial, nofun⟩
  | sending copied inner d =>
    rw [FailsInPlace, hpc] at hfails
    cases d with
    | none => exact ⟨ok_goto h (hfails (.inl rfl)), nofun⟩
    | some conn =>
      simp only [sendStep]
      by_cases hret : ret < 0
      · rw [if_pos hret]
        exact ⟨ok_goto h (hfails (.inr hret)), nofun⟩
      · rw [if_neg hret]
        refine ⟨ok_goto h ?_, nofun⟩
        split_ifs <;> trivial
  | endInside stage copied inner d =>
    have hended := inPlace_endClient ws hsend (.reported d) stage
    refine ⟨ok_goto (ok_endClient h _ _) ?_, fun e he => InPlace.own hsend (endClient_ending he)⟩
    cases stage with
    | serviceUnregister | websocketUnregister => exact hended
    | clearFd => exact sendOk_afterInside copied inner hended
  | endAfter stage d =>
    have hended := inPlace_endClient ws hsend (.reported d) stage
    refine ⟨ok_goto (ok_endClient h _ _) ?_, fun e he => InPlace.own hsend (endClient_ending he)⟩
    cases stage with
    | serviceUnregister | websocketUnregister => exact hended
    | clearFd => trivial

theorem ok_socketSendThread {ret : ℤ} {log : ConsoleLog} {events : Events} (h : ws.Ok)
    (hfails : ws.FailsInPlace ret) :
    (ws.socketSendThread ret log events).1.Ok ∧
      ∀ e, (ws.socketSendThread ret log events).2.2.1 = some e → e.Own := by
  by_cases hsend : ∃ task, ws.link.pc = .send task
  · obtain ⟨task, hpc⟩ := hsend
    rw [socketSendThread_send hpc]
    exact ok_sendStep h hpc hfails
  · have hloop : ∀ task, ws.link.pc ≠ .send task := fun task hpc => hsend ⟨task, hpc⟩
    rw [socketSendThread_loop hloop]
    refine ⟨⟨?_, ?_, ?_⟩, nofun⟩
    · cases hpc : (ws.link.loopStep .websocket (.again 0) log events).1.pc with
      | send task =>
        rw [(Link.loopStep_send hloop hpc).2]
        trivial
      | _ => trivial
    · rw [Link.loopStep_fd]
      exact h.service
    · rw [Link.loopStep_fd]
      exact h.http

theorem ok_wsServerCb {res : RecvResult} (h : ws.Ok) (hfails : ws.RecvFailsInPlace res)
    (hpolled : ws.PolledInPlace) :
    (ws.wsServerCb res).1.Ok ∧ ∀ e, (ws.wsServerCb res).2 = some e → e.Own := by
  have hservice := h.service
  rw [wsServerCb]
  cases hpc : ws.service with
  | idle => exact ⟨h, nofun⟩
  | testError e =>
    rw [PolledInPlace, hpc] at hpolled
    refine ⟨ok_serviceGoto h ?_, nofun⟩
    split_ifs with hsame
    · exact .inr (hpolled hsame)
    · trivial
  | testIn e =>
    refine ⟨ok_serviceGoto h ?_, nofun⟩
    split_ifs <;> trivial
  | recvFd => exact ⟨ok_serviceGoto h trivial, nofun⟩
  | receiving d =>
    rw [RecvFailsInPlace, hpc] at hfails
    refine ⟨ok_serviceGoto h ?_, nofun⟩
    cases res with
    | data =>
      dsimp only
      split_ifs with hd
      · exact hfails (.inl hd)
      · trivial
    | again => trivial
    | failed => exact hfails (.inr (.inl rfl))
    | closed => exact hfails (.inr (.inr rfl))
  | ending stage d =>
    rw [hpc] at hservice
    have hended := inPlace_endClient ws hservice (.reported d) stage
    refine ⟨ok_serviceGoto (ok_endClient h _ _) ?_, fun e he => InPlace.own hservice (endClient_ending he)⟩
    cases stage with
    | serviceUnregister | websocketUnregister => exact hended
    | clearFd => trivial

lemma newer_own {k : Conn} (h : ∀ conn, fd = some conn → conn < k) {e : Ending}
    (he : ending fd (.newer k) = some e) : e.Own := by
  obtain ⟨conn, hfd, rfl⟩ := Option.map_eq_some_iff.mp he
  exact h conn hfd

theorem ok_consoleWsHttpCb {ret : ℤ} {events : Events} (h : ws.Ok) (hinstalls : ws.InstallsApart) :
    (ws.consoleWsHttpCb ret events).1.Ok ∧ ∀ e, (ws.consoleWsHttpCb ret events).2.2 = some e → e.Own := by
  have hhttp := h.http
  rw [consoleWsHttpCb]
  cases hpc : ws.http with
  | idle => exact ⟨h, nofun⟩
  | testOld k =>
    rw [hpc] at hhttp
    refine ⟨ok_httpGoto h ?_, nofun⟩
    split_ifs <;> exact hhttp
  | ending stage k =>
    rw [hpc] at hhttp
    have hended := ok_endClient h (.newer k) stage
    have hhttp' := hended.http
    rw [(ws.endClient_rest (.newer k) stage).2.1, hpc] at hhttp'
    refine ⟨ok_httpGoto hended ?_, fun e he => newer_own hhttp.2 (endClient_ending he)⟩
    cases stage <;> exact hhttp'
  | setFd k =>
    rw [hpc] at hhttp
    rw [InstallsApart, hpc] at hinstalls
    exact ⟨⟨sendOk_apart _ hinstalls, serviceOk_apart _ hinstalls, hhttp.1, InPlace.refl _⟩, nofun⟩
  | setNew k =>
    rw [hpc] at hhttp
    exact ⟨⟨h.send, h.service, hhttp⟩, nofun⟩
  | register k =>
    rw [hpc] at hhttp
    dsimp only
    split_ifs
    · exact ⟨ok_httpGoto h hhttp, nofun⟩
    · exact ⟨⟨h.send, h.service, hhttp⟩, nofun⟩
  | post k =>
    rw [hpc] at hhttp
    refine ⟨ok_httpGoto h fun conn hconn => ?_, nofun⟩
    rcases hhttp.2 with hnone | hsame
    · rw [hnone] at hconn
      cases hconn
    · rw [hsame, Option.some.injEq] at hconn
      exact hconn ▸ hhttp.1
  | errorTest k =>
    rw [hpc] at hhttp
    refine ⟨ok_httpGoto h ?_, nofun⟩
    split_ifs with hfd
    · intro conn hconn
      rw [hfd] at hconn
      cases hconn
    · exact hhttp
  | errorClose k =>
    rw [hpc] at hhttp
    exact ⟨ok_httpGoto h hhttp, fun e he => hhttp.2.own he⟩
  | errorClear k =>
    rw [hpc] at hhttp
    exact ⟨⟨sendOk_none _ h.send, serviceOk_none _ h.service, nofun⟩, fun e he => hhttp.2.own he⟩

lemma ok_acceptClient {number : ℕ} (h : ws.Ok) (hfree : ws.NumberFree number) : (ws.acceptClient number).Ok := by
  rw [acceptClient]
  split
  · have hhttp := h.http
    rw [‹ws.http = .idle›] at hhttp
    rw [reused_fd hfree]
    exact ⟨h.send, h.service, Nat.lt_succ_self _, hhttp⟩
  · exact h

lemma ok_pollEvent (h : ws.Ok) (e : Conn) (error : Bool) : (ws.pollEvent e error).Ok := by
  rw [pollEvent]
  split
  · apply ok_serviceGoto h
    split_ifs <;> trivial
  · exact h

end Websocket

namespace World

/-- A failure is reported while nothing else has become active, no client becomes active while one is handled,
and none gets the number that `fds[0].fd` still holds. -/
def Orderly (w : World) : Action → Prop
  | .telnetSender ret => w.telnet.FailsInPlace ret
  | .telnetDaemon _ => w.telnet.InstallsApart
  | .wsSender ret => w.ws.FailsInPlace ret
  | .wsService res => w.ws.RecvFailsInPlace res ∧ w.ws.PolledInPlace
  | .wsAccept number => w.ws.NumberFree number
  | .wsHttp _ => w.ws.InstallsApart
  | _ => True

instance (w : World) : (a : Action) → Decidable (w.Orderly a)
  | .telnetSender _ | .telnetDaemon _ | .wsSender _ | .wsService _ | .wsAccept _ | .wsHttp _ => by
    unfold Orderly
    infer_instance
  | .console _ | .telnetAccept | .wsPoll _ _ => isTrue trivial

structure Ok (w : World) : Prop where
  telnet : w.telnet.Ok
  ws : w.ws.Ok

variable {config : LogSize} {w : World} {a : Action}

theorem ok_step (h : w.Ok) (ho : w.Orderly a) :
    (w.step config a).1.Ok ∧ ∀ e, (w.step config a).2 = some e → e.Own := by
  cases a with
  | console e => exact ⟨⟨h.telnet, h.ws⟩, nofun⟩
  | telnetSender ret =>
    exact ⟨⟨(Telnet.ok_socketSendThread h.telnet ho).1, h.ws⟩, (Telnet.ok_socketSendThread h.telnet ho).2⟩
  | telnetAccept => exact ⟨⟨Telnet.ok_acceptClient h.telnet, h.ws⟩, nofun⟩
  | telnetDaemon ret =>
    exact ⟨⟨(Telnet.ok_handleClient h.telnet ho).1, h.ws⟩, (Telnet.ok_handleClient h.telnet ho).2⟩
  | wsSender ret =>
    refine ⟨⟨?_, ?_⟩, (Websocket.ok_socketSendThread h.ws ho).2⟩
    · rw [wsSender_telnet]
      exact h.telnet
    · rw [wsSender_ws]
      exact (Websocket.ok_socketSendThread h.ws ho).1
  | wsPoll e error => exact ⟨⟨h.telnet, Websocket.ok_pollEvent h.ws e error⟩, nofun⟩
  | wsService res =>
    exact ⟨⟨h.telnet, (Websocket.ok_wsServerCb h.ws ho.1 ho.2).1⟩, (Websocket.ok_wsServerCb h.ws ho.1 ho.2).2⟩
  | wsAccept number => exact ⟨⟨h.telnet, Websocket.ok_acceptClient h.ws ho⟩, nofun⟩
  | wsHttp ret =>
    exact ⟨⟨h.telnet, (Websocket.ok_consoleWsHttpCb h.ws ho).1⟩, (Websocket.ok_consoleWsHttpCb h.ws ho).2⟩

/-- In an orderly run every connection is ended for its own sake, or for a newer one. -/
theorem ended_own (config : LogSize) (logBuffer : ℕ → UInt8) (ret : ℤ) (actions : List Action)
    (h : Along (step config) Orderly (init config logBuffer ret) actions) :
    ∀ v ∈ trace (step config) (init config logBuffer ret) actions, ∀ e, v.output = some e → e.Own := by
  have hinit : (init config logBuffer ret).Ok := ⟨Telnet.ok_init, Websocket.ok_init⟩
  have hall : Along (step config) (fun w a => ∀ e, (w.step config a).2 = some e → e.Own)
      (init config logBuffer ret) actions :=
    along_invariant (fun _ _ hw ho => (ok_step hw ho).1) (fun _ _ hw ho => (ok_step hw ho).2) hinit h
  intro v hv e he
  rw [trace_output v hv] at he
  exact along_iff_trace.mp hall v hv e he

def endings (actions : List Action) : List Ending :=
  (trace (step kconfigMinLog) (init kconfigMinLog (fun _ => 0) 0) actions).filterMap (fun v => v.output)

lemma exists_visit (actions : List Action) (e : Ending) (h : e ∈ endings actions) :
    ∃ v ∈ trace (step kconfigMinLog) (init kconfigMinLog (fun _ => 0) 0) actions, v.output = some e :=
  List.mem_filterMap.mp h

def telnetConnects : List Action := .telnetAccept :: List.replicate 3 (.telnetDaemon 1)

def telnetCloses : List Action := [.telnetDaemon 1, .telnetDaemon 1, .telnetDaemon 0] ++ List.replicate 3 (.telnetDaemon 1)

def telnetSends : List Action :=
  List.replicate 2 (.telnetSender 0) ++ telnetConnects ++ List.replicate 5 (.telnetSender 0) ++
    [.console (.store 65), .console (.uart (.rxRdy 1) 0)] ++ List.replicate 3 (.telnetSender 0)

def wsConnects (number accesses : ℕ) : List Action := .wsAccept number :: List.replicate accesses (.wsHttp 0)

def wsSends : List Action :=
  List.replicate 2 (.wsSender 0) ++ wsConnects 1 5 ++ List.replicate 5 (.wsSender 0) ++
    [.console (.store 65), .console (.uart (.rxRdy 1) 0)] ++ List.replicate 4 (.wsSender 0)

/-- The byte is sent, the client closes and the next one connects. -/
def inTurn : List Action := telnetSends ++ [.telnetSender 1] ++ telnetCloses ++ telnetConnects

theorem ended_own_inTurn :
    (∀ v ∈ trace (step kconfigMinLog) (init kconfigMinLog (fun _ => 0) 0) inTurn, ∀ e,
      v.output = some e → e.Own) ∧
      endings inTurn = [⟨0, .reported (some 0)⟩, ⟨0, .reported (some 0)⟩] :=
  ⟨ended_own kconfigMinLog (fun _ => 0) 0 inTurn (by decide +kernel), by decide +kernel⟩

/-- The `send` fails only after the next client has connected. -/
def telnetStale : List Action := telnetSends ++ telnetCloses ++ telnetConnects ++ List.replicate 3 (.telnetSender (-1))

def wsStale : List Action := wsSends ++ wsConnects 2 8 ++ List.replicate 4 (.wsSender (-1))

/-- An error is polled on the first connection, which a failed send ends. The next one gets its number. -/
def pollStale : List Action :=
  wsSends ++ [.wsPoll 0 true] ++ List.replicate 7 (.wsSender (-1)) ++ wsConnects 1 5 ++ List.replicate 4 (.wsService .data)

theorem stale_error_ends_newer :
    (¬ ∀ v ∈ trace (step kconfigMinLog) (init kconfigMinLog (fun _ => 0) 0) telnetStale, ∀ e,
      v.output = some e → e.Own) ∧
      (¬ ∀ v ∈ trace (step kconfigMinLog) (init kconfigMinLog (fun _ => 0) 0) wsStale, ∀ e,
        v.output = some e → e.Own) ∧
      ¬ ∀ v ∈ trace (step kconfigMinLog) (init kconfigMinLog (fun _ => 0) 0) pollStale, ∀ e,
        v.output = some e → e.Own := by
  refine ⟨?_, ?_, ?_⟩
  · intro h
    obtain ⟨v, hv, he⟩ := exists_visit telnetStale ⟨1, .reported (some 0)⟩ (by decide +kernel)
    exact absurd (h v hv _ he) (by decide)
  · intro h
    obtain ⟨v, hv, he⟩ := exists_visit wsStale ⟨1, .reported (some 0)⟩ (by decide +kernel)
    exact absurd (h v hv _ he) (by decide)
  · intro h
    obtain ⟨v, hv, he⟩ := exists_visit pollStale ⟨1, .reported (some 0)⟩ (by decide +kernel)
    exact absurd (h v hv _ he) (by decide)

end World

end WallaBMC.Bridge
