import WallaBMC.Bridge.Feed

/-! What a websocket client is sent while no other one connects. Both retry loops go on where the last partial result
ended; after an error nothing more is sent, since `ws_send` has ended the connection. -/

namespace WallaBMC.Bridge

open Console Library.Runs Library.LossyLog

namespace Websocket

def note (ret : ℤ) (log : ConsoleLog) (events : Events) (feed : Feed) (ws : Websocket) : Feed :=
  match (ws.socketSendThread ret log events).2.2.2 with
  | some piece => feed.take piece.bytes
  | none => feed.loop .websocket log ws.link

/-- The client is announced and no other one is being installed; the send thread is at the top of its loop. -/
structure Announced (conn : Conn) (ws : Websocket) : Prop where
  fd : ws.link.fd = some conn
  newClient : ws.link.newClient = true
  pc : ws.link.pc = .top
  settled : ws.http.pending = none ∧ ws.http.installing = false

/-- `ws_send` has returned an error or less than the requested size. -/
def returnedShort (ws : Websocket) : Bool :=
  match ws.link.pc with
  | .send (.sleep _) | .send (.endAfter _ _) => true
  | _ => false

/-- What is still to be sent of the chunk in `buf` begins where the last part that was taken ended. -/
def Holding (reported : List UInt8) (feed : Feed) (link : Link WsTask) : Prop :=
  match link.pc with
  | .send (.again n) | .send (.wsSend n) => link.fd ≠ none → link.Amid reported .websocket feed n
  | .send (.sendFd copied inner) => link.fd ≠ none → link.Amid reported .websocket feed (copied + inner)
  | .send (.sending copied inner d) => d ≠ none → link.Amid reported .websocket feed (copied + inner)
  | .send (.sleep _) | .send (.endAfter _ _) => link.fd = none
  | _ => True

end Websocket

structure OneWebsocket (config : LogSize) (s : System Empty) (ws : Websocket) (feed : Feed) : Prop where
  sound : System.Sound config s
  cursor : ws.link.pos.toNat ≤ s.log.received.toNat
  settled : ws.http.pending = none ∧ ws.http.installing = false
  whole : feed.dropped = []
  delivered : feed.Delivered s.reported .websocket feed.Lost
  feeds : ws.link.fd ≠ none → ws.link.Feeds s.reported .websocket feed
  holding : Websocket.Holding s.reported feed ws.link

namespace OneWebsocket

variable {config : LogSize} {s : System Empty} {ws ws' : Websocket} {feed : Feed} {ret : ℤ} {fd : Option Conn}
  {pc : Pc WsTask}

/-- What the other threads do: at most, they end the connection. -/
lemma elsewhere (h : OneWebsocket config s ws feed) (hlink : ws'.link = { ws.link with fd := fd })
    (hfd : fd = ws.link.fd ∨ fd = none) (hsettled : ws'.http.pending = none ∧ ws'.http.installing = false) :
    OneWebsocket config s ws' feed := by
  have hgone : fd ≠ none → ws.link.fd ≠ none := by
    intro hsome
    rcases hfd with hsame | hnone
    · rwa [← hsame]
    · exact absurd hnone hsome
  refine ⟨h.sound, ?_, hsettled, h.whole, h.delivered, ?_, ?_⟩
  · rw [hlink]
    exact h.cursor
  · rw [hlink]
    intro hsome
    exact h.feeds (hgone hsome)
  · have hholding := h.holding
    rw [hlink]
    generalize ws.link = link at hfd hgone hholding
    rcases link with ⟨fd', newClient, pc, pos, buf, owner, bufPos⟩
    have hnone : fd' = none → fd = none := by
      intro hnone
      rcases hfd with hsame | hnow
      · exact hsame.trans hnone
      · exact hnow
    cases pc with
    | send task =>
      cases task with
      | again n | wsSend n | sendFd copied inner =>
        intro hsome
        exact (hholding (hgone hsome)).elsewhere fd _
      | sending copied inner d =>
        intro hsome
        exact (hholding hsome).elsewhere fd _
      | sleep n | endAfter stage d => exact hnone hholding
      | endInside => trivial
    | _ => trivial

lemma endClient (h : OneWebsocket config s ws feed) (cause : Cause) (stage : EndStage) :
    OneWebsocket config s (ws.wsEndClientConnection cause stage).1 feed := by
  cases stage with
  | serviceUnregister | websocketUnregister => exact h.elsewhere rfl (.inl rfl) h.settled
  | clearFd => exact h.elsewhere rfl (.inr rfl) h.settled

lemma wsServerCb (h : OneWebsocket config s ws feed) (res : RecvResult) :
    OneWebsocket config s (ws.wsServerCb res).1 feed := by
  rcases ws with ⟨link, registered, service, http, accepted⟩
  cases service with
  | ending stage d => exact (h.endClient (.reported d) stage).elsewhere rfl (.inl rfl) (h.endClient _ _).settled
  | _ => exact h.elsewhere rfl (.inl rfl) h.settled

lemma pollEvent (h : OneWebsocket config s ws feed) (e : Conn) (error : Bool) :
    OneWebsocket config s (ws.pollEvent e error) feed := by
  rcases ws with ⟨link, registered, service, http, accepted⟩
  cases service <;> exact h.elsewhere rfl (.inl rfl) h.settled

lemma consoleWsHttpCb (h : OneWebsocket config s ws feed) (events : Events) :
    OneWebsocket config s (ws.consoleWsHttpCb ret events).1 feed := by
  rcases ws with ⟨link, registered, service, http, accepted⟩
  obtain ⟨hpending, hinstalling⟩ := h.settled
  cases http with
  | idle => exact h
  | testOld k | ending stage k | setFd k => cases hpending
  | setNew k => cases hinstalling
  | register k =>
    simp only [Websocket.consoleWsHttpCb]
    split_ifs <;> exact h.elsewhere rfl (.inl rfl) ⟨rfl, rfl⟩
  | post k => exact h.elsewhere rfl (.inl rfl) ⟨rfl, rfl⟩
  | errorTest k =>
    simp only [Websocket.consoleWsHttpCb]
    refine h.elsewhere rfl (.inl rfl) ?_
    simp only [Websocket.httpGoto]
    split_ifs <;> exact ⟨rfl, rfl⟩
  | errorClose k => exact h.elsewhere rfl (.inl rfl) ⟨rfl, rfl⟩
  | errorClear k => exact h.elsewhere rfl (.inr rfl) ⟨rfl, rfl⟩

lemma goto (h : OneWebsocket config s ws feed)
    (hfeeds : ws.link.fd ≠ none → (ws.goto pc).link.Feeds s.reported .websocket feed)
    (hholding : Websocket.Holding s.reported feed (ws.goto pc).link) : OneWebsocket config s (ws.goto pc) feed :=
  ⟨h.sound, h.cursor, h.settled, h.whole, h.delivered, hfeeds, hholding⟩

lemma note_send {task : WsTask} (hpc : ws.link.pc = .send task) (hnothing : (ws.sendStep ret task).2.2 = none)
    (log : ConsoleLog) (events : Events) : ws.note ret log events feed = feed := by
  rw [Websocket.note, Websocket.socketSendThread_send hpc, hnothing]
  simp only [Feed.loop, hpc]

lemma sending (h : OneWebsocket config s ws feed) {copied inner : ℕ} {conn : Conn}
    (hpc : ws.link.pc = .send (.sending copied inner (some conn))) (k : ℕ) :
    let taken := (ws.link.buf.drop (copied + inner)).take k
    OneWebsocket config s
      (ws.goto (if copied + (inner + taken.length) < ws.link.buf.length then
        .send (.sendFd copied (inner + taken.length)) else .top)) (feed.take taken) := by
  intro taken
  have hamid : ws.link.Amid s.reported .websocket feed (copied + inner) := by
    have hholding := h.holding
    rw [Websocket.Holding, hpc] at hholding
    exact hholding (Option.some_ne_none conn)
  have hbytes : taken <+: s.reported.drop (ws.link.bufPos + (copied + inner)) := by
    rw [← List.drop_drop]
    exact (List.take_prefix _ _).trans (hamid.bytes.drop _)
  have hserved := hamid.served.take hamid.begun hbytes
  have hlength : taken.length = min k (ws.link.buf.length - (copied + inner)) := by
    rw [List.length_take, List.length_drop]
  have hends := hamid.ends
  have hleft := hamid.left
  split_ifs with hrest
  · refine ⟨h.sound, h.cursor, h.settled, h.whole, hserved.delivered, fun _ => trivial, fun _ => ?_⟩
    rw [Nat.add_assoc, Nat.add_assoc] at hserved
    exact ⟨hamid.old, hserved, hamid.begun, hamid.bytes, hends, hrest⟩
  · refine ⟨h.sound, h.cursor, h.settled, h.whole, hserved.delivered, fun _ => .inr ⟨hamid.old, ?_⟩, trivial⟩
    have hpos : ws.link.pos.toNat = ws.link.bufPos + (copied + inner) + taken.length := by omega
    change (feed.take taken).Served s.reported .websocket ws.link.pos.toNat
    rwa [hpos]

theorem sendStep (h : OneWebsocket config s ws feed) {task : WsTask} (hpc : ws.link.pc = .send task)
    (log : ConsoleLog) (events : Events) :
    OneWebsocket config s (ws.sendStep ret task).1 (ws.note ret log events feed) := by
  have hholding := h.holding
  rw [Websocket.Holding, hpc] at hholding
  cases task with
  | again n =>
    rw [note_send hpc rfl, Websocket.sendStep]
    split_ifs with hfd
    · exact h.goto (fun hsome => absurd hfd hsome) trivial
    · exact h.goto (fun _ => trivial) fun hsome => (hholding hsome).elsewhere _ _
  | wsSend n =>
    rw [note_send hpc rfl, Websocket.sendStep]
    split_ifs with hfd
    · exact h.goto (fun _ => trivial) hfd
    · exact h.goto (fun _ => trivial) fun hsome => (hholding hsome).elsewhere _ _
  | sendFd copied inner =>
    rw [note_send hpc rfl, Websocket.sendStep]
    exact h.goto (fun _ => trivial) fun hsome => (hholding hsome).elsewhere _ _
  | sleep n =>
    rw [note_send hpc rfl, Websocket.sendStep]
    exact h.goto (fun _ => trivial) fun hsome => absurd hholding hsome
  | sending copied inner d =>
    cases d with
    | none =>
      rw [note_send hpc rfl, Websocket.sendStep]
      exact h.goto (fun _ => trivial) trivial
    | some conn =>
      by_cases hret : ret < 0
      · rw [note_send hpc (by rw [Websocket.sendStep, if_pos hret]), Websocket.sendStep, if_pos hret]
        exact h.goto (fun _ => trivial) trivial
      · rw [Websocket.note, Websocket.socketSendThread_send hpc, Websocket.sendStep, if_neg hret]
        exact h.sending hpc ret.toNat
  | endInside stage copied inner d =>
    have hended := h.endClient (.reported d) stage
    rw [note_send hpc rfl]
    cases stage with
    | serviceUnregister | websocketUnregister => exact hended.goto (fun _ => trivial) trivial
    | clearFd =>
      simp only [Websocket.sendStep, Websocket.afterInside]
      split_ifs
      · exact hended.goto (fun _ => trivial) rfl
      · exact hended.goto (fun _ => trivial) rfl
      · exact hended.goto (fun hsome => absurd rfl hsome) trivial
  | endAfter stage d =>
    have hended := h.endClient (.reported d) stage
    rw [note_send hpc rfl]
    cases stage with
    | serviceUnregister | websocketUnregister => exact hended.goto (fun _ => trivial) hholding
    | clearFd => exact hended.goto (fun hsome => absurd rfl hsome) trivial

theorem socketSendThread (h16 : 16 ∣ config.bytes) (h : OneWebsocket config s ws feed) (events : Events) :
    OneWebsocket config s (ws.socketSendThread ret s.log events).1 (ws.note ret s.log events feed) := by
  by_cases hsend : ∃ task, ws.link.pc = .send task
  · obtain ⟨task, hpc⟩ := hsend
    rw [Websocket.socketSendThread_send hpc]
    exact h.sendStep hpc s.log events
  · have hloop : ∀ task, ws.link.pc ≠ .send task := fun task hpc => hsend ⟨task, hpc⟩
    rw [Websocket.note, Websocket.socketSendThread_loop hloop]
    refine ⟨h.sound, Link.loopStep_inside h16 h.sound h.cursor _ _ _, h.settled, ?_, h.delivered.loop _ _, ?_, ?_⟩
    · rw [Feed.dropped_loop]
      exact h.whole
    · intro hsome
      rw [Link.loopStep_fd] at hsome
      exact ((h.feeds hsome).loopStep h16 h.sound h.cursor hloop (.again 0) events).1
    · rw [Websocket.Holding]
      cases hpc : (ws.link.loopStep .websocket (.again 0) s.log events).1.pc with
      | send task =>
        obtain ⟨-, rfl⟩ := Link.loopStep_send hloop hpc
        intro hsome
        rw [Link.loopStep_fd] at hsome
        exact (((h.feeds hsome).loopStep h16 h.sound h.cursor hloop (.again 0) events).2 _ hpc).2
      | _ => trivial

lemma holding_extend {reported : List UInt8} {link : Link WsTask} (h : Websocket.Holding reported feed link)
    (more : List UInt8) : Websocket.Holding (reported ++ more) feed link := by
  rcases link with ⟨fd, newClient, pc, pos, buf, owner, bufPos⟩
  cases pc with
  | send task =>
    cases task with
    | again | wsSend | sendFd | sending => exact fun hsome => (h hsome).extend more
    | sleep | endAfter => exact h
    | endInside => trivial
  | _ => trivial

lemma console {e : Console.Event Empty} (h16 : 16 ∣ config.bytes) (h : OneWebsocket config s ws feed)
    (he : System.RestartFree config s e) (hwrap : System.NoWrap config s e) (hlap : System.NotLapping config s e) :
    OneWebsocket config (s.step config e).1 ws feed := by
  obtain ⟨hsound, hreceived⟩ := World.console_sound h16 h.sound he hwrap hlap
  obtain ⟨more, hmore⟩ := System.step_reported config s e
  refine ⟨hsound, h.cursor.trans hreceived, h.settled, h.whole, ?_, ?_, ?_⟩
  · rw [hmore]
    exact h.delivered.extend more
  · intro hsome
    rw [hmore]
    exact (h.feeds hsome).extend more
  · rw [hmore]
    exact holding_extend h.holding more

end OneWebsocket

namespace World

variable {config : LogSize} {conn : Conn} {x : World × Feed} {a : Action}

def noteWs (w : World) (feed : Feed) : Action → Feed
  | .wsSender ret => w.ws.note ret w.console.log w.events feed
  | _ => feed

/-- The log is not damaged and no other client connects. -/
def Alone (config : LogSize) (w : World) : Action → Prop
  | .console e => w.Logged config (.console e)
  | .wsAccept _ => False
  | _ => True

instance (config : LogSize) (w : World) : (a : Action) → Decidable (w.Alone config a)
  | .console e => inferInstanceAs (Decidable (w.Logged config (.console e)))
  | .wsAccept _ => instDecidableFalse
  | .telnetSender _ | .telnetAccept | .telnetDaemon _ | .wsSender _ | .wsPoll _ _ | .wsService _ | .wsHttp _ =>
    isTrue trivial

def FeedsWs (config : LogSize) (x : World × Feed) : Prop := OneWebsocket config x.1.console x.1.ws x.2

theorem feedsWs_step (h16 : 16 ∣ config.bytes) (h : FeedsWs config x) (ha : x.1.Alone config a) :
    FeedsWs config (watch config noteWs x a).1 := by
  obtain ⟨w, feed⟩ := x
  cases a with
  | console e => exact OneWebsocket.console h16 h ha.1 ha.2.1 ha.2.2
  | telnetSender | telnetAccept | telnetDaemon => exact h
  | wsSender ret =>
    rw [FeedsWs, watch, wsSender_console, wsSender_ws]
    exact OneWebsocket.socketSendThread h16 h _
  | wsPoll e error => exact OneWebsocket.pollEvent h e error
  | wsService res => exact OneWebsocket.wsServerCb h res
  | wsAccept => exact ha.elim
  | wsHttp ret => exact OneWebsocket.consoleWsHttpCb h _

lemma feedsWs_start {w : World} (h : w.Steady config) (hstart : w.ws.Announced conn) : FeedsWs config (w, .idle) := by
  have hwaits : w.ws.link.pc.waits = true := by
    rw [hstart.pc]
    rfl
  refine ⟨h.sound, h.ws, hstart.settled, rfl, Feed.delivered_idle _ _,
    fun _ => Link.feeds_fresh hwaits hstart.newClient, ?_⟩
  rw [Websocket.Holding, hstart.pc]
  trivial

lemma ended_of_returnedShort (h : FeedsWs config x) (hshort : x.1.ws.returnedShort = true) : x.1.ws.link.fd = none := by
  have hholding := OneWebsocket.holding h
  rw [Websocket.returnedShort] at hshort
  rw [Websocket.Holding] at hholding
  split at hshort
  · rwa [show x.1.ws.link.pc = _ from ‹_›] at hholding
  · rwa [show x.1.ws.link.pc = _ from ‹_›] at hholding
  · cases hshort

/-- The only client is sent the log once and without gaps of its own, and `ws_send` falls short only after the end. -/
theorem one_client_delivered (config : LogSize) (h16 : 16 ∣ config.bytes) (logBuffer : ℕ → UInt8) (ret : ℤ)
    (hret : 0 ≤ ret) (before : List Action)
    (hbefore : Along (step config) (Logged config) (init config logBuffer ret) before)
    (conn : Conn) (hstart : (exec (step config) (init config logBuffer ret) before).ws.Announced conn)
    (after : List Action)
    (hafter : Along (watch config noteWs) (fun x a => x.1.Alone config a)
      (exec (step config) (init config logBuffer ret) before, .idle) after) :
    let x := exec (watch config noteWs) (exec (step config) (init config logBuffer ret) before, .idle) after
    x.2.Delivered x.1.console.reported .websocket x.2.Below ∧
      (x.1.ws.returnedShort = true → x.1.ws.link.fd = none) := by
  have hsteady : (exec (step config) (init config logBuffer ret) before).Steady config :=
    exec_invariant (fun _ _ hs ha => steady_step h16 hs ha) (steady_init h16 logBuffer hret) hbefore
  have hend : FeedsWs config
      (exec (watch config noteWs) (exec (step config) (init config logBuffer ret) before, .idle) after) :=
    exec_invariant (fun _ _ hs ha => feedsWs_step h16 hs ha) (feedsWs_start hsteady hstart) hafter
  have hdelivered := OneWebsocket.delivered hend
  exact ⟨hdelivered.below (OneWebsocket.whole hend), ended_of_returnedShort hend⟩

def connecting : List Action := [.wsAccept 1, .wsHttp 0, .wsHttp 0, .wsHttp 0]

def startWs : World := exec (step kconfigMinLog) (init kconfigMinLog (fun _ => 0) 0) connecting

def wsSender (n : ℕ) (ret : ℤ) : List Action := List.replicate n (.wsSender ret)

/-- Both bytes of a chunk are taken one by one, and after the next one there is an error. -/
def partByPart : List Action :=
  List.flatten [[.wsHttp 0, .wsHttp 0, .console (.store 65), .console (.store 66), .console (.uart (.rxRdy 2) 0)],
    wsSender 11 1, [.console (.store 67), .console (.store 68), .console (.uart (.rxRdy 2) 0)], wsSender 8 1,
    wsSender 4 (-1)]

theorem one_client_delivered_parts :
    (exec (watch kconfigMinLog noteWs) (startWs, .idle) partByPart).2.out = [65, 66, 67] ∧
      (exec (watch kconfigMinLog noteWs) (startWs, .idle) partByPart).1.ws.returnedShort = true ∧
      (exec (watch kconfigMinLog noteWs) (startWs, .idle) partByPart).1.ws.link.fd = none := by
  refine ⟨by decide +kernel, by decide +kernel, ?_⟩
  exact (one_client_delivered kconfigMinLog (by decide) (fun _ => 0) 0 le_rfl connecting (by decide +kernel) 0
    ⟨by decide +kernel, by decide +kernel, by decide +kernel, by decide +kernel⟩ partByPart (by decide +kernel)).2
    (by decide +kernel)

def chunkOf (b : UInt8) : List Action := List.replicate 4 (.console (.store b))

/-- The UART goes on into the second lap before the last chunk of the first is reported. -/
def lapping : List Action :=
  List.flatten [List.flatten (List.replicate 15 (.console (.uart .rxBufRequest 0) :: chunkOf 0 ++
    [.console (.uart (.rxRdy 4) 0)])), [.console (.uart .rxBufRequest 0)], chunkOf 0, [.console (.store 1)],
    wsSender 9 60]

/-- What the claim of an undamaged log leaves out: the DMA may overtake the first lap. -/
def AloneLapping (config : LogSize) (w : World) : Action → Prop
  | .console e => System.RestartFree config w.console e ∧ System.NoWrap config w.console e
  | .wsAccept _ => False
  | _ => True

instance (config : LogSize) (w : World) : (a : Action) → Decidable (w.AloneLapping config a)
  | .console _ => inferInstanceAs (Decidable (_ ∧ _))
  | .wsAccept _ => instDecidableFalse
  | .telnetSender _ | .telnetAccept | .telnetDaemon _ | .wsSender _ | .wsPoll _ _ | .wsService _ | .wsHttp _ =>
    isTrue trivial

lemma unreported_head {feed : Feed} {reported : List UInt8} {lost : ℕ → Prop} {byte other : UInt8} {n : ℕ}
    (hout : feed.out.head? = some byte) (hreported : reported = List.replicate n other) (hne : byte ≠ other) :
    ¬ feed.Delivered reported .websocket lost := by
  intro h
  have hmem := h.subset (List.mem_of_mem_head? hout)
  rw [hreported] at hmem
  exact hne (List.eq_of_mem_replicate hmem)

theorem lapping_sends_unreported :
    Along (watch kconfigMinLog noteWs) (fun x a => x.1.AloneLapping kconfigMinLog a) (startWs, .idle) lapping ∧
      ¬ (exec (watch kconfigMinLog noteWs) (startWs, .idle) lapping).2.Delivered
        (exec (watch kconfigMinLog noteWs) (startWs, .idle) lapping).1.console.reported .websocket
        (exec (watch kconfigMinLog noteWs) (startWs, .idle) lapping).2.Below := by
  have hout : (exec (watch kconfigMinLog noteWs) (startWs, .idle) lapping).2.out.head? = some 1 := by decide +kernel
  have hreported : (exec (watch kconfigMinLog noteWs) (startWs, .idle) lapping).1.console.reported =
      List.replicate 60 0 := by decide +kernel
  exact ⟨by decide +kernel, unreported_head hout hreported (by decide)⟩

end World

end WallaBMC.Bridge
