import WallaBMC.Bridge.Ending
import WallaBMC.Bridge.History
import WallaBMC.Console.CursorSafety

/-! A telnet client is sent what was received after it was accepted, as long as no client becomes active, and none
waits to be announced, while the send thread is on its way with an older cursor. -/

namespace WallaBMC.Bridge

open Console Library.Runs

/-- Where the bytes are from that go to whatever `fd` is when they are sent. -/
def Link.heading (link : Link TelnetTask) : Option ℕ :=
  match link.pc with
  | .clearNew | .read => some link.pos.toNat
  | .send .testFd | .send .sendFd => some link.bufPos
  | _ => none

lemma Link.heading_readLog {link : Link TelnetTask} {log : ConsoleLog} {p : ℕ}
    (h : (link.readLog .telnet .testFd log).heading = some p) : p = readFrom log link.pos := by
  rw [heading] at h
  cases hpc : (link.readLog .telnet .testFd log).pc with
  | send task =>
    cases readLog_send hpc
    rw [hpc] at h
    exact (Option.some.inj h).symm
  | clearNew | read =>
    simp only [readLog] at hpc
    split_ifs at hpc
  | _ =>
    rw [hpc] at h
    cases h

namespace Telnet

/-- The new client's descriptor is set, `new_client` not yet. -/
def installing (t : Telnet) : Bool :=
  match t.daemon with
  | .setNew _ => true
  | _ => false

def Unmissed (acceptedAt : Conn → ℕ) (t : Telnet) : Prop :=
  match t.link.pc with
  | .testNew => t.link.newClient = false → t.installing = true → ∀ k ∈ t.link.fd, acceptedAt k ≤ t.link.pos.toNat
  | _ => True

def InstallsLater (acceptedAt : Conn → ℕ) (t : Telnet) : Prop :=
  match t.daemon with
  | .setFd k => ∀ p ∈ t.link.heading, acceptedAt k ≤ p
  | _ => True

instance (acceptedAt : Conn → ℕ) (t : Telnet) : Decidable (t.Unmissed acceptedAt) := by
  cases t with
  | mk link daemon accepted =>
    cases link with
    | mk fd newClient pc pos buf owner bufPos =>
      cases pc with
      | testNew => exact inferInstanceAs (Decidable (_ = false → _ = true → ∀ k ∈ fd, acceptedAt k ≤ _))
      | _ => exact instDecidableTrue

instance (acceptedAt : Conn → ℕ) (t : Telnet) : Decidable (t.InstallsLater acceptedAt) := by
  cases t with
  | mk link daemon accepted =>
    cases daemon with
    | setFd k => exact inferInstanceAs (Decidable (∀ p ∈ link.heading, acceptedAt k ≤ p))
    | _ => exact instDecidableTrue

lemma handleClient_ne_setFd (ret : ℤ) (events : Events) (t : Telnet) (k : Conn) :
    (t.handleClient ret events).1.daemon ≠ .setFd k := by
  intro hk
  rcases t with ⟨link, daemon, accepted⟩
  cases daemon with
  | testFd j | receiving j d =>
    simp only [handleClient, daemonGoto] at hk
    split_ifs at hk
  | _ => cases hk

lemma handleClient_installing (ret : ℤ) (events : Events) (t : Telnet) (hset : ∀ k, t.daemon ≠ .setFd k)
    (hnew : ∀ k, t.daemon ≠ .setNew k) : (t.handleClient ret events).1.installing = t.installing := by
  rcases t with ⟨link, daemon, accepted⟩
  cases daemon with
  | setFd k => exact absurd rfl (hset k)
  | setNew k => exact absurd rfl (hnew k)
  | testFd k | receiving k d =>
    simp only [handleClient, daemonGoto, installing]
    split_ifs <;> rfl
  | _ => rfl

end Telnet

/-- The fields beside `world` are not in the code: `received` at the moment each telnet connection was accepted, and
the bytes taken for it. -/
structure Ledger where
  world : World
  acceptedAt : Conn → ℕ
  sent : Conn → List Piece

namespace Ledger

variable (config : LogSize)

def init (logBuffer : ℕ → UInt8) (ret : ℤ) : Ledger := ⟨.init config logBuffer ret, fun _ => 0, fun _ => []⟩

def noteAccept (l : Ledger) : Conn → ℕ :=
  match l.world.telnet.daemon with
  | .accept => Function.update l.acceptedAt l.world.telnet.accepted l.world.console.log.received.toNat
  | _ => l.acceptedAt

def step (l : Ledger) (a : Action) : Ledger × Option Ending :=
  let (world, ended) := l.world.step config a
  match a with
  | .telnetAccept => ({ l with world := world, acceptedAt := l.noteAccept }, ended)
  | .telnetSender ret => ({ l with world := world, sent := record l.sent (l.world.telnet.taken ret) }, ended)
  | _ => ({ l with world := world }, ended)

/-- The UART reports what it stored, and what is handed over stays within reach of the counters. The daemon and
the send thread do not cross. -/
def Timely (l : Ledger) : Action → Prop
  | .console e => System.Possible l.world.console e ∧
    (e.handsOver → l.world.console.log.allocated.toNat + uartRxBufSize config + bufSize < 2 ^ 64)
  | .telnetSender _ => l.world.telnet.Unmissed l.acceptedAt
  | .telnetDaemon _ => l.world.telnet.InstallsLater l.acceptedAt
  | _ => True

instance (l : Ledger) : (a : Action) → Decidable (l.Timely config a)
  | .console _ => inferInstanceAs (Decidable (_ ∧ (_ → _)))
  | .telnetSender _ => inferInstanceAs (Decidable (Telnet.Unmissed _ _))
  | .telnetDaemon _ => inferInstanceAs (Decidable (Telnet.InstallsLater _ _))
  | .telnetAccept | .wsSender _ | .wsPoll _ _ | .wsService _ | .wsAccept _ | .wsHttp _ => isTrue trivial

/-- No position sent on the connection is below where the log stood when it was accepted. -/
def Later (l : Ledger) (conn : Conn) : Prop := ∀ p ∈ positions (l.sent conn), l.acceptedAt conn ≤ p

end Ledger

/-- For the active client either `new_client` is going to be seen, or the cursor is new enough. -/
structure Since (config : LogSize) (s : System Empty) (t : Telnet) (acceptedAt : Conn → ℕ)
    (sent : Conn → List Piece) : Prop where
  accounted : ∃ t, System.Accounted config s t
  room : s.log.allocated.toNat + bufSize < 2 ^ 64
  past : ∀ conn, acceptedAt conn ≤ s.log.received.toNat
  blank : ∀ conn, t.accepted ≤ conn → sent conn = []
  pending : ∀ k, t.daemon = .setFd k → k < t.accepted
  active : ∀ conn, t.link.fd = some conn → conn < t.accepted
  cursor : ∀ conn, t.link.fd = some conn → (t.link.newClient || t.installing) = false →
    acceptedAt conn ≤ t.link.pos.toNat
  heading : ∀ conn p, t.link.fd = some conn → t.link.heading = some p → acceptedAt conn ≤ p
  sending : ∀ conn, t.link.pc = .send (.sending (some conn)) →
    conn < t.accepted ∧ acceptedAt conn ≤ t.link.bufPos
  later : ∀ conn, ∀ p ∈ positions (sent conn), acceptedAt conn ≤ p

namespace Since

variable {config : LogSize} {s : System Empty} {t t' : Telnet} {acceptedAt : Conn → ℕ} {sent : Conn → List Piece}
  {link : Link TelnetTask} {fd : Option Conn}

lemma init (logBuffer : ℕ → UInt8) (ret : ℤ) :
    Since config (System.init config logBuffer ret) .init (fun _ => 0) (fun _ => []) where
  accounted := ⟨_, System.accounted_init logBuffer ret⟩
  room := by
    have hchunk := uartRxBufSize_lt config
    have hallocated : (System.init config logBuffer ret : System Empty).log.allocated.toNat =
        0 + uartRxBufSize config := toNat_add_ofNat 0 (by rw [UInt64.toNat_zero]; omega)
    rw [hallocated, bufSize]
    omega
  past _ := Nat.zero_le _
  blank _ _ := rfl
  pending _ h := by cases h
  active _ h := by cases h
  cursor _ h := by cases h
  heading _ _ h := by cases h
  sending _ h := by cases h
  later _ _ h := by cases h

lemma move (h : Since config s t acceptedAt sent) (hfd : link.fd = t.link.fd)
    (hcursor : ∀ conn, t.link.fd = some conn → (link.newClient || t.installing) = false →
      acceptedAt conn ≤ link.pos.toNat)
    (hheading : ∀ conn p, t.link.fd = some conn → link.heading = some p → acceptedAt conn ≤ p)
    (hsending : ∀ conn, link.pc = .send (.sending (some conn)) → conn < t.accepted ∧ acceptedAt conn ≤ link.bufPos) :
    Since config s { t with link := link } acceptedAt sent where
  accounted := h.accounted
  room := h.room
  past := h.past
  blank := h.blank
  pending := h.pending
  active conn hconn := h.active conn (hfd.symm.trans hconn)
  cursor conn hconn hfresh := hcursor conn (hfd.symm.trans hconn) hfresh
  heading conn p hconn hp := hheading conn p (hfd.symm.trans hconn) hp
  sending := hsending
  later := h.later

lemma elsewhere (h : Since config s t acceptedAt sent) (hlink : t'.link = { t.link with fd := fd })
    (hfd : fd = t.link.fd ∨ fd = none) (hinstalling : t'.installing = t.installing)
    (hpending : ∀ k, t'.daemon = .setFd k → k < t.accepted) (haccepted : t'.accepted = t.accepted) :
    Since config s t' acceptedAt sent := by
  have hactive : ∀ conn, t'.link.fd = some conn → t.link.fd = some conn := by
    intro conn hconn
    rw [hlink] at hconn
    rcases hfd with hsame | hnone
    · exact hsame.symm.trans hconn
    · cases hnone.symm.trans hconn
  have hheading : t'.link.heading = t.link.heading := by
    rw [hlink]
    rfl
  constructor
  · exact h.accounted
  · exact h.room
  · exact h.past
  · rw [haccepted]
    exact h.blank
  · rw [haccepted]
    exact hpending
  · intro conn hconn
    rw [haccepted]
    exact h.active conn (hactive conn hconn)
  · intro conn hconn hfresh
    rw [hinstalling, hlink] at hfresh
    rw [hlink]
    exact h.cursor conn (hactive conn hconn) hfresh
  · intro conn p hconn hp
    rw [hheading] at hp
    exact h.heading conn p (hactive conn hconn) hp
  · rw [hlink, haccepted]
    exact h.sending
  · exact h.later

theorem handleClient (h : Since config s t acceptedAt sent) (hinstalls : t.InstallsLater acceptedAt) (ret : ℤ)
    (events : Events) : Since config s (t.handleClient ret events).1 acceptedAt sent := by
  rcases t with ⟨link, daemon, accepted⟩
  cases daemon with
  | accept => exact h
  | setFd k =>
    constructor
    · exact h.accounted
    · exact h.room
    · exact h.past
    · exact h.blank
    · intro _ hk
      cases hk
    · intro conn hconn
      cases hconn
      exact h.pending k rfl
    · intro conn _ hfresh
      exact absurd hfresh (by simp [Telnet.handleClient, Telnet.daemonGoto, Telnet.installing])
    · intro conn p hconn hp
      cases hconn
      exact hinstalls p hp
    · exact h.sending
    · exact h.later
  | setNew k =>
    constructor
    · exact h.accounted
    · exact h.room
    · exact h.past
    · exact h.blank
    · intro _ hk
      cases hk
    · exact h.active
    · intro conn _ hfresh
      exact absurd hfresh (by simp [Telnet.handleClient, Telnet.daemonGoto, Telnet.setNew])
    · exact h.heading
    · exact h.sending
    · exact h.later
  | clear k d => exact h.elsewhere rfl (.inr rfl) rfl (fun _ hk => by cases hk) rfl
  | _ =>
    refine h.elsewhere rfl (.inl rfl) ?_ (fun k hk => absurd hk (Telnet.handleClient_ne_setFd ret events _ k)) rfl
    apply Telnet.handleClient_installing
    · intro _ hk
      cases hk
    · intro _ hk
      cases hk

lemma acceptClient (h : Since config s t acceptedAt sent) :
    Since config s t.acceptClient
      (match t.daemon with
        | .accept => Function.update acceptedAt t.accepted s.log.received.toNat
        | _ => acceptedAt) sent := by
  rcases t with ⟨link, daemon, accepted⟩
  cases daemon with
  | accept =>
    have hold : ∀ conn, conn < accepted →
        Function.update acceptedAt accepted s.log.received.toNat conn = acceptedAt conn :=
      fun conn hconn => Function.update_of_ne hconn.ne _ _
    constructor
    · exact h.accounted
    · exact h.room
    · intro conn
      rcases eq_or_ne conn accepted with rfl | hne
      · exact (Function.update_self _ _ acceptedAt).le
      · exact (Function.update_of_ne hne _ acceptedAt).trans_le (h.past conn)
    · intro conn hconn
      exact h.blank conn (Nat.le_of_succ_le hconn)
    · intro k hk
      cases hk
      exact Nat.lt_succ_self _
    · intro conn hconn
      exact Nat.lt_succ_of_lt (h.active conn hconn)
    · intro conn hconn hfresh
      exact (hold conn (h.active conn hconn)).trans_le (h.cursor conn hconn hfresh)
    · intro conn p hconn hp
      exact (hold conn (h.active conn hconn)).trans_le (h.heading conn p hconn hp)
    · intro conn hconn
      obtain ⟨hlt, hle⟩ := h.sending conn hconn
      exact ⟨Nat.lt_succ_of_lt hlt, (hold conn hlt).trans_le hle⟩
    · intro conn p hp
      rcases lt_or_ge conn accepted with hlt | hge
      · exact (hold conn hlt).trans_le (h.later conn p hp)
      · rw [h.blank conn hge] at hp
        cases hp
  | _ => exact h

lemma console {e : Console.Event Empty} (h : Since config s t acceptedAt sent) (hp : System.Possible s e)
    (hroom : e.handsOver → s.log.allocated.toNat + uartRxBufSize config + bufSize < 2 ^ 64) :
    Since config (s.step config e).1 t acceptedAt sent := by
  have hwrap : System.NoWrap config s e := fun hhands => by
    have := hroom hhands
    omega
  obtain ⟨t, ht⟩ := h.accounted
  have haccounted := System.accounted_step ht hp hwrap
  obtain ⟨more, hmore⟩ := System.step_reported config s e
  refine ⟨⟨_, haccounted⟩, ?_, ?_, h.blank, h.pending, h.active, h.cursor, h.heading, h.sending, h.later⟩
  · have hroomNow := h.room
    rcases System.step_allocated config s e with hsame | ⟨hhands, hmoved⟩
    · rwa [hsame]
    · have hafter := hroom hhands
      rw [hmoved, toNat_add_ofNat _ (by omega)]
      exact hafter
  · intro conn
    have hpast := h.past conn
    rw [ht.received_eq] at hpast
    rw [haccounted.received_eq, hmore, List.length_append]
    omega

lemma readLog_pos_le (h : Since config s t acceptedAt sent) (link : Link TelnetTask) :
    link.pos.toNat ≤ (link.readLog .telnet .testFd s.log).pos.toNat := by
  rcases le_or_gt link.pos.toNat s.log.received.toNat with hpos | hpos
  · obtain ⟨t, ht⟩ := h.accounted
    apply le_consoleLogRead
    have hhanded := ht.handed
    have hreceived := ht.received_eq
    have hwindow := ht.windowStart_le_allocated
    have hroom := h.room
    rw [readFrom]
    omega
  · have hpast : link.pos > s.log.received := UInt64.lt_iff_toNat_lt.mpr hpos
    simp only [Link.readLog, hostConsoleRead, consoleLogRead, if_pos hpast, le_refl]

theorem loopStep (h : Since config s t acceptedAt sent) (hloop : ∀ task, t.link.pc ≠ .send task)
    (hunmissed : t.Unmissed acceptedAt) (events : Events) :
    Since config s { t with link := (t.link.loopStep .telnet .testFd s.log events).1 } acceptedAt sent := by
  rcases t with ⟨⟨fd, newClient, pc, pos, buf, owner, bufPos⟩, daemon, accepted⟩
  cases pc with
  | top | enterWait | blocked =>
    simp only [Link.loopStep]
    refine h.move rfl h.cursor ?_ ?_
    · intro conn p _ hp
      simp only [Link.heading] at hp
      split_ifs at hp
    · intro conn hsending
      dsimp only at hsending
      split_ifs at hsending
  | testNew =>
    simp only [Link.loopStep]
    cases newClient with
    | true => exact h.move rfl h.cursor (fun _ _ _ hp => by cases hp) (fun _ hsending => by cases hsending)
    | false =>
      refine h.move rfl h.cursor ?_ (fun _ hsending => by cases hsending)
      intro conn p hconn hp
      cases hp
      cases hinstalling : Telnet.installing ⟨⟨fd, false, .testNew, pos, buf, owner, bufPos⟩, daemon, accepted⟩ with
      | true => exact hunmissed rfl hinstalling conn hconn
      | false => exact h.cursor conn hconn hinstalling
  | reset =>
    refine h.move rfl ?_ ?_ (fun _ hsending => by cases hsending)
    · intro conn _ _
      exact h.past conn
    · intro conn p _ hp
      cases hp
      exact h.past conn
  | clearNew =>
    have hheading : ∀ conn, fd = some conn → acceptedAt conn ≤ pos.toNat :=
      fun conn hconn => h.heading conn _ hconn rfl
    refine h.move rfl ?_ ?_ (fun _ hsending => by cases hsending)
    · intro conn hconn _
      exact hheading conn hconn
    · intro conn p hconn hp
      cases hp
      exact hheading conn hconn
  | read =>
    have hheading : ∀ conn, fd = some conn → acceptedAt conn ≤ pos.toNat :=
      fun conn hconn => h.heading conn _ hconn rfl
    have hmoved := h.readLog_pos_le ⟨fd, newClient, .read, pos, buf, owner, bufPos⟩
    refine h.move rfl ?_ ?_ ?_
    · intro conn hconn _
      exact (hheading conn hconn).trans hmoved
    · intro conn p hconn hp
      have hfrom : p = readFrom s.log pos := Link.heading_readLog hp
      rw [hfrom]
      exact (hheading conn hconn).trans (le_max_left _ _)
    · intro conn hsending
      cases Link.readLog_send hsending
  | send task => exact absurd rfl (hloop task)

lemma goto (h : Since config s t acceptedAt sent) {pc : Pc TelnetTask} (hheading : (t.goto pc).link.heading = none)
    (hsending : ∀ d, pc ≠ .send (.sending d)) : Since config s (t.goto pc) acceptedAt sent := by
  refine h.move rfl h.cursor ?_ ?_
  · intro conn p _ hp
    cases hheading.symm.trans hp
  · intro conn hpc
    exact absurd hpc (hsending _)

lemma record (h : Since config s t acceptedAt sent) {piece : Piece} (hconn : piece.conn < t.accepted)
    (hpos : acceptedAt piece.conn ≤ piece.pos) : Since config s t acceptedAt (record sent (some piece)) := by
  refine ⟨h.accounted, h.room, h.past, ?_, h.pending, h.active, h.cursor, h.heading, h.sending, ?_⟩
  · intro conn hge
    exact (Function.update_of_ne (hconn.trans_le hge).ne' _ sent).trans (h.blank conn hge)
  · intro conn p hp
    rw [Bridge.record] at hp
    rcases eq_or_ne conn piece.conn with rfl | hne
    · rw [Function.update_self, positions_concat] at hp
      rcases List.mem_append.mp hp with hp | hp
      · exact h.later _ p hp
      · exact hpos.trans (List.mem_range'_1.mp hp).1
    · rw [Function.update_of_ne hne] at hp
      exact h.later conn p hp

theorem sendStep (h : Since config s t acceptedAt sent) {ret : ℤ} {task : TelnetTask} (hpc : t.link.pc = .send task) :
    Since config s (t.sendStep ret task).1 acceptedAt (Bridge.record sent (t.taken ret)) := by
  rcases t with ⟨⟨fd, newClient, pc, pos, buf, owner, bufPos⟩, daemon, accepted⟩
  cases hpc
  cases task with
  | testFd =>
    cases fd with
    | none => exact h.goto rfl (fun _ hpc => by cases hpc)
    | some conn => exact h.move rfl h.cursor h.heading (fun _ hpc => by cases hpc)
  | sendFd =>
    refine h.move rfl h.cursor (fun _ _ _ hp => by cases hp) ?_
    intro conn hsending
    cases hsending
    exact ⟨h.active conn rfl, h.heading conn _ rfl rfl⟩
  | sending d =>
    cases d with
    | none => exact h.goto rfl (fun _ hpc => by cases hpc)
    | some conn =>
      obtain ⟨hconn, hpos⟩ := h.sending conn rfl
      simp only [Telnet.sendStep, Telnet.taken, Option.some_ne_none, false_or]
      by_cases hret : ret ≤ 0
      · rw [if_pos hret, if_neg (not_lt.mpr hret)]
        exact h.goto rfl (fun _ hpc => by cases hpc)
      · rw [if_neg hret, if_pos (not_le.mp hret)]
        refine Since.record (h.goto rfl (fun _ hpc => by cases hpc)) ?_ ?_
        · exact hconn
        · exact hpos
  | shut d => exact h.goto rfl (fun _ hpc => by cases hpc)
  | clear d =>
    have hgone : Since config s
        (Telnet.clearFd ⟨⟨fd, newClient, .send (.clear d), pos, buf, owner, bufPos⟩, daemon, accepted⟩) acceptedAt sent :=
      h.elsewhere rfl (.inr rfl) rfl h.pending rfl
    exact hgone.goto rfl (fun _ hpc => by cases hpc)

theorem socketSendThread (h : Since config s t acceptedAt sent) {ret : ℤ} (hunmissed : t.Unmissed acceptedAt)
    (events : Events) :
    Since config s (t.socketSendThread ret s.log events).1 acceptedAt (Bridge.record sent (t.taken ret)) := by
  by_cases hsend : ∃ task, t.link.pc = .send task
  · obtain ⟨task, hpc⟩ := hsend
    rw [Telnet.socketSendThread_send hpc]
    exact h.sendStep hpc
  · have hloop : ∀ task, t.link.pc ≠ .send task := fun task hpc => hsend ⟨task, hpc⟩
    rw [Telnet.socketSendThread_loop hloop, Telnet.taken_loop hloop]
    exact h.loopStep hloop hunmissed events

end Since

namespace Ledger

variable {config : LogSize} {l : Ledger} {a : Action}

def Dated (config : LogSize) (l : Ledger) : Prop :=
  Since config l.world.console l.world.telnet l.acceptedAt l.sent

theorem dated_step (h : l.Dated config) (ha : l.Timely config a) : (l.step config a).1.Dated config := by
  cases a with
  | console e => exact Since.console h ha.1 ha.2
  | telnetSender ret => exact Since.socketSendThread h ha _
  | telnetAccept => exact Since.acceptClient h
  | telnetDaemon ret => exact Since.handleClient h ha ret _
  | wsSender ret =>
    rw [Dated, step, World.wsSender_console, World.wsSender_telnet]
    exact h
  | wsPoll | wsService | wsAccept | wsHttp => exact h

/-- In a timely run each telnet client sees later output only. -/
theorem later_output (config : LogSize) (logBuffer : ℕ → UInt8) (ret : ℤ) (actions : List Action)
    (h : Along (step config) (Timely config) (init config logBuffer ret) actions) (conn : Conn) :
    Later (exec (step config) (init config logBuffer ret) actions) conn := by
  have hend : (exec (step config) (init config logBuffer ret) actions).Dated config :=
    exec_invariant (fun _ _ hs ha => dated_step hs ha) (Since.init logBuffer ret) h
  exact hend.later conn

def after (actions : List Action) : Ledger := exec (step kconfigMinLog) (init kconfigMinLog (fun _ => 0) 0) actions

def oneMore : List Action := [.console (.store 66), .console (.uart (.rxRdy 1) 0)]

/-- The next client connects when the byte has been sent. -/
def successive : List Action :=
  World.telnetSends ++ [.telnetSender 1] ++ World.telnetCloses ++ World.telnetConnects ++
    List.replicate 5 (.telnetSender 1) ++ oneMore ++ List.replicate 9 (.telnetSender 1)

theorem later_output_successive :
    Later (after successive) 1 ∧ (after successive).acceptedAt 1 = 1 ∧ positions ((after successive).sent 1) = [1] :=
  ⟨later_output kconfigMinLog (fun _ => 0) 0 successive (by decide +kernel) 1, by decide +kernel, by decide +kernel⟩

/-- The next client connects just before `send` is given the descriptor. -/
def chunkInHand : List Action :=
  World.telnetSends.dropLast ++ World.telnetCloses ++ World.telnetConnects ++ List.replicate 2 (.telnetSender 1)

/-- The next client's descriptor is set, the thread reads and sends, and `new_client` is not set yet. -/
def unannounced : List Action :=
  World.telnetSends ++ [.telnetSender 1] ++ World.telnetCloses ++ oneMore ++ [.telnetAccept, .telnetDaemon 1] ++
    List.replicate 6 (.telnetSender 1)

/-- The next client connects between the two steps in which the thread takes up the one before. -/
def announcementLost : List Action :=
  World.telnetConnects ++ List.replicate 3 (.telnetSender 1) ++ World.telnetCloses ++ oneMore ++
    World.telnetConnects ++ List.replicate 6 (.telnetSender 1)

theorem earlier_output_sent :
    ¬ Later (after chunkInHand) 1 ∧ ¬ Later (after unannounced) 1 ∧ ¬ Later (after announcementLost) 1 := by
  refine ⟨fun h => ?_, fun h => ?_, fun h => ?_⟩
  · exact absurd (h 0 (by decide +kernel)) (by decide +kernel)
  · exact absurd (h 1 (by decide +kernel)) (by decide +kernel)
  · exact absurd (h 0 (by decide +kernel)) (by decide +kernel)

end Ledger

end WallaBMC.Bridge
