import WallaBMC.Bridge.Feed

/-! What one telnet client is sent while it stays connected. The cursor moves when bytes are read from the log, so
what a short `send` leaves of a chunk is not sent again. -/

namespace WallaBMC.Bridge

open Console Library.Runs Library.LossyLog

namespace Telnet

def note (ret : ℤ) (log : ConsoleLog) (feed : Feed) (t : Telnet) : Feed :=
  match t.taken ret with
  | some piece =>
    (feed.take piece.bytes).drop (piece.pos + piece.bytes.length) (t.link.buf.length - piece.bytes.length)
  | none => feed.loop .telnet log t.link

def partSend (n : ℕ) (ret : ℤ) : Prop := 0 < ret ∧ ret ≤ n

def wholeSend (n : ℕ) (ret : ℤ) : Prop := 0 < ret ∧ ret = n

instance (n : ℕ) (ret : ℤ) : Decidable (partSend n ret) := inferInstanceAs (Decidable (_ ∧ _))

instance (n : ℕ) (ret : ℤ) : Decidable (wholeSend n ret) := inferInstanceAs (Decidable (_ ∧ _))

/-- The daemon receives from the client. -/
def Attends (conn : Conn) : DaemonPc → Prop
  | .post _ | .testFd _ | .recvFd _ => True
  | .receiving _ d => d = some conn
  | _ => False

/-- The client is announced, and the send thread has not seen it yet. -/
structure Announced (conn : Conn) (t : Telnet) : Prop where
  fd : t.link.fd = some conn
  newClient : t.link.newClient = true
  pc : t.link.pc.waits = true
  daemon : Attends conn t.daemon

/-- A `send` returns one of the values that `takes` allows for the length of its chunk. -/
def Accepts (takes : ℕ → ℤ → Prop) (len : ℕ) (ret : ℤ) : Pc TelnetTask → Prop
  | .send (.sending _) => takes len ret
  | _ => True

def Receives (ret : ℤ) : DaemonPc → Prop
  | .receiving _ _ => 0 < ret
  | _ => True

instance (takes : ℕ → ℤ → Prop) [∀ n ret, Decidable (takes n ret)] (len : ℕ) (ret : ℤ) :
    (pc : Pc TelnetTask) → Decidable (Accepts takes len ret pc)
  | .send (.sending _) => inferInstanceAs (Decidable (takes len ret))
  | .send .testFd | .send .sendFd | .send (.shut _) | .send (.clear _) | .top | .enterWait _ | .blocked | .testNew
  | .reset | .clearNew | .read => isTrue trivial

instance (ret : ℤ) : (pc : DaemonPc) → Decidable (Receives ret pc)
  | .receiving _ _ => inferInstanceAs (Decidable (0 < ret))
  | .accept | .setFd _ | .setNew _ | .post _ | .testFd _ | .recvFd _ | .shut _ _ | .clear _ _ | .close _ =>
    isTrue trivial

lemma accepts_part {len : ℕ} {ret : ℤ} {pc : Pc TelnetTask} (h : Accepts wholeSend len ret pc) :
    Accepts partSend len ret pc := by
  cases pc with
  | send task =>
    cases task with
    | sending d => exact h.imp_right le_of_eq
    | testFd | sendFd | shut | clear => trivial
  | _ => trivial

/-- What is still to be sent of the chunk in `buf` is all of it. -/
def Holding (reported : List UInt8) (conn : Conn) (feed : Feed) (link : Link TelnetTask) : Prop :=
  match link.pc with
  | .send .testFd | .send .sendFd => link.Amid reported .telnet feed 0
  | .send (.sending d) => d = some conn ∧ link.Amid reported .telnet feed 0
  | .send (.shut _) | .send (.clear _) => False
  | _ => True

end Telnet

structure OneTelnet (config : LogSize) (conn : Conn) (s : System Empty) (t : Telnet) (feed : Feed) : Prop where
  sound : System.Sound config s
  cursor : t.link.pos.toNat ≤ s.log.received.toNat
  fd : t.link.fd = some conn
  daemon : Telnet.Attends conn t.daemon
  feeds : t.link.Feeds s.reported .telnet feed
  holding : Telnet.Holding s.reported conn feed t.link

namespace OneTelnet

variable {config : LogSize} {conn : Conn} {s : System Empty} {t : Telnet} {feed : Feed} {ret : ℤ}

theorem handleClient (h : OneTelnet config conn s t feed) (hreceives : Telnet.Receives ret t.daemon) (events : Events) :
    OneTelnet config conn s (t.handleClient ret events).1 feed := by
  rcases t with ⟨link, daemon, accepted⟩
  have hfd : link.fd = some conn := h.fd
  cases daemon with
  | post k => exact ⟨h.sound, h.cursor, h.fd, trivial, h.feeds, h.holding⟩
  | testFd k =>
    refine ⟨h.sound, h.cursor, h.fd, ?_, h.feeds, h.holding⟩
    simp only [Telnet.handleClient, Telnet.daemonGoto, hfd, Option.some_ne_none, if_false]
    trivial
  | recvFd k => exact ⟨h.sound, h.cursor, h.fd, hfd, h.feeds, h.holding⟩
  | receiving k d =>
    have hd : d = some conn := h.daemon
    have hret : ¬ ret ≤ 0 := not_le.mpr hreceives
    refine ⟨h.sound, h.cursor, h.fd, ?_, h.feeds, h.holding⟩
    simp only [Telnet.handleClient, Telnet.daemonGoto, hd, Option.some_ne_none, hret, or_self, if_false]
    trivial
  | accept | setFd | setNew | shut | clear | close => exact h.daemon.elim

lemma sending (h : OneTelnet config conn s t feed) (hpc : t.link.pc = .send (.sending (some conn)))
    (haccepts : 0 < ret ∧ ret ≤ t.link.buf.length) :
    OneTelnet config conn s (t.goto .top) (t.note ret s.log feed) := by
  have hholding := h.holding
  rw [Telnet.Holding, hpc] at hholding
  obtain ⟨-, hamid⟩ := hholding
  have htaken : t.taken ret = some ⟨conn, t.link.owner, t.link.bufPos, t.link.buf.take ret.toNat⟩ := by
    rw [Telnet.taken, hpc]
    exact if_pos haccepts.1
  have hserved := hamid.served
  rw [Nat.add_zero] at hserved
  have hbytes : t.link.buf.take ret.toNat <+: s.reported.drop t.link.bufPos :=
    (List.take_prefix _ _).trans hamid.bytes
  have htook := hserved.take hamid.begun hbytes
  have hbegun : ((feed.take (t.link.buf.take ret.toNat)).first .telnet).isSome := hamid.begun
  have hleft := htook.drop hbegun (t.link.buf.length - (t.link.buf.take ret.toNat).length)
  have hlength : (t.link.buf.take ret.toNat).length ≤ t.link.buf.length := List.length_take_le' _ _
  have hends := hamid.ends
  rw [Telnet.note, htaken]
  refine ⟨h.sound, h.cursor, h.fd, h.daemon, .inr ⟨hamid.old, ?_⟩, trivial⟩
  have hpos : (t.goto .top).link.pos.toNat = t.link.bufPos + (t.link.buf.take ret.toNat).length +
      (t.link.buf.length - (t.link.buf.take ret.toNat).length) := by
    change t.link.pos.toNat = _
    omega
  rw [hpos]
  exact hleft

theorem sendStep (h : OneTelnet config conn s t feed) {task : TelnetTask} (hpc : t.link.pc = .send task)
    (haccepts : Telnet.Accepts Telnet.partSend t.link.buf.length ret t.link.pc) :
    OneTelnet config conn s (t.sendStep ret task).1 (t.note ret s.log feed) := by
  have hholding := h.holding
  rw [Telnet.Holding, hpc] at hholding
  cases task with
  | testFd =>
    have hnote : t.note ret s.log feed = feed := by
      rw [Telnet.note, Telnet.taken, hpc]
      simp only [Feed.loop, hpc]
    rw [hnote, Telnet.sendStep, h.fd, if_neg (Option.some_ne_none conn)]
    exact ⟨h.sound, h.cursor, h.fd, h.daemon, trivial, hholding.elsewhere _ _⟩
  | sendFd =>
    have hnote : t.note ret s.log feed = feed := by
      rw [Telnet.note, Telnet.taken, hpc]
      simp only [Feed.loop, hpc]
    rw [hnote, Telnet.sendStep]
    exact ⟨h.sound, h.cursor, h.fd, h.daemon, trivial, h.fd, hholding.elsewhere _ _⟩
  | sending d =>
    obtain ⟨rfl, -⟩ := hholding
    rw [hpc] at haccepts
    have hret : ¬ (some conn = none ∨ ret ≤ 0) := by
      rintro (hnone | hle)
      · cases hnone
      · exact hle.not_gt haccepts.1
    rw [Telnet.sendStep, if_neg hret]
    exact h.sending hpc haccepts
  | shut d | clear d => exact hholding.elim

theorem socketSendThread (h16 : 16 ∣ config.bytes) (h : OneTelnet config conn s t feed)
    (haccepts : Telnet.Accepts Telnet.partSend t.link.buf.length ret t.link.pc) (events : Events) :
    OneTelnet config conn s (t.socketSendThread ret s.log events).1 (t.note ret s.log feed) := by
  by_cases hsend : ∃ task, t.link.pc = .send task
  · obtain ⟨task, hpc⟩ := hsend
    rw [Telnet.socketSendThread_send hpc]
    exact h.sendStep hpc haccepts
  · have hloop : ∀ task, t.link.pc ≠ .send task := fun task hpc => hsend ⟨task, hpc⟩
    obtain ⟨hfeeds, hamid⟩ := h.feeds.loopStep h16 h.sound h.cursor hloop .testFd events
    rw [Telnet.socketSendThread_loop hloop, Telnet.note, Telnet.taken_loop hloop]
    refine ⟨h.sound, Link.loopStep_inside h16 h.sound h.cursor _ _ _, Link.loopStep_fd.trans h.fd, h.daemon, hfeeds, ?_⟩
    rw [Telnet.Holding]
    split
    · exact (hamid _ ‹_›).2
    · exact (hamid _ ‹_›).2
    · cases (hamid _ ‹_›).1
    · cases (hamid _ ‹_›).1
    · cases (hamid _ ‹_›).1
    · trivial

lemma holding_extend {reported : List UInt8} {link : Link TelnetTask} (h : Telnet.Holding reported conn feed link)
    (more : List UInt8) : Telnet.Holding (reported ++ more) conn feed link := by
  rcases link with ⟨fd, newClient, pc, pos, buf, owner, bufPos⟩
  cases pc with
  | send task =>
    cases task with
    | testFd | sendFd => exact h.extend more
    | sending d => exact h.imp_right fun hamid => hamid.extend more
    | shut d | clear d => exact h.elim
  | _ => trivial

lemma console {e : Console.Event Empty} (h16 : 16 ∣ config.bytes) (h : OneTelnet config conn s t feed)
    (he : System.RestartFree config s e) (hwrap : System.NoWrap config s e) (hlap : System.NotLapping config s e) :
    OneTelnet config conn (s.step config e).1 t feed := by
  obtain ⟨hsound, hreceived⟩ := World.console_sound h16 h.sound he hwrap hlap
  obtain ⟨more, hmore⟩ := System.step_reported config s e
  refine ⟨hsound, h.cursor.trans hreceived, h.fd, h.daemon, ?_, ?_⟩
  · rw [hmore]
    exact h.feeds.extend more
  · rw [hmore]
    exact holding_extend h.holding more

lemma delivered (h : OneTelnet config conn s t feed) : feed.Delivered s.reported .telnet feed.Lost := by
  by_cases hsend : ∃ task, t.link.pc = .send task
  · obtain ⟨task, hpc⟩ := hsend
    have hholding := h.holding
    rw [Telnet.Holding, hpc] at hholding
    cases task with
    | testFd | sendFd => exact hholding.served.delivered
    | sending d => exact hholding.2.served.delivered
    | shut d | clear d => exact hholding.elim
  · exact h.feeds.delivered fun task hpc => hsend ⟨task, hpc⟩

end OneTelnet

namespace World

variable {config : LogSize} {conn : Conn} {x : World × Feed} {a : Action}

def noteTelnet (w : World) (feed : Feed) : Action → Feed
  | .telnetSender ret => w.telnet.note ret w.console.log feed
  | _ => feed

/-- The log is not damaged, the client stays connected, and each `send` takes what `takes` allows. -/
def Stays (config : LogSize) (takes : ℕ → ℤ → Prop) (w : World) : Action → Prop
  | .console e => w.Logged config (.console e)
  | .telnetSender ret => Telnet.Accepts takes w.telnet.link.buf.length ret w.telnet.link.pc
  | .telnetDaemon ret => Telnet.Receives ret w.telnet.daemon
  | _ => True

instance (takes : ℕ → ℤ → Prop) [∀ n ret, Decidable (takes n ret)] (w : World) :
    (a : Action) → Decidable (w.Stays config takes a)
  | .console e => inferInstanceAs (Decidable (w.Logged config (.console e)))
  | .telnetSender _ => inferInstanceAs (Decidable (Telnet.Accepts _ _ _ _))
  | .telnetDaemon _ => inferInstanceAs (Decidable (Telnet.Receives _ _))
  | .telnetAccept | .wsSender _ | .wsPoll _ _ | .wsService _ | .wsAccept _ | .wsHttp _ => isTrue trivial

def FeedsTelnet (config : LogSize) (conn : Conn) (x : World × Feed) : Prop :=
  OneTelnet config conn x.1.console x.1.telnet x.2

theorem feedsTelnet_step (h16 : 16 ∣ config.bytes) (h : FeedsTelnet config conn x)
    (ha : x.1.Stays config Telnet.partSend a) : FeedsTelnet config conn (watch config noteTelnet x a).1 := by
  obtain ⟨w, feed⟩ := x
  cases a with
  | console e => exact OneTelnet.console h16 h ha.1 ha.2.1 ha.2.2
  | telnetSender ret => exact OneTelnet.socketSendThread h16 h ha _
  | telnetAccept =>
    have hnot : w.telnet.acceptClient = w.telnet := by
      have hdaemon := OneTelnet.daemon h
      rw [Telnet.acceptClient]
      split
      · rw [show w.telnet.daemon = .accept from ‹_›] at hdaemon
        exact hdaemon.elim
      · rfl
    rw [FeedsTelnet, watch, step, hnot]
    exact h
  | telnetDaemon ret => exact OneTelnet.handleClient h ha _
  | wsSender ret =>
    rw [FeedsTelnet, watch, wsSender_console, wsSender_telnet]
    exact h
  | wsPoll | wsService | wsAccept | wsHttp => exact h

lemma feedsTelnet_start {w : World} (h : w.Steady config) (hstart : w.telnet.Announced conn) :
    FeedsTelnet config conn (w, .idle) := by
  have hwaits := hstart.pc
  refine ⟨h.sound, h.telnet, hstart.fd, hstart.daemon, Link.feeds_fresh hwaits hstart.newClient, ?_⟩
  rw [Telnet.Holding]
  cases hpc : w.telnet.link.pc with
  | send task =>
    rw [hpc] at hwaits
    cases hwaits
  | _ => trivial

/-- Whatever the sends take, all that is left out was lost by the log or dropped after a short one. -/
theorem sends_delivered (config : LogSize) (h16 : 16 ∣ config.bytes) (logBuffer : ℕ → UInt8) (ret : ℤ) (hret : 0 ≤ ret)
    (before : List Action) (hbefore : Along (step config) (Logged config) (init config logBuffer ret) before)
    (conn : Conn) (hstart : (exec (step config) (init config logBuffer ret) before).telnet.Announced conn)
    (after : List Action)
    (hafter : Along (watch config noteTelnet) (fun x a => x.1.Stays config Telnet.partSend a)
      (exec (step config) (init config logBuffer ret) before, .idle) after) :
    let x := exec (watch config noteTelnet) (exec (step config) (init config logBuffer ret) before, .idle) after
    x.2.Delivered x.1.console.reported .telnet x.2.Lost := by
  have hsteady : (exec (step config) (init config logBuffer ret) before).Steady config :=
    exec_invariant (fun _ _ hs ha => steady_step h16 hs ha) (steady_init h16 logBuffer hret) hbefore
  have hend : FeedsTelnet config conn
      (exec (watch config noteTelnet) (exec (step config) (init config logBuffer ret) before, .idle) after) :=
    exec_invariant (fun _ _ hs ha => feedsTelnet_step h16 hs ha) (feedsTelnet_start hsteady hstart) hafter
  exact hend.delivered

lemma part_of_whole {w : World} (h : w.Stays config Telnet.wholeSend a) : w.Stays config Telnet.partSend a := by
  cases a with
  | telnetSender ret => exact Telnet.accepts_part h
  | _ => exact h

lemma note_whole {ret : ℤ} {log : ConsoleLog} {feed : Feed} {t : Telnet} (hdropped : feed.dropped = [])
    (h : Telnet.Accepts Telnet.wholeSend t.link.buf.length ret t.link.pc) : (t.note ret log feed).dropped = [] := by
  rcases t with ⟨⟨fd, newClient, pc, pos, buf, owner, bufPos⟩, daemon, accepted⟩
  rw [Telnet.note]
  split
  · have hpiece := ‹Telnet.taken ret _ = some _›
    rw [Telnet.taken] at hpiece
    cases pc with
    | send task =>
      cases task with
      | sending d =>
        cases d with
        | some conn =>
          obtain ⟨hpositive, hwhole⟩ := h
          simp only [hpositive, if_true, Option.some.injEq] at hpiece
          have hall : buf.take ret.toNat = buf := List.take_of_length_le (by dsimp only at hwhole; omega)
          rw [← hpiece, hall]
          simp only [Feed.drop, Feed.take, hdropped, Nat.sub_self, List.range'_zero, List.append_nil]
        | none => cases hpiece
      | testFd | sendFd | shut | clear => cases hpiece
    | _ => cases hpiece
  · rw [Feed.dropped_loop, hdropped]

lemma dropped_whole (hdropped : x.2.dropped = []) (h : x.1.Stays config Telnet.wholeSend a) :
    (watch config noteTelnet x a).1.2.dropped = [] := by
  cases a with
  | telnetSender ret => exact note_whole hdropped h
  | _ => exact hdropped

/-- With whole sends, only what the log has lost is left out. -/
theorem whole_sends_delivered (config : LogSize) (h16 : 16 ∣ config.bytes) (logBuffer : ℕ → UInt8) (ret : ℤ)
    (hret : 0 ≤ ret) (before : List Action)
    (hbefore : Along (step config) (Logged config) (init config logBuffer ret) before)
    (conn : Conn) (hstart : (exec (step config) (init config logBuffer ret) before).telnet.Announced conn)
    (after : List Action)
    (hafter : Along (watch config noteTelnet) (fun x a => x.1.Stays config Telnet.wholeSend a)
      (exec (step config) (init config logBuffer ret) before, .idle) after) :
    let x := exec (watch config noteTelnet) (exec (step config) (init config logBuffer ret) before, .idle) after
    x.2.Delivered x.1.console.reported .telnet x.2.Below := by
  have hpart := hafter.mono fun x a ha => part_of_whole ha
  have hdropped : (exec (watch config noteTelnet)
      (exec (step config) (init config logBuffer ret) before, .idle) after).2.dropped = [] :=
    exec_invariant (I := fun x => x.2.dropped = []) (fun _ _ hx ha => dropped_whole hx ha) rfl hafter
  have hall := sends_delivered config h16 logBuffer ret hret before hbefore conn hstart after hpart
  exact hall.below hdropped

def sender (n : ℕ) (ret : ℤ) : List Action := List.replicate n (.telnetSender ret)

def connected : List Action :=
  List.flatten [sender 2 1, [.telnetAccept, .telnetDaemon 1, .telnetDaemon 1, .telnetDaemon 1]]

/-- Two bytes are reported and then a third one; the `send` calls return `first` and 1. -/
def twoSends (first : ℤ) : List Action :=
  List.flatten [sender 7 1, [.console (.store 65), .console (.store 66), .console (.uart (.rxRdy 2) 0)],
    sender 7 first, [.console (.store 67), .console (.uart (.rxRdy 1) 0)], sender 6 1]

def start : World := exec (step kconfigMinLog) (init kconfigMinLog (fun _ => 0) 0) connected

theorem whole_sends_delivered_two :
    (exec (watch kconfigMinLog noteTelnet) (start, .idle) (twoSends 2)).2.out = [65, 66, 67] ∧
      (exec (watch kconfigMinLog noteTelnet) (start, .idle) (twoSends 2)).2.Delivered
        (exec (watch kconfigMinLog noteTelnet) (start, .idle) (twoSends 2)).1.console.reported .telnet
        (exec (watch kconfigMinLog noteTelnet) (start, .idle) (twoSends 2)).2.Below :=
  ⟨by decide +kernel, whole_sends_delivered kconfigMinLog (by decide) (fun _ => 0) 0 le_rfl connected
    (by decide +kernel) 0 ⟨by decide +kernel, by decide +kernel, by decide +kernel, trivial⟩ (twoSends 2)
    (by decide +kernel)⟩

lemma gap_skips {lost : ℕ → Prop} {hi : ℕ} (h : Delivers [65, 66, 67] 0 hi lost ([65, 67] : List UInt8)) : lost 1 := by
  obtain ⟨ps, -, hinside, hout, hgap⟩ := h
  have hlength := congrArg List.length hout
  rcases ps with _ | ⟨a, _ | ⟨b, _ | ⟨c, ps⟩⟩⟩
  · simp at hlength
  · simp at hlength
  · have ha : a = 0 := by
      rcases a with _ | _ | _ | a <;> simp at hout ⊢
    have hb : b = 2 := by
      rcases b with _ | _ | _ | b <;> simp at hout ⊢
    subst ha hb
    have hlt : 2 < hi := (hinside 2 (by simp)).2
    exact hgap 1 (Nat.zero_le _) (by omega) (by simp)
  · simp at hlength

theorem short_send_skips :
    Along (watch kconfigMinLog noteTelnet) (fun x a => x.1.Stays kconfigMinLog Telnet.partSend a) (start, .idle)
        (twoSends 1) ∧
      ¬ (exec (watch kconfigMinLog noteTelnet) (start, .idle) (twoSends 1)).2.Delivered
        (exec (watch kconfigMinLog noteTelnet) (start, .idle) (twoSends 1)).1.console.reported .telnet
        (exec (watch kconfigMinLog noteTelnet) (start, .idle) (twoSends 1)).2.Below := by
  refine ⟨by decide +kernel, fun h => ?_⟩
  have hfirst : (exec (watch kconfigMinLog noteTelnet) (start, .idle) (twoSends 1)).2.first .telnet = some 0 := by
    decide +kernel
  have hout : (exec (watch kconfigMinLog noteTelnet) (start, .idle) (twoSends 1)).2.out = [65, 67] := by
    decide +kernel
  have hreported : (exec (watch kconfigMinLog noteTelnet) (start, .idle) (twoSends 1)).1.console.reported =
      [65, 66, 67] := by
    decide +kernel
  have hwindows : (exec (watch kconfigMinLog noteTelnet) (start, .idle) (twoSends 1)).2.windows = [0, 0, 0] := by
    decide +kernel
  rw [Feed.Delivered, hfirst, hout, hreported] at h
  obtain ⟨hi, hdelivers⟩ := h
  obtain ⟨w, hw, hlt⟩ := gap_skips hdelivers
  rw [hwindows] at hw
  simp at hw
  omega

end World

end WallaBMC.Bridge
