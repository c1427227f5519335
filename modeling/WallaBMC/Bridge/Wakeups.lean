import WallaBMC.Bridge.World

/-! Whether a send thread can sleep although there is console output for its client. Both threads wait for the one
bit `EVENT_CONSOLE_LOG_DATA`, and whoever returns takes it away: a thread that has found nothing to read
but has not begun to wait misses the wake-up. -/

namespace WallaBMC.Bridge

open Console Library.EventFlags Library.Runs

def Sender.dataMask (b : Sender) : Finset EventBit := {b.clientEvent, .consoleLogData}

def Sender.clientMask (b : Sender) : Finset EventBit := {b.clientEvent}

namespace Link

variable {σ : Type*}

def Awaits (link : Link σ) (events : Events) (b : Sender) (mask : Finset EventBit) : Prop :=
  link.pc = .enterWait mask ∨ events.waiting b = some mask

/-- What keeps a thread from sleeping although a client is there, or bytes are. -/
structure Guarded (b : Sender) (connecting : Bool) (received : UInt64) (events : Events) (link : Link σ) :
    Prop where
  blocked : events.waiting b ≠ none → link.pc = .blocked
  masks : ∀ mask, link.Awaits events b mask → mask = b.clientMask ∨ mask = b.dataMask
  client : link.Awaits events b b.clientMask →
    link.fd = none ∨ connecting = true ∨ b.clientEvent ∈ events.pending
  data : link.Awaits events b b.dataMask →
    ¬ link.pos < received ∨ ∃ bit ∈ b.dataMask, bit ∈ events.pending

variable {b c : Sender} {connecting connecting' : Bool} {received : UInt64} {log : ConsoleLog}
  {events : Events} {link link' : Link σ} {task : σ} {mask : Finset EventBit}

lemma masks_ne (b : Sender) : b.clientMask ≠ b.dataMask := by
  cases b <;> decide

lemma guarded_running (hrun : ∀ mask, link.pc ≠ .enterWait mask) (hwaiting : events.waiting b = none) :
    link.Guarded b connecting received events := by
  have hawaits : ∀ mask, ¬ link.Awaits events b mask := by
    rintro mask (hpc | hmask)
    · exact hrun mask hpc
    · rw [hwaiting] at hmask
      cases hmask
  exact ⟨fun h => absurd hwaiting h, fun mask h => absurd h (hawaits mask), fun h => absurd h (hawaits _),
    fun h => absurd h (hawaits _)⟩

lemma Guarded.running (h : link.Guarded b connecting received events) (hpc : link.pc ≠ .blocked) :
    events.waiting b = none := by
  by_contra hwaiting
  exact hpc (h.blocked hwaiting)

lemma Guarded.relink (h : link.Guarded b connecting received events) (hpc : link'.pc = link.pc)
    (hpos : link'.pos = link.pos)
    (hfd : link'.fd = none ∨ connecting' = true ∨
      (link.fd = none → link'.fd = none) ∧ (connecting = true → connecting' = true)) :
    link'.Guarded b connecting' received events := by
  have hawaits : ∀ mask, link'.Awaits events b mask ↔ link.Awaits events b mask := fun mask => by
    rw [Awaits, Awaits, hpc]
  refine ⟨fun hw => hpc.trans (h.blocked hw), fun mask hm => h.masks mask ((hawaits mask).mp hm), fun hc => ?_,
    fun hd => ?_⟩
  · rcases hfd with hnone | hconnecting | ⟨hsame, hmono⟩
    · exact .inl hnone
    · exact .inr (.inl hconnecting)
    · rcases h.client ((hawaits _).mp hc) with hnone | hconnecting | hbit
      · exact .inl (hsame hnone)
      · exact .inr (.inl (hmono hconnecting))
      · exact .inr (.inr hbit)
  · rw [hpos]
    exact h.data ((hawaits _).mp hd)

lemma Guarded.post (hquiet : events.Quiet) (h : link.Guarded b connecting received events)
    (mask : Finset EventBit) :
    link.Guarded b connecting received (events.post mask) := by
  have hawaits : ∀ mask', link.Awaits (events.post mask) b mask' → link.Awaits events b mask' := by
    rintro mask' (hpc | hmask')
    · exact .inl hpc
    · exact .inr ((Flags.waiting_post hquiet).mp hmask').1
  refine ⟨fun hw => h.blocked (fun hnone => hw (Flags.waiting_post_none hnone)),
    fun mask' hm => h.masks mask' (hawaits mask' hm), fun hc => ?_, fun hd => ?_⟩
  · rcases h.client (hawaits _ hc) with hnone | hconnecting | hbit
    · exact .inl hnone
    · exact .inr (.inl hconnecting)
    · exact .inr (.inr (Flags.mem_post_of_mem hquiet hbit))
  · rcases h.data (hawaits _ hd) with hread | ⟨bit, hbit, hpending⟩
    · exact .inl hread
    · exact .inr ⟨bit, hbit, Flags.mem_post_of_mem hquiet hpending⟩

lemma Guarded.post_client (hquiet : events.Quiet) (h : link.Guarded b connecting received events)
    (hothers : ∀ t mask, t ≠ b → events.waiting t = some mask → b.clientEvent ∉ mask) :
    link.Guarded b connecting' received (events.post b.clientMask) := by
  have hpost := h.post hquiet b.clientMask
  refine ⟨hpost.blocked, hpost.masks, fun hc => .inr (.inr ?_), hpost.data⟩
  have hself : b.clientEvent ∈ b.clientMask := Finset.mem_singleton_self _
  rcases hc with hpc | hmask
  · refine Flags.mem_pending_post.mpr ⟨.inr hself, fun t mask hmask hbit => ?_⟩
    by_cases ht : t = b
    · subst ht
      have hblocked := h.blocked (by rw [hmask]; exact Option.some_ne_none _)
      rw [hpc] at hblocked
      cases hblocked
    · exact hothers t mask ht hmask hbit
  · have hdisjoint := ((Flags.waiting_post hquiet).mp hmask).2
    exact absurd hself (Finset.disjoint_left.mp hdisjoint hself)

lemma Guarded.wait_other (hquiet : events.Quiet) (h : link.Guarded b connecting received events) (hne : b ≠ c)
    (hclient : b.clientEvent ∉ mask)
    (hdata : EventBit.consoleLogData ∈ mask → EventBit.consoleLogData ∈ events.pending →
      link.pc = .enterWait b.dataMask → link.pos < received → b.clientEvent ∈ events.pending) :
    link.Guarded b connecting received (events.wait c mask).2 := by
  have hwaiting : (events.wait c mask).2.waiting b = events.waiting b := Flags.waiting_wait_of_ne hne
  have hawaits : ∀ mask', link.Awaits (events.wait c mask).2 b mask' ↔ link.Awaits events b mask' :=
    fun mask' => by rw [Awaits, Awaits, hwaiting]
  have hkeeps : b.clientEvent ∈ events.pending → b.clientEvent ∈ (events.wait c mask).2.pending :=
    fun hbit => Flags.mem_pending_wait.mpr ⟨hbit, hclient⟩
  refine ⟨fun hw => h.blocked (by rwa [← hwaiting]), fun mask' hm => h.masks mask' ((hawaits mask').mp hm),
    fun hc => ?_, fun hd => ?_⟩
  · rcases h.client ((hawaits _).mp hc) with hnone | hconnecting | hbit
    · exact .inl hnone
    · exact .inr (.inl hconnecting)
    · exact .inr (.inr (hkeeps hbit))
  · by_cases hunread : link.pos < received
    · right
      obtain ⟨bit, hbit, hpending⟩ := (h.data ((hawaits _).mp hd)).resolve_left (fun hn => hn hunread)
      by_cases htaken : bit ∈ mask
      · -- The bit that is taken is that of the log, so the thread has not begun to wait.
        have hlog : bit = .consoleLogData := by
          rcases Finset.mem_insert.mp hbit with hself | hlog
          · exact absurd htaken (hself ▸ hclient)
          · exact Finset.mem_singleton.mp hlog
        subst hlog
        have hpc : link.pc = .enterWait b.dataMask := by
          rcases (hawaits _).mp hd with hpc | hmask
          · exact hpc
          · exact absurd hbit (Finset.disjoint_left.mp (hquiet b _ hmask) hpending)
        exact ⟨b.clientEvent, Finset.mem_insert_self _ _, hkeeps (hdata htaken hpending hpc hunread)⟩
      · exact ⟨bit, hbit, Flags.mem_pending_wait.mpr ⟨hpending, htaken⟩⟩
    · exact .inl hunread

lemma Guarded.rxReady (hquiet : events.Quiet) (h : link.Guarded b connecting received events) {len : ℕ}
    (hdata : 0 < len → (∃ t mask, events.waiting t = some mask ∧ EventBit.consoleLogData ∈ mask) →
      link.pc = .enterWait b.dataMask → b.clientEvent ∈ events.pending) :
    link.Guarded b connecting (received + UInt64.ofNat len) (events.post {.consoleLogData}) := by
  have hpost := h.post hquiet {.consoleLogData}
  refine ⟨hpost.blocked, hpost.masks, hpost.client, fun hd => ?_⟩
  have hpc : link.pc = .enterWait b.dataMask := by
    rcases hd with hpc | hmask
    · exact hpc
    · have hdisjoint := ((Flags.waiting_post hquiet).mp hmask).2
      have hlog : EventBit.consoleLogData ∈ b.dataMask := by simp [Sender.dataMask]
      exact absurd hlog (Finset.disjoint_left.mp hdisjoint (Finset.mem_singleton_self _))
  by_cases htaken : ∃ t mask, events.waiting t = some mask ∧ EventBit.consoleLogData ∈ mask
  · rcases Nat.eq_zero_or_pos len with rfl | hlen
    · have hsame : received + UInt64.ofNat 0 = received := UInt64.add_zero received
      rw [hsame]
      exact hpost.data hd
    · have hbit := hdata hlen htaken hpc
      exact .inr ⟨_, Finset.mem_insert_self _ _, Flags.mem_post_of_mem hquiet hbit⟩
  · refine .inr ⟨.consoleLogData, by simp [Sender.dataMask], Flags.mem_pending_post.mpr
      ⟨.inr (Finset.mem_singleton_self _), fun t mask hmask hbit => htaken ⟨t, mask, hmask, hbit⟩⟩⟩

lemma Guarded.not_sleeping (h : link.Guarded b connecting received events)
    (hfd : link.fd ≠ none) (hconnecting : connecting = false) (hmask : events.waiting b = some mask)
    (hdisjoint : Disjoint events.pending mask) : ¬ link.pos < received := by
  have hbit : ∀ bit ∈ mask, bit ∉ events.pending := fun bit hbit hpending =>
    Finset.disjoint_left.mp hdisjoint hpending hbit
  rcases h.masks mask (.inr hmask) with rfl | rfl
  · rcases h.client (.inr hmask) with hnone | hc | hclient
    · exact absurd hnone hfd
    · rw [hconnecting] at hc
      cases hc
    · exact absurd hclient (hbit _ (Finset.mem_singleton_self _))
  · rcases h.data (.inr hmask) with hread | ⟨bit, hmem, hpending⟩
    · exact hread
    · exact absurd hpending (hbit bit hmem)

section Loop

lemma Guarded.readLog (h : link.Guarded b connecting log.received events) (hpc : link.pc = .read) :
    (link.readLog b task log).Guarded b connecting log.received events := by
  have hwaiting := h.running (by rw [hpc]; simp)
  by_cases hempty : (hostConsoleRead log (fun _ => 0) bufSize link.pos).ret = 0
  · have hpc' : (link.readLog b task log).pc = .enterWait b.dataMask := by
      simp only [Link.readLog, hempty, lt_self_iff_false, if_false, if_true]
      rfl
    have hpos : (link.readLog b task log).pos = log.received := consoleLogRead_empty _ (by decide) hempty
    refine ⟨fun hw => absurd hwaiting hw, ?_, ?_, fun _ => .inl ?_⟩
    · rintro mask (hm | hm)
      · rw [hpc'] at hm
        cases hm
        exact .inr rfl
      · rw [hwaiting] at hm
        cases hm
    · rintro (hm | hm)
      · rw [hpc', Pc.enterWait.injEq] at hm
        exact absurd hm.symm (masks_ne b)
      · rw [hwaiting] at hm
        cases hm
    · rw [hpos]
      exact UInt64.lt_irrefl _
  · apply guarded_running _ hwaiting
    intro mask
    simp only [Link.readLog, if_neg hempty]
    split_ifs <;> simp

theorem Guarded.loopStep (h : link.Guarded b connecting log.received events) (hrest : ∀ t, link.pc ≠ .send t) :
    (link.loopStep b task log events).1.Guarded b connecting log.received (link.loopStep b task log events).2 := by
  rw [Link.loopStep]
  cases hpc : link.pc with
  | top =>
    have hwaiting := h.running (by rw [hpc]; simp)
    dsimp only
    by_cases hfd : link.fd = none
    · rw [if_pos hfd]
      refine ⟨fun hw => absurd hwaiting hw, ?_, fun _ => .inl hfd, ?_⟩
      · rintro mask (hm | hm)
        · cases hm
          exact .inl rfl
        · rw [hwaiting] at hm
          cases hm
      · rintro (hm | hm)
        · rw [Pc.enterWait.injEq] at hm
          exact absurd hm (masks_ne b)
        · rw [hwaiting] at hm
          cases hm
    · rw [if_neg hfd]
      exact guarded_running (fun mask hmask => by cases hmask) hwaiting
  | enterWait mask =>
    have hwaiting := h.running (by rw [hpc]; simp)
    have hmask := h.masks mask (.inl hpc)
    dsimp only
    by_cases hdisjoint : Disjoint events.pending mask
    · rw [Flags.wait_blocks hdisjoint]
      have hawaits : ∀ mask', ({ link with pc := .blocked } : Link σ).Awaits
          { events with waiting := Function.update events.waiting b (some mask) } b mask' →
            link.Awaits events b mask' := by
        rintro mask' (hm | hm)
        · cases hm
        · simp only [Function.update_self, Option.some.injEq] at hm
          exact .inl (hpc.trans (congrArg Pc.enterWait hm))
      exact ⟨fun _ => rfl, fun mask' hm => h.masks mask' (hawaits mask' hm), fun hm => h.client (hawaits _ hm),
        fun hm => h.data (hawaits _ hm)⟩
    · rw [Flags.wait_returns hdisjoint]
      exact guarded_running (fun mask hmask => by cases hmask) hwaiting
  | blocked =>
    dsimp only
    by_cases hwaiting : events.waiting b = none
    · rw [if_pos hwaiting]
      exact guarded_running (fun mask hmask => by cases hmask) hwaiting
    · rw [if_neg hwaiting]
      exact h.relink hpc.symm rfl (.inr (.inr ⟨id, id⟩))
  | testNew =>
    have hwaiting := h.running (by rw [hpc]; simp)
    apply guarded_running _ hwaiting
    intro mask
    dsimp only
    split_ifs <;> simp
  | reset | clearNew => exact guarded_running (fun mask hmask => by cases hmask) (h.running (by rw [hpc]; simp))
  | read => exact h.readLog hpc
  | send task => exact absurd hpc (hrest task)

end Loop

end Link

namespace World

variable {config : LogSize} {w : World}

/-- A send thread has found nothing to read but has not begun to wait, and no client has come since. -/
def Exposed (w : World) : Sender → Prop
  | .telnet => w.telnet.link.pc = .enterWait Sender.telnet.dataMask ∧ EventBit.telnetClient ∉ w.events.pending
  | .websocket => w.ws.link.pc = .enterWait Sender.websocket.dataMask ∧
    EventBit.websocketClient ∉ w.events.pending

instance (w : World) : (b : Sender) → Decidable (w.Exposed b)
  | .telnet | .websocket => inferInstanceAs (Decidable (_ ∧ _))

end World

/-- The next step of the thread returns with the bit of the log. -/
def Link.TakesData {σ : Type*} (link : Link σ) (events : Events) : Prop :=
  match link.pc with
  | .enterWait mask => EventBit.consoleLogData ∈ mask ∧ EventBit.consoleLogData ∈ events.pending
  | _ => False

instance {σ : Type*} (link : Link σ) (events : Events) : Decidable (link.TakesData events) := by
  unfold Link.TakesData
  cases link.pc <;> infer_instance

namespace World

/-- Nobody takes the bit of the log away from an exposed thread that has something to read. -/
def NoTheft (w : World) : Action → Prop
  | .console (.uart (.rxRdy len) _) =>
    0 < len → (∃ t, EventBit.consoleLogData ∈ (w.events.waiting t).getD ∅) → ∀ t, ¬ w.Exposed t
  | .telnetSender _ => w.telnet.link.TakesData w.events → w.Exposed .websocket →
    ¬ w.ws.link.pos < w.console.log.received
  | .wsSender _ => w.ws.link.TakesData w.events → w.Exposed .telnet →
    ¬ w.telnet.link.pos < w.console.log.received
  | _ => True

instance (w : World) : (a : Action) → Decidable (w.NoTheft a)
  | .console (.uart (.rxRdy _) _) => inferInstanceAs (Decidable (_ → _))
  | .telnetSender _ | .wsSender _ => inferInstanceAs (Decidable (_ → _))
  | .console (.uart .rxBufRequest _) | .console (.uart .rxBufReleased _) | .console (.uart .rxDisabled _)
  | .console (.uart .rxStopped _) | .console (.uart .txDone _) | .console (.uart .txAborted _)
  | .console (.store _) | .console (.openAtStart _) | .console (.openAtEnd _) | .console (.read _ _)
  | .telnetAccept | .telnetDaemon _ | .wsPoll _ _ | .wsService _ | .wsAccept _ | .wsHttp _ => isTrue trivial

/-- The client of the thread is there, and the thread has been told. -/
def Connected (w : World) : Sender → Prop
  | .telnet => w.telnet.link.fd ≠ none ∧ w.telnet.connecting = false
  | .websocket => w.ws.link.fd ≠ none ∧ w.ws.connecting = false

def cursor (w : World) : Sender → UInt64
  | .telnet => w.telnet.link.pos
  | .websocket => w.ws.link.pos

/-- The thread is blocked, with an unread byte and none of the bits it waits for pending. -/
def Sleeps (w : World) (b : Sender) : Prop :=
  ∃ mask, w.events.waiting b = some mask ∧ Disjoint w.events.pending mask ∧
    w.cursor b < w.console.log.received

structure Awake (w : World) : Prop where
  quiet : w.events.Quiet
  telnet : w.telnet.link.Guarded .telnet w.telnet.connecting w.console.log.received w.events
  websocket : w.ws.link.Guarded .websocket w.ws.connecting w.console.log.received w.events

end World

lemma client_notMem {b c : Sender} (h : c ≠ b) {mask : Finset EventBit}
    (hmask : mask = c.clientMask ∨ mask = c.dataMask) : b.clientEvent ∉ mask := by
  rcases hmask with rfl | rfl <;> cases b <;> cases c <;> first | exact absurd rfl h | decide

namespace Link

variable {σ τ : Type*} {b c : Sender} {connecting connecting' : Bool} {received : UInt64} {log : ConsoleLog}
  {events : Events} {link : Link σ} {other : Link τ} {task : σ} {mask : Finset EventBit}

lemma loopStep_events (h : ∀ mask, link.pc ≠ .enterWait mask) :
    (link.loopStep b task log events).2 = events := by
  rw [loopStep]
  split <;> first | rfl | exact absurd ‹_› (h _)

lemma loopStep_wait (h : link.pc = .enterWait mask) :
    (link.loopStep b task log events).2 = (events.wait b mask).2 := by
  rw [loopStep]
  rw [h]

lemma quiet_loopStep (hquiet : events.Quiet) : (link.loopStep b task log events).2.Quiet := by
  by_cases h : ∃ mask, link.pc = .enterWait mask
  · obtain ⟨mask, hpc⟩ := h
    rw [loopStep_wait hpc]
    exact Flags.quiet_wait hquiet b mask
  · rw [loopStep_events (fun mask hpc => h ⟨mask, hpc⟩)]
    exact hquiet

lemma Guarded.loopStep_other (hquiet : events.Quiet) (h : other.Guarded b connecting received events)
    (hself : link.Guarded c connecting' received events) (hne : b ≠ c)
    (hdata : link.TakesData events → other.pc = .enterWait b.dataMask → other.pos < received →
      b.clientEvent ∈ events.pending) :
    other.Guarded b connecting received (link.loopStep c task log events).2 := by
  by_cases hwait : ∃ mask, link.pc = .enterWait mask
  · obtain ⟨mask, hpc⟩ := hwait
    rw [loopStep_wait hpc]
    have hmask := hself.masks mask (.inl hpc)
    apply h.wait_other hquiet hne (client_notMem hne.symm hmask)
    intro hlog hpending
    apply hdata
    rw [TakesData, hpc]
    exact ⟨hlog, hpending⟩
  · rwa [loopStep_events (fun mask hpc => hwait ⟨mask, hpc⟩)]

end Link

lemma Telnet.sendStep_pc (ret : ℤ) (t : Telnet) (task : TelnetTask) (mask : Finset EventBit) :
    (t.sendStep ret task).1.link.pc ≠ .enterWait mask := by
  cases task with
  | testFd | sending =>
    simp only [sendStep, goto]
    split_ifs <;> nofun
  | sendFd | shut | clear => nofun

lemma Websocket.afterInside_pc (ws : Websocket) (copied inner : ℕ) (d : Option Conn) (mask : Finset EventBit) :
    ws.afterInside copied inner d ≠ .enterWait mask := by
  rw [afterInside]
  split_ifs <;> nofun

lemma Websocket.sendStep_pc (ret : ℤ) (ws : Websocket) (task : WsTask) (mask : Finset EventBit) :
    (ws.sendStep ret task).1.link.pc ≠ .enterWait mask := by
  cases task with
  | again | wsSend =>
    simp only [sendStep, goto]
    split_ifs <;> nofun
  | sendFd | sleep => nofun
  | sending copied inner d =>
    cases d with
    | none => nofun
    | some conn =>
      simp only [sendStep]
      by_cases hret : ret < 0
      · rw [if_pos hret]
        nofun
      · simp only [if_neg hret, goto]
        split_ifs <;> nofun
  | endInside stage copied inner d =>
    cases stage with
    | clearFd => exact afterInside_pc _ copied inner d mask
    | _ => nofun
  | endAfter stage d => cases stage <;> nofun

namespace World

variable {config : LogSize} {w : World} {a : Action}

lemma awake_init (logBuffer : ℕ → UInt8) (ret : ℤ) : (init config logBuffer ret).Awake where
  quiet := Flags.quiet_idle
  telnet := Link.guarded_running (fun _ => nofun) rfl
  websocket := Link.guarded_running (fun _ => nofun) rfl

lemma awake_console (h : w.Awake) (e : Console.Event Empty) (hno : w.NoTheft (.console e)) :
    (w.consoleStep config e).Awake := by
  by_cases hready : ∃ len ret, e = .uart (.rxRdy len) ret
  · obtain ⟨len, ret, rfl⟩ := hready
    have htaken : (∃ t mask, w.events.waiting t = some mask ∧ EventBit.consoleLogData ∈ mask) →
        ∃ t, EventBit.consoleLogData ∈ (w.events.waiting t).getD ∅ := by
      rintro ⟨t, mask, hmask, hlog⟩
      exact ⟨t, by rw [hmask]; exact hlog⟩
    refine ⟨Flags.quiet_post h.quiet _, h.telnet.rxReady h.quiet ?_, h.websocket.rxReady h.quiet ?_⟩
    · intro hlen htake hpc
      by_contra hclient
      exact hno hlen (htaken htake) .telnet ⟨hpc, hclient⟩
    · intro hlen htake hpc
      by_contra hclient
      exact hno hlen (htaken htake) .websocket ⟨hpc, hclient⟩
  · have hother : ∀ len ret, e ≠ .uart (.rxRdy len) ret := fun len ret he => hready ⟨len, ret, he⟩
    constructor
    · rw [console_events_other hother]
      exact h.quiet
    · rw [console_events_other hother, console_received_other hother]
      exact h.telnet
    · rw [console_events_other hother, console_received_other hother]
      exact h.websocket

lemma awake_telnetSender (h : w.Awake) (ret : ℤ) (hno : w.NoTheft (.telnetSender ret)) :
    (w.step config (.telnetSender ret)).1.Awake := by
  by_cases hsend : ∃ task, w.telnet.link.pc = .send task
  · obtain ⟨task, hpc⟩ := hsend
    have hwaiting := h.telnet.running (by rw [hpc]; nofun)
    simp only [step, Telnet.socketSendThread_send hpc]
    exact ⟨h.quiet, Link.guarded_running (Telnet.sendStep_pc ret w.telnet task) hwaiting, h.websocket⟩
  · have hloop : ∀ task, w.telnet.link.pc ≠ .send task := fun task hpc => hsend ⟨task, hpc⟩
    simp only [step, Telnet.socketSendThread_loop hloop]
    refine ⟨Link.quiet_loopStep h.quiet, h.telnet.loopStep hloop,
      h.websocket.loopStep_other h.quiet h.telnet (by decide) ?_⟩
    intro htakes hexposed hunread
    by_contra hclient
    exact hno htakes ⟨hexposed, hclient⟩ hunread

lemma awake_wsSender (h : w.Awake) (ret : ℤ) (hno : w.NoTheft (.wsSender ret)) :
    (w.step config (.wsSender ret)).1.Awake := by
  by_cases hsend : ∃ task, w.ws.link.pc = .send task
  · obtain ⟨task, hpc⟩ := hsend
    have hwaiting := h.websocket.running (by rw [hpc]; nofun)
    constructor
    · rw [wsSender_events, Websocket.socketSendThread_send hpc]
      exact h.quiet
    · rw [wsSender_events, wsSender_telnet, wsSender_console, Websocket.socketSendThread_send hpc]
      exact h.telnet
    · rw [wsSender_events, wsSender_ws, wsSender_console, Websocket.socketSendThread_send hpc]
      exact Link.guarded_running (Websocket.sendStep_pc ret w.ws task) hwaiting
  · have hloop : ∀ task, w.ws.link.pc ≠ .send task := fun task hpc => hsend ⟨task, hpc⟩
    constructor
    · rw [wsSender_events, Websocket.socketSendThread_loop hloop]
      exact Link.quiet_loopStep h.quiet
    · rw [wsSender_events, wsSender_telnet, wsSender_console, Websocket.socketSendThread_loop hloop]
      apply h.telnet.loopStep_other h.quiet h.websocket (by decide)
      intro htakes hexposed hunread
      by_contra hclient
      exact hno htakes ⟨hexposed, hclient⟩ hunread
    · rw [wsSender_events, wsSender_ws, wsSender_console, Websocket.socketSendThread_loop hloop]
      exact h.websocket.loopStep hloop

lemma awake_telnetDaemon (h : w.Awake) (ret : ℤ) : (w.step config (.telnetDaemon ret)).1.Awake := by
  simp only [step, Telnet.handleClient]
  cases hpc : w.telnet.daemon with
  | accept => exact h
  | setFd k | setNew k => exact ⟨h.quiet, h.telnet.relink rfl rfl (.inr (.inl rfl)), h.websocket⟩
  | post k =>
    refine ⟨Flags.quiet_post h.quiet _, h.telnet.post_client h.quiet ?_, h.websocket.post h.quiet _⟩
    intro t mask ht hmask
    cases t with
    | telnet => exact absurd rfl ht
    | websocket => exact client_notMem ht (h.websocket.masks mask (.inr hmask))
  | testFd k | recvFd k | receiving k d | shut k d | close k =>
    have hconnecting : w.telnet.connecting = false := by rw [Telnet.connecting, hpc]
    have hguard := h.telnet
    rw [hconnecting] at hguard
    exact ⟨h.quiet, hguard.relink rfl rfl (.inr (.inr ⟨id, fun hfalse => by cases hfalse⟩)), h.websocket⟩
  | clear k d => exact ⟨h.quiet, h.telnet.relink rfl rfl (.inl rfl), h.websocket⟩

lemma awake_wsService (h : w.Awake) (res : RecvResult) : (w.step config (.wsService res)).1.Awake := by
  simp only [step, Websocket.wsServerCb]
  cases hpc : w.ws.service with
  | idle => exact h
  | testError e | testIn e | recvFd | receiving d =>
    exact ⟨h.quiet, h.telnet, h.websocket.relink rfl rfl (.inr (.inr ⟨id, id⟩))⟩
  | ending stage d =>
    cases stage with
    | clearFd => exact ⟨h.quiet, h.telnet, h.websocket.relink rfl rfl (.inl rfl)⟩
    | _ => exact ⟨h.quiet, h.telnet, h.websocket.relink rfl rfl (.inr (.inr ⟨id, id⟩))⟩

lemma awake_wsHttp (h : w.Awake) (ret : ℤ) : (w.step config (.wsHttp ret)).1.Awake := by
  have hother : ∀ t mask, t ≠ .websocket → w.events.waiting t = some mask → EventBit.websocketClient ∉ mask := by
    intro t mask ht hmask
    cases t with
    | telnet => exact client_notMem (b := .websocket) ht (h.telnet.masks mask (.inr hmask))
    | websocket => exact absurd rfl ht
  simp only [step, Websocket.consoleWsHttpCb]
  cases hpc : w.ws.http with
  | idle => exact h
  | testOld k =>
    have hconnecting : w.ws.connecting = false := by rw [Websocket.connecting, hpc]
    have hguard := h.websocket
    rw [hconnecting] at hguard
    exact ⟨h.quiet, h.telnet, hguard.relink rfl rfl (.inr (.inr ⟨id, fun hfalse => by cases hfalse⟩))⟩
  | ending stage k =>
    have hconnecting : w.ws.connecting = false := by rw [Websocket.connecting, hpc]
    have hguard := h.websocket
    rw [hconnecting] at hguard
    cases stage with
    | clearFd => exact ⟨h.quiet, h.telnet, hguard.relink rfl rfl (.inl rfl)⟩
    | _ => exact ⟨h.quiet, h.telnet, hguard.relink rfl rfl (.inr (.inr ⟨id, fun hfalse => by cases hfalse⟩))⟩
  | setFd k | setNew k => exact ⟨h.quiet, h.telnet, h.websocket.relink rfl rfl (.inr (.inl rfl))⟩
  | register k =>
    by_cases hret : ret < 0
    · simp only [if_pos hret]
      exact ⟨h.quiet, h.telnet, h.websocket.relink rfl rfl (.inr (.inl rfl))⟩
    · simp only [if_neg hret]
      exact ⟨h.quiet, h.telnet, h.websocket.relink rfl rfl (.inr (.inl rfl))⟩
  | post k => exact ⟨Flags.quiet_post h.quiet _, h.telnet.post h.quiet _, h.websocket.post_client h.quiet hother⟩
  | errorTest k =>
    by_cases hfd : w.ws.link.fd = none
    · exact ⟨h.quiet, h.telnet, h.websocket.relink rfl rfl (.inl hfd)⟩
    · simp only [if_neg hfd]
      exact ⟨h.quiet, h.telnet, h.websocket.relink rfl rfl (.inr (.inl rfl))⟩
  | errorClose k => exact ⟨h.quiet, h.telnet, h.websocket.relink rfl rfl (.inr (.inl rfl))⟩
  | errorClear k => exact ⟨h.quiet, h.telnet, h.websocket.relink rfl rfl (.inl rfl)⟩

lemma awake_telnetAccept (h : w.Awake) : (w.step config .telnetAccept).1.Awake := by
  simp only [step, Telnet.acceptClient]
  split
  · refine ⟨h.quiet, h.telnet.relink rfl rfl (.inr (.inr ⟨id, fun hconnecting => ?_⟩)), h.websocket⟩
    rw [Telnet.connecting, ‹w.telnet.daemon = .accept›] at hconnecting
    cases hconnecting
  · exact h

lemma awake_wsAccept (h : w.Awake) (number : ℕ) : (w.step config (.wsAccept number)).1.Awake := by
  simp only [step, Websocket.acceptClient]
  split
  · have hconnecting : w.ws.connecting = false := by rw [Websocket.connecting, ‹w.ws.http = .idle›]
    have hguard := h.websocket
    rw [hconnecting] at hguard
    exact ⟨h.quiet, h.telnet,
      hguard.relink rfl rfl (.inr (.inr ⟨Websocket.reused_eq_none, fun hfalse => by cases hfalse⟩))⟩
  · exact h

lemma awake_wsPoll (h : w.Awake) (e : Conn) (error : Bool) : (w.step config (.wsPoll e error)).1.Awake := by
  simp only [step, Websocket.pollEvent]
  split
  · exact ⟨h.quiet, h.telnet, h.websocket.relink rfl rfl (.inr (.inr ⟨id, id⟩))⟩
  · exact h

theorem awake_step (h : w.Awake) (hno : w.NoTheft a) : (w.step config a).1.Awake := by
  cases a with
  | console e => exact awake_console h e hno
  | telnetSender ret => exact awake_telnetSender h ret hno
  | telnetAccept => exact awake_telnetAccept h
  | telnetDaemon ret => exact awake_telnetDaemon h ret
  | wsSender ret => exact awake_wsSender h ret hno
  | wsPoll e error => exact awake_wsPoll h e error
  | wsService res => exact awake_wsService h res
  | wsAccept number => exact awake_wsAccept h number
  | wsHttp ret => exact awake_wsHttp h ret

/-- No send thread whose client is connected sleeps through console output, as long as the bit of the log is not
taken away from a thread that is about to wait. -/
theorem no_lost_wakeup (config : LogSize) (logBuffer : ℕ → UInt8) (ret : ℤ) (actions : List Action)
    (h : Along (step config) NoTheft (init config logBuffer ret) actions) (b : Sender)
    (hconnected : (exec (step config) (init config logBuffer ret) actions).Connected b) :
    ¬ (exec (step config) (init config logBuffer ret) actions).Sleeps b := by
  have hawake : (exec (step config) (init config logBuffer ret) actions).Awake :=
    exec_invariant (fun _ _ hw hno => awake_step hw hno) (awake_init logBuffer ret) h
  rintro ⟨mask, hmask, hdisjoint, hunread⟩
  cases b with
  | telnet => exact hawake.telnet.not_sleeping hconnected.1 hconnected.2 hmask hdisjoint hunread
  | websocket => exact hawake.websocket.not_sleeping hconnected.1 hconnected.2 hmask hdisjoint hunread

/-- Both threads wait for a client, both clients connect, and both threads find the log empty. -/
def bothIdle : List Action :=
  List.replicate 2 (.telnetSender 0) ++ List.replicate 2 (.wsSender 0) ++
    .telnetAccept :: List.replicate 3 (.telnetDaemon 1) ++ .wsAccept 1 :: List.replicate 5 (.wsHttp 0) ++
    List.replicate 6 (.telnetSender 0) ++ List.replicate 6 (.wsSender 0)

def oneByte : List Action := [.console (.store 65), .console (.uart (.rxRdy 1) 0)]

instance (w : World) : (b : Sender) → Decidable (w.Connected b)
  | .telnet | .websocket => inferInstanceAs (Decidable (_ ∧ _))

def bothWoken : List Action := bothIdle ++ [.telnetSender 0, .wsSender 0] ++ oneByte

theorem no_lost_wakeup_bothWoken :
    ((afterRun bothWoken).Connected .telnet ∧ (afterRun bothWoken).Connected .websocket) ∧
      ¬ (afterRun bothWoken).Sleeps .telnet ∧ ¬ (afterRun bothWoken).Sleeps .websocket := by
  have hrun : Along (step kconfigMinLog) NoTheft (init kconfigMinLog (fun _ => 0) 0) bothWoken := by
    decide +kernel
  have htelnet : (afterRun bothWoken).Connected .telnet := by decide +kernel
  have hws : (afterRun bothWoken).Connected .websocket := by decide +kernel
  exact ⟨⟨htelnet, hws⟩, no_lost_wakeup kconfigMinLog (fun _ => 0) 0 bothWoken hrun .telnet htelnet,
    no_lost_wakeup kconfigMinLog (fun _ => 0) 0 bothWoken hrun .websocket hws⟩

/-- The byte comes when both threads are about to wait, and the telnet thread takes the bit. -/
def bitTaken : List Action := bothIdle ++ oneByte ++ [.telnetSender 0, .wsSender 0]

theorem wakeup_lost :
    ¬ ∀ actions b, (afterRun actions).Connected .telnet → (afterRun actions).Connected .websocket →
      ¬ (afterRun actions).Sleeps b := by
  intro h
  apply h bitTaken .websocket (by decide +kernel) (by decide +kernel)
  exact ⟨Sender.websocket.dataMask, by decide +kernel, by decide +kernel, by decide +kernel⟩

end World

end WallaBMC.Bridge
