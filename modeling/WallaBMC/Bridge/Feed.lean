import WallaBMC.Bridge.History

/-! What the send thread of either bridge feeds to one client, from the moment the thread takes it up. As long as
the log is sound, the client is served without gaps up to the cursor, apart from what the log has lost. -/

namespace WallaBMC.Bridge

open Console Library.Runs Library.LossyLog

/-- Where the thread has put the cursor for the client, the window starts that its reads found, the bytes taken, and
the positions read for the client and not offered again. -/
structure Feed where
  seek : Option ℕ
  windows : List ℕ
  out : List UInt8
  dropped : List ℕ

namespace Feed

def idle : Feed := ⟨none, [], [], []⟩

def take (feed : Feed) (bytes : List UInt8) : Feed := { feed with out := feed.out ++ bytes }

def drop (feed : Feed) (pos n : ℕ) : Feed := { feed with dropped := feed.dropped ++ List.range' pos n }

def loop {σ : Type*} (b : Sender) (log : ConsoleLog) (link : Link σ) (feed : Feed) : Feed :=
  match link.pc with
  | .reset => { feed with seek := some (b.firstPos log).toNat }
  | .read => { feed with windows := feed.windows ++ [(windowStart log).toNat] }
  | _ => feed

@[simp] lemma dropped_loop {σ : Type*} (b : Sender) (log : ConsoleLog) (link : Link σ) (feed : Feed) :
    (feed.loop b log link).dropped = feed.dropped := by
  rw [loop]
  split <;> rfl

/-- Telnet clients begin at the end of the log, websocket clients at the window start of the first read. -/
def first (feed : Feed) : Sender → Option ℕ
  | .telnet => feed.seek
  | .websocket => feed.windows.head?

def Below (feed : Feed) (p : ℕ) : Prop := ∃ w ∈ feed.windows, p < w

def Lost (feed : Feed) (p : ℕ) : Prop := feed.Below p ∨ p ∈ feed.dropped

/-- The client has been served up to `hi`. -/
def Served (reported : List UInt8) (b : Sender) (feed : Feed) (hi : ℕ) : Prop :=
  match feed.first b with
  | some lo => lo ≤ hi ∧ Delivers reported lo hi feed.Lost feed.out
  | none => b = .websocket ∧ hi = 0 ∧ feed.out = []

/-- The bytes taken are log bytes at increasing positions from the first one on, and what is left out is `lost`. -/
def Delivered (reported : List UInt8) (b : Sender) (lost : ℕ → Prop) (feed : Feed) : Prop :=
  match feed.first b with
  | some lo => ∃ hi, Delivers reported lo hi lost feed.out
  | none => feed.out = []

variable {reported : List UInt8} {b : Sender} {feed : Feed} {hi : ℕ}

lemma Served.extend (h : feed.Served reported b hi) (more : List UInt8) : feed.Served (reported ++ more) b hi := by
  rw [Served] at h ⊢
  cases hfirst : feed.first b with
  | none =>
    rw [hfirst] at h
    exact h
  | some lo =>
    rw [hfirst] at h
    exact ⟨h.1, h.2.extend more⟩

lemma Served.delivered (h : feed.Served reported b hi) : feed.Delivered reported b feed.Lost := by
  rw [Served] at h
  rw [Delivered]
  cases hfirst : feed.first b with
  | none =>
    rw [hfirst] at h
    exact h.2.2
  | some lo =>
    rw [hfirst] at h
    exact ⟨hi, h.2⟩

lemma delivered_idle (reported : List UInt8) (b : Sender) : idle.Delivered reported b idle.Lost := by
  cases b <;> rfl

lemma Delivered.mono {lost lost' : ℕ → Prop} (h : feed.Delivered reported b lost) (hl : ∀ p, lost p → lost' p) :
    feed.Delivered reported b lost' := by
  rw [Delivered] at h ⊢
  cases hfirst : feed.first b with
  | none =>
    rw [hfirst] at h
    exact h
  | some lo =>
    rw [hfirst] at h
    obtain ⟨hi, hdelivers⟩ := h
    exact ⟨hi, hdelivers.mono hl⟩

lemma Delivered.extend {lost : ℕ → Prop} (h : feed.Delivered reported b lost) (more : List UInt8) :
    feed.Delivered (reported ++ more) b lost := by
  rw [Delivered] at h ⊢
  cases hfirst : feed.first b with
  | none =>
    rw [hfirst] at h
    exact h
  | some lo =>
    rw [hfirst] at h
    obtain ⟨hi, hdelivers⟩ := h
    exact ⟨hi, hdelivers.extend more⟩

lemma Delivered.subset {lost : ℕ → Prop} (h : feed.Delivered reported b lost) : feed.out ⊆ reported := by
  intro byte hbyte
  rw [Delivered] at h
  cases hfirst : feed.first b with
  | none =>
    rw [hfirst] at h
    rw [show feed.out = [] from h] at hbyte
    cases hbyte
  | some lo =>
    rw [hfirst] at h
    obtain ⟨hi, ps, -, -, hentries, -⟩ := h
    have hmem : some byte ∈ ps.map (fun p => reported[p]?) := by
      rw [← hentries]
      exact List.mem_map_of_mem hbyte
    obtain ⟨p, -, hp⟩ := List.mem_map.mp hmem
    exact List.mem_of_getElem? hp

lemma Delivered.below (h : feed.Delivered reported b feed.Lost) (hdropped : feed.dropped = []) :
    feed.Delivered reported b feed.Below := by
  apply h.mono
  intro p hp
  refine hp.resolve_right fun hd => ?_
  rw [hdropped] at hd
  cases hd

lemma lost_read {p w : ℕ} (h : feed.Lost p) : { feed with windows := feed.windows ++ [w] }.Lost p := by
  rcases h with ⟨w', hw', hp⟩ | hp
  · exact .inl ⟨w', List.mem_append_left _ hw', hp⟩
  · exact .inr hp

lemma Served.read (h : feed.Served reported b hi) (w : ℕ) :
    { feed with windows := feed.windows ++ [w] }.Served reported b (max hi w) := by
  have hnow : ∀ p, p < w → { feed with windows := feed.windows ++ [w] }.Lost p :=
    fun p hp => .inl ⟨w, List.mem_append_right _ List.mem_cons_self, hp⟩
  rw [Served] at h ⊢
  cases hfirst : feed.first b with
  | none =>
    rw [hfirst] at h
    obtain ⟨rfl, rfl, hout⟩ := h
    have hempty : feed.windows = [] := List.head?_eq_none_iff.mp hfirst
    have hnew : ({ feed with windows := feed.windows ++ [w] } : Feed).first .websocket = some w := by
      rw [first, hempty]
      rfl
    rw [hnew]
    dsimp only
    rw [hout, Nat.zero_max]
    exact ⟨le_rfl, Delivers.nil⟩
  | some lo =>
    rw [hfirst] at h
    have hnew : ({ feed with windows := feed.windows ++ [w] } : Feed).first b = some lo := by
      cases b with
      | telnet => exact hfirst
      | websocket =>
        have hhead : feed.windows.head? = some lo := hfirst
        rw [first, List.head?_append, hhead]
        rfl
    rw [hnew]
    obtain ⟨hle, hdelivers⟩ := h
    refine ⟨hle.trans (le_max_left _ _), ?_⟩
    have hskip : Delivers reported hi (max hi w) (· < w) [] := by
      have hread : Delivers reported hi _ (· < w) ((reported.drop (max hi w)).take 0) := Delivers.read hi w 0
      rwa [List.take_zero, List.length_nil, Nat.add_zero] at hread
    have hjoin := (hdelivers.mono fun _ hp => lost_read hp).append (hskip.mono hnow) hle (le_max_left _ _)
    rwa [List.append_nil] at hjoin

lemma Served.begun (h : feed.Served reported b hi) (w : ℕ) :
    (({ feed with windows := feed.windows ++ [w] } : Feed).first b).isSome := by
  cases b with
  | websocket => simp [first]
  | telnet =>
    cases hseek : feed.seek with
    | some lo => rfl
    | none =>
      have hnone : feed.first .telnet = none := hseek
      rw [Served, hnone] at h
      cases h.1

lemma served_seek {pos : UInt64} {log : ConsoleLog} (hpos : pos = b.firstPos log) :
    ({ idle with seek := some (b.firstPos log).toNat } : Feed).Served reported b pos.toNat := by
  cases b with
  | telnet => exact ⟨(congrArg UInt64.toNat hpos).ge, hpos ▸ Delivers.nil⟩
  | websocket => exact ⟨rfl, congrArg UInt64.toNat hpos, rfl⟩

/-- A client that has been served nothing yet may begin anywhere. -/
lemma Delivered.loop {σ : Type*} (h : feed.Delivered reported .websocket feed.Lost) (log : ConsoleLog) (link : Link σ) :
    (feed.loop .websocket log link).Delivered reported .websocket (feed.loop .websocket log link).Lost := by
  rw [Feed.loop]
  split
  · exact h
  · rw [Delivered] at h ⊢
    cases hwindows : feed.windows with
    | nil =>
      have hnone : feed.first .websocket = none := by
        rw [first, hwindows]
        rfl
      rw [hnone] at h
      have hout : feed.out = [] := h
      refine ⟨(windowStart log).toNat, ?_⟩
      rw [hout]
      exact Delivers.nil
    | cons w ws =>
      have hsome : feed.first .websocket = some w := by
        rw [first, hwindows]
        rfl
      rw [hsome] at h
      obtain ⟨hi, hdelivers⟩ := h
      rw [← hwindows]
      have hfirst : ({ feed with windows := feed.windows ++ [(windowStart log).toNat] } : Feed).first .websocket = some w := by
        rw [first, hwindows]
        rfl
      rw [hfirst]
      exact ⟨hi, hdelivers.mono fun _ hp => lost_read hp⟩
  · exact h

lemma Served.take (h : feed.Served reported b hi) (hbegun : (feed.first b).isSome) {bytes : List UInt8}
    (hbytes : bytes <+: reported.drop hi) : (feed.take bytes).Served reported b (hi + bytes.length) := by
  obtain ⟨lo, hlo⟩ := Option.isSome_iff_exists.mp hbegun
  rw [Served, hlo] at h
  have hnew : (feed.take bytes).first b = some lo := by
    cases b <;> exact hlo
  rw [Served, hnew]
  refine ⟨h.1.trans (Nat.le_add_right _ _), ?_⟩
  have hslice : Delivers reported hi (hi + bytes.length) feed.Lost bytes := by
    have hexcerpt := Excerpt.slice hbytes
    refine ⟨List.range' hi bytes.length, hexcerpt.increasing, ?_, hexcerpt.entries, ?_⟩
    · intro p hp
      exact List.mem_range'_1.mp hp
    · intro p hge hlt hn
      exact absurd (List.mem_range'_1.mpr ⟨hge, hlt⟩) hn
  exact h.2.append hslice h.1 (Nat.le_add_right _ _)

lemma Served.drop (h : feed.Served reported b hi) (hbegun : (feed.first b).isSome) (n : ℕ) :
    (feed.drop hi n).Served reported b (hi + n) := by
  obtain ⟨lo, hlo⟩ := Option.isSome_iff_exists.mp hbegun
  rw [Served, hlo] at h
  have hnew : (feed.drop hi n).first b = some lo := by
    cases b <;> exact hlo
  have hmono : ∀ p, feed.Lost p → (feed.drop hi n).Lost p :=
    fun p hp => hp.imp_right fun hd => List.mem_append_left _ hd
  rw [Served, hnew]
  refine ⟨h.1.trans (Nat.le_add_right _ _), ?_⟩
  have hgap : Delivers reported hi (hi + n) (feed.drop hi n).Lost [] := by
    refine ⟨[], List.Pairwise.nil, ?_, rfl, ?_⟩
    · intro p hp
      cases hp
    · intro p hge hlt _
      exact .inr (List.mem_append_right _ (List.mem_range'_1.mpr ⟨hge, hlt⟩))
  have hjoin := (h.2.mono hmono).append hgap h.1 (Nat.le_add_right _ _)
  rwa [List.append_nil] at hjoin

end Feed

namespace Link

variable {σ : Type*}

structure ReadsOut (reported : List UInt8) (b : Sender) (task : σ) (log : ConsoleLog) (link link' : Link σ) : Prop where
  pc : link'.pc = if link'.buf = [] then .enterWait {b.clientEvent, .consoleLogData} else .send task
  bytes : link'.buf <+: reported.drop link'.bufPos
  ends : link'.bufPos + link'.buf.length = link'.pos.toNat
  inside : link'.pos.toNat ≤ log.received.toNat

lemma readLog_readsOut {config : LogSize} (h16 : 16 ∣ config.bytes) {s : System Empty} (hsound : System.Sound config s)
    (b : Sender) (task : σ) {link : Link σ} (hcursor : link.pos.toNat ≤ s.log.received.toNat) :
    ReadsOut s.reported b task s.log link (link.readLog b task s.log) := by
  have hwindow := hsound.toAligned.windowStart_le h16
  have hspec : ReadSpec s.log (fun _ => 0) bufSize link.pos (hostConsoleRead s.log (fun _ => 0) bufSize link.pos) :=
    consoleLogRead_spec _ _ hcursor hwindow
  have hbytes := hsound.toAligned.read_bytes h16 hsound.unlapped hcursor (fun _ => 0) bufSize
  have hfrom : readFrom s.log link.pos ≤ s.log.received.toNat := max_le hcursor hwindow
  have hlength : (link.readLog b task s.log).buf.length = readCount s.log bufSize link.pos := hspec.bytes_length
  constructor
  · rw [readLog_pc b task hspec]
    by_cases hempty : (link.readLog b task s.log).buf = []
    · rw [if_pos hempty, if_pos (by rw [← hlength, hempty]; rfl)]
    · rw [if_neg hempty, if_neg (by rwa [← hlength, List.length_eq_zero_iff])]
  · have htaken := List.take_prefix (readCount s.log bufSize link.pos) (s.reported.drop (readFrom s.log link.pos))
    rwa [← hbytes] at htaken
  · rw [hlength]
    exact hspec.ppos_eq.symm
  · rw [readLog, hspec.ppos_eq, readCount]
    omega

/-- The client waits to be taken up. -/
def Fresh (link : Link σ) (feed : Feed) : Prop := link.newClient = true ∧ feed = .idle

/-- `n` bytes of the chunk in `buf` have been taken, and all that was to be taken before it. -/
structure Amid (reported : List UInt8) (b : Sender) (feed : Feed) (link : Link σ) (n : ℕ) : Prop where
  old : link.newClient = false
  served : feed.Served reported b (link.bufPos + n)
  begun : (feed.first b).isSome
  bytes : link.buf <+: reported.drop link.bufPos
  ends : link.bufPos + link.buf.length = link.pos.toNat
  left : n < link.buf.length

/-- Outside of sending, the client has been served up to the cursor. -/
def Feeds (reported : List UInt8) (b : Sender) (feed : Feed) (link : Link σ) : Prop :=
  match link.pc with
  | .top | .enterWait _ | .blocked | .testNew =>
    link.Fresh feed ∨ link.newClient = false ∧ feed.Served reported b link.pos.toNat
  | .reset => link.Fresh feed
  | .clearNew => feed.Served reported b link.pos.toNat
  | .read => link.newClient = false ∧ feed.Served reported b link.pos.toNat
  | .send _ => True

variable {reported : List UInt8} {b : Sender} {feed : Feed} {link : Link σ} {task : σ}

lemma feeds_fresh (hwaits : link.pc.waits = true) (hnew : link.newClient = true) : link.Feeds reported b .idle := by
  rcases link with ⟨fd, newClient, pc, pos, buf, owner, bufPos⟩
  cases pc with
  | top | enterWait | blocked | testNew => exact .inl ⟨hnew, rfl⟩
  | reset | clearNew | read | send => cases hwaits

lemma Feeds.delivered (h : link.Feeds reported b feed) (hloop : ∀ task, link.pc ≠ .send task) :
    feed.Delivered reported b feed.Lost := by
  have hfresh (hf : link.Fresh feed) : feed.Delivered reported b feed.Lost := by
    rw [hf.2]
    exact Feed.delivered_idle reported b
  rw [Feeds] at h
  cases hpc : link.pc with
  | top | enterWait | blocked | testNew =>
    rw [hpc] at h
    exact h.elim hfresh fun hold => hold.2.delivered
  | reset =>
    rw [hpc] at h
    exact hfresh h
  | clearNew =>
    rw [hpc] at h
    exact h.delivered
  | read =>
    rw [hpc] at h
    exact h.2.delivered
  | send task => exact absurd hpc (hloop task)

lemma Feeds.extend (h : link.Feeds reported b feed) (more : List UInt8) : link.Feeds (reported ++ more) b feed := by
  rcases link with ⟨fd, newClient, pc, pos, buf, owner, bufPos⟩
  cases pc with
  | top | enterWait | blocked | testNew => exact h.imp_right (And.imp_right fun hserved => hserved.extend more)
  | reset => exact h
  | clearNew => exact h.extend more
  | read => exact h.imp_right fun hserved => hserved.extend more
  | send task => trivial

-- What is held does not depend on the descriptor or on where the thread is.
lemma Amid.elsewhere {n : ℕ} (h : link.Amid reported b feed n) (fd : Option Conn) (pc : Pc σ) :
    { link with fd := fd, pc := pc }.Amid reported b feed n :=
  ⟨h.old, h.served, h.begun, h.bytes, h.ends, h.left⟩

lemma Amid.extend {n : ℕ} (h : link.Amid reported b feed n) (more : List UInt8) :
    link.Amid (reported ++ more) b feed n where
  old := h.old
  served := h.served.extend more
  begun := h.begun
  bytes := h.bytes.trans ((List.prefix_append _ _).drop _)
  ends := h.ends
  left := h.left

lemma Feeds.readLog {config : LogSize} (h16 : 16 ∣ config.bytes) {s : System Empty} (hsound : System.Sound config s)
    (hcursor : link.pos.toNat ≤ s.log.received.toNat) (h : link.Feeds s.reported b feed) (hread : link.pc = .read)
    (task : σ) :
    (link.readLog b task s.log).Feeds s.reported b (feed.loop b s.log link) ∧
      ∀ task', (link.readLog b task s.log).pc = .send task' →
        task' = task ∧ (link.readLog b task s.log).Amid s.reported b (feed.loop b s.log link) 0 := by
  obtain ⟨hold, hserved⟩ : link.newClient = false ∧ feed.Served s.reported b link.pos.toNat := by
    rwa [Feeds, hread] at h
  have hloop : feed.loop b s.log link = { feed with windows := feed.windows ++ [(windowStart s.log).toNat] } := by
    rw [Feed.loop, hread]
  have hreads := readLog_readsOut h16 hsound b task hcursor
  have hskip : (feed.loop b s.log link).Served s.reported b (link.readLog b task s.log).bufPos := by
    rw [hloop]
    exact hserved.read (windowStart s.log).toNat
  have hpc := hreads.pc
  by_cases hempty : (link.readLog b task s.log).buf = []
  · rw [if_pos hempty] at hpc
    have hends := hreads.ends
    rw [hempty, List.length_nil, Nat.add_zero] at hends
    refine ⟨?_, fun task' hsend => by cases hpc.symm.trans hsend⟩
    rw [Feeds, hpc]
    rw [hends] at hskip
    exact .inr ⟨hold, hskip⟩
  · rw [if_neg hempty] at hpc
    refine ⟨?_, fun task' hsend => ?_⟩
    · rw [Feeds, hpc]
      trivial
    · cases hpc.symm.trans hsend
      have hbegun : ((feed.loop b s.log link).first b).isSome := by
        rw [hloop]
        exact hserved.begun (windowStart s.log).toNat
      exact ⟨rfl, hold, hskip, hbegun, hreads.bytes, hreads.ends, List.length_pos_iff.mpr hempty⟩

theorem Feeds.loopStep {config : LogSize} (h16 : 16 ∣ config.bytes) {s : System Empty} (hsound : System.Sound config s)
    (hcursor : link.pos.toNat ≤ s.log.received.toNat) (h : link.Feeds s.reported b feed)
    (hloop : ∀ task, link.pc ≠ .send task) (task : σ) (events : Events) :
    (link.loopStep b task s.log events).1.Feeds s.reported b (feed.loop b s.log link) ∧
      ∀ task', (link.loopStep b task s.log events).1.pc = .send task' →
        task' = task ∧ (link.loopStep b task s.log events).1.Amid s.reported b (feed.loop b s.log link) 0 := by
  rcases link with ⟨fd, newClient, pc, pos, buf, owner, bufPos⟩
  cases pc with
  | top | enterWait | blocked =>
    simp only [Link.loopStep, Feed.loop]
    refine ⟨?_, fun task' hpc => ?_⟩
    · rw [Feeds]
      split_ifs <;> exact h
    · split_ifs at hpc
  | testNew =>
    simp only [Link.loopStep, Feed.loop]
    refine ⟨?_, fun task' hpc => ?_⟩
    · cases newClient with
      | true => exact h.resolve_right fun hold => by cases hold.1
      | false => exact h.resolve_left fun hfresh => by cases hfresh.1
    · split_ifs at hpc
  | reset =>
    refine ⟨?_, fun task' hpc => by cases hpc⟩
    obtain ⟨-, rfl⟩ := h
    exact Feed.served_seek rfl
  | clearNew => exact ⟨⟨rfl, h⟩, fun task' hpc => by cases hpc⟩
  | read => exact h.readLog h16 hsound hcursor rfl task
  | send task => exact absurd rfl (hloop task)

theorem loopStep_inside {config : LogSize} (h16 : 16 ∣ config.bytes) {s : System Empty}
    (hsound : System.Sound config s) (hcursor : link.pos.toNat ≤ s.log.received.toNat) (b : Sender) (task : σ)
    (events : Events) : (link.loopStep b task s.log events).1.pos.toNat ≤ s.log.received.toNat := by
  rcases link with ⟨fd, newClient, pc, pos, buf, owner, bufPos⟩
  cases pc with
  | reset =>
    cases b with
    | telnet => exact le_rfl
    | websocket => exact Nat.zero_le _
  | read => exact (readLog_readsOut h16 hsound b task hcursor).inside
  | _ => exact hcursor

end Link

lemma Telnet.sendStep_pos (ret : ℤ) (t : Telnet) (task : TelnetTask) :
    (t.sendStep ret task).1.link.pos = t.link.pos := by
  cases task <;> rfl

lemma Telnet.handleClient_pos (ret : ℤ) (events : Events) (t : Telnet) :
    (t.handleClient ret events).1.link.pos = t.link.pos := by
  rcases t with ⟨link, daemon, accepted⟩
  cases daemon <;> rfl

lemma Telnet.acceptClient_link (t : Telnet) : t.acceptClient.link = t.link := by
  rcases t with ⟨link, daemon, accepted⟩
  cases daemon <;> rfl

namespace Websocket

variable (ret : ℤ) (events : Events) (ws : Websocket)

lemma endClient_pos (cause : Cause) (stage : EndStage) :
    (ws.wsEndClientConnection cause stage).1.link.pos = ws.link.pos := by
  cases stage <;> rfl

lemma sendStep_pos (task : WsTask) : (ws.sendStep ret task).1.link.pos = ws.link.pos := by
  cases task with
  | sending copied inner d =>
    cases d with
    | none => rfl
    | some conn =>
      rw [sendStep]
      split_ifs <;> rfl
  | endInside stage copied inner d | endAfter stage d => exact ws.endClient_pos _ stage
  | _ => rfl

lemma wsServerCb_pos (res : RecvResult) : (ws.wsServerCb res).1.link.pos = ws.link.pos := by
  rcases ws with ⟨link, registered, service, http, accepted, number⟩
  cases service with
  | ending stage d => exact endClient_pos _ _ stage
  | _ => rfl

lemma consoleWsHttpCb_pos : (ws.consoleWsHttpCb ret events).1.link.pos = ws.link.pos := by
  rcases ws with ⟨link, registered, service, http, accepted, number⟩
  cases http with
  | ending stage k => exact endClient_pos _ _ stage
  | register k =>
    simp only [consoleWsHttpCb]
    split_ifs <;> rfl
  | _ => rfl

lemma acceptClient_pos (number : ℕ) : (ws.acceptClient number).link.pos = ws.link.pos := by
  rcases ws with ⟨link, registered, service, http, accepted, numbers⟩
  cases http <;> rfl

lemma pollEvent_link (e : Conn) (error : Bool) : (ws.pollEvent e error).link = ws.link := by
  rcases ws with ⟨link, registered, service, http, accepted, number⟩
  cases service <;> rfl

end Websocket

namespace World

variable (config : LogSize)

/-- The receiver is not restarted, no counter wraps, and the DMA does not overtake the first lap. -/
def Logged (w : World) : Action → Prop
  | .console e =>
    System.RestartFree config w.console e ∧ System.NoWrap config w.console e ∧ System.NotLapping config w.console e
  | _ => True

instance (w : World) : (a : Action) → Decidable (w.Logged config a)
  | .console _ => inferInstanceAs (Decidable (_ ∧ _ ∧ _))
  | .telnetSender _ | .telnetAccept | .telnetDaemon _ | .wsSender _ | .wsPoll _ _ | .wsService _ | .wsAccept _
  | .wsHttp _ => isTrue trivial

structure Steady (w : World) : Prop where
  sound : System.Sound config w.console
  telnet : w.telnet.link.pos.toNat ≤ w.console.log.received.toNat
  ws : w.ws.link.pos.toNat ≤ w.console.log.received.toNat

variable {config} {w : World} {a : Action}

lemma steady_init (h16 : 16 ∣ config.bytes) (logBuffer : ℕ → UInt8) {ret : ℤ} (hret : 0 ≤ ret) :
    (init config logBuffer ret).Steady config :=
  ⟨System.sound_init h16 logBuffer hret, Nat.zero_le _, Nat.zero_le _⟩

lemma console_sound (h16 : 16 ∣ config.bytes) {s : System Empty} (hsound : System.Sound config s)
    {e : Console.Event Empty} (he : System.RestartFree config s e) (hwrap : System.NoWrap config s e)
    (hlap : System.NotLapping config s e) :
    System.Sound config (s.step config e).1 ∧ s.log.received.toNat ≤ (s.step config e).1.log.received.toNat := by
  have hsound' := System.sound_step h16 hsound he.1 (he.lossless hwrap) hlap
  obtain ⟨more, hmore⟩ := System.step_reported config s e
  refine ⟨hsound', ?_⟩
  rw [hsound.received_eq, hsound'.received_eq, hmore, List.length_append]
  exact Nat.le_add_right _ _

theorem steady_step (h16 : 16 ∣ config.bytes) (h : w.Steady config) (ha : w.Logged config a) :
    (w.step config a).1.Steady config := by
  cases a with
  | console e =>
    obtain ⟨hsound, hreceived⟩ := console_sound h16 h.sound ha.1 ha.2.1 ha.2.2
    exact ⟨hsound, h.telnet.trans hreceived, h.ws.trans hreceived⟩
  | telnetSender ret =>
    refine ⟨h.sound, ?_, h.ws⟩
    by_cases hsend : ∃ task, w.telnet.link.pc = .send task
    · obtain ⟨task, hpc⟩ := hsend
      simp only [step, Telnet.socketSendThread_send hpc, Telnet.sendStep_pos]
      exact h.telnet
    · have hloop : ∀ task, w.telnet.link.pc ≠ .send task := fun task hpc => hsend ⟨task, hpc⟩
      simp only [step, Telnet.socketSendThread_loop hloop]
      exact Link.loopStep_inside h16 h.sound h.telnet _ _ _
  | telnetAccept =>
    refine ⟨h.sound, ?_, h.ws⟩
    simp only [step, Telnet.acceptClient_link]
    exact h.telnet
  | telnetDaemon ret =>
    refine ⟨h.sound, ?_, h.ws⟩
    simp only [step, Telnet.handleClient_pos]
    exact h.telnet
  | wsSender ret =>
    refine ⟨by rw [wsSender_console]; exact h.sound, by rw [wsSender_console, wsSender_telnet]; exact h.telnet, ?_⟩
    rw [wsSender_console, wsSender_ws]
    by_cases hsend : ∃ task, w.ws.link.pc = .send task
    · obtain ⟨task, hpc⟩ := hsend
      simp only [Websocket.socketSendThread_send hpc, Websocket.sendStep_pos]
      exact h.ws
    · have hloop : ∀ task, w.ws.link.pc ≠ .send task := fun task hpc => hsend ⟨task, hpc⟩
      simp only [Websocket.socketSendThread_loop hloop]
      exact Link.loopStep_inside h16 h.sound h.ws _ _ _
  | wsPoll e error =>
    refine ⟨h.sound, h.telnet, ?_⟩
    simp only [step, Websocket.pollEvent_link]
    exact h.ws
  | wsService res =>
    refine ⟨h.sound, h.telnet, ?_⟩
    simp only [step, Websocket.wsServerCb_pos]
    exact h.ws
  | wsAccept number =>
    refine ⟨h.sound, h.telnet, ?_⟩
    simp only [step, Websocket.acceptClient_pos]
    exact h.ws
  | wsHttp ret =>
    refine ⟨h.sound, h.telnet, ?_⟩
    simp only [step, Websocket.consoleWsHttpCb_pos]
    exact h.ws

/-- A run beside which `note` keeps what one of the bridges feeds to its client. -/
def watch (config : LogSize) (note : World → Feed → Action → Feed) (x : World × Feed) (a : Action) :
    (World × Feed) × Option Ending :=
  (((x.1.step config a).1, note x.1 x.2 a), (x.1.step config a).2)

end World

end WallaBMC.Bridge
