import WallaBMC.Bridge.Ending
import WallaBMC.Bridge.History

/-! Every websocket client is sent the log once, from its start, and nothing that was read for another one, as
long as no client is installed while the send thread is committed to the one before, and none is
announced while the thread tests or clears `new_client`. -/

namespace WallaBMC.Bridge

open Console Library.Runs Library.LossyLog

namespace Websocket

/-- No client is being installed while the thread finds `new_client` false or clears it, and when a part of a
chunk is taken, no other client has become active. -/
def Undisturbed (ws : Websocket) (ret : ℤ) : Prop :=
  match ws.link.pc with
  | .testNew => ws.link.newClient = false → ws.http.installing = false
  | .clearNew => ws.http.installing = false
  | .send (.sending copied inner (some conn)) =>
    0 ≤ ret → copied + inner + ret.toNat < ws.link.buf.length → InPlace ws.link.fd (some conn)
  | _ => True

instance (ws : Websocket) (ret : ℤ) : Decidable (ws.Undisturbed ret) := by
  cases ws with
  | mk link registered service http accepted =>
    cases link with
    | mk fd newClient pc pos buf owner bufPos =>
      cases pc with
      | testNew => exact inferInstanceAs (Decidable (newClient = false → _ = false))
      | clearNew => exact inferInstanceAs (Decidable (_ = false))
      | send task =>
        cases task with
        | sending copied inner d =>
          cases d with
          | none => exact instDecidableTrue
          | some conn => exact inferInstanceAs (Decidable (0 ≤ ret → copied + inner + _ < _ → InPlace _ _))
        | _ => exact instDecidableTrue
      | _ => exact instDecidableTrue

/-- No client becomes active while the thread is committed to the one before. -/
def InstallsFree (ws : Websocket) : Prop :=
  match ws.http with
  | .setFd _ => ws.link.committed = false
  | _ => True

instance (ws : Websocket) : Decidable ws.InstallsFree := by
  cases ws with
  | mk link registered service http accepted =>
    cases http with
    | setFd conn => exact inferInstanceAs (Decidable (link.committed = false))
    | _ => exact instDecidableTrue

end Websocket

namespace Serving

variable {config : LogSize} {s : System Empty} {ws ws' : Websocket} {sent : Conn → List Piece}
  {opened : Conn → Option ℕ} {fd : Option Conn} {k : Conn} {pc : Pc WsTask}

lemma elsewhere (h : Serving config s ws sent opened) (hlink : ws'.link = { ws.link with fd := fd })
    (hfd : fd = ws.link.fd ∨ fd = none) (hinstalling : ws'.http.installing = ws.http.installing)
    (hbound : ws'.bound = ws.bound) (hpending : ∀ k, ws'.http.pending = some k → k < ws'.accepted) :
    Serving config s ws' sent opened := by
  have hactive : ∀ conn, ws'.link.fd = some conn → ws.link.fd = some conn := by
    intro conn hconn
    rw [hlink] at hconn
    rcases hfd with hsame | hnone
    · exact hsame.symm.trans hconn
    · cases hnone.symm.trans hconn
  have hfresh : ws'.fresh = ws.fresh := by rw [Websocket.fresh, Websocket.fresh, hlink, hinstalling]
  constructor
  · exact h.sound
  · rw [hlink]
    exact h.cursor
  · exact h.history
  · rw [hbound]
    exact h.blank
  · exact hpending
  · intro conn hconn
    rw [hbound]
    exact h.active conn (hactive conn hconn)
  · rw [hlink, hbound]
    exact h.owner
  · intro conn hconn hnew
    rw [hlink]
    exact h.fresh conn (hactive conn hconn) (hfresh ▸ hnew)
  · intro conn hconn hold
    rw [hlink]
    exact (h.settled conn (hactive conn hconn) (hfresh ▸ hold)).relink fd _
  · rw [hlink]
    exact h.kept.relink _ (hfd.imp_right .inl)
  · rw [hlink]
    exact h.resetting.relink fd id

lemma endClient (h : Serving config s ws sent opened) (cause : Cause) (stage : EndStage) :
    Serving config s (ws.wsEndClientConnection cause stage).1 sent opened := by
  cases stage with
  | serviceUnregister | websocketUnregister => exact h.elsewhere rfl (.inl rfl) rfl rfl h.pending
  | clearFd => exact h.elsewhere rfl (.inr rfl) rfl rfl h.pending

lemma install (h : Serving config s ws sent opened) (hhttp : ws.http = .setFd k) (hfree : ws.link.committed = false) :
    Serving config s ((ws.setFd k).httpGoto (.setNew k)) sent opened := by
  have hbound : ws.bound = k := by rw [Websocket.bound, hhttp]; rfl
  have hk : k < ws.accepted := h.pending k (by rw [hhttp]; rfl)
  constructor
  · exact h.sound
  · exact h.cursor
  · exact h.history
  · intro conn hconn
    exact h.blank conn (hbound.le.trans (hk.le.trans hconn))
  · nofun
  · intro conn hconn
    cases hconn
    exact hk
  · intro conn hconn
    exact (hbound ▸ h.owner conn hconn).trans hk
  · intro conn hconn _
    cases hconn
    refine ⟨h.blank k hbound.le, hfree, fun howner => ?_⟩
    exact (hbound ▸ h.owner k howner).ne rfl
  · intro conn _ hold
    rw [Websocket.fresh, Bool.or_eq_false_iff] at hold
    cases hold.2
  · exact h.kept.relink _ (.inr (.inr hfree))
  · exact h.resetting.relink _ id

lemma announce (h : Serving config s ws sent opened) (hhttp : ws.http = .setNew k) :
    Serving config s (ws.setNew.httpGoto (.register k)) sent opened := by
  have hbound : ws.bound = ws.accepted := by rw [Websocket.bound, hhttp]; rfl
  have hfresh : ws.fresh = true := by
    rw [Websocket.fresh, hhttp]
    exact Bool.or_true _
  constructor
  · exact h.sound
  · exact h.cursor
  · exact h.history
  · intro conn hconn
    exact h.blank conn (hbound.le.trans hconn)
  · nofun
  · intro conn hconn
    exact (h.active conn hconn).trans_eq hbound
  · intro conn hconn
    exact (h.owner conn hconn).trans_eq hbound
  · intro conn hconn _
    exact h.fresh conn hconn hfresh
  · intro conn _ hold
    cases hold
  · exact h.kept.relink _ (.inl rfl)
  · exact h.resetting.relink _ fun _ => rfl

lemma goto (h : Serving config s ws sent opened)
    (hcommitted : ws.fresh = true → ws.link.fd ≠ none → (ws.goto pc).link.committed = false)
    (hsettled : ∀ conn, ws.link.fd = some conn → ws.fresh = false → (ws.goto pc).link.Settled sent opened conn)
    (hkept : (ws.goto pc).link.Kept s.reported sent opened) (hresetting : (ws.goto pc).link.Resetting) :
    Serving config s (ws.goto pc) sent opened := by
  constructor
  · exact h.sound
  · exact h.cursor
  · exact h.history
  · exact h.blank
  · exact h.pending
  · exact h.active
  · exact h.owner
  · intro conn hconn hnew
    obtain ⟨hblank, -, howner⟩ := h.fresh conn hconn hnew
    refine ⟨hblank, hcommitted hnew fun hnone => ?_, howner⟩
    cases hnone.symm.trans hconn
  · exact hsettled
  · exact hkept
  · exact hresetting

theorem acceptClient (h : Serving config s ws sent opened) {number : ℕ} (hfree : ws.NumberFree number) :
    Serving config s (ws.acceptClient number) sent opened := by
  rw [Websocket.acceptClient]
  split
  · rw [Websocket.reused_fd hfree]
    have hidle : ws.http = .idle := ‹_›
    refine h.elsewhere rfl (.inl rfl) ?_ ?_ ?_
    · rw [hidle]
      rfl
    · rw [Websocket.bound, Websocket.bound, hidle]
      rfl
    · intro k hk
      cases hk
      exact Nat.lt_succ_self _
  · exact h

theorem pollEvent (h : Serving config s ws sent opened) (e : Conn) (error : Bool) :
    Serving config s (ws.pollEvent e error) sent opened := by
  rw [Websocket.pollEvent]
  split
  · exact h.elsewhere rfl (.inl rfl) rfl rfl h.pending
  · exact h

lemma serviceGoto (h : Serving config s ws sent opened) (pc : ServicePc) :
    Serving config s (ws.serviceGoto pc) sent opened :=
  h.elsewhere rfl (.inl rfl) rfl rfl h.pending

theorem wsServerCb (h : Serving config s ws sent opened) (res : RecvResult) :
    Serving config s (ws.wsServerCb res).1 sent opened := by
  rw [Websocket.wsServerCb]
  cases ws.service with
  | idle => exact h
  | testError | testIn | recvFd | receiving => exact h.serviceGoto _
  | ending stage d => exact (h.endClient (.reported d) stage).serviceGoto _

lemma httpGoto (h : Serving config s ws sent opened) {pc pc' : HttpPc} (hpc : ws.http = pc)
    (hinstalling : pc'.installing = pc.installing) (hpending : pc'.pending = pc.pending) :
    Serving config s (ws.httpGoto pc') sent opened := by
  subst hpc
  refine h.elsewhere rfl (.inl rfl) hinstalling ?_ ?_
  · rw [Websocket.bound, Websocket.bound, ← hpending]
    rfl
  · intro k hk
    exact h.pending k (hpending ▸ hk)

theorem consoleWsHttpCb (h : Serving config s ws sent opened)
    (hinstall : ∀ k, ws.http = .setFd k → ws.link.committed = false) (ret : ℤ) (events : Events) :
    Serving config s (ws.consoleWsHttpCb ret events).1 sent opened := by
  rw [Websocket.consoleWsHttpCb]
  cases hpc : ws.http with
  | idle => exact h
  | testOld k =>
    dsimp only
    split_ifs
    · exact h.httpGoto hpc rfl rfl
    · exact h.httpGoto hpc rfl rfl
  | ending stage k =>
    have hrest := (ws.endClient_rest (.newer k) stage).2.1
    cases stage with
    | serviceUnregister | websocketUnregister | clearFd =>
      exact (h.endClient (.newer k) _).httpGoto (hrest.trans hpc) rfl rfl
  | setFd k => exact h.install hpc (hinstall k hpc)
  | setNew k => exact h.announce hpc
  | register k =>
    dsimp only
    split_ifs
    · exact h.httpGoto hpc rfl rfl
    · have hregister : Serving config s (ws.register ws.link.fd) sent opened :=
        h.elsewhere rfl (.inl rfl) rfl rfl h.pending
      exact hregister.httpGoto hpc rfl rfl
  | post k | errorClose k => exact h.httpGoto hpc rfl rfl
  | errorTest k =>
    dsimp only
    split_ifs
    · exact h.httpGoto hpc rfl rfl
    · exact h.httpGoto hpc rfl rfl
  | errorClear k => exact (h.endClient (.newer k) .clearFd).httpGoto hpc rfl rfl

section Loop

lemma through (h : Serving config s ws sent opened) (hpc : ws.link.pc = pc)
    (hwaits : pc.waits = true ∨ pc = .read) {conn : Conn} (hconn : ws.link.fd = some conn) (hold : ws.fresh = false) :
    ws.link.Through sent opened conn := by
  have hsettled := h.settled conn hconn hold
  rw [Link.Settled, hpc] at hsettled
  rcases hwaits with hwaits | rfl
  · cases pc with
    | top | enterWait | blocked | testNew => exact hsettled
    | reset | clearNew | read | send => cases hwaits
  · exact hsettled

lemma gotoWaits (h : Serving config s ws sent opened) (hwaits : pc.waits = true)
    (hthrough : ∀ conn, ws.link.fd = some conn → ws.fresh = false → ws.link.Through sent opened conn) :
    Serving config s (ws.goto pc) sent opened := by
  cases pc with
  | top | enterWait | blocked | testNew =>
    refine h.goto (fun _ _ => rfl) (fun conn hconn hold => ?_) trivial trivial
    exact (hthrough conn hconn hold).elsewhere _ _ _
  | reset | clearNew | read | send => cases hwaits

lemma testNew (h : Serving config s ws sent opened) (hpc : ws.link.pc = .testNew)
    (hapart : ws.link.newClient = false → ws.http.installing = false) :
    Serving config s (ws.goto (if ws.link.newClient then .reset else .read)) sent opened := by
  cases hnew : ws.link.newClient with
  | true => exact h.goto (fun _ _ => rfl) (fun _ _ _ => trivial) trivial hnew
  | false =>
    refine h.goto (fun hfresh _ => ?_) (fun conn hconn hold => ?_) trivial trivial
    · rw [Websocket.fresh, hnew, hapart hnew] at hfresh
      cases hfresh
    · exact (h.through hpc (.inl rfl) hconn hold).elsewhere _ _ _

lemma reset (h : Serving config s ws sent opened) (hpc : ws.link.pc = .reset) :
    Serving config s { ws with link := { ws.link with pos := 0, pc := .clearNew } } sent opened := by
  have hnew : ws.link.newClient = true := by
    have hresetting := h.resetting
    rwa [Link.Resetting, hpc] at hresetting
  have hfresh : ws.fresh = true := by rw [Websocket.fresh, hnew, Bool.true_or]
  constructor
  · exact h.sound
  · exact Nat.zero_le _
  · exact h.history
  · exact h.blank
  · exact h.pending
  · exact h.active
  · exact h.owner
  · intro conn hconn _
    obtain ⟨hblank, -, howner⟩ := h.fresh conn hconn hfresh
    exact ⟨hblank, rfl, howner⟩
  · intro conn _ hold
    cases hold.symm.trans hfresh
  · trivial
  · exact ⟨hnew, rfl⟩

lemma clearNew (h : Serving config s ws sent opened) (hpc : ws.link.pc = .clearNew)
    (hapart : ws.http.installing = false) :
    Serving config s { ws with link := { ws.link with newClient := false, pc := .read } } sent opened := by
  have hresetting : ws.link.newClient = true ∧ ws.link.pos = 0 := by
    have hresetting := h.resetting
    rwa [Link.Resetting, hpc] at hresetting
  have hfresh : ws.fresh = true := by rw [Websocket.fresh, hresetting.1, Bool.true_or]
  constructor
  · exact h.sound
  · exact h.cursor
  · exact h.history
  · exact h.blank
  · exact h.pending
  · exact h.active
  · exact h.owner
  · intro conn _ hnew
    rw [Websocket.fresh, hapart] at hnew
    cases hnew
  · intro conn hconn _
    obtain ⟨⟨hsent, hopened⟩, -⟩ := h.fresh conn hconn hfresh
    constructor
    · rw [hsent]
      nofun
    · exact fun _ => ⟨hopened, hresetting.2⟩
  · trivial
  · trivial

section Read

variable {opened' : Conn → Option ℕ} {conn : Conn}

lemma unfresh_read (h : Serving config s ws sent opened) (hpc : ws.link.pc = .read) (hconn : ws.link.fd = some conn) :
    ws.fresh = false ∧ ws.link.Through sent opened conn := by
  have hfresh : ws.fresh = false := by
    by_contra hfresh
    have hfree := (h.fresh conn hconn (Bool.eq_true_of_not_eq_false hfresh)).2.1
    rw [Link.committed, hpc] at hfree
    cases hfree
  exact ⟨hfresh, h.through hpc (.inr rfl) hconn hfresh⟩

lemma readSpec (h16 : 16 ∣ config.bytes) (h : Serving config s ws sent opened) :
    ReadSpec s.log (fun _ => 0) bufSize ws.link.pos (hostConsoleRead s.log (fun _ => 0) bufSize ws.link.pos) :=
  consoleLogRead_spec _ _ h.cursor (h.sound.toAligned.windowStart_le h16)

lemma through_readLog (h16 : 16 ∣ config.bytes) (h : Serving config s ws sent opened) (hpc : ws.link.pc = .read)
    (hopens : Opens s ws.link opened opened') (hcount : readCount s.log bufSize ws.link.pos = 0)
    (hconn : ws.link.fd = some conn) :
    (ws.link.readLog .websocket (.again 0) s.log).Through sent opened' conn := by
  obtain ⟨-, hthrough⟩ := h.unfresh_read hpc hconn
  have hnext := (h.readSpec h16).ppos_eq
  have hpos : ws.link.pos.toNat ≤ readFrom s.log ws.link.pos := le_max_left _ _
  have hwindow := h.sound.toAligned.windowStart_le h16
  have hfrom : readFrom s.log ws.link.pos ≤ s.log.received.toNat := max_le h.cursor hwindow
  constructor
  · intro p hp
    have hlt := hthrough.before p hp
    rw [Link.readLog, hnext]
    omega
  · intro hnothing
    obtain ⟨hfirst, hzero⟩ := hthrough.first hnothing
    have hfirst' := hopens.first conn hconn hfirst
    rw [if_neg hcount.le.not_gt] at hfirst'
    refine ⟨hfirst', UInt64.toNat_inj.mp ?_⟩
    have hempty : s.log.received.toNat = 0 := by
      by_contra hsome
      have hlt := h.sound.toAligned.windowStart_lt h16 (Nat.pos_of_ne_zero hsome)
      rw [readCount, readFrom, hzero, bufSize] at hcount
      simp at hcount
      omega
    rw [Link.readLog, hnext, hcount]
    exact Nat.le_zero.mp (hfrom.trans hempty.le)

lemma holds_readLog (h16 : 16 ∣ config.bytes) (h : Serving config s ws sent opened) (hpc : ws.link.pc = .read)
    (hopens : Opens s ws.link opened opened') (hcount : 0 < readCount s.log bufSize ws.link.pos) :
    (ws.link.readLog .websocket (.again 0) s.log).Holds s.reported sent opened' 0 := by
  have hspec := h.readSpec h16
  have hbytes := h.sound.toAligned.read_bytes h16 h.sound.unlapped h.cursor (fun _ => 0) bufSize
  have hpos : ws.link.pos.toNat ≤ readFrom s.log ws.link.pos := le_max_left _ _
  have howner : ∀ k, (ws.link.readLog .websocket (.again 0) s.log).owner = some k → ws.link.fd = some k :=
    fun _ hk => hk
  constructor
  · have hprefix := List.take_prefix (readCount s.log bufSize ws.link.pos)
      (s.reported.drop (readFrom s.log ws.link.pos))
    rwa [← hbytes] at hprefix
  · exact (congrArg (_ + ·) hspec.bytes_length).trans hspec.ppos_eq.symm
  · exact hcount.trans_eq hspec.bytes_length.symm
  · intro k hk p hp
    exact ((h.unfresh_read hpc (howner k hk)).2.before p hp).trans_le hpos
  · intro k hk hnothing
    obtain ⟨hfirst, hzero⟩ := (h.unfresh_read hpc (howner k hk)).2.first hnothing
    rw [hopens.first k (howner k hk) hfirst, if_pos hcount]
    simp [Link.readLog, readFrom, hzero]

lemma read (h16 : 16 ∣ config.bytes) (h : Serving config s ws sent opened) (hpc : ws.link.pc = .read)
    (hopens : Opens s ws.link opened opened') :
    Serving config s { ws with link := ws.link.readLog .websocket (.again 0) s.log } sent opened' := by
  have hspec := h.readSpec h16
  have hpc' := Link.readLog_pc .websocket (.again 0) hspec
  constructor
  · exact h.sound
  · have hwindow := h.sound.toAligned.windowStart_le h16
    have hfrom : readFrom s.log ws.link.pos ≤ s.log.received.toNat := max_le h.cursor hwindow
    rw [Link.readLog, hspec.ppos_eq, readCount]
    omega
  · intro conn
    exact ⟨(h.history conn).own, (h.history conn).excerpt, fun p hp => hopens.keeps conn p ((h.history conn).start p hp)⟩
  · intro conn hconn
    have hinactive : ws.link.fd ≠ some conn := fun hfd => (h.active conn hfd).not_ge hconn
    exact ⟨(h.blank conn hconn).1, (hopens.others conn hinactive).trans (h.blank conn hconn).2⟩
  · exact h.pending
  · exact h.active
  · exact h.active
  · intro conn hconn hnew
    cases hnew.symm.trans (h.unfresh_read hpc hconn).1
  · intro conn hconn _
    rw [Link.Settled, hpc']
    split_ifs with hcount
    · exact h.through_readLog h16 hpc hopens hcount hconn
    · trivial
  · rw [Link.Kept, hpc']
    split_ifs with hcount
    · trivial
    · cases hfd : ws.link.fd with
      | none => exact .inl hfd
      | some conn => exact .inr ⟨rfl, h.holds_readLog h16 hpc hopens (Nat.pos_of_ne_zero hcount)⟩
  · rw [Link.Resetting, hpc']
    split_ifs <;> trivial

end Read

theorem loopStep {opened' : Conn → Option ℕ} (h16 : 16 ∣ config.bytes) (h : Serving config s ws sent opened)
    (hloop : ∀ task, ws.link.pc ≠ .send task) {ret : ℤ} (hundisturbed : ws.Undisturbed ret)
    (hopens : ws.link.pc = .read → Opens s ws.link opened opened') (hsame : ws.link.pc ≠ .read → opened' = opened)
    (events : Events) :
    Serving config s { ws with link := (ws.link.loopStep .websocket (.again 0) s.log events).1 } sent opened' := by
  rw [Websocket.Undisturbed] at hundisturbed
  rw [Link.loopStep]
  by_cases hread : ws.link.pc = .read
  · rw [hread]
    exact h.read h16 hread (hopens hread)
  · rw [hsame hread]
    cases hpc : ws.link.pc with
    | top | enterWait mask | blocked =>
      dsimp only
      refine h.gotoWaits ?_ fun conn => h.through hpc (.inl rfl)
      split_ifs <;> rfl
    | testNew =>
      rw [hpc] at hundisturbed
      exact h.testNew hpc hundisturbed
    | reset => exact h.reset hpc
    | clearNew =>
      rw [hpc] at hundisturbed
      exact h.clearNew hpc hundisturbed
    | read => exact absurd hpc hread
    | send task => exact absurd hpc (hloop task)

end Loop

section Send

variable {conn : Conn} {copied inner : ℕ} {pieces : List Piece} {d : Option Conn}

lemma not_fresh (h : Serving config s ws sent opened) (hcommitted : ws.link.committed = true) (hfd : ws.link.fd ≠ none) :
    ws.fresh = false := by
  obtain ⟨conn, hconn⟩ := Option.ne_none_iff_exists'.mp hfd
  by_contra hfresh
  cases hcommitted.symm.trans (h.fresh conn hconn (Bool.eq_true_of_not_eq_false hfresh)).2.1

lemma goOn (h : Serving config s ws sent opened) (hcommitted : ws.link.committed = true)
    (hsettled : ∀ conn, (ws.goto pc).link.Settled sent opened conn)
    (hkept : (ws.goto pc).link.Kept s.reported sent opened) (hresetting : (ws.goto pc).link.Resetting) :
    Serving config s (ws.goto pc) sent opened := by
  apply h.goto _ (fun conn _ _ => hsettled conn) hkept hresetting
  intro hfresh hfd
  cases hfresh.symm.trans (h.not_fresh hcommitted hfd)

lemma again (h : Serving config s ws sent opened) (hpc : ws.link.pc = .send (.again copied)) :
    Serving config s (ws.goto (if ws.link.fd = none then .top else .send (.wsSend copied))) sent opened := by
  have hkept := h.kept
  rw [Link.Kept, hpc] at hkept
  split_ifs with hfd
  · apply h.gotoWaits rfl
    intro conn hconn
    cases hfd.symm.trans hconn
  · refine h.goOn (by rw [Link.committed, hpc]) (fun _ => trivial) ?_ trivial
    exact hkept.imp_right (And.imp_right fun hold => hold.elsewhere _ _ _)

lemma wsSend (h : Serving config s ws sent opened) (hpc : ws.link.pc = .send (.wsSend copied)) :
    Serving config s
      (ws.goto (.send (if ws.link.fd = none then .endAfter .serviceUnregister none else .sendFd copied 0))) sent opened := by
  have hkept := h.kept
  rw [Link.Kept, hpc] at hkept
  split_ifs with hfd
  · exact h.goto (fun _ _ => rfl) (fun _ _ _ => trivial) trivial trivial
  · refine h.goOn (by rw [Link.committed, hpc]) (fun _ => trivial) ?_ trivial
    exact hkept.imp_right (And.imp_right fun hold => hold.elsewhere _ _ _)

lemma sleep (h : Serving config s ws sent opened) (hpc : ws.link.pc = .send (.sleep copied)) :
    Serving config s (ws.goto (.send (.again copied))) sent opened := by
  have hkept := h.kept
  rw [Link.Kept, hpc] at hkept
  refine h.goOn (by rw [Link.committed, hpc]) (fun _ => trivial) ?_ trivial
  exact hkept.imp_right (And.imp_right fun hold => hold.elsewhere _ _ _)

lemma sendFd (h : Serving config s ws sent opened) (hpc : ws.link.pc = .send (.sendFd copied inner)) :
    Serving config s (ws.goto (.send (.sending copied inner ws.link.fd))) sent opened := by
  have hkept := h.kept
  rw [Link.Kept, hpc] at hkept
  refine h.goto (fun _ _ => rfl) ?_ ?_ trivial
  · intro conn hconn _
    rcases hkept with hnone | ⟨howner, -⟩
    · cases hnone.symm.trans hconn
    · exact howner.symm.trans hconn
  · exact hkept.imp_right (And.imp_right fun hold => hold.elsewhere _ _ _)

lemma gotoSent (h : Serving config s ws sent opened) (hpc : ws.link.pc = .send (.sending copied inner d))
    (howner : ws.link.owner = some conn) (hhistory : History s.reported conn (opened conn) pieces)
    (hcommitted : InPlace ws.link.fd (some conn) ∨ (ws.goto pc).link.committed = false)
    (hsettled : (ws.goto pc).link.Settled (Function.update sent conn pieces) opened conn)
    (hkept : (ws.goto pc).link.Kept s.reported (Function.update sent conn pieces) opened)
    (hresetting : (ws.goto pc).link.Resetting) :
    Serving config s (ws.goto pc) (Function.update sent conn pieces) opened := by
  constructor
  · exact h.sound
  · exact h.cursor
  · intro conn'
    by_cases hconn : conn' = conn
    · rw [hconn, Function.update_self]
      exact hhistory
    · rw [Function.update_of_ne hconn]
      exact h.history conn'
  · intro conn' hbound
    have hne : conn' ≠ conn := (h.owner conn howner).trans_le hbound |>.ne'
    rw [Function.update_of_ne hne]
    exact h.blank conn' hbound
  · exact h.pending
  · exact h.active
  · exact h.owner
  · intro conn' hconn hfresh
    obtain ⟨hblank, -, hother⟩ := h.fresh conn' hconn hfresh
    have hne : conn' ≠ conn := fun hsame => hother (hsame ▸ howner)
    rw [Function.update_of_ne hne]
    refine ⟨hblank, hcommitted.resolve_left fun hplace => ?_, hother⟩
    rcases hplace with hnone | hsame
    · cases hnone.symm.trans hconn
    · exact hne (Option.some.inj (hconn.symm.trans hsame))
  · intro conn' hconn hold
    have hsame := h.settled conn' hconn hold
    rw [Link.Settled, hpc] at hsame
    cases Option.some.inj (hsame.symm.trans howner)
    exact hsettled
  · exact hkept
  · exact hresetting

lemma sending (h : Serving config s ws sent opened) (hpc : ws.link.pc = .send (.sending copied inner (some conn)))
    {ret : ℤ} (hplace : copied + inner + ret.toNat < ws.link.buf.length → InPlace ws.link.fd (some conn)) :
    let taken := (ws.link.buf.drop (copied + inner)).take ret.toNat
    Serving config s
      (ws.goto (if copied + (inner + taken.length) < ws.link.buf.length then
        .send (.sendFd copied (inner + taken.length)) else .top))
      (Function.update sent conn (sent conn ++ [⟨conn, ws.link.owner, ws.link.bufPos + (copied + inner), taken⟩]))
      opened := by
  intro taken
  have hkept := h.kept
  rw [Link.Kept, hpc] at hkept
  obtain ⟨howner, hold⟩ := hkept.resolve_left (Option.some_ne_none conn)
  obtain ⟨hhistory, hbefore, hnothing⟩ := hold.send (k := ret.toNat) howner.symm (h.history conn)
  have hlength : taken.length = min ret.toNat (ws.link.buf.length - (copied + inner)) := by
    rw [List.length_take, List.length_drop]
  have hassoc : copied + (inner + taken.length) = copied + inner + taken.length := (Nat.add_assoc _ _ _).symm
  have hends := hold.ends
  have hleft := hold.left
  split_ifs with hrest
  · have hplace' := hplace (by omega)
    refine h.gotoSent hpc howner.symm hhistory (.inl hplace') trivial ?_ trivial
    rcases hplace' with hnone | hsame
    · exact .inl hnone
    · refine .inr ⟨hsame.trans howner, hold.chunk, hends, hrest, ?_, ?_⟩
      · intro conn' hconn'
        cases howner.trans hconn'
        rw [Function.update_self, hassoc]
        exact hbefore
      · intro conn' hconn' hpos
        cases howner.trans hconn'
        rw [Function.update_self] at hpos
        obtain ⟨hempty, hopened⟩ := hnothing hpos
        have hzero : taken.length = 0 := List.length_eq_zero_iff.mpr hempty
        rw [hopened, hassoc, hzero]
        rfl
  · refine h.gotoSent hpc howner.symm hhistory (.inr rfl) ?_ trivial trivial
    constructor
    · intro p hp
      rw [Function.update_self] at hp
      have hlt : p < ws.link.bufPos + (copied + inner + taken.length) := hbefore p hp
      change p < ws.link.pos.toNat
      omega
    · intro hpos
      rw [Function.update_self] at hpos
      have hempty : taken.length = 0 := List.length_eq_zero_iff.mpr (hnothing hpos).1
      omega

theorem sendStep (h : Serving config s ws sent opened) {ret : ℤ} {task : WsTask} (hpc : ws.link.pc = .send task)
    (hundisturbed : ws.Undisturbed ret) :
    Serving config s (ws.sendStep ret task).1 (record sent (ws.sendStep ret task).2.2) opened := by
  rw [Websocket.Undisturbed, hpc] at hundisturbed
  cases task with
  | again copied => exact h.again hpc
  | wsSend copied => exact h.wsSend hpc
  | sendFd copied inner => exact h.sendFd hpc
  | sleep copied => exact h.sleep hpc
  | sending copied inner d =>
    cases d with
    | none => exact h.goto (fun _ _ => rfl) (fun _ _ _ => trivial) trivial trivial
    | some conn =>
      simp only [Websocket.sendStep]
      by_cases hret : ret < 0
      · rw [if_pos hret]
        exact h.goto (fun _ _ => rfl) (fun _ _ _ => trivial) trivial trivial
      · rw [if_neg hret]
        exact h.sending hpc (hundisturbed (not_lt.mp hret))
  | endInside stage copied inner d =>
    have hended := h.endClient (.reported d) stage
    cases stage with
    | serviceUnregister | websocketUnregister =>
      exact hended.goto (fun _ _ => rfl) (fun _ _ _ => trivial) trivial trivial
    | clearFd =>
      simp only [Websocket.sendStep, Websocket.afterInside]
      split_ifs
      · exact hended.goto (fun _ _ => rfl) (fun _ _ _ => trivial) trivial trivial
      · exact hended.goto (fun _ hfd => absurd rfl hfd) (fun _ _ _ => trivial) (.inl rfl) trivial
      · exact hended.gotoWaits rfl fun _ hconn => by cases hconn
  | endAfter stage d =>
    have hended := h.endClient (.reported d) stage
    cases stage with
    | serviceUnregister | websocketUnregister =>
      exact hended.goto (fun _ _ => rfl) (fun _ _ _ => trivial) trivial trivial
    | clearFd => exact hended.gotoWaits rfl fun _ hconn => by cases hconn

end Send

theorem socketSendThread {opened' : Conn → Option ℕ} (h16 : 16 ∣ config.bytes) (h : Serving config s ws sent opened)
    {ret : ℤ} (hundisturbed : ws.Undisturbed ret)
    (hopens : ws.link.pc = .read → Opens s ws.link opened opened') (hsame : ws.link.pc ≠ .read → opened' = opened)
    (events : Events) :
    Serving config s (ws.socketSendThread ret s.log events).1
      (record sent (ws.socketSendThread ret s.log events).2.2.2) opened' := by
  by_cases hsend : ∃ task, ws.link.pc = .send task
  · obtain ⟨task, hpc⟩ := hsend
    rw [Websocket.socketSendThread_send hpc, hsame (by rw [hpc]; nofun)]
    exact h.sendStep hpc hundisturbed
  · have hloop : ∀ task, ws.link.pc ≠ .send task := fun task hpc => hsend ⟨task, hpc⟩
    rw [Websocket.socketSendThread_loop hloop]
    exact h.loopStep h16 hloop hundisturbed hopens hsame events

lemma console (h16 : 16 ∣ config.bytes) (h : Serving config s ws sent opened) {e : Console.Event Empty}
    (he : System.RestartFree config s e) (hwrap : System.NoWrap config s e) (hlap : System.NotLapping config s e) :
    Serving config (s.step config e).1 ws sent opened := by
  have hsound := System.sound_step h16 h.sound he.1 (he.lossless hwrap) hlap
  obtain ⟨more, hmore⟩ := System.step_reported config s e
  constructor
  · exact hsound
  · have hcursor := h.cursor
    rw [h.sound.received_eq] at hcursor
    rw [hsound.received_eq, hmore, List.length_append]
    omega
  · intro conn
    rw [hmore]
    exact (h.history conn).extend more
  · exact h.blank
  · exact h.pending
  · exact h.active
  · exact h.owner
  · exact h.fresh
  · exact h.settled
  · rw [hmore]
    exact h.kept.extend more
  · exact h.resetting

end Serving

namespace World

variable {config : LogSize} {w : World} {a : Action} {ret : ℤ}

lemma recordPiece_sent (piece : Option Piece) : (w.recordPiece piece).sent = record w.sent piece := by
  cases piece <;> rfl

@[simp] lemma wsSender_sent : (w.step config (.wsSender ret)).1.sent =
    record w.sent (w.ws.socketSendThread ret w.console.log w.events).2.2.2 := by
  simp [step, recordPiece_sent]

@[simp] lemma wsSender_opened : (w.step config (.wsSender ret)).1.opened = w.recordRead.opened := by
  simp [step]

lemma recordRead_of_ne (h : w.ws.link.pc ≠ .read) : w.recordRead.opened = w.opened := by
  rw [recordRead]
  split
  · exact absurd ‹_› h
  · rfl

lemma recordRead_opens (hpc : w.ws.link.pc = .read)
    (hspec : ReadSpec w.console.log (fun _ => 0) bufSize w.ws.link.pos
      (hostConsoleRead w.console.log (fun _ => 0) bufSize w.ws.link.pos)) :
    Opens w.console w.ws.link w.opened w.recordRead.opened := by
  rw [recordRead, hpc]
  cases hfd : w.ws.link.fd with
  | none =>
    refine ⟨fun _ _ hopened => hopened, fun _ _ => rfl, fun conn hconn => ?_⟩
    cases hfd.symm.trans hconn
  | some active =>
    simp only [hspec.ret_eq, Nat.cast_pos]
    split_ifs with hfirst
    · constructor
      · intro conn p hopened
        have hne : conn ≠ active := fun hsame => by cases hopened.symm.trans (hsame ▸ hfirst.2)
        exact (Function.update_of_ne hne _ _).trans hopened
      · intro conn hother
        have hne : conn ≠ active := fun hsame => hother (hsame ▸ hfd)
        exact Function.update_of_ne hne _ _
      · intro conn hconn _
        cases hfd.symm.trans hconn
        rw [if_pos hfirst.1]
        exact Function.update_self _ _ _
    · refine ⟨fun _ _ hopened => hopened, fun _ _ => rfl, fun conn hconn hopened => ?_⟩
      cases hfd.symm.trans hconn
      rw [if_neg fun hcount => hfirst ⟨hcount, hopened⟩]
      exact hopened

/-- The receiver is not restarted and the log is not damaged, the send thread is not disturbed, and no client
gets the number that `fds[0].fd` still holds. -/
def Clean (config : LogSize) (w : World) : Action → Prop
  | .console e =>
    System.RestartFree config w.console e ∧ System.NoWrap config w.console e ∧ System.NotLapping config w.console e
  | .wsSender ret => w.ws.Undisturbed ret
  | .wsAccept number => w.ws.NumberFree number
  | .wsHttp _ => w.ws.InstallsFree
  | _ => True

instance (config : LogSize) (w : World) : (a : Action) → Decidable (w.Clean config a)
  | .console _ => inferInstanceAs (Decidable (_ ∧ _ ∧ _))
  | .wsSender _ | .wsAccept _ | .wsHttp _ => by
    unfold Clean
    infer_instance
  | .telnetSender _ | .telnetAccept | .telnetDaemon _ | .wsPoll _ _ | .wsService _ => isTrue trivial

/-- The bytes sent on the connection are those of the log from its start, each once. -/
def Served (w : World) (conn : Conn) : Prop := History w.console.reported conn (w.opened conn) (w.sent conn)

def Serves (config : LogSize) (w : World) : Prop := Serving config w.console w.ws w.sent w.opened

lemma serves_init (h16 : 16 ∣ config.bytes) (logBuffer : ℕ → UInt8) {ret : ℤ} (hret : 0 ≤ ret) :
    (init config logBuffer ret).Serves config where
  sound := System.sound_init h16 logBuffer hret
  cursor := Nat.zero_le _
  history _ := History.nil
  blank _ _ := ⟨rfl, rfl⟩
  pending := nofun
  active := nofun
  owner := nofun
  fresh := nofun
  settled := nofun
  kept := trivial
  resetting := trivial

theorem serves_step (h16 : 16 ∣ config.bytes) (h : w.Serves config) (ha : w.Clean config a) :
    (w.step config a).1.Serves config := by
  cases a with
  | console e => exact Serving.console h16 h ha.1 ha.2.1 ha.2.2
  | telnetSender ret | telnetAccept | telnetDaemon ret => exact h
  | wsSender ret =>
    rw [Serves, wsSender_console, wsSender_ws, wsSender_sent, wsSender_opened]
    refine Serving.socketSendThread h16 h ha (fun hpc => ?_) recordRead_of_ne _
    exact recordRead_opens hpc (consoleLogRead_spec _ _ h.cursor (h.sound.toAligned.windowStart_le h16))
  | wsPoll e error => exact Serving.pollEvent h e error
  | wsService res => exact Serving.wsServerCb h res
  | wsAccept number => exact Serving.acceptClient h ha
  | wsHttp ret =>
    refine Serving.consoleWsHttpCb h (fun k hk => ?_) ret w.events
    have hfree : w.ws.InstallsFree := ha
    rwa [Websocket.InstallsFree, hk] at hfree

/-- In a clean run each websocket client gets the whole history, once. -/
theorem whole_history (config : LogSize) (h16 : 16 ∣ config.bytes) (logBuffer : ℕ → UInt8) (ret : ℤ) (hret : 0 ≤ ret)
    (actions : List Action) (h : Along (step config) (Clean config) (init config logBuffer ret) actions) (conn : Conn) :
    Served (exec (step config) (init config logBuffer ret) actions) conn := by
  have hend : (exec (step config) (init config logBuffer ret) actions).Serves config :=
    exec_invariant (fun _ _ hs ha => serves_step h16 hs ha) (serves_init h16 logBuffer hret) h
  exact hend.history conn

/-- The next client connects when the byte has been sent. -/
def handedOver : List Action := wsSends ++ [.wsSender 1] ++ wsConnects 2 8 ++ List.replicate 9 (.wsSender 1)

theorem whole_history_handedOver :
    Served (afterRun handedOver) 1 ∧ positions ((afterRun handedOver).sent 1) = [0] :=
  ⟨whole_history kconfigMinLog (by decide) _ 0 le_rfl handedOver (by decide +kernel) 1, by decide +kernel⟩

/-- The next client connects just before `websocket_send_msg` is given the descriptor. -/
def chunkHeld : List Action := wsSends.dropLast ++ wsConnects 2 8 ++ List.replicate 2 (.wsSender 1)

/-- The descriptor is set, the thread reads and sends, and only then `new_client` is set. -/
def announcedLate : List Action :=
  wsConnects 1 2 ++ [.console (.store 65), .console (.uart (.rxRdy 1) 0)] ++ List.replicate 7 (.wsSender 1) ++
    List.replicate 3 (.wsHttp 0) ++ List.replicate 9 (.wsSender 1)

theorem history_mixed_or_repeated : ¬ Served (afterRun chunkHeld) 1 ∧ ¬ Served (afterRun announcedLate) 0 := by
  constructor
  · intro h
    have howner := h.own ⟨1, some 0, 0, [65]⟩ (by decide +kernel)
    exact absurd howner (by decide)
  · intro h
    exact absurd h.excerpt.increasing (by decide +kernel)

end World

end WallaBMC.Bridge
