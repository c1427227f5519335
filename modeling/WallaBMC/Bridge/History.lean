import WallaBMC.Bridge.World
import WallaBMC.Console.Fidelity
import WallaBMC.Library.LossyLog

/-! What each client has been sent, and what the send thread holds for a websocket client between two steps. One
that has not been announced to the thread yet, or whose announcement the thread has not seen, has been sent nothing. -/

namespace WallaBMC.Bridge

open Console Library.Runs Library.LossyLog

def positions (pieces : List Piece) : List ℕ := pieces.flatMap (fun piece => List.range' piece.pos piece.bytes.length)

def bytesSent (pieces : List Piece) : List UInt8 := pieces.flatMap (fun piece => piece.bytes)

def record (sent : Conn → List Piece) : Option Piece → Conn → List Piece
  | none => sent
  | some piece => Function.update sent piece.conn (sent piece.conn ++ [piece])

/-- What a `send` that returns `ret` has taken. -/
def Telnet.taken (ret : ℤ) (t : Telnet) : Option Piece :=
  match t.link.pc with
  | .send (.sending (some conn)) =>
    if 0 < ret then some ⟨conn, t.link.owner, t.link.bufPos, t.link.buf.take ret.toNat⟩ else none
  | _ => none

/-- The bytes sent are log bytes at increasing positions, from the oldest one available at the first read,
and all of them were read for this connection. -/
structure History (reported : List UInt8) (conn : Conn) (first : Option ℕ) (pieces : List Piece) : Prop where
  own : ∀ piece ∈ pieces, piece.owner = some conn
  excerpt : Excerpt reported (positions pieces) (bytesSent pieces)
  start : ∀ p, (positions pieces).head? = some p → first = some p

section

variable {reported : List UInt8} {conn : Conn} {first : Option ℕ} {pieces : List Piece} {piece : Piece}

lemma Telnet.taken_loop {t : Telnet} (h : ∀ task, t.link.pc ≠ .send task) (ret : ℤ) : t.taken ret = none := by
  rw [taken]
  split
  · exact absurd ‹_› (h _)
  · rfl

lemma positions_concat :
    positions (pieces ++ [piece]) = positions pieces ++ List.range' piece.pos piece.bytes.length := by
  rw [positions, List.flatMap_append, List.flatMap_singleton]
  rfl

lemma bytesSent_concat : bytesSent (pieces ++ [piece]) = bytesSent pieces ++ piece.bytes := by
  rw [bytesSent, List.flatMap_append, List.flatMap_singleton]
  rfl

lemma History.nil : History reported conn first [] := ⟨nofun, Excerpt.nil, nofun⟩

lemma History.extend (h : History reported conn first pieces) (more : List UInt8) :
    History (reported ++ more) conn first pieces :=
  ⟨h.own, h.excerpt.extend more, h.start⟩

lemma History.concat (h : History reported conn first pieces) (hown : piece.owner = some conn)
    (hbytes : piece.bytes <+: reported.drop piece.pos) (hbefore : ∀ p ∈ positions pieces, p < piece.pos)
    (hfirst : positions pieces = [] → first = some piece.pos) :
    History reported conn first (pieces ++ [piece]) where
  own := by
    intro p hp
    rcases List.mem_append.mp hp with hp | hp
    · exact h.own p hp
    · rwa [List.mem_singleton.mp hp]
  excerpt := by
    rw [positions_concat, bytesSent_concat]
    apply h.excerpt.append (Excerpt.slice hbytes)
    intro p hp q hq
    exact (hbefore p hp).trans_le (List.mem_range'_1.mp hq).1
  start := by
    intro p hp
    rw [positions_concat] at hp
    cases hpos : positions pieces with
    | nil =>
      rw [hpos, List.nil_append] at hp
      have hmem : p = piece.pos := by
        cases hlen : piece.bytes.length with
        | zero =>
          rw [hlen] at hp
          cases hp
        | succ n =>
          rw [hlen, List.range'_succ, List.head?_cons, Option.some.injEq] at hp
          exact hp.symm
      rw [hmem]
      exact hfirst hpos
    | cons q qs =>
      rw [hpos, List.cons_append, List.head?_cons, Option.some.injEq] at hp
      apply h.start
      rw [hpos, hp, List.head?_cons]

end

def Pc.waits {σ : Type*} : Pc σ → Bool
  | .top | .enterWait _ | .blocked | .testNew => true
  | _ => false

namespace Link

variable (reported : List UInt8) (sent : Conn → List Piece) (opened : Conn → Option ℕ) (link : Link WsTask)

/-- `n` bytes of the chunk in `buf` have been sent to its owner, and all before it. -/
structure Holds (n : ℕ) : Prop where
  chunk : link.buf <+: reported.drop link.bufPos
  ends : link.bufPos + link.buf.length = link.pos.toNat
  left : n < link.buf.length
  before : ∀ conn, link.owner = some conn → ∀ p ∈ positions (sent conn), p < link.bufPos + n
  first : ∀ conn, link.owner = some conn → positions (sent conn) = [] → opened conn = some (link.bufPos + n)

structure Through (conn : Conn) : Prop where
  before : ∀ p ∈ positions (sent conn), p < link.pos.toNat
  first : positions (sent conn) = [] → opened conn = none ∧ link.pos = 0

def Settled (conn : Conn) : Prop :=
  match link.pc with
  | .top | .enterWait _ | .blocked | .testNew | .read => link.Through sent opened conn
  | .send (.sending _ _ _) => link.owner = some conn
  | _ => True

/-- What is still to be sent is for the client it was read for, unless that one has gone. -/
def Kept : Prop :=
  match link.pc with
  | .send (.again n) | .send (.wsSend n) | .send (.sleep n) =>
    link.fd = none ∨ link.fd = link.owner ∧ link.Holds reported sent opened n
  | .send (.sendFd copied inner) =>
    link.fd = none ∨ link.fd = link.owner ∧ link.Holds reported sent opened (copied + inner)
  | .send (.sending copied inner d) => d = none ∨ d = link.owner ∧ link.Holds reported sent opened (copied + inner)
  | _ => True

def Resetting : Prop :=
  match link.pc with
  | .reset => link.newClient = true
  | .clearNew => link.newClient = true ∧ link.pos = 0
  | _ => True

/-- Beyond the test of `new_client`: the thread is going to read, or to send to what `fd` then is. -/
def committed : Bool :=
  match link.pc with
  | .read | .send (.again _) | .send (.wsSend _) | .send (.sendFd _ _) | .send (.sleep _) => true
  | _ => false

variable {reported sent opened link} {conn : Conn}

lemma Holds.extend {n : ℕ} (h : link.Holds reported sent opened n) (more : List UInt8) :
    link.Holds (reported ++ more) sent opened n where
  chunk := h.chunk.trans ((List.prefix_append _ _).drop _)
  ends := h.ends
  left := h.left
  before := h.before
  first := h.first

-- What is held does not depend on where the thread is, on the active client or on its announcement.
lemma Holds.elsewhere {n : ℕ} (h : link.Holds reported sent opened n) (fd : Option Conn) (newClient : Bool)
    (pc : Pc WsTask) :
    { link with fd := fd, newClient := newClient, pc := pc }.Holds reported sent opened n :=
  ⟨h.chunk, h.ends, h.left, h.before, h.first⟩

lemma Through.elsewhere (h : link.Through sent opened conn) (fd : Option Conn) (newClient : Bool)
    (pc : Pc WsTask) : { link with fd := fd, newClient := newClient, pc := pc }.Through sent opened conn :=
  ⟨h.before, h.first⟩

lemma Kept.extend (h : link.Kept reported sent opened) (more : List UInt8) :
    link.Kept (reported ++ more) sent opened := by
  rcases link with ⟨fd, newClient, pc, pos, buf, owner, bufPos⟩
  cases pc with
  | send task =>
    cases task with
    | again | wsSend | sleep | sendFd | sending => exact h.imp_right (And.imp_right fun hold => hold.extend more)
    | endInside | endAfter => trivial
  | _ => trivial

lemma Kept.relink {fd : Option Conn} (h : link.Kept reported sent opened) (newClient : Bool)
    (hfd : fd = link.fd ∨ fd = none ∨ link.committed = false) :
    { link with fd := fd, newClient := newClient }.Kept reported sent opened := by
  rcases link with ⟨fd', newClient', pc, pos, buf, owner, bufPos⟩
  cases pc with
  | send task =>
    cases task with
    | again | wsSend | sleep | sendFd =>
      rcases hfd with hsame | hnone | hfree
      · rw [hsame]
        exact h.imp_right (And.imp_right fun hold => hold.elsewhere fd' newClient _)
      · exact .inl hnone
      · cases hfree
    | sending => exact h.imp_right (And.imp_right fun hold => hold.elsewhere fd newClient _)
    | endInside | endAfter => trivial
  | _ => trivial

lemma Settled.relink (h : link.Settled sent opened conn) (fd : Option Conn) (newClient : Bool) :
    { link with fd := fd, newClient := newClient }.Settled sent opened conn := by
  rcases link with ⟨fd', newClient', pc, pos, buf, owner, bufPos⟩
  cases pc with
  | top | enterWait | blocked | testNew | read => exact Through.elsewhere h fd newClient _
  | reset | clearNew => trivial
  | send task =>
    cases task with
    | sending => exact h
    | _ => trivial

lemma Resetting.relink {newClient : Bool} (h : link.Resetting) (fd : Option Conn)
    (hnew : link.newClient = true → newClient = true) :
    { link with fd := fd, newClient := newClient }.Resetting := by
  rcases link with ⟨fd', newClient', pc, pos, buf, owner, bufPos⟩
  cases pc with
  | reset => exact hnew h
  | clearNew => exact h.imp_left hnew
  | _ => trivial

lemma Holds.send {n k : ℕ} (h : link.Holds reported sent opened n) (howner : link.owner = some conn)
    (hhistory : History reported conn (opened conn) (sent conn)) :
    let taken := (link.buf.drop n).take k
    let pieces := sent conn ++ [⟨conn, link.owner, link.bufPos + n, taken⟩]
    History reported conn (opened conn) pieces ∧
      (∀ p ∈ positions pieces, p < link.bufPos + (n + taken.length)) ∧
      (positions pieces = [] → taken = [] ∧ opened conn = some (link.bufPos + n)) := by
  intro taken pieces
  have hbytes : taken <+: reported.drop (link.bufPos + n) := by
    rw [← List.drop_drop]
    exact (List.take_prefix _ _).trans (h.chunk.drop n)
  refine ⟨hhistory.concat howner hbytes (h.before conn howner) (h.first conn howner), ?_, ?_⟩
  · intro p hp
    rw [positions_concat] at hp
    rcases List.mem_append.mp hp with hp | hp
    · have := h.before conn howner p hp
      omega
    · have := (List.mem_range'_1.mp hp).2
      dsimp only at this
      omega
  · intro hpos
    rw [positions_concat, List.append_eq_nil_iff] at hpos
    exact ⟨List.length_eq_zero_iff.mp (List.range'_eq_nil_iff.mp hpos.2), h.first conn howner hpos.1⟩

end Link

namespace HttpPc

/-- The new client's descriptor is set, `new_client` not yet. -/
def installing : HttpPc → Bool
  | .setNew _ => true
  | _ => false

def pending : HttpPc → Option Conn
  | .testOld k | .ending _ k | .setFd k => some k
  | _ => none

end HttpPc

namespace Websocket

def fresh (ws : Websocket) : Bool := ws.link.newClient || ws.http.installing

/-- No connection from here on has been active. -/
def bound (ws : Websocket) : Conn := ws.http.pending.getD ws.accepted

end Websocket

/-- `opened'` is what the first read for the active client that finds bytes makes of `opened`. -/
structure Opens (s : System Empty) (link : Link WsTask) (opened opened' : Conn → Option ℕ) : Prop where
  keeps : ∀ conn p, opened conn = some p → opened' conn = some p
  others : ∀ conn, link.fd ≠ some conn → opened' conn = opened conn
  first : ∀ conn, link.fd = some conn → opened conn = none →
    opened' conn = if 0 < readCount s.log bufSize link.pos then some (windowStart s.log).toNat else none

structure Serving (config : LogSize) (s : System Empty) (ws : Websocket) (sent : Conn → List Piece)
    (opened : Conn → Option ℕ) : Prop where
  sound : System.Sound config s
  cursor : ws.link.pos.toNat ≤ s.log.received.toNat
  history : ∀ conn, History s.reported conn (opened conn) (sent conn)
  blank : ∀ conn, ws.bound ≤ conn → sent conn = [] ∧ opened conn = none
  pending : ∀ k, ws.http.pending = some k → k < ws.accepted
  active : ∀ conn, ws.link.fd = some conn → conn < ws.bound
  owner : ∀ conn, ws.link.owner = some conn → conn < ws.bound
  fresh : ∀ conn, ws.link.fd = some conn → ws.fresh = true →
    (sent conn = [] ∧ opened conn = none) ∧ ws.link.committed = false ∧ ws.link.owner ≠ some conn
  settled : ∀ conn, ws.link.fd = some conn → ws.fresh = false → ws.link.Settled sent opened conn
  kept : ws.link.Kept s.reported sent opened
  resetting : ws.link.Resetting

end WallaBMC.Bridge
