import WallaBMC.Library.Bytes
import WallaBMC.Library.Interleaving
import WallaBMC.Library.Runs

/-! The transmitting half of the console: any number of `host_console_write` calls share `tx_buffer`, which
`tx_sem` guards. A call takes one step at a time; the UART sends the buffer byte by byte, as it is at
that moment, and `UART_TX_DONE` gives the semaphore back. -/

namespace WallaBMC.Console

open Library.Runs Library.Bytes Library.Interleaving

def uartTxBufSize : ℕ := 32

/-- Where a call stands: testing the loop, blocked in `k_sem_take`, before `memcpy`, before `uart_tx`, before
`k_sem_give`, or returned. -/
inductive WritePc
  | loop
  | take
  | copy
  | transmit
  | give (ret : ℤ)
  | done (ret : ℤ)
  deriving DecidableEq

structure Write where
  buf : List UInt8
  copied : ℕ
  pc : WritePc

def Write.piece (w : Write) : List UInt8 := (w.buf.drop w.copied).take uartTxBufSize

def WritePc.holds : WritePc → Bool
  | .copy => true
  | .transmit => true
  | .give _ => true
  | _ => false

structure Transmission where
  len : ℕ
  sent : ℕ

structure Tx where
  sem : ℕ
  buffer : List UInt8
  sending : Option Transmission
  writes : ℕ → Option Write

inductive TxEvent
  | hostConsoleWrite (i : ℕ) (buf : List UInt8)
  | run (i : ℕ) (ret : ℤ)
  | sendByte
  | txDone

inductive TxOutput
  | none
  | piece (i : ℕ) (bytes : List UInt8)
  | byte (b : UInt8)

namespace Tx

/-- `k_sem_init(&log->tx_sem, 1, 1)`; the buffer holds anything. -/
def init (buffer : Vector UInt8 uartTxBufSize) : Tx := ⟨1, buffer.toList, .none, fun _ => .none⟩

def semGive (sem : ℕ) : ℕ := min (sem + 1) 1

def put (s : Tx) (i : ℕ) (w : Write) : Tx := { s with writes := Function.update s.writes i (some w) }

/-- `ret` is the result of `uart_tx` if this step calls it. -/
def consoleLogWrite (i : ℕ) (w : Write) (ret : ℤ) (s : Tx) : Tx × TxOutput :=
  match w.pc with
  | .loop =>
    if w.copied < w.buf.length then (s.put i { w with pc := .take }, .none)
    else (s.put i { w with pc := .done w.copied }, .none)
  | .take =>
    if 0 < s.sem then ({ s with sem := s.sem - 1 }.put i { w with pc := .copy }, .none) else (s, .none)
  | .copy =>
    ({ s with buffer := overwrite s.buffer w.piece }.put i { w with pc := .transmit }, .none)
  | .transmit =>
    if ret < 0 then (s.put i { w with pc := .give ret }, .none)
    else ({ s with sending := some ⟨w.piece.length, 0⟩ }.put i ⟨w.buf, w.copied + w.piece.length, .loop⟩,
      .piece i w.piece)
  | .give ret =>
    ({ s with sem := semGive s.sem }.put i
      { w with pc := .done (if w.copied ≠ 0 then w.copied else ret) }, .none)
  | .done _ => (s, .none)

def sendByte (t : Transmission) (s : Tx) : Tx × TxOutput :=
  if t.sent < t.len then
    ({ s with sending := some { t with sent := t.sent + 1 } }, .byte (s.buffer.getD t.sent 0))
  else (s, .none)

def txDone (t : Transmission) (s : Tx) : Tx × TxOutput :=
  if t.sent < t.len then (s, .none) else ({ s with sem := semGive s.sem, sending := .none }, .none)

def step (s : Tx) : TxEvent → Tx × TxOutput
  | .hostConsoleWrite i buf =>
    match s.writes i with
    | .none => (s.put i ⟨buf, 0, .loop⟩, .none)
    | some _ => (s, .none)
  | .run i ret =>
    match s.writes i with
    | .none => (s, .none)
    | some w => consoleLogWrite i w ret s
  | .sendByte =>
    match s.sending with
    | .none => (s, .none)
    | some t => sendByte t s
  | .txDone =>
    match s.sending with
    | .none => (s, .none)
    | some t => txDone t s

end Tx

def TxOutput.piece? : TxOutput → Option (ℕ × List UInt8)
  | .piece i bytes => some (i, bytes)
  | _ => Option.none

def TxOutput.byte? : TxOutput → Option UInt8
  | .byte b => some b
  | _ => Option.none

/-- What `uart_tx` accepted, call by call, and what left the UART. -/
def pieces (outs : List TxOutput) : List (ℕ × List UInt8) := outs.filterMap TxOutput.piece?

def wire (outs : List TxOutput) : List UInt8 := outs.filterMap TxOutput.byte?

inductive Place
  | semaphore
  | writer (i : ℕ)
  | transmission

namespace Tx

def Has (s : Tx) : Place → Prop
  | .semaphore => 0 < s.sem
  | .writer i => ∃ w, s.writes i = some w ∧ w.pc.holds = true
  | .transmission => s.sending ≠ .none

def unsent (s : Tx) : List UInt8 :=
  match s.sending with
  | .none => []
  | some t => (s.buffer.take t.len).drop t.sent

/-- The part of its buffer that call `i` has passed on. -/
def accepted (s : Tx) (i : ℕ) : List UInt8 :=
  match s.writes i with
  | .none => []
  | some w => w.buf.take w.copied

end Tx

/-- A call returns what it has passed on, or an error before the first piece. -/
def Write.Returns (w : Write) : Prop :=
  match w.pc with
  | .done ret => (0 ≤ ret → (w.copied : ℤ) = ret) ∧ (ret < 0 → w.copied = 0)
  | .give ret => ret < 0
  | _ => True

structure Write.Ok (buffer : List UInt8) (w : Write) : Prop where
  copied_le : w.copied ≤ w.buf.length
  filled : w.pc = .transmit → buffer.take w.piece.length = w.piece
  returns : w.Returns

structure Tx.Sound (s : Tx) (outs : List TxOutput) : Prop where
  token : ∃ p, ∀ q, s.Has q ↔ q = p
  sem_le : s.sem ≤ 1
  buffer_length : s.buffer.length = uartTxBufSize
  sending_le : ∀ t, s.sending = some t → t.sent ≤ t.len ∧ t.len ≤ uartTxBufSize
  writes : ∀ i w, s.writes i = some w → w.Ok s.buffer
  onWire : merged (pieces outs) = wire outs ++ s.unsent
  small : ∀ p ∈ pieces outs, p.2.length ≤ uartTxBufSize
  accounted : ∀ i, ofSource i (pieces outs) = s.accepted i

variable {s : Tx} {i : ℕ} {w w' : Write} {outs : List TxOutput} {buffer : List UInt8}

@[simp] lemma pieces_none : pieces (outs ++ [.none]) = pieces outs := by simp [pieces, TxOutput.piece?]

@[simp] lemma wire_none : wire (outs ++ [.none]) = wire outs := by simp [wire, TxOutput.byte?]

@[simp] lemma pieces_byte (b : UInt8) : pieces (outs ++ [.byte b]) = pieces outs := by
  simp [pieces, TxOutput.piece?]

@[simp] lemma wire_byte (b : UInt8) : wire (outs ++ [.byte b]) = wire outs ++ [b] := by
  simp [wire, TxOutput.byte?]

@[simp] lemma pieces_piece (i : ℕ) (bytes : List UInt8) :
    pieces (outs ++ [.piece i bytes]) = pieces outs ++ [(i, bytes)] := by
  simp [pieces, TxOutput.piece?]

@[simp] lemma wire_piece (i : ℕ) (bytes : List UInt8) : wire (outs ++ [.piece i bytes]) = wire outs := by
  simp [wire, TxOutput.byte?]

/-- Only a call that holds the buffer depends on it. -/
lemma Write.Ok.rebuffer {buffer' : List UInt8} (h : w.Ok buffer) (hholds : w.pc.holds = false) :
    w.Ok buffer' where
  copied_le := h.copied_le
  filled hpc := by
    rw [hpc] at hholds
    cases hholds
  returns := h.returns

lemma Write.piece_length_le (w : Write) : w.piece.length ≤ uartTxBufSize := List.length_take_le _ _

namespace Tx

@[simp] lemma put_self (s : Tx) (i : ℕ) (w : Write) : (s.put i w).writes i = some w :=
  Function.update_self ..

lemma put_of_ne {j : ℕ} (h : j ≠ i) : (s.put i w).writes j = s.writes j :=
  Function.update_of_ne h ..

lemma has_put_self : (s.put i w).Has (.writer i) ↔ w.pc.holds = true := by
  simp [Has]

lemma has_put_of_ne {p : Place} (h : p ≠ .writer i) : (s.put i w).Has p ↔ s.Has p := by
  cases p with
  | semaphore => exact Iff.rfl
  | writer j =>
    have hne : j ≠ i := fun he => h (congrArg Place.writer he)
    rw [Has, Has, put_of_ne hne]
  | transmission => exact Iff.rfl

lemma has_writer (h : s.writes i = some w) : s.Has (.writer i) ↔ w.pc.holds = true := by
  simp [Has, h]

lemma only_of_has {p : Place} (h : ∃ p, ∀ q, s.Has q ↔ q = p) (hp : s.Has p) (q : Place) :
    s.Has q ↔ q = p := by
  obtain ⟨p', hp'⟩ := h
  rw [hp', (hp' p).mp hp]

/-- A step hands the token from `p` on to `r`. -/
lemma token_moves {s' : Tx} {p r : Place} (h : ∃ p, ∀ q, s.Has q ↔ q = p) (hp : s.Has p) (hr : s'.Has r)
    (hrest : ∀ q, q ≠ r → s'.Has q → s.Has q ∧ q ≠ p) : ∃ p, ∀ q, s'.Has q ↔ q = p := by
  refine ⟨r, fun q => ⟨fun hq => ?_, fun hq => hq ▸ hr⟩⟩
  by_contra hne
  obtain ⟨hbefore, hleft⟩ := hrest q hne hq
  exact hleft ((only_of_has h hp q).mp hbefore)

lemma accepted_eq (h : s.writes i = some w) : s.accepted i = w.buf.take w.copied := by
  simp [accepted, h]

lemma accepted_put_self : (s.put i w).accepted i = w.buf.take w.copied := by
  simp [accepted]

lemma accepted_put_of_ne {j : ℕ} (h : j ≠ i) : (s.put i w).accepted j = s.accepted j := by
  rw [accepted, accepted, put_of_ne h]

lemma ok_put (hothers : ∀ j v, j ≠ i → s.writes j = some v → v.Ok buffer) (hok : w.Ok buffer) :
    ∀ j v, (s.put i w).writes j = some v → v.Ok buffer := by
  intro j v hv
  by_cases hj : j = i
  · rw [hj, put_self, Option.some_inj] at hv
    exact hv ▸ hok
  · rw [put_of_ne hj] at hv
    exact hothers j v hj hv

lemma accounted_put {ps : List (ℕ × List UInt8)} (h : ∀ j, j ≠ i → ofSource j ps = s.accepted j)
    (hself : ofSource i ps = w.buf.take w.copied) (j : ℕ) : ofSource j ps = (s.put i w).accepted j := by
  by_cases hj : j = i
  · rw [hj, accepted_put_self, hself]
  · rw [accepted_put_of_ne hj, h j hj]

namespace Sound

lemma silent (h : s.Sound outs) : s.Sound (outs ++ [.none]) where
  token := h.token
  sem_le := h.sem_le
  buffer_length := h.buffer_length
  sending_le := h.sending_le
  writes := h.writes
  onWire := by
    rw [pieces_none, wire_none]
    exact h.onWire
  small := by
    rw [pieces_none]
    exact h.small
  accounted := by
    rw [pieces_none]
    exact h.accounted

/-- A step of one call that neither moves the token nor passes anything on. -/
lemma put (h : s.Sound outs) (hholds : s.Has (.writer i) ↔ w.pc.holds = true)
    (haccepted : s.accepted i = w.buf.take w.copied) (hok : w.Ok s.buffer) : (s.put i w).Sound outs where
  token := by
    obtain ⟨p, hp⟩ := h.token
    refine ⟨p, fun q => ?_⟩
    by_cases hq : q = .writer i
    · rw [hq, has_put_self, ← hholds]
      exact hp _
    · rw [has_put_of_ne hq]
      exact hp q
  sem_le := h.sem_le
  buffer_length := h.buffer_length
  sending_le := h.sending_le
  writes := ok_put (fun j v _ hv => h.writes j v hv) hok
  onWire := h.onWire
  small := h.small
  accounted := accounted_put (fun j _ => h.accounted j) ((h.accounted i).trans haccepted)

/-- Nobody else holds the buffer, and nothing is being sent. -/
lemma alone (h : s.Sound outs) (hw : s.writes i = some w) (hholds : w.pc.holds = true) :
    s.sem = 0 ∧ s.sending = .none ∧ ∀ j v, j ≠ i → s.writes j = some v → v.pc.holds = false := by
  have honly := only_of_has h.token ((has_writer hw).mpr hholds)
  refine ⟨?_, ?_, ?_⟩
  · by_contra hsem
    cases (honly .semaphore).mp (Nat.pos_of_ne_zero hsem)
  · by_contra hsending
    cases (honly .transmission).mp hsending
  · intro j v hj hv
    by_contra hother
    have hsame := (honly (.writer j)).mp ⟨v, hv, Bool.of_not_eq_false hother⟩
    exact hj (Place.writer.inj hsame)

lemma take (h : s.Sound outs) (hw : s.writes i = some w) (hsem : 0 < s.sem) :
    (Tx.put { s with sem := s.sem - 1 } i { w with pc := .copy }).Sound outs where
  token := by
    apply token_moves (p := .semaphore) (r := .writer i) h.token hsem (has_put_self.mpr rfl)
    intro q hq hhas
    rw [has_put_of_ne hq] at hhas
    cases q with
    | semaphore =>
      have hempty : s.sem - 1 = 0 := Nat.sub_eq_zero_of_le h.sem_le
      exact absurd hempty (Nat.ne_of_gt hhas)
    | writer j => exact ⟨hhas, by simp⟩
    | transmission => exact ⟨hhas, by simp⟩
  sem_le := (Nat.sub_le _ _).trans h.sem_le
  buffer_length := h.buffer_length
  sending_le := h.sending_le
  writes := by
    have hok := h.writes i w hw
    refine ok_put (fun j v _ hv => h.writes j v hv) ⟨hok.copied_le, ?_, trivial⟩
    intro hcopy
    cases hcopy
  onWire := h.onWire
  small := h.small
  accounted := by
    have hself := (h.accounted i).trans (accepted_eq hw)
    exact accounted_put (fun j _ => h.accounted j) hself

lemma copy (h : s.Sound outs) (hw : s.writes i = some w) (hholds : w.pc.holds = true) :
    (Tx.put { s with buffer := overwrite s.buffer w.piece } i { w with pc := .transmit }).Sound outs where
  token := by
    apply token_moves (p := .writer i) (r := .writer i) h.token ⟨w, hw, hholds⟩ (has_put_self.mpr rfl)
    intro q hq hhas
    rw [has_put_of_ne hq] at hhas
    exact ⟨hhas, hq⟩
  sem_le := h.sem_le
  buffer_length := by
    have hlen : (overwrite s.buffer w.piece).length = s.buffer.length := length_overwrite _ _
    exact hlen.trans h.buffer_length
  sending_le := h.sending_le
  writes := by
    obtain ⟨-, -, hothers⟩ := h.alone hw hholds
    have hok := h.writes i w hw
    refine ok_put (fun j v hj hv => (h.writes j v hv).rebuffer (hothers j v hj hv))
      ⟨hok.copied_le, fun _ => ?_, trivial⟩
    have hfits : w.piece.length ≤ s.buffer.length := w.piece_length_le.trans_eq h.buffer_length.symm
    change (overwrite s.buffer w.piece).take w.piece.length = w.piece
    rw [overwrite_append hfits, List.take_left]
  onWire := by
    obtain ⟨-, hsending, -⟩ := h.alone hw hholds
    have hwire := h.onWire
    rw [unsent, hsending] at hwire
    rw [hwire, unsent]
    simp [Tx.put, hsending]
  small := h.small
  accounted := by
    have hself := (h.accounted i).trans (accepted_eq hw)
    exact accounted_put (fun j _ => h.accounted j) hself

lemma transmit (h : s.Sound outs) (hw : s.writes i = some w) (hpc : w.pc = .transmit) :
    (Tx.put { s with sending := some ⟨w.piece.length, 0⟩ } i
      ⟨w.buf, w.copied + w.piece.length, .loop⟩).Sound (outs ++ [.piece i w.piece]) where
  token := by
    have hholds : w.pc.holds = true := by rw [hpc]; rfl
    apply token_moves (p := .writer i) (r := .transmission) h.token ⟨w, hw, hholds⟩ (by simp [Has, Tx.put])
    intro q hq hhas
    by_cases hself : q = .writer i
    · rw [hself, has_put_self] at hhas
      cases hhas
    · rw [has_put_of_ne hself] at hhas
      cases q with
      | semaphore => exact ⟨hhas, hself⟩
      | writer j => exact ⟨hhas, hself⟩
      | transmission => exact absurd rfl hq
  sem_le := h.sem_le
  buffer_length := h.buffer_length
  sending_le t ht := by
    obtain rfl := Option.some_inj.mp ht
    exact ⟨Nat.zero_le _, w.piece_length_le⟩
  writes := by
    have hpiece : w.piece.length ≤ w.buf.length - w.copied := by
      rw [← List.length_drop]
      exact (List.take_sublist ..).length_le
    have hcopied := (h.writes i w hw).copied_le
    refine ok_put (fun j v _ hv => h.writes j v hv) ⟨?_, by simp, trivial⟩
    exact (Nat.le_sub_iff_add_le' hcopied).mp hpiece
  onWire := by
    obtain ⟨-, hsending, -⟩ := h.alone hw (by rw [hpc]; rfl)
    have hwire := h.onWire
    rw [unsent, hsending, List.append_nil] at hwire
    have hfilled := (h.writes i w hw).filled hpc
    rw [pieces_piece, wire_piece, merged_concat, hwire]
    change _ = wire outs ++ (s.buffer.take w.piece.length).drop 0
    rw [hfilled, List.drop_zero]
  small := by
    rw [pieces_piece]
    intro p hp
    rcases List.mem_append.mp hp with hold | hnew
    · exact h.small p hold
    · rw [List.mem_singleton.mp hnew]
      exact w.piece_length_le
  accounted := by
    have hself := (h.accounted i).trans (accepted_eq hw)
    rw [pieces_piece]
    apply accounted_put
    · intro j hj
      rw [ofSource_concat_of_ne hj.symm]
      exact h.accounted j
    · rw [ofSource_concat_self, hself, List.take_add]
      congr 1
      rw [Write.piece, List.length_take, List.take_eq_take_min]

lemma give (h : s.Sound outs) (hw : s.writes i = some w) (hholds : w.pc.holds = true) (hok : w'.Ok s.buffer)
    (hbuf : w'.buf = w.buf) (hcopied : w'.copied = w.copied) (hfree : w'.pc.holds = false) :
    (Tx.put { s with sem := semGive s.sem } i w').Sound outs where
  token := by
    apply token_moves (p := .writer i) (r := .semaphore) h.token ⟨w, hw, hholds⟩
      (by simp [Has, Tx.put, semGive])
    intro q hq hhas
    by_cases hself : q = .writer i
    · rw [hself, has_put_self, hfree] at hhas
      cases hhas
    · rw [has_put_of_ne hself] at hhas
      cases q with
      | semaphore => exact absurd rfl hq
      | writer j => exact ⟨hhas, hself⟩
      | transmission => exact ⟨hhas, hself⟩
  sem_le := min_le_right _ _
  buffer_length := h.buffer_length
  sending_le := h.sending_le
  writes := ok_put (fun j v _ hv => h.writes j v hv) hok
  onWire := h.onWire
  small := h.small
  accounted := by
    have hself := (h.accounted i).trans (accepted_eq hw)
    refine accounted_put (fun j _ => h.accounted j) ?_
    rw [hself, hbuf, hcopied]

lemma sendByte {t : Transmission} (h : s.Sound outs) (ht : s.sending = some t) :
    (Tx.sendByte t s).1.Sound (outs ++ [(Tx.sendByte t s).2]) := by
  rw [Tx.sendByte]
  split_ifs with hmore
  · obtain ⟨hsent, hlen⟩ := h.sending_le t ht
    have hin : t.sent < (s.buffer.take t.len).length := by
      rw [List.length_take, h.buffer_length]
      exact lt_min hmore (hmore.trans_le hlen)
    have hbyte : s.buffer.getD t.sent 0 = (s.buffer.take t.len)[t.sent] := by
      rw [List.getElem_take, List.getD_eq_getElem?_getD, List.getElem?_eq_getElem, Option.getD_some]
    refine ⟨?_, h.sem_le, h.buffer_length, fun t' ht' => ?_, h.writes, ?_, ?_, ?_⟩
    · apply token_moves (p := .transmission) (r := .transmission) h.token (by simp [Has, ht]) (by simp [Has])
      intro q hq hhas
      cases q with
      | semaphore => exact ⟨hhas, hq⟩
      | writer j => exact ⟨hhas, hq⟩
      | transmission => exact absurd rfl hq
    · obtain rfl := Option.some_inj.mp ht'
      exact ⟨hmore, hlen⟩
    · have hwire := h.onWire
      rw [unsent, ht] at hwire
      rw [pieces_byte, wire_byte, hwire, hbyte, List.append_assoc, List.singleton_append]
      exact congrArg _ (List.drop_eq_getElem_cons hin)
    · rw [pieces_byte]
      exact h.small
    · rw [pieces_byte]
      exact h.accounted
  · exact h.silent

lemma sent {t : Transmission} (h : s.Sound outs) (ht : s.sending = some t) (hall : t.len ≤ t.sent) :
    Sound { s with sem := semGive s.sem, sending := .none } outs where
  token := by
    apply token_moves (p := .transmission) (r := .semaphore) h.token (by simp [Has, ht])
      (by simp [Has, semGive])
    intro q hq hhas
    cases q with
    | semaphore => exact absurd rfl hq
    | writer j => exact ⟨hhas, by simp⟩
    | transmission => exact absurd rfl hhas
  sem_le := min_le_right _ _
  buffer_length := h.buffer_length
  sending_le := by simp
  writes := h.writes
  onWire := by
    have hwire := h.onWire
    have hnothing : (s.buffer.take t.len).drop t.sent = [] := by
      apply List.drop_eq_nil_of_le
      exact (List.length_take_le _ _).trans hall
    rw [unsent, ht] at hwire
    rw [hwire]
    exact congrArg _ hnothing
  small := h.small
  accounted := h.accounted

lemma txDone {t : Transmission} (h : s.Sound outs) (ht : s.sending = some t) :
    (Tx.txDone t s).1.Sound (outs ++ [(Tx.txDone t s).2]) := by
  rw [Tx.txDone]
  split_ifs with hmore
  · exact h.silent
  · apply Sound.silent
    exact h.sent ht (not_lt.mp hmore)

lemma consoleLogWrite (h : s.Sound outs) (hw : s.writes i = some w) (ret : ℤ) :
    (Tx.consoleLogWrite i w ret s).1.Sound (outs ++ [(Tx.consoleLogWrite i w ret s).2]) := by
  have hok := h.writes i w hw
  have haccepted := accepted_eq hw
  have hplace := has_writer hw
  cases hpc : w.pc with
  | loop =>
    rw [hpc] at hplace
    simp only [Tx.consoleLogWrite, hpc]
    split_ifs with hmore
    · apply Sound.silent
      exact h.put hplace haccepted ⟨hok.copied_le, by simp, trivial⟩
    · apply Sound.silent
      refine h.put hplace haccepted ⟨hok.copied_le, by simp, fun _ => rfl, fun hneg => ?_⟩
      exact absurd hneg (not_lt.mpr (Int.natCast_nonneg _))
  | take =>
    simp only [Tx.consoleLogWrite, hpc]
    split_ifs with hsem
    · apply Sound.silent
      exact h.take hw hsem
    · exact h.silent
  | copy =>
    simp only [Tx.consoleLogWrite, hpc]
    apply Sound.silent
    exact h.copy hw (by rw [hpc]; rfl)
  | transmit =>
    rw [hpc] at hplace
    simp only [Tx.consoleLogWrite, hpc]
    split_ifs with hfail
    · apply Sound.silent
      exact h.put hplace haccepted ⟨hok.copied_le, by simp, hfail⟩
    · exact h.transmit hw hpc
  | give err =>
    have herr : err < 0 := by
      have hreturns := hok.returns
      rwa [Write.Returns, hpc] at hreturns
    have hholds : w.pc.holds = true := by rw [hpc]; rfl
    simp only [Tx.consoleLogWrite, hpc]
    apply Sound.silent
    refine h.give hw hholds ⟨hok.copied_le, by simp, ?_⟩ rfl rfl rfl
    by_cases hcopied : w.copied = 0
    · simp [Write.Returns, hcopied, herr]
    · simp [Write.Returns, hcopied]
  | done ret =>
    simp only [Tx.consoleLogWrite, hpc]
    exact h.silent

end Sound

lemma sound_init (buffer : Vector UInt8 uartTxBufSize) : (init buffer).Sound [] where
  token := by
    refine ⟨.semaphore, fun q => ?_⟩
    cases q with
    | semaphore => simp [Has, init]
    | writer j => simp [Has, init]
    | transmission => simp [Has, init]
  sem_le := le_rfl
  buffer_length := by simp [init]
  sending_le := by simp [init]
  writes := by simp [init]
  onWire := rfl
  small := by simp [pieces]
  accounted _ := rfl

lemma sound_step (s : Tx) (outs : List TxOutput) (e : TxEvent) (h : s.Sound outs) :
    (step s e).1.Sound (outs ++ [(step s e).2]) := by
  cases e with
  | hostConsoleWrite i buf =>
    simp only [step]
    cases hw : s.writes i with
    | none =>
      have hfree : s.Has (.writer i) ↔ WritePc.loop.holds = true := by simp [Has, hw, WritePc.holds]
      have hnothing : s.accepted i = buf.take 0 := by simp [accepted, hw]
      apply Sound.silent
      exact h.put hfree hnothing ⟨Nat.zero_le _, by simp, trivial⟩
    | some w => exact h.silent
  | run i ret =>
    simp only [step]
    cases hw : s.writes i with
    | none => exact h.silent
    | some w => exact h.consoleLogWrite hw ret
  | sendByte =>
    simp only [step]
    cases ht : s.sending with
    | none => exact h.silent
    | some t => exact h.sendByte ht
  | txDone =>
    simp only [step]
    cases ht : s.sending with
    | none => exact h.silent
    | some t => exact h.txDone ht

/-- Only the call that holds the semaphore writes to the buffer. -/
lemma buffer_kept (h : s.Sound outs) (hsending : s.sending ≠ .none) (e : TxEvent) :
    (step s e).1.buffer = s.buffer := by
  cases e with
  | hostConsoleWrite i buf =>
    simp only [step]
    cases s.writes i <;> rfl
  | run i ret =>
    simp only [step]
    cases hw : s.writes i with
    | none => rfl
    | some w =>
      cases hpc : w.pc with
      | copy =>
        exact absurd (h.alone hw (by rw [hpc]; rfl)).2.1 hsending
      | loop =>
        simp only [consoleLogWrite, hpc]
        split_ifs <;> rfl
      | take =>
        simp only [consoleLogWrite, hpc]
        split_ifs <;> rfl
      | transmit =>
        simp only [consoleLogWrite, hpc]
        split_ifs <;> rfl
      | give err => simp only [consoleLogWrite, hpc]; rfl
      | done ret => simp only [consoleLogWrite, hpc]
  | sendByte =>
    simp only [step]
    cases s.sending with
    | none => rfl
    | some t =>
      simp only [sendByte]
      split_ifs <;> rfl
  | txDone =>
    simp only [step]
    cases s.sending with
    | none => rfl
    | some t =>
      simp only [txDone]
      split_ifs <;> rfl

lemma sound_exec (buffer : Vector UInt8 uartTxBufSize) (es : List TxEvent) :
    (exec step (init buffer) es).Sound (outputs step (init buffer) es) := by
  have hrun := record_invariant (fun s outs e => sound_step s outs e) (sound_init buffer) es
  rwa [List.nil_append] at hrun

/-- At any time in any run: a transmission keeps its buffer, the token is in one place, the line carries the
pieces that were passed on, and each call has passed on as much of its buffer as it returns. -/
theorem host_input_intact (buffer : Vector UInt8 uartTxBufSize) (es : List TxEvent) :
    ((exec step (init buffer) es).sending ≠ .none →
        ∀ e, (step (exec step (init buffer) es) e).1.buffer = (exec step (init buffer) es).buffer) ∧
      (∃! p, (exec step (init buffer) es).Has p) ∧
      merged (pieces (outputs step (init buffer) es)) =
        wire (outputs step (init buffer) es) ++ (exec step (init buffer) es).unsent ∧
      (∀ p ∈ pieces (outputs step (init buffer) es), p.2.length ≤ uartTxBufSize) ∧
      ∀ i, ofSource i (pieces (outputs step (init buffer) es)) = (exec step (init buffer) es).accepted i ∧
        ∀ w ret, (exec step (init buffer) es).writes i = some w → w.pc = .done ret →
          ((exec step (init buffer) es).accepted i).length = ret.toNat := by
  have h := sound_exec buffer es
  obtain ⟨p, hp⟩ := h.token
  refine ⟨fun hsending e => buffer_kept h hsending e, ⟨p, (hp p).mpr rfl, fun q => (hp q).mp⟩,
    h.onWire, h.small, fun i => ⟨h.accounted i, fun w ret hw hdone => ?_⟩⟩
  have hok := h.writes i w hw
  have hreturns := hok.returns
  rw [Write.Returns, hdone] at hreturns
  rw [accepted_eq hw, List.length_take, min_eq_left hok.copied_le]
  rcases le_or_gt 0 ret with hret | hret
  · rw [← hreturns.1 hret, Int.toNat_natCast]
  · rw [hreturns.2 hret, Int.toNat_of_nonpos hret.le]

end Tx

end WallaBMC.Console
