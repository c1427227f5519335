import WallaBMC.Console.Writer

/-! The way from the clients to the host. The receiving loops of the two bridges pass what they got to
`host_console_write` before they receive again, from whoever is connected then, and do not look at the result.
`running` is the number of the call that a loop makes, and the output `refused` has the bytes that a call gives
up when `uart_tx` fails. -/

namespace WallaBMC.Bridge

open Console Library.Runs Library.Interleaving

inductive Source
  | telnet
  | websocket
  deriving DecidableEq

def Source.bufSize : Source → ℕ
  | .telnet => 64
  | .websocket => 32

structure Input where
  tx : Tx
  calls : ℕ
  running : Source → Option ℕ

inductive InputEvent
  | recv (k : Source) (bytes : List UInt8)
  | run (k : Source) (ret : ℤ)
  | sendByte
  | txDone

inductive InputOutput
  | none
  | received (k : Source) (bytes : List UInt8)
  | piece (k : Source) (bytes : List UInt8)
  | refused (k : Source) (rest : List UInt8)
  | byte (b : UInt8)
  deriving DecidableEq

def InputOutput.ofTx (k : Source) : TxOutput → InputOutput
  | .none => .none
  | .piece _ bytes => .piece k bytes
  | .byte b => .byte b

def InputOutput.ofUart : TxOutput → InputOutput
  | .byte b => .byte b
  | _ => .none

namespace Input

def init (buffer : Vector UInt8 uartTxBufSize) : Input := ⟨.init buffer, 0, fun _ => none⟩

def returned (w : Write) : Bool :=
  match w.pc with
  | .done _ => true
  | _ => false

def runCall (k : Source) (i : ℕ) (w : Write) (ret : ℤ) (s : Input) : Input × InputOutput :=
  let (tx, out) := s.tx.consoleLogWrite i w ret
  let ended := (tx.writes i).elim true returned
  ({ s with tx := tx, running := if ended then Function.update s.running k none else s.running },
    if w.pc = .transmit ∧ ret < 0 then .refused k (w.buf.drop w.copied) else .ofTx k out)

def step (s : Input) : InputEvent → Input × InputOutput
  | .recv k bytes =>
    if s.running k = none ∧ 0 < bytes.length ∧ bytes.length ≤ k.bufSize then
      ({ tx := (s.tx.step (.hostConsoleWrite s.calls bytes)).1
         calls := s.calls + 1
         running := Function.update s.running k (some s.calls) }, .received k bytes)
    else (s, .none)
  | .run k ret =>
    match s.running k with
    | none => (s, .none)
    | some i =>
      match s.tx.writes i with
      | none => (s, .none)
      | some w => s.runCall k i w ret
  | .sendByte =>
    let (tx, out) := s.tx.step .sendByte
    ({ s with tx := tx }, .ofUart out)
  | .txDone =>
    let (tx, out) := s.tx.step .txDone
    ({ s with tx := tx }, .ofUart out)

/-- A call that was refused has given up what it had left. -/
def left (w : Write) : List UInt8 :=
  match w.pc with
  | .give _ | .done _ => []
  | _ => w.buf.drop w.copied

def rest (s : Input) (k : Source) : List UInt8 := ((s.running k).bind s.tx.writes).elim [] left

end Input

def InputOutput.received? (k : Source) : InputOutput → Option (List UInt8)
  | .received k' bytes => if k' = k then some bytes else Option.none
  | _ => Option.none

def InputOutput.handled? (k : Source) : InputOutput → Option (List UInt8)
  | .piece k' bytes | .refused k' bytes => if k' = k then some bytes else Option.none
  | _ => Option.none

def InputOutput.piece? : InputOutput → Option (Source × List UInt8)
  | .piece k bytes => some (k, bytes)
  | _ => Option.none

def InputOutput.byte? : InputOutput → Option UInt8
  | .byte b => some b
  | _ => Option.none

def received (k : Source) (outs : List InputOutput) : List UInt8 := (outs.filterMap (InputOutput.received? k)).flatten

/-- What was passed on of it or given up with a refused call, in order. -/
def handled (k : Source) (outs : List InputOutput) : List UInt8 := (outs.filterMap (InputOutput.handled? k)).flatten

def passed (outs : List InputOutput) : List (Source × List UInt8) := outs.filterMap InputOutput.piece?

def line (outs : List InputOutput) : List UInt8 := outs.filterMap InputOutput.byte?

inductive Progress (i : ℕ) (w : Write) (ret : ℤ) : Write → TxOutput → Prop
  | moves (pc : WritePc) (hpc : pc = .take ∨ pc = .copy ∨ pc = .transmit) (hold : w.pc = .loop ∨ w.pc = .take ∨ w.pc = .copy) :
    Progress i w ret { w with pc := pc } .none
  | passes (hpc : w.pc = .transmit) (hret : 0 ≤ ret) :
    Progress i w ret ⟨w.buf, w.copied + w.piece.length, .loop⟩ (.piece i w.piece)
  | refused (hpc : w.pc = .transmit) (hret : ret < 0) : Progress i w ret { w with pc := .give ret } .none
  | completes (hpc : w.pc = .loop) (hall : w.buf.length ≤ w.copied) :
    Progress i w ret { w with pc := .done w.copied } .none
  | fails (err result : ℤ) (hpc : w.pc = .give err) : Progress i w ret { w with pc := .done result } .none

variable {s : Input} {tx : Tx} {i j : ℕ} {w : Write} {k : Source} {outs : List InputOutput} {ret : ℤ}

lemma progress (h : tx.writes i = some w) (hruns : ∀ result, w.pc ≠ .done result) (ret : ℤ) :
    ∃ w', (tx.consoleLogWrite i w ret).1.writes i = some w' ∧
      Progress i w ret w' (tx.consoleLogWrite i w ret).2 := by
  cases hpc : w.pc with
  | loop =>
    simp only [Tx.consoleLogWrite, hpc]
    split_ifs with hmore
    · exact ⟨_, Tx.put_self .., .moves _ (.inl rfl) (.inl hpc)⟩
    · exact ⟨_, Tx.put_self .., .completes hpc (not_lt.mp hmore)⟩
  | take =>
    simp only [Tx.consoleLogWrite, hpc]
    split_ifs
    · exact ⟨_, Tx.put_self .., .moves _ (.inr (.inl rfl)) (.inr (.inl hpc))⟩
    · have hmoves : Progress i w ret { w with pc := w.pc } .none := .moves _ (.inl hpc) (.inr (.inl hpc))
      exact ⟨w, h, hmoves⟩
  | copy =>
    simp only [Tx.consoleLogWrite, hpc]
    exact ⟨_, Tx.put_self .., .moves _ (.inr (.inr rfl)) (.inr (.inr hpc))⟩
  | transmit =>
    simp only [Tx.consoleLogWrite, hpc]
    split_ifs with hret
    · exact ⟨_, Tx.put_self .., .refused hpc hret⟩
    · exact ⟨_, Tx.put_self .., .passes hpc (not_lt.mp hret)⟩
  | give err =>
    simp only [Tx.consoleLogWrite, hpc]
    exact ⟨_, Tx.put_self .., .fails err _ hpc⟩
  | done result => exact absurd hpc (hruns result)

lemma writes_of_ne (hj : j ≠ i) : (tx.consoleLogWrite i w ret).1.writes j = tx.writes j := by
  rw [Tx.consoleLogWrite]
  cases w.pc with
  | loop =>
    dsimp only
    split_ifs <;> exact Tx.put_of_ne hj
  | take =>
    dsimp only
    split_ifs
    · exact Tx.put_of_ne hj
    · rfl
  | copy => exact Tx.put_of_ne hj
  | transmit =>
    dsimp only
    split_ifs <;> exact Tx.put_of_ne hj
  | give err => exact Tx.put_of_ne hj
  | done result => rfl

section Outputs

variable {o : InputOutput} {rest bytes piece : List UInt8}

lemma received_concat : received k (outs ++ [o]) = received k outs ++ (o.received? k).getD [] := by
  cases h : o.received? k <;> simp [received, h]

lemma handled_concat : handled k (outs ++ [o]) = handled k outs ++ (o.handled? k).getD [] := by
  cases h : o.handled? k <;> simp [handled, h]

lemma passed_concat : passed (outs ++ [o]) = passed outs ++ o.piece?.toList := by
  cases h : o.piece? <;> simp [passed, h]

lemma line_concat : line (outs ++ [o]) = line outs ++ o.byte?.toList := by
  cases h : o.byte? <;> simp [line, h]

def Kept (k : Source) (rest : List UInt8) (outs : List InputOutput) : Prop := handled k outs ++ rest = received k outs

lemma Kept.handle (h : Kept k (piece ++ rest) outs) (hreceived : o.received? k = none)
    (hhandled : (o.handled? k).getD [] = piece) : Kept k rest (outs ++ [o]) := by
  rw [Kept, handled_concat, received_concat, hreceived, hhandled, List.append_assoc]
  exact h.trans (List.append_nil _).symm

lemma Kept.other (h : Kept k rest outs) (hreceived : o.received? k = none) (hhandled : o.handled? k = none) :
    Kept k rest (outs ++ [o]) := by
  have hnothing : Kept k ([] ++ rest) outs := h
  exact hnothing.handle hreceived (by rw [hhandled]; rfl)

lemma Kept.receive (h : Kept k [] outs) : Kept k bytes (outs ++ [.received k bytes]) := by
  have hall : handled k outs = received k outs := (List.append_nil _).symm.trans h
  rw [Kept, handled_concat, received_concat, hall]
  simp [InputOutput.handled?, InputOutput.received?]

def InputOutput.About (k : Source) (o : InputOutput) : Prop :=
  ∀ k', k' ≠ k → o.received? k' = Option.none ∧ o.handled? k' = Option.none

lemma about_received : InputOutput.About k (.received k bytes) := fun _ hk' => ⟨if_neg (Ne.symm hk'), rfl⟩

lemma about_refused : InputOutput.About k (.refused k bytes) := fun _ hk' => ⟨rfl, if_neg (Ne.symm hk')⟩

lemma about_ofTx (out : TxOutput) : (InputOutput.ofTx k out).About k := by
  intro k' hk'
  cases out with
  | none | byte b => exact ⟨rfl, rfl⟩
  | piece i bytes => exact ⟨rfl, if_neg (Ne.symm hk')⟩

end Outputs

namespace Input

structure Sound (s : Input) (outs : List InputOutput) : Prop where
  tx : ∃ txOuts, s.tx.Sound txOuts ∧ merged (pieces txOuts) = merged (passed outs) ∧ wire txOuts = line outs
  small : ∀ p ∈ passed outs, p.2.length ≤ uartTxBufSize
  fresh : ∀ i, s.calls ≤ i → s.tx.writes i = none
  runs : ∀ k i, s.running k = some i → ∃ w, s.tx.writes i = some w ∧ ∀ result, w.pc ≠ .done result
  apart : ∀ k k' i, s.running k = some i → s.running k' = some i → k = k'
  given : ∀ k i w, s.running k = some i → s.tx.writes i = some w → .received k w.buf ∈ outs
  refused : ∀ k rest, .refused k rest ∈ outs → ∃ bytes, .received k bytes ∈ outs ∧ rest <:+ bytes
  kept : ∀ k, Kept k (s.rest k) outs

lemma sound_init (buffer : Vector UInt8 uartTxBufSize) : (init buffer).Sound [] where
  tx := ⟨[], Tx.sound_init buffer, rfl, rfl⟩
  small p hp := by cases hp
  fresh _ _ := rfl
  runs k i hk := by cases hk
  apart k k' i hk := by cases hk
  given k i w hk := by cases hk
  refused k rest hmem := by cases hmem
  kept _ := rfl

lemma Sound.uart {tx : Tx} {out : TxOutput} (h : s.Sound outs) (hwrites : tx.writes = s.tx.writes)
    (htx : ∀ txOuts, s.tx.Sound txOuts → tx.Sound (txOuts ++ [out])) (hpiece : out.piece? = none) :
    Sound { s with tx := tx } (outs ++ [.ofUart out]) := by
  have hrest : ∀ k, rest { s with tx := tx } k = s.rest k := fun k => by rw [rest, rest, hwrites]
  have hquiet : InputOutput.piece? (.ofUart out) = none ∧ ∀ k, InputOutput.received? k (.ofUart out) = none ∧
      InputOutput.handled? k (.ofUart out) = none ∧ ∀ rest, .refused k rest ≠ InputOutput.ofUart out := by
    cases out with
    | piece i bytes => cases hpiece
    | none | byte b => exact ⟨rfl, fun _ => ⟨rfl, rfl, fun _ => InputOutput.noConfusion⟩⟩
  have hpassed : passed (outs ++ [.ofUart out]) = passed outs := by
    rw [passed_concat, hquiet.1]
    exact List.append_nil _
  constructor
  · obtain ⟨txOuts, hsound, hmerged, hline⟩ := h.tx
    refine ⟨txOuts ++ [out], htx txOuts hsound, ?_, ?_⟩
    · rw [hpassed, ← hmerged]
      cases out with
      | piece i bytes => cases hpiece
      | none => rw [pieces_none]
      | byte b => rw [pieces_byte]
    · rw [line_concat, ← hline]
      cases out with
      | piece i bytes => cases hpiece
      | none => rw [wire_none]; exact (List.append_nil _).symm
      | byte b => exact wire_byte b
  · rw [hpassed]
    exact h.small
  · exact hwrites ▸ h.fresh
  · exact hwrites ▸ h.runs
  · exact h.apart
  · intro k i w hk hw
    exact List.mem_append_left _ (h.given k i w hk (hwrites ▸ hw))
  · intro k rest hmem
    rcases List.mem_append.mp hmem with hold | hnew
    · obtain ⟨bytes, hbytes, hsuffix⟩ := h.refused k rest hold
      exact ⟨bytes, List.mem_append_left _ hbytes, hsuffix⟩
    · exact absurd (List.mem_singleton.mp hnew) ((hquiet.2 k).2.2 rest)
  · intro k
    rw [hrest]
    exact (h.kept k).other (hquiet.2 k).1 (hquiet.2 k).2.1

lemma sound_sendByte (h : s.Sound outs) :
    (s.step .sendByte).1.Sound (outs ++ [(s.step .sendByte).2]) := by
  apply h.uart _ fun txOuts htx => Tx.sound_step s.tx txOuts .sendByte htx
  · rw [Tx.step]
    cases s.tx.sending with
    | none => rfl
    | some t =>
      simp only [Tx.sendByte]
      split_ifs <;> rfl
  · rw [Tx.step]
    cases s.tx.sending with
    | none => rfl
    | some t =>
      simp only [Tx.sendByte]
      split_ifs <;> rfl

lemma sound_txDone (h : s.Sound outs) : (s.step .txDone).1.Sound (outs ++ [(s.step .txDone).2]) := by
  apply h.uart _ fun txOuts htx => Tx.sound_step s.tx txOuts .txDone htx
  · rw [Tx.step]
    cases s.tx.sending with
    | none => rfl
    | some t =>
      simp only [Tx.txDone]
      split_ifs <;> rfl
  · rw [Tx.step]
    cases s.tx.sending with
    | none => rfl
    | some t =>
      simp only [Tx.txDone]
      split_ifs <;> rfl

lemma rest_idle (h : s.running k = none) : s.rest k = [] := by rw [rest, h]; rfl

lemma rest_running (hk : s.running k = some i) (hw : s.tx.writes i = some w) : s.rest k = left w := by
  rw [rest, hk, Option.bind_some, hw]
  rfl

lemma Sound.loop {s' : Input} {o : InputOutput} (h : s.Sound outs) (ho : o.About k)
    (hrunning : ∀ k', k' ≠ k → s'.running k' = s.running k')
    (hwrites : ∀ k' j, k' ≠ k → s.running k' = some j → s'.running k ≠ some j ∧ s'.tx.writes j = s.tx.writes j)
    (htx : ∃ txOuts, s'.tx.Sound txOuts ∧ merged (pieces txOuts) = merged (passed (outs ++ [o])) ∧
      wire txOuts = line (outs ++ [o]))
    (hsmall : ∀ p ∈ o.piece?, p.2.length ≤ uartTxBufSize) (hfresh : ∀ i, s'.calls ≤ i → s'.tx.writes i = none)
    (hown : ∀ j, s'.running k = some j → ∃ w, s'.tx.writes j = some w ∧ (∀ result, w.pc ≠ .done result) ∧
      .received k w.buf ∈ outs ++ [o])
    (hrefused : ∀ k' rest, o = .refused k' rest → ∃ bytes, .received k' bytes ∈ outs ∧ rest <:+ bytes)
    (hkept : Kept k (s'.rest k) (outs ++ [o])) : s'.Sound (outs ++ [o]) where
  tx := htx
  small p hp := by
    rw [passed_concat, List.mem_append] at hp
    rcases hp with hp | hp
    · exact h.small p hp
    · exact hsmall p (Option.mem_toList.mp hp)
  fresh := hfresh
  runs k' j hk' := by
    by_cases hkk : k' = k
    · subst hkk
      obtain ⟨w, hw, hruns, -⟩ := hown j hk'
      exact ⟨w, hw, hruns⟩
    · rw [hrunning k' hkk] at hk'
      rw [(hwrites k' j hkk hk').2]
      exact h.runs k' j hk'
  apart k₁ k₂ j hk₁ hk₂ := by
    by_cases h₁ : k₁ = k <;> by_cases h₂ : k₂ = k
    · exact h₁.trans h₂.symm
    · subst h₁
      rw [hrunning k₂ h₂] at hk₂
      exact absurd hk₁ (hwrites k₂ j h₂ hk₂).1
    · subst h₂
      rw [hrunning k₁ h₁] at hk₁
      exact absurd hk₂ (hwrites k₁ j h₁ hk₁).1
    · rw [hrunning k₁ h₁] at hk₁
      rw [hrunning k₂ h₂] at hk₂
      exact h.apart k₁ k₂ j hk₁ hk₂
  given k' j w hk' hw := by
    by_cases hkk : k' = k
    · subst hkk
      obtain ⟨w', hw', -, hgiven⟩ := hown j hk'
      obtain rfl := Option.some.inj (hw'.symm.trans hw)
      exact hgiven
    · rw [hrunning k' hkk] at hk'
      rw [(hwrites k' j hkk hk').2] at hw
      exact List.mem_append_left _ (h.given k' j w hk' hw)
  refused k' rest hmem := by
    have hbefore : ∃ bytes, .received k' bytes ∈ outs ∧ rest <:+ bytes := by
      rcases List.mem_append.mp hmem with hold | hnew
      · exact h.refused k' rest hold
      · exact hrefused k' rest (List.mem_singleton.mp hnew).symm
    obtain ⟨bytes, hbytes, hsuffix⟩ := hbefore
    exact ⟨bytes, List.mem_append_left _ hbytes, hsuffix⟩
  kept k' := by
    by_cases hkk : k' = k
    · exact hkk ▸ hkept
    · have hrest : s'.rest k' = s.rest k' := by
        rw [rest, rest, hrunning k' hkk]
        cases hk' : s.running k' with
        | none => rfl
        | some j => rw [Option.bind_some, Option.bind_some, (hwrites k' j hkk hk').2]
      rw [hrest]
      exact (h.kept k').other (ho k' hkk).1 (ho k' hkk).2

lemma sound_recv {bytes : List UInt8} (h : s.Sound outs) (hidle : s.running k = none) :
    Sound { tx := (s.tx.step (.hostConsoleWrite s.calls bytes)).1
            calls := s.calls + 1
            running := Function.update s.running k (some s.calls) } (outs ++ [.received k bytes]) := by
  have hfresh := h.fresh s.calls le_rfl
  have hstep : s.tx.step (.hostConsoleWrite s.calls bytes) = (s.tx.put s.calls ⟨bytes, 0, .loop⟩, .none) := by
    rw [Tx.step, hfresh]
  have hne : ∀ k' j, s.running k' = some j → j ≠ s.calls := by
    rintro k' j hk' rfl
    obtain ⟨w, hw, -⟩ := h.runs k' _ hk'
    rw [hfresh] at hw
    cases hw
  have hself : Function.update s.running k (some s.calls) k = some s.calls := Function.update_self ..
  rw [hstep]
  apply h.loop (k := k)
  · exact about_received
  · exact fun k' hk' => Function.update_of_ne hk' ..
  · intro k' j _ hk'
    refine ⟨fun hsame => hne k' j hk' ?_, Tx.put_of_ne (hne k' j hk')⟩
    exact (Option.some.inj (hself.symm.trans hsame)).symm
  · obtain ⟨txOuts, hsound, hmerged, hline⟩ := h.tx
    have hnext := Tx.sound_step s.tx txOuts (.hostConsoleWrite s.calls bytes) hsound
    rw [hstep] at hnext
    refine ⟨txOuts ++ [.none], hnext, ?_, ?_⟩
    · rw [pieces_none, hmerged, passed_concat]
      exact congrArg merged (List.append_nil _).symm
    · rw [wire_none, line_concat, hline]
      exact (List.append_nil _).symm
  · intro p hp
    cases hp
  · intro i hi
    have hlt : s.calls < i := hi
    exact (Tx.put_of_ne hlt.ne').trans (h.fresh i hlt.le)
  · intro j hj
    obtain rfl := Option.some.inj (hself.symm.trans hj)
    exact ⟨_, Tx.put_self .., fun _ => WritePc.noConfusion, List.mem_append_right _ (List.mem_singleton_self _)⟩
  · intro k' rest ho
    cases ho
  · have hkept := h.kept k
    rw [rest_idle hidle] at hkept
    rw [rest_running hself (Tx.put_self ..)]
    exact hkept.receive

lemma piece_append_rest (w : Write) : w.piece ++ w.buf.drop (w.copied + w.piece.length) = w.buf.drop w.copied := by
  obtain ⟨tail, htail⟩ := List.take_prefix uartTxBufSize (w.buf.drop w.copied)
  have hsplit : w.piece ++ tail = w.buf.drop w.copied := htail
  rw [← List.drop_drop, ← hsplit, List.drop_left]

lemma progress_buf {w' : Write} {out : TxOutput} (h : Progress i w ret w' out) : w'.buf = w.buf := by
  cases h <;> rfl

lemma not_transmit (h : w.pc = .loop ∨ w.pc = .take ∨ w.pc = .copy) : w.pc ≠ .transmit := by
  rcases h with hpc | hpc | hpc <;> rw [hpc] <;> exact WritePc.noConfusion

lemma runCall_kept {w' : Write} {out : TxOutput} (hkept : Kept k (left w) outs) (h : Progress i w ret w' out) :
    Kept k (left w')
      (outs ++ [if w.pc = .transmit ∧ ret < 0 then .refused k (w.buf.drop w.copied) else .ofTx k out]) := by
  cases h with
  | moves pc hpc hold =>
    have hout : ¬ (w.pc = .transmit ∧ ret < 0) := fun hrefused => not_transmit hold hrefused.1
    have hleft : left w = left { w with pc := pc } := by
      rcases hold with hpc' | hpc' | hpc' <;> rcases hpc with rfl | rfl | rfl <;> simp [left, hpc']
    rw [if_neg hout, ← hleft]
    exact hkept.other rfl rfl
  | passes hpc hret =>
    have hout : ¬ (w.pc = .transmit ∧ ret < 0) := fun hrefused => hret.not_gt hrefused.2
    have hleft : left w = w.piece ++ w.buf.drop (w.copied + w.piece.length) := by
      rw [left, hpc, piece_append_rest]
    rw [if_neg hout]
    rw [hleft] at hkept
    exact hkept.handle rfl (by simp [InputOutput.handled?, InputOutput.ofTx])
  | refused hpc hret =>
    have hleft : left w = w.buf.drop w.copied ++ [] := by rw [left, hpc, List.append_nil]
    rw [if_pos (show w.pc = .transmit ∧ ret < 0 from ⟨hpc, hret⟩)]
    rw [hleft] at hkept
    exact hkept.handle rfl (by simp [InputOutput.handled?])
  | completes hpc hall =>
    have hout : ¬ (w.pc = .transmit ∧ ret < 0) := fun hrefused => by cases hpc.symm.trans hrefused.1
    have hleft : left w = [] := by rw [left, hpc]; exact List.drop_eq_nil_of_le hall
    rw [if_neg hout]
    rw [hleft] at hkept
    exact hkept.other rfl rfl
  | fails err result hpc =>
    have hout : ¬ (w.pc = .transmit ∧ ret < 0) := fun hrefused => by cases hpc.symm.trans hrefused.1
    have hleft : left w = [] := by rw [left, hpc]
    rw [if_neg hout]
    rw [hleft] at hkept
    exact hkept.other rfl rfl

lemma runCall_tx {w' : Write} {out : TxOutput} {txOuts : List TxOutput}
    (hmerged : merged (pieces txOuts) = merged (passed outs)) (hline : wire txOuts = line outs)
    (h : Progress i w ret w' out) :
    let o := if w.pc = .transmit ∧ ret < 0 then .refused k (w.buf.drop w.copied) else .ofTx k out
    merged (pieces (txOuts ++ [out])) = merged (passed (outs ++ [o])) ∧ wire (txOuts ++ [out]) = line (outs ++ [o]) ∧
      ∀ p ∈ o.piece?, p.2.length ≤ uartTxBufSize := by
  intro o
  have hsilent : out = .none → o.piece? = none → o.byte? = none →
      merged (pieces (txOuts ++ [out])) = merged (passed (outs ++ [o])) ∧
        wire (txOuts ++ [out]) = line (outs ++ [o]) ∧ ∀ p ∈ o.piece?, p.2.length ≤ uartTxBufSize := by
    rintro rfl hpiece hbyte
    rw [pieces_none, wire_none, passed_concat, line_concat, hpiece, hbyte, hmerged, hline]
    simp
  cases h with
  | moves pc hpc hold =>
    have ho : o = .none := if_neg fun hrefused => not_transmit hold hrefused.1
    exact hsilent rfl (ho ▸ rfl) (ho ▸ rfl)
  | passes hpc hret =>
    have ho : o = .piece k w.piece := if_neg fun hrefused => hret.not_gt hrefused.2
    rw [ho, pieces_piece, wire_piece, merged_concat, passed_concat, line_concat, hmerged, hline]
    refine ⟨merged_concat.symm, (List.append_nil _).symm, ?_⟩
    rintro p hp
    obtain rfl := Option.some.inj hp
    exact w.piece_length_le
  | refused hpc hret =>
    have ho : o = .refused k (w.buf.drop w.copied) := if_pos ⟨hpc, hret⟩
    exact hsilent rfl (ho ▸ rfl) (ho ▸ rfl)
  | completes hpc hall =>
    have ho : o = .none := if_neg fun hrefused => by cases hpc.symm.trans hrefused.1
    exact hsilent rfl (ho ▸ rfl) (ho ▸ rfl)
  | fails err result hpc =>
    have ho : o = .none := if_neg fun hrefused => by cases hpc.symm.trans hrefused.1
    exact hsilent rfl (ho ▸ rfl) (ho ▸ rfl)

lemma left_returned (h : returned w = true) : left w = [] := by
  rw [returned] at h
  split at h
  · rw [left, ‹w.pc = _›]
  · cases h

lemma not_done {w' : Write} (h : returned w' = false) (result : ℤ) : w'.pc ≠ .done result := by
  intro hpc
  rw [returned, hpc] at h
  cases h

lemma sound_runCall (h : s.Sound outs) (hk : s.running k = some i) (hw : s.tx.writes i = some w) (ret : ℤ) :
    (s.runCall k i w ret).1.Sound (outs ++ [(s.runCall k i w ret).2]) := by
  obtain ⟨v, hv, hruns⟩ := h.runs k i hk
  obtain rfl := Option.some.inj (hw.symm.trans hv)
  obtain ⟨w', hw', hprogress⟩ := progress hw hruns ret
  have hended : ((s.tx.consoleLogWrite i w ret).1.writes i).elim true returned = returned w' := by
    rw [hw']
    rfl
  have hrest := h.kept k
  rw [rest_running hk hw] at hrest
  have hkept := runCall_kept hrest hprogress
  obtain ⟨txOuts, htx, hmerged, hline⟩ := h.tx
  obtain ⟨hmerged, hline, hsmall⟩ := runCall_tx (k := k) hmerged hline hprogress
  rw [runCall]
  dsimp only
  rw [hended]
  apply h.loop (k := k)
  · split_ifs
    · exact about_refused
    · exact about_ofTx _
  · intro k' hk'
    dsimp only
    split_ifs
    · exact Function.update_of_ne hk' ..
    · rfl
  · intro k' j hk' hj
    have hne : j ≠ i := fun hji => hk' (h.apart k' k i (hji ▸ hj) hk)
    refine ⟨?_, writes_of_ne hne⟩
    dsimp only
    split_ifs
    · rw [Function.update_self]
      exact (Option.some_ne_none j).symm
    · rw [hk]
      exact fun hsame => hne (Option.some.inj hsame).symm
  · exact ⟨txOuts ++ [_], htx.consoleLogWrite hw ret, hmerged, hline⟩
  · exact hsmall
  · intro j hj
    have hne : j ≠ i := by
      rintro rfl
      rw [h.fresh j hj] at hw
      cases hw
    rw [writes_of_ne hne]
    exact h.fresh j hj
  · intro j hj
    cases hreturned : returned w' with
    | true =>
      rw [hreturned] at hj
      exact absurd ((Function.update_self ..).symm.trans hj) (Option.some_ne_none j).symm
    | false =>
      rw [hreturned] at hj
      obtain rfl := Option.some.inj (hk.symm.trans hj)
      refine ⟨w', hw', not_done hreturned, List.mem_append_left _ ?_⟩
      rw [progress_buf hprogress]
      exact h.given k i w hk hw
  · intro k' rest ho
    split_ifs at ho with hrefused
    · cases ho
      exact ⟨w.buf, h.given k i w hk hw, List.drop_suffix _ _⟩
    · cases hout : (s.tx.consoleLogWrite i w ret).2 <;> rw [hout] at ho <;> cases ho
  · cases hreturned : returned w' with
    | true =>
      rw [left_returned hreturned] at hkept
      rw [rest_idle (Function.update_self ..)]
      exact hkept
    | false =>
      have hmore : rest ⟨(s.tx.consoleLogWrite i w ret).1, s.calls, s.running⟩ k = left w' :=
        rest_running hk hw'
      rw [← hmore] at hkept
      exact hkept

lemma sound_step (s : Input) (outs : List InputOutput) (e : InputEvent) (h : s.Sound outs) :
    (s.step e).1.Sound (outs ++ [(s.step e).2]) := by
  have hnothing : s.Sound (outs ++ [.none]) :=
    h.uart rfl (fun txOuts htx => htx.silent) rfl
  cases e with
  | recv k bytes =>
    rw [step]
    split_ifs with hreceives
    · exact sound_recv h hreceives.1
    · exact hnothing
  | run k ret =>
    rw [step]
    cases hk : s.running k with
    | none => exact hnothing
    | some i =>
      obtain ⟨w, hw, -⟩ := h.runs k i hk
      simp only [hw]
      exact sound_runCall h hk hw ret
  | sendByte => exact sound_sendByte h
  | txDone => exact sound_txDone h

end Input

/-- Whatever the interleaving, what leaves the UART is what the bridges passed on, in pieces that are never mixed.
Of what its clients typed each bridge passes on everything in order, but for the end of what a refused call had. -/
theorem typed_in_order (buffer : Vector UInt8 uartTxBufSize) (es : List InputEvent) :
    let s := exec Input.step (.init buffer) es
    let outs := outputs Input.step (.init buffer) es
    merged (passed outs) = line outs ++ s.tx.unsent ∧ (∀ p ∈ passed outs, p.2.length ≤ uartTxBufSize) ∧
      ∀ k, handled k outs ++ s.rest k = received k outs ∧
        ∀ rest, .refused k rest ∈ outs → ∃ bytes, .received k bytes ∈ outs ∧ rest <:+ bytes := by
  intro s outs
  have h : s.Sound outs := by
    have hrun := record_invariant (fun s outs e => Input.sound_step s outs e) (Input.sound_init buffer) es
    rwa [List.nil_append] at hrun
  obtain ⟨txOuts, hsound, hmerged, hline⟩ := h.tx
  refine ⟨?_, h.small, fun k => ⟨h.kept k, h.refused k⟩⟩
  rw [← hmerged, ← hline]
  exact hsound.onWire

end WallaBMC.Bridge
