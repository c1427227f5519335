import WallaBMC.Console.Alignment
import WallaBMC.Library.LossyLog

/-! Without restarts the ring log refines an unbounded byte log: each event is one event of the log, the
window of a read being the one `console_log_read` computes. The counters are taken below `2 ^ 64`. -/

namespace WallaBMC.Console

open Library Library.Runs

variable {ι : Type*}

def Event.reads [DecidableEq ι] (r : ι) : Event ι → Bool
  | .read r' _ => r' = r
  | _ => false

namespace System

section

variable (config : LogSize)

/-- A reader runs only while every byte in memory has been counted. -/
def Quiet (s : System ι) : Event ι → Prop
  | .read _ _ => s.uart.pending = []
  | _ => True

def Steady (s : System ι) (e : Event ι) : Prop := RestartFree config s e ∧ Quiet s e

def delivered : Option ReadResult → List UInt8
  | none => []
  | some res => res.bytes

def deliveredTo [DecidableEq ι] (r : ι) (tr : List (Visit (System ι) (Event ι) (Option ReadResult))) : List UInt8 :=
  tr.flatMap (fun v => if v.event.reads r then delivered v.output else [])

def Overwritten [DecidableEq ι] (r : ι) (tr : List (Visit (System ι) (Event ι) (Option ReadResult))) (p : ℕ) : Prop :=
  ∃ v ∈ tr, v.event.reads r ∧ config.bytes ≤ v.state.log.received.toNat ∧
    p < v.state.log.allocated.toNat - config.bytes

def byteLog (s : System ι) : LossyLog.Log UInt8 ι :=
  ⟨s.reported, fun r => (s.cursor r).map UInt64.toNat⟩

def byteEvent (s : System ι) : Event ι → LossyLog.Event UInt8 ι
  | .store _ => .append []
  | .uart evt _ => .append (s.uart.reports evt)
  | .openAtStart r => .openAt r 0
  | .openAtEnd r => .openAt r s.log.received.toNat
  | .read r n => .read r n (windowStart s.log).toNat

end

instance (s : System ι) (e : Event ι) : Decidable (Quiet s e) := by
  cases e <;> unfold Quiet <;> infer_instance

instance (config : LogSize) (s : System ι) (e : Event ι) : Decidable (Steady config s e) := by
  unfold Steady
  infer_instance

variable {config : LogSize} {s : System ι} {e : Event ι} {r : ι} {pos : UInt64} {n p : ℕ}

lemma byteLog_storeByte (s : System ι) (b : UInt8) : byteLog (s.storeByte b) = byteLog s := by
  cases hf : s.uart.free <;> simp only [storeByte, hf, byteLog]

lemma Quiet.unlapped (h : Quiet s (.read r n)) : Unlapped config s := by
  have hp : s.uart.pending = [] := h
  simp only [Unlapped, stored_length, hp, List.length_nil]
  omega

lemma byteEvent_possible (h16 : 16 ∣ config.bytes) (h : Aligned config s)
    (he : Steady config s e) : LossyLog.Possible (byteLog s) (byteEvent s e) := by
  have hp : Possible s e := he.1.1.1
  cases e with
  | store b => trivial
  | uart evt ret => trivial
  | openAtStart r => exact ⟨Option.map_eq_none_iff.mpr hp, Nat.zero_le _⟩
  | openAtEnd r => exact ⟨Option.map_eq_none_iff.mpr hp, h.received_eq.le⟩
  | read r n =>
    exact ⟨fun hn => hp (Option.map_eq_none_iff.mp hn), h.received_eq ▸ h.windowStart_le h16⟩

section

variable [DecidableEq ι]

lemma byteLog_setCursor (s : System ι) (r : ι) (pos : UInt64) :
    byteLog (s.setCursor r pos) =
      ⟨s.reported, Function.update (byteLog s).next r (some pos.toNat)⟩ := by
  simp only [byteLog, LossyLog.Log.mk.injEq, setCursor_reported, true_and]
  funext r'
  by_cases hr : r' = r
  · subst hr
    rw [setCursor_self, Function.update_self, Option.map_some]
  · rw [setCursor_of_ne hr, Function.update_of_ne hr]

lemma byteLog_read (h16 : 16 ∣ config.bytes) (h : Aligned config s)
    (hin : LossyLog.Inside (byteLog s)) (hlap : Unlapped config s) (hc : s.cursor r = some pos)
    (n : ℕ) :
    LossyLog.step (byteLog s) (.read r n (windowStart s.log).toNat) =
      (byteLog (s.setCursor r (hostConsoleRead s.log (fun _ => 0) n pos).ppos),
        (hostConsoleRead s.log (fun _ => 0) n pos).bytes) := by
  have hnext : (byteLog s).next r = some pos.toNat := by simp only [byteLog, hc, Option.map_some]
  have hpos : pos.toNat ≤ s.log.received.toNat := h.received_eq ▸ hin r pos.toNat hnext
  have hspec : ReadSpec s.log (fun _ => 0) n pos (hostConsoleRead s.log (fun _ => 0) n pos) :=
    consoleLogRead_spec _ n hpos (h.windowStart_le h16)
  have hbytes : (hostConsoleRead s.log (fun _ => 0) n pos).bytes = _ :=
    h.read_bytes h16 hlap hpos (fun _ => 0) n
  have hout : LossyLog.readOut (byteLog s) pos.toNat n (windowStart s.log).toNat =
      (hostConsoleRead s.log (fun _ => 0) n pos).bytes := by
    rw [hbytes, readCount, h.received_eq, ← List.length_drop, ← List.take_eq_take_min]
    rfl
  have hend : max pos.toNat (windowStart s.log).toNat +
      (hostConsoleRead s.log (fun _ => 0) n pos).bytes.length =
      (hostConsoleRead s.log (fun _ => 0) n pos).ppos.toNat := by
    rw [hspec.bytes_length, hspec.ppos_eq, readFrom]
  rw [LossyLog.step_read hnext, byteLog_setCursor, hout, hend]
  rfl

lemma byteLog_step (h16 : 16 ∣ config.bytes) (h : Aligned config s)
    (hin : LossyLog.Inside (byteLog s)) (he : Steady config s e) :
    LossyLog.step (byteLog s) (byteEvent s e) =
      (byteLog (s.step config e).1, delivered (s.step config e).2) := by
  cases e with
  | store b =>
    simp only [byteEvent, LossyLog.step, List.append_nil]
    exact Prod.ext (byteLog_storeByte s b).symm rfl
  | uart evt ret => rfl
  | openAtStart r => exact Prod.ext (byteLog_setCursor s r 0).symm rfl
  | openAtEnd r => exact Prod.ext (byteLog_setCursor s r _).symm rfl
  | read r n =>
    obtain ⟨pos, hc⟩ := Option.ne_none_iff_exists'.mp he.1.1.1
    rw [step_read hc, byteEvent, byteLog_read h16 h hin he.2.unlapped hc]
    rfl

def ringLog (h16 : 16 ∣ config.bytes) :
    Simulation (step config) (fun (s : System ι) e => Steady config s e ∧ NoWrap config s e)
      (LossyLog.step : LossyLog.Log UInt8 ι → _ → _ × _) LossyLog.Possible where
  rel s log := Aligned config s ∧ LossyLog.Inside (byteLog s) ∧ log = byteLog s
  event := byteEvent
  output := delivered
  allows := by
    rintro s _ e ⟨hs, -, rfl⟩ ⟨he, -⟩
    exact byteEvent_possible h16 hs he
  keeps := by
    rintro s _ e ⟨hs, hin, rfl⟩ ⟨he, hw⟩
    have hstep := LossyLog.step_inside hin (byteEvent_possible h16 hs he)
    rw [byteLog_step h16 hs hin he] at hstep ⊢
    exact ⟨aligned_step h16 hs he.1.1 (he.1.lossless hw), hstep, rfl⟩
  answers := by
    rintro s _ e ⟨hs, hin, rfl⟩ ⟨he, -⟩
    rw [byteLog_step h16 hs hin he]

variable {tr : List (Visit (System ι) (Event ι) (Option ReadResult))}
  {tr' : List (Visit (LossyLog.Log UInt8 ι) (LossyLog.Event UInt8 ι) (List UInt8))}

lemma ringLog_outputs (h16 : 16 ∣ config.bytes) (r : ι)
    (h : List.Forall₂ (ringLog h16).Matches tr tr') : LossyLog.outputs r tr' = deliveredTo r tr := by
  induction h with
  | nil => rfl
  | @cons v v' tr tr' hv _ ih =>
    have hreads : v'.event.reads r = v.event.reads r := by
      rw [hv.event]
      cases he : v.event <;> simp [ringLog, byteEvent, LossyLog.Event.reads, Event.reads]
    simp only [LossyLog.outputs, deliveredTo, List.flatMap_cons] at ih ⊢
    rw [ih, hreads, hv.output]
    rfl

lemma overwritten_of_lost (h16 : 16 ∣ config.bytes)
    (h : List.Forall₂ (ringLog h16).Matches tr tr') (hp : LossyLog.Lost r tr' p) :
    Overwritten config r tr p := by
  induction h with
  | nil => simp [LossyLog.Lost] at hp
  | @cons v v' tr tr' hv _ ih =>
    obtain ⟨w, hw, n, win, hev, hlt⟩ := hp
    rcases List.mem_cons.mp hw with rfl | hw
    · refine ⟨v, List.mem_cons_self, ?_⟩
      have ha : Aligned config v.state := hv.state.1
      have hev' := hv.event.symm.trans hev
      have hread : v.event.reads r ∧ (windowStart v.state.log).toNat = win := by
        cases he : v.event with
        | read r' n' =>
          simp only [ringLog, byteEvent, he, LossyLog.Event.read.injEq] at hev'
          exact ⟨by simp [Event.reads, hev'.1], hev'.2.2⟩
        | store b | uart evt ret | openAtStart r' | openAtEnd r' =>
          simp [ringLog, byteEvent, he] at hev'
      obtain ⟨hreads, rfl⟩ := hread
      by_cases hfull : config.bytes ≤ v.state.reported.length
      · rw [ha.windowStart_full hfull] at hlt
        exact ⟨hreads, ha.received_eq ▸ hfull, hlt⟩
      · rw [ha.windowStart_first (by omega)] at hlt
        exact absurd hlt (Nat.not_lt_zero p)
    · obtain ⟨x, hx, hread⟩ := ih ⟨w, hw, n, win, hev, hlt⟩
      exact ⟨x, List.mem_cons_of_mem v hx, hread⟩

theorem ring_refines_byteLog (h16 : 16 ∣ config.bytes) (logBuffer : ℕ → UInt8) (ret : ℤ)
    (hret : 0 ≤ ret) (before after : List (Event ι))
    (hes : Along (step config) (fun s e => Steady config s e ∧ NoWrap config s e)
      (init config logBuffer ret) (before ++ after))
    (r : ι) (start : UInt64)
    (hopen : (exec (step config) (init config logBuffer ret) before).cursor r = some start) :
    let opened := exec (step config) (init config logBuffer ret) before
    let final := exec (step config) (init config logBuffer ret) (before ++ after)
    let tr := trace (step config) opened after
    ∃ pos, final.cursor r = some pos ∧ start.toNat ≤ pos.toNat ∧
      LossyLog.Delivers final.reported start.toNat pos.toNat (Overwritten config r tr)
        (deliveredTo r tr) := by
  intro opened final tr
  let sim : Simulation (step config) _ (LossyLog.step : LossyLog.Log UInt8 ι → _ → _ × _) _ :=
    ringLog h16
  have hinit : sim.rel (init config logBuffer ret) (byteLog (init config logBuffer ret)) :=
    ⟨aligned_init h16 logBuffer hret, fun r p hp => by simp [byteLog, init, uartRxStart] at hp, rfl⟩
  have hsplit := along_append.mp hes
  obtain ⟨haligned, hinside, -⟩ := sim.exec_run hinit hsplit.1
  have hmid : sim.rel opened (byteLog opened) := ⟨haligned, hinside, rfl⟩
  have hrun := sim.along hmid hsplit.2
  have hfinal : final = exec (step config) opened after := exec_append
  have hnext : (byteLog opened).next r = some start.toNat := by
    change (opened.cursor r).map UInt64.toNat = _
    rw [hopen, Option.map_some]
  obtain ⟨p, hp, hle, hdel⟩ := LossyLog.run_delivers hinside hrun hnext
  have hend := sim.exec_run hmid hsplit.2
  have htrace := sim.trace_run hmid hsplit.2
  have hlog : exec LossyLog.step (byteLog opened) (sim.run opened after) = byteLog final := by
    rw [hfinal]
    exact hend.2.2
  rw [hlog] at hp hdel
  obtain ⟨pos, hpos, rfl⟩ := Option.map_eq_some_iff.mp hp
  refine ⟨pos, hpos, hle, ?_⟩
  rw [← ringLog_outputs h16 r htrace]
  exact hdel.mono fun x hx => overwritten_of_lost h16 htrace hx

end

def lappedReader : List (Event ℕ) :=
  (List.replicate 16 [.store 7, .store 8, .store 9, .store 10, .uart (.rxRdy 4) 0,
    .uart .rxBufRequest 0]).flatten ++ [.read 0 10]

theorem ring_refines_byteLog_lappedReader :
    let opened := exec (step kconfigMinLog) (init kconfigMinLog (fun _ => 0) 0) [.openAtStart 0]
    let tr := trace (step kconfigMinLog) opened lappedReader
    ∃ pos, (exec (step kconfigMinLog) (init kconfigMinLog (fun _ => 0) 0)
        ([.openAtStart 0] ++ lappedReader)).cursor 0 = some pos ∧ 0 ≤ pos.toNat ∧
      LossyLog.Delivers (exec (step kconfigMinLog) (init kconfigMinLog (fun _ => 0) 0)
        ([.openAtStart 0] ++ lappedReader)).reported 0 pos.toNat (Overwritten kconfigMinLog 0 tr)
        (deliveredTo 0 tr) :=
  ring_refines_byteLog (by decide) _ 0 le_rfl [.openAtStart 0] lappedReader (by decide +kernel) 0 0
    (setCursor_self ..)

def zeroChunk : List (Event ℕ) :=
  [.store 0, .store 0, .store 0, .store 0, .uart (.rxRdy 4) 0, .uart .rxBufRequest 0]

def zeroChunks (n : ℕ) : List (Event ℕ) := (List.replicate n zeroChunk).flatten

def zeroLog (k : ℕ) : System ℕ :=
  ⟨⟨UInt64.ofNat (4 * k + 4), UInt64.ofNat (4 * k), kconfigMinLog, fun _ => 0⟩,
    ⟨List.range' (4 * k % 2 ^ 64 % 64) 4, []⟩, List.replicate (4 * k) 0, fun _ => none⟩

lemma exec_zeroChunk (k : ℕ) : exec (step kconfigMinLog) (zeroLog k) zeroChunk = zeroLog (k + 1) := by
  have hzero : ∀ a, Function.update (fun _ => 0 : ℕ → UInt8) a 0 = fun _ => 0 :=
    fun a => Function.update_eq_self a _
  have halloc : UInt64.ofNat (4 * k + 4) + UInt64.ofNat 4 = UInt64.ofNat (4 * (k + 1) + 4) := by
    rw [← UInt64.ofNat_add, Nat.mul_succ]
  have hrecv : UInt64.ofNat (4 * k) + UInt64.ofNat 4 = UInt64.ofNat (4 * (k + 1)) := by
    rw [← UInt64.ofNat_add, Nat.mul_succ]
  have hrep : List.replicate (4 * k) (0 : UInt8) ++ [0, 0, 0, 0] = List.replicate (4 * (k + 1)) 0 := by
    rw [Nat.mul_succ, ← List.replicate_append_replicate]
    rfl
  have hoff : (UInt64.ofNat (4 * k + 4) % (UInt64.ofNat 64)).toNat = 4 * (k + 1) % 2 ^ 64 % 64 := by
    rw [UInt64.toNat_mod, UInt64.toNat_ofNat']
    rfl
  simp only [zeroChunk, exec_cons, step, storeByte, zeroLog, List.range', hzero]
  rw [onUart_rxRdy, onUart_request le_rfl]
  simp only [withChunk, exec_nil, List.nil_append, List.cons_append, List.take, List.drop]
  rw [show uartRxBufSize kconfigMinLog = 4 from rfl, halloc, hrecv, hrep]
  simp only [ConsoleLog.sizeU64, show kconfigMinLog.bytes = 64 from rfl, hoff, List.range']

lemma along_zeroChunk (k : ℕ) :
    Along (step kconfigMinLog) (Steady kconfigMinLog) (zeroLog k) zeroChunk := by
  simp only [zeroChunk, along_cons, along_nil, and_true]
  refine ⟨?_, ?_, ?_, ?_, ?_, ?_⟩
  all_goals
    simp [Steady, RestartFree, Protocol, Possible, Pipelined, Quiet, Event.restarts,
      Event.asksChunk, Event.handsOver, Event.accepted, Uart.canRaise, outstanding, step, storeByte,
      zeroLog, List.range', onUart_rxRdy]

lemma exec_zeroChunks (n k : ℕ) :
    exec (step kconfigMinLog) (zeroLog k) (zeroChunks n) = zeroLog (k + n) := by
  induction n generalizing k with
  | zero => rfl
  | succ n ih =>
    rw [zeroChunks, List.replicate_succ, List.flatten_cons, exec_append, exec_zeroChunk,
      ← Nat.add_assoc, Nat.add_right_comm]
    exact ih (k + 1)

lemma along_zeroChunks (n k : ℕ) :
    Along (step kconfigMinLog) (Steady kconfigMinLog) (zeroLog k) (zeroChunks n) := by
  induction n generalizing k with
  | zero => trivial
  | succ n ih =>
    rw [zeroChunks, List.replicate_succ, List.flatten_cons, along_append, exec_zeroChunk]
    exact ⟨along_zeroChunk k, ih (k + 1)⟩

def wrappedLog (reported : List UInt8) : System ℕ :=
  ⟨⟨4, 0, kconfigMinLog, fun _ => 0⟩, ⟨[0, 1, 2, 3], []⟩, reported, fun _ => none⟩

lemma zeroLog_wrapped {n : ℕ} (h : 4 * n = 2 ^ 64) :
    zeroLog n = wrappedLog (List.replicate (4 * n) 0) := by
  have halloc : UInt64.ofNat (4 * n + 4) = 4 := by
    rw [UInt64.ofNat_add, h]
    rfl
  have hrecv : UInt64.ofNat (4 * n) = 0 := by
    rw [h]
    rfl
  rw [zeroLog, wrappedLog, halloc, hrecv, h]
  rfl

def freshByte : List (Event ℕ) := [.store 1, .uart (.rxRdy 1) 0, .read 0 1]

lemma along_freshByte (reported : List UInt8) :
    Along (step kconfigMinLog) (Steady kconfigMinLog) (wrappedLog reported)
      (.openAtStart 0 :: freshByte) := by
  simp only [freshByte, along_cons, along_nil, and_true]
  refine ⟨?_, ?_, ?_, ?_⟩
  all_goals
    simp [Steady, RestartFree, Protocol, Possible, Pipelined, Quiet, Event.restarts,
      Event.asksChunk, Event.handsOver, Uart.canRaise, step, storeByte, wrappedLog, onUart_rxRdy,
      setCursor]

def freshLog : ConsoleLog := ⟨4, 1, kconfigMinLog, Function.update (fun _ => 0) 0 1⟩

lemma freshLog_read :
    (hostConsoleRead freshLog (fun _ => 0) 1 0).ppos = 1 ∧
      (hostConsoleRead freshLog (fun _ => 0) 1 0).bytes = [1] := by
  decide +kernel

lemma freshByte_misread (reported : List UInt8) :
    let opened := (wrappedLog reported).setCursor 0 0
    (exec (step kconfigMinLog) opened freshByte).reported = reported ++ [1] ∧
      (exec (step kconfigMinLog) opened freshByte).cursor 0 = some 1 ∧
      deliveredTo 0 (trace (step kconfigMinLog) opened freshByte) = [1] := by
  intro opened
  let fresh : System ℕ := ⟨freshLog, ⟨[1, 2, 3], []⟩, reported ++ [1], opened.cursor⟩
  have hread : fresh.step kconfigMinLog (.read 0 1) =
      (fresh.setCursor 0 (hostConsoleRead freshLog (fun _ => 0) 1 0).ppos,
        some (hostConsoleRead freshLog (fun _ => 0) 1 0)) := by
    have hcursor : fresh.cursor 0 = some 0 := by simp only [fresh, opened, setCursor_self]
    exact step_read hcursor 1
  have hexec : exec (step kconfigMinLog) opened freshByte = (fresh.step kconfigMinLog (.read 0 1)).1 :=
    rfl
  have hstored : exec (step kconfigMinLog) opened [.store 1, .uart (.rxRdy 1) 0] = fresh := rfl
  have htrace : deliveredTo 0 (trace (step kconfigMinLog) opened freshByte) =
      delivered (fresh.step kconfigMinLog (.read 0 1)).2 := by
    simp only [exec_cons, exec_nil] at hstored
    simp [deliveredTo, freshByte, Event.reads, hstored]
  rw [hexec, htrace, hread, freshLog_read.1, delivered, freshLog_read.2]
  exact ⟨rfl, setCursor_self, rfl⟩

theorem ring_not_byteLog_wrapped :
    ¬ ∀ (config : LogSize) (logBuffer : ℕ → UInt8) (ret : ℤ) (before after : List (Event ℕ)),
      16 ∣ config.bytes → 0 ≤ ret →
      Along (step config) (Steady config) (init config logBuffer ret) (before ++ after) →
      ∀ (r : ℕ) (start : UInt64),
        (exec (step config) (init config logBuffer ret) before).cursor r = some start →
        let opened := exec (step config) (init config logBuffer ret) before
        let final := exec (step config) (init config logBuffer ret) (before ++ after)
        let tr := trace (step config) opened after
        ∃ pos, final.cursor r = some pos ∧ start.toNat ≤ pos.toNat ∧
          LossyLog.Delivers final.reported start.toNat pos.toNat (Overwritten config r tr)
            (deliveredTo r tr) := by
  intro h
  -- After `2 ^ 62` chunks both counters are 0 again. The next byte is returned by a read at cursor 0,
  -- where the first byte of the log belongs.
  obtain ⟨n, hn⟩ : ∃ n, 4 * n = 2 ^ 64 := ⟨2 ^ 62, by norm_num⟩
  have hinit : (init kconfigMinLog (fun _ => 0) 0 : System ℕ) = zeroLog 0 := rfl
  have hwrap : exec (step kconfigMinLog) (zeroLog 0) (zeroChunks n) =
      wrappedLog (List.replicate (4 * n) 0) := by
    rw [exec_zeroChunks, Nat.zero_add, zeroLog_wrapped hn]
  have hopened : exec (step kconfigMinLog) (zeroLog 0) (zeroChunks n ++ [.openAtStart 0]) =
      (wrappedLog (List.replicate (4 * n) 0)).setCursor 0 0 := by
    rw [exec_concat, hwrap, step]
  have hfinal : exec (step kconfigMinLog) (zeroLog 0)
      ((zeroChunks n ++ [.openAtStart 0]) ++ freshByte) =
      exec (step kconfigMinLog) ((wrappedLog (List.replicate (4 * n) 0)).setCursor 0 0) freshByte := by
    rw [exec_append, hopened]
  have hlegal : Along (step kconfigMinLog) (Steady kconfigMinLog) (init kconfigMinLog (fun _ => 0) 0)
      ((zeroChunks n ++ [.openAtStart 0]) ++ freshByte) := by
    rw [hinit, List.append_assoc, along_append, hwrap]
    exact ⟨along_zeroChunks n 0, along_freshByte _⟩
  obtain ⟨hrep, hcur, hout⟩ := freshByte_misread (List.replicate (4 * n) 0)
  obtain ⟨pos, hpos, -, ps, -, hps, hmap, -⟩ := h kconfigMinLog (fun _ => 0) 0 _ _ (by decide) le_rfl
    hlegal 0 0 (by rw [hinit, hopened]; exact setCursor_self)
  rw [hinit, hfinal, hcur, Option.some.injEq] at hpos
  rw [hinit, hfinal, hopened, hrep, hout] at hmap
  subst hpos
  obtain ⟨p, rfl⟩ : ∃ p, ps = [p] := by
    apply List.length_eq_one_iff.mp
    simpa using (congrArg List.length hmap).symm
  have hp : p = 0 := by
    have := (hps p (List.mem_singleton_self p)).2
    exact Nat.lt_one_iff.mp this
  have hlen : 0 < (List.replicate (4 * n) (0 : UInt8)).length := by
    rw [List.length_replicate, hn]
    norm_num
  rw [hp, List.map_singleton, List.map_singleton, List.getElem?_append_left hlen,
    List.getElem?_eq_getElem hlen, List.getElem_replicate] at hmap
  exact absurd hmap (by decide)

end System

end WallaBMC.Console
