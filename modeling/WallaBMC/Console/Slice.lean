import WallaBMC.Console.Read

/-! What one read returns, in whatever state the log is, as long as its counters fit together and the memory
holds the log from the window start on. -/

namespace WallaBMC.Console

/-- What is handed over is at most one log size ahead. -/
structure ConsoleLog.Consistent (log : ConsoleLog) : Prop where
  received_le : log.received.toNat ≤ log.allocated.toNat
  allocated_le : log.allocated.toNat ≤ log.received.toNat + log.size.bytes

def ConsoleLog.start (log : ConsoleLog) : ℕ :=
  if log.received.toNat < log.size.bytes then 0 else log.allocated.toNat - log.size.bytes

def ConsoleLog.Holds (log : ConsoleLog) (byteAt : ℕ → UInt8) : Prop :=
  ∀ i, log.start ≤ i → i < log.received.toNat → log.logBuffer (i % log.size.bytes) = byteAt i

/-- The `while` loop goes from one state to its end in the other. -/
inductive Loops (log : ConsoleLog) (size : ℕ) : CopyState → CopyState → Prop
  | full {st : CopyState} (h : ¬ st.copied < size) : Loops log size st st
  | empty {st : CopyState} (h : st.copied < size) (hlen : copyLen log size st = 0) : Loops log size st st
  | round {st st' : CopyState} (h : st.copied < size) (hlen : copyLen log size st ≠ 0)
      (hrest : Loops log size (copyRound log size st) st') : Loops log size st st'

structure ReadsSlice (log : ConsoleLog) (byteAt : ℕ → UInt8) (buf : ℕ → UInt8) (size : ℕ) (ppos : UInt64)
    (k : ℕ) (res : ReadResult) : Prop where
  ret : res.ret = k
  cursor : res.ppos.toNat = max ppos.toNat log.start + k
  filled : ∀ i < k, res.buf i = byteAt (max ppos.toNat log.start + i)
  kept : ∀ i, k ≤ i → res.buf i = buf i

variable {log : ConsoleLog} {byteAt buf : ℕ → UInt8} {size fuel : ℕ} {ppos : UInt64}

lemma loops_copyLoop (st : CopyState) (hfuel : size ≤ st.copied + fuel) :
    Loops log size st (copyLoop log size fuel st) := by
  induction fuel generalizing st with
  | zero =>
    apply Loops.full
    omega
  | succ fuel ih =>
    rw [copyLoop]
    split_ifs with hmore hlen
    · exact .empty hmore hlen
    · apply Loops.round hmore hlen
      apply ih
      have hcopied : (copyRound log size st).copied = st.copied + copyLen log size st := rfl
      omega
    · exact .full hmore

lemma ConsoleLog.Consistent.windowStart_eq (h : log.Consistent) : (windowStart log).toNat = log.start := by
  have hahead := h.received_le
  rw [ConsoleLog.start]
  split_ifs with hfirst
  · rw [windowStart_first hfirst]
    rfl
  · exact toNat_windowStart_wrapped (not_lt.mp hfirst) ((not_lt.mp hfirst).trans hahead)

lemma ConsoleLog.Consistent.start_le (h : log.Consistent) : log.start ≤ log.received.toNat := by
  have hahead := h.allocated_le
  rw [ConsoleLog.start]
  split_ifs
  · exact Nat.zero_le _
  · exact Nat.sub_le_of_le_add hahead

lemma ConsoleLog.Consistent.reads (h : log.Consistent) (hbytes : log.Holds byteAt) (buf : ℕ → UInt8) (size : ℕ)
    (hpos : ppos.toNat ≤ log.received.toNat) :
    ReadsSlice log byteAt buf size ppos (min size (log.received.toNat - max ppos.toNat log.start))
      (consoleLogRead log buf size ppos) := by
  have hwindow := h.windowStart_eq
  have hspec := consoleLogRead_spec buf size hpos (hwindow.trans_le h.start_le)
  have hfrom : readFrom log ppos = max ppos.toNat log.start := by rw [readFrom, hwindow]
  have hcount : readCount log size ppos = min size (log.received.toNat - max ppos.toNat log.start) := by
    rw [readCount, hfrom]
  rw [← hcount]
  constructor
  · exact hspec.ret_eq
  · rw [hspec.ppos_eq, hfrom]
  · intro i hi
    rw [hspec.buf_eq, if_pos hi, hfrom]
    apply hbytes
    · exact (le_max_right _ _).trans (Nat.le_add_right _ _)
    · rw [hcount] at hi
      omega
  · intro i hi
    rw [hspec.buf_eq, if_neg hi.not_gt]

/-- Behind `received` a read is refused; otherwise its loop ends and it returns the slice that is there. -/
theorem consoleLogRead_slice (log : ConsoleLog) (byteAt buf : ℕ → UInt8) (size : ℕ) (ppos : UInt64)
    (h : log.Consistent) (hbytes : log.Holds byteAt) :
    (ppos.toNat ≤ log.received.toNat →
      (∃ st, Loops log size ⟨if windowStart log > ppos then windowStart log else ppos, 0, buf, []⟩ st ∧
          consoleLogRead log buf size ppos = ⟨if st.copied ≠ 0 then st.copied else 0, st.buf, st.pos, st.sources⟩) ∧
        ReadsSlice log byteAt buf size ppos (min size (log.received.toNat - max ppos.toNat log.start))
          (consoleLogRead log buf size ppos)) ∧
      (log.received.toNat < ppos.toNat → consoleLogRead log buf size ppos = ⟨-einval, buf, ppos, []⟩) := by
  constructor
  · intro hpos
    refine ⟨⟨_, loops_copyLoop _ (Nat.le_add_left size 0), ?_⟩, h.reads hbytes buf size hpos⟩
    have hinside : ¬ ppos > log.received := UInt64.lt_iff_toNat_lt.not.mpr (not_lt.mpr hpos)
    rw [consoleLogRead, if_neg hinside]
  · intro hbehind
    rw [consoleLogRead, if_pos (UInt64.lt_iff_toNat_lt.mpr hbehind)]

/-- Six bytes of the second lap are there, and eight are handed over. -/
def secondLap : ConsoleLog :=
  ⟨72, 70, kconfigMinLog, fun off => UInt8.ofNat (if off < 6 then off + 64 else off)⟩

lemma secondLap_consistent : secondLap.Consistent := ⟨by decide, by decide⟩

lemma secondLap_holds : secondLap.Holds UInt8.ofNat := by
  intro i hlow hhigh
  have hstart : secondLap.start = 8 := rfl
  have hreceived : secondLap.received.toNat = 70 := rfl
  have hsize : secondLap.size.bytes = 64 := rfl
  rw [hsize]
  simp only [secondLap]
  congr 1
  split_ifs <;> omega

theorem consoleLogRead_slice_wrapped :
    ReadsSlice secondLap UInt8.ofNat (fun _ => 0) 100 60 10 (consoleLogRead secondLap (fun _ => 0) 100 60) :=
  ((consoleLogRead_slice secondLap UInt8.ofNat (fun _ => 0) 100 60 secondLap_consistent secondLap_holds).1
    (by decide)).2

end WallaBMC.Console
