import WallaBMC.Console.Log
import WallaBMC.Library.Ring

/-! `console_log_read` and what its copy loop returns. The field `sources` is not in the code: it
lists the `log_buffer` offsets the copied bytes came from. -/

namespace WallaBMC.Console

open Library.Ring

def einval : ℤ := 22

structure ReadResult where
  ret : ℤ
  buf : ℕ → UInt8
  ppos : UInt64
  sources : List ℕ

def ReadResult.bytes (res : ReadResult) : List UInt8 := (List.range res.ret.toNat).map res.buf

def memcpy (dst : ℕ → UInt8) (dstOff : ℕ) (src : ℕ → UInt8) (srcOff len : ℕ) : ℕ → UInt8 :=
  fun i => if dstOff ≤ i ∧ i < dstOff + len then src (srcOff + (i - dstOff)) else dst i

structure CopyState where
  pos : UInt64
  copied : ℕ
  buf : ℕ → UInt8
  sources : List ℕ

def copyLen (log : ConsoleLog) (size : ℕ) (st : CopyState) : ℕ :=
  let off := (st.pos % log.sizeU64).toNat
  let len := min (log.received - st.pos).toNat (log.size.bytes - off)
  min len (size - st.copied)

def copyRound (log : ConsoleLog) (size : ℕ) (st : CopyState) : CopyState :=
  let off := (st.pos % log.sizeU64).toNat
  let len := copyLen log size st
  { pos := st.pos + UInt64.ofNat len
    copied := st.copied + len
    buf := memcpy st.buf st.copied log.logBuffer off len
    sources := st.sources ++ List.range' off len }

-- Every round that goes on copies at least one byte, so `size` rounds of fuel are enough.
def copyLoop (log : ConsoleLog) (size : ℕ) : ℕ → CopyState → CopyState
  | 0, st => st
  | fuel + 1, st =>
    if st.copied < size then
      if copyLen log size st = 0 then st else copyLoop log size fuel (copyRound log size st)
    else st

def windowStart (log : ConsoleLog) : UInt64 :=
  if log.received < log.sizeU64 then 0 else log.allocated - log.sizeU64

def consoleLogRead (log : ConsoleLog) (buf : ℕ → UInt8) (size : ℕ) (ppos : UInt64) : ReadResult :=
  if ppos > log.received then ⟨-einval, buf, ppos, []⟩
  else
    let start := windowStart log
    let pos := if start > ppos then start else ppos -- lost characters, advance pos
    let st := copyLoop log size size ⟨pos, 0, buf, []⟩
    ⟨if st.copied ≠ 0 then st.copied else 0, st.buf, st.pos, st.sources⟩

def hostConsoleRead (log : ConsoleLog) (buf : ℕ → UInt8) (size : ℕ) (ppos : UInt64) : ReadResult :=
  consoleLogRead log buf size ppos

variable {log : ConsoleLog} {buf : ℕ → UInt8} {size k fuel : ℕ} {st : CopyState} {ppos : UInt64}

structure Copied (log : ConsoleLog) (st : CopyState) (k : ℕ) (st' : CopyState) : Prop where
  pos : st'.pos.toNat = st.pos.toNat + k
  copied : st'.copied = st.copied + k
  buf : ∀ i, st'.buf i = if st.copied ≤ i ∧ i < st.copied + k then
    log.logBuffer ((st.pos.toNat + (i - st.copied)) % log.size.bytes) else st.buf i
  sources : st'.sources = st.sources ++ slots log.size.bytes st.pos.toNat k

lemma Copied.refl : Copied log st 0 st where
  pos := rfl
  copied := rfl
  buf i := by rw [if_neg (by omega)]
  sources := by simp

lemma Copied.trans {st₁ st₂ : CopyState} {j : ℕ} (h : Copied log st k st₁)
    (h' : Copied log st₁ j st₂) : Copied log st (k + j) st₂ where
  pos := by rw [h'.pos, h.pos, Nat.add_assoc]
  copied := by rw [h'.copied, h.copied, Nat.add_assoc]
  buf i := by
    have hk := h.copied
    rw [h'.buf, h.pos, h.buf, hk]
    by_cases hi : st.copied + k ≤ i ∧ i < st.copied + k + j
    · rw [if_pos hi, if_pos (by omega)]
      congr 2
      omega
    · rw [if_neg hi]
      by_cases hi' : st.copied ≤ i ∧ i < st.copied + k
      · rw [if_pos hi', if_pos (by omega)]
      · rw [if_neg hi', if_neg (by omega)]
  sources := by rw [h'.sources, h.sources, h.pos, slots_append, List.append_assoc]

lemma copyLen_eq (size : ℕ) (hpos : st.pos.toNat ≤ log.received.toNat) :
    copyLen log size st = min (min (log.received.toNat - st.pos.toNat)
      (log.size.bytes - st.pos.toNat % log.size.bytes)) (size - st.copied) := by
  simp only [copyLen, toNat_sub _ _ hpos, toNat_off]

lemma copied_round (size : ℕ) (hpos : st.pos.toNat ≤ log.received.toNat) :
    Copied log st (copyLen log size st) (copyRound log size st) := by
  have hlen := copyLen_eq size hpos
  have hrec := log.received.toNat_lt
  have hoff := Nat.mod_lt st.pos.toNat log.size.pos
  set k := copyLen log size st
  have hk : st.pos.toNat % log.size.bytes + k ≤ log.size.bytes := by omega
  constructor
  · exact toNat_add_ofNat _ (by omega)
  · rfl
  · intro i
    dsimp only [copyRound, memcpy]
    by_cases hi : st.copied ≤ i ∧ i < st.copied + k
    · rw [if_pos hi, if_pos hi, toNat_off]
      congr 1
      rw [Nat.add_mod, Nat.mod_eq_of_lt (by omega : i - st.copied < log.size.bytes),
        Nat.mod_eq_of_lt (by omega : st.pos.toNat % log.size.bytes + _ < log.size.bytes)]
    · rw [if_neg hi, if_neg hi]
  · rw [slots_contiguous hk, ← toNat_off]
    rfl

lemma copyLoop_spec (log : ConsoleLog) (st : CopyState) (hpos : st.pos.toNat ≤ log.received.toNat)
    (hfuel : size ≤ st.copied + fuel) :
    Copied log st (min (size - st.copied) (log.received.toNat - st.pos.toNat))
      (copyLoop log size fuel st) := by
  induction fuel generalizing st with
  | zero =>
    rw [show size - st.copied = 0 by omega, Nat.zero_min]
    exact Copied.refl
  | succ fuel ih =>
    have hoff := Nat.mod_lt st.pos.toNat log.size.pos
    have hlen := copyLen_eq size hpos
    rw [copyLoop]
    split_ifs with hc h0
    · rw [show min (size - st.copied) (log.received.toNat - st.pos.toNat) = 0 by omega]
      exact Copied.refl
    · have hround := copied_round size hpos
      have hrest := ih _ (by rw [hround.pos]; omega) (by rw [hround.copied]; omega)
      convert hround.trans hrest using 1
      rw [hround.pos, hround.copied]
      omega
    · rw [show size - st.copied = 0 by omega, Nat.zero_min]
      exact Copied.refl

/-- In every round the loop makes, `log->received - pos` is computed without underflow. -/
def RoundsInside (log : ConsoleLog) (size : ℕ) : ℕ → CopyState → Prop
  | 0, _ => True
  | fuel + 1, st => st.copied < size → st.pos.toNat ≤ log.received.toNat ∧
    (copyLen log size st ≠ 0 → RoundsInside log size fuel (copyRound log size st))

lemma roundsInside (log : ConsoleLog) (size fuel : ℕ) (st : CopyState)
    (hpos : st.pos.toNat ≤ log.received.toNat) : RoundsInside log size fuel st := by
  induction fuel generalizing st with
  | zero => trivial
  | succ fuel ih =>
    refine fun _ => ⟨hpos, fun _ => ih _ ?_⟩
    have hlen := copyLen_eq size hpos
    rw [(copied_round size hpos).pos]
    omega

def readFrom (log : ConsoleLog) (ppos : UInt64) : ℕ := max ppos.toNat (windowStart log).toNat

def readCount (log : ConsoleLog) (size : ℕ) (ppos : UInt64) : ℕ :=
  min size (log.received.toNat - readFrom log ppos)

lemma toNat_pos (log : ConsoleLog) (ppos : UInt64) :
    (if windowStart log > ppos then windowStart log else ppos).toNat = readFrom log ppos := by
  rw [readFrom]
  split_ifs with h
  · have := UInt64.lt_iff_toNat_lt.mp h
    omega
  · have := UInt64.lt_iff_toNat_lt.not.mp h
    omega

structure ReadSpec (log : ConsoleLog) (buf : ℕ → UInt8) (size : ℕ) (ppos : UInt64)
    (res : ReadResult) : Prop where
  ret_eq : res.ret = readCount log size ppos
  ppos_eq : res.ppos.toNat = readFrom log ppos + readCount log size ppos
  sources_eq : res.sources = slots log.size.bytes (readFrom log ppos) (readCount log size ppos)
  buf_eq : ∀ i, res.buf i = if i < readCount log size ppos then
    log.logBuffer ((readFrom log ppos + i) % log.size.bytes) else buf i

theorem consoleLogRead_spec (buf : ℕ → UInt8) (size : ℕ) (hpos : ppos.toNat ≤ log.received.toNat)
    (hstart : (windowStart log).toNat ≤ log.received.toNat) :
    ReadSpec log buf size ppos (consoleLogRead log buf size ppos) := by
  have hle : ¬ ppos > log.received := UInt64.lt_iff_toNat_lt.not.mpr (by omega)
  set pos := if windowStart log > ppos then windowStart log else ppos with hpos'
  have hp : pos.toNat = readFrom log ppos := toNat_pos log ppos
  have hfrom : readFrom log ppos ≤ log.received.toNat := max_le hpos hstart
  have hloop : Copied log ⟨pos, 0, buf, []⟩ _ (copyLoop log size size ⟨pos, 0, buf, []⟩) :=
    copyLoop_spec log _ (by simpa only [hp] using hfrom) (by simp)
  simp only [hp, Nat.sub_zero] at hloop
  have hres : consoleLogRead log buf size ppos =
      let st := copyLoop log size size ⟨pos, 0, buf, []⟩
      ⟨if st.copied ≠ 0 then st.copied else 0, st.buf, st.pos, st.sources⟩ := by
    rw [consoleLogRead, if_neg hle]
  rw [hres]
  constructor
  · have hc := hloop.copied
    simp only [Nat.zero_add] at hc
    simp only [hc, readCount]
    split_ifs with h0
    · rfl
    · rw [not_not.mp h0]
      rfl
  · simpa only [hp, readCount] using hloop.pos
  · simpa only [hp, List.nil_append, readCount] using hloop.sources
  · intro i
    simpa [hp, readCount] using hloop.buf i

lemma copied_le_copyLoop (log : ConsoleLog) (size fuel : ℕ) (st : CopyState) :
    st.copied ≤ (copyLoop log size fuel st).copied := by
  induction fuel generalizing st with
  | zero => exact le_rfl
  | succ fuel ih =>
    rw [copyLoop]
    split_ifs
    · exact le_rfl
    · exact (Nat.le_add_right _ _).trans (ih (copyRound log size st))
    · exact le_rfl

lemma pos_le_copyLoop (log : ConsoleLog) (size fuel : ℕ) (st : CopyState)
    (hroom : st.pos.toNat + (size - st.copied) < 2 ^ 64) :
    st.pos.toNat ≤ (copyLoop log size fuel st).pos.toNat := by
  induction fuel generalizing st with
  | zero => exact le_rfl
  | succ fuel ih =>
    rw [copyLoop]
    split_ifs with hc h0
    · exact le_rfl
    · have hlen : copyLen log size st ≤ size - st.copied := min_le_right _ _
      have hround : (copyRound log size st).pos.toNat = st.pos.toNat + copyLen log size st :=
        toNat_add_ofNat _ (by omega)
      have hcopied : (copyRound log size st).copied = st.copied + copyLen log size st := rfl
      have hrest := ih (copyRound log size st) (by omega)
      omega
    · exact le_rfl

/-- Whatever the log is like, a cursor is not moved back while no counter overflows. -/
theorem le_consoleLogRead (buf : ℕ → UInt8) (hroom : readFrom log ppos + size < 2 ^ 64) :
    ppos.toNat ≤ (consoleLogRead log buf size ppos).ppos.toNat := by
  rw [consoleLogRead]
  split_ifs
  · exact le_rfl
  · have hfrom := toNat_pos log ppos
    have hloop := pos_le_copyLoop log size size
      ⟨if windowStart log > ppos then windowStart log else ppos, 0, buf, []⟩ (by simpa only [hfrom, Nat.sub_zero] using hroom)
    rw [hfrom] at hloop
    exact (le_max_left _ _).trans hloop

/-- In whatever state the log is, a read returns nothing only at `received`. -/
theorem consoleLogRead_empty (buf : ℕ → UInt8) (hsize : 0 < size)
    (h : (consoleLogRead log buf size ppos).ret = 0) : (consoleLogRead log buf size ppos).ppos = log.received := by
  rw [consoleLogRead] at h ⊢
  by_cases hpos : ppos > log.received
  · rw [if_pos hpos] at h
    have herr : -einval = 0 := h
    exact absurd herr (by decide)
  · rw [if_neg hpos] at h ⊢
    dsimp only at h ⊢
    obtain ⟨fuel, rfl⟩ := Nat.exists_eq_succ_of_ne_zero hsize.ne'
    generalize (if windowStart log > ppos then windowStart log else ppos) = pos at h ⊢
    rw [copyLoop, if_pos hsize] at h ⊢
    by_cases hlen : copyLen log (fuel + 1) ⟨pos, 0, buf, []⟩ = 0
    · have hoff := Nat.mod_lt pos.toNat log.size.pos
      have hzero : (log.received - pos).toNat = 0 := by
        simp only [copyLen, toNat_off] at hlen
        omega
      have hdiff : log.received - pos = 0 := UInt64.toNat_inj.mp hzero
      rw [Nat.succ_eq_add_one, if_pos hlen]
      rw [UInt64.sub_eq_iff_eq_add.mp hdiff, UInt64.zero_add]
    · rw [Nat.succ_eq_add_one, if_neg hlen] at h
      have hle := copied_le_copyLoop log (fuel + 1) fuel (copyRound log (fuel + 1) ⟨pos, 0, buf, []⟩)
      have hpositive : 0 < (copyRound log (fuel + 1) ⟨pos, 0, buf, []⟩).copied := by
        exact (Nat.pos_of_ne_zero hlen).trans_eq (Nat.zero_add _).symm
      rw [if_pos (by omega)] at h
      omega

lemma ReadSpec.bytes {res : ReadResult} (h : ReadSpec log buf size ppos res) :
    res.bytes = res.sources.map log.logBuffer := by
  rw [ReadResult.bytes, h.ret_eq, h.sources_eq]
  apply List.ext_getElem (by simp)
  intro i hi _
  simp only [List.length_map, List.length_range, Int.toNat_natCast] at hi
  simp [h.buf_eq, hi, slots, List.getElem_range']

lemma ReadSpec.bytes_length {res : ReadResult} (h : ReadSpec log buf size ppos res) :
    res.bytes.length = readCount log size ppos := by
  rw [h.bytes, h.sources_eq, List.length_map, slots_length]

lemma windowStart_first (h : log.received.toNat < log.size.bytes) : windowStart log = 0 := by
  rw [windowStart, if_pos (UInt64.lt_iff_toNat_lt.mpr (by simpa using h))]

lemma windowStart_wrapped (h : log.size.bytes ≤ log.received.toNat) :
    windowStart log = log.allocated - log.sizeU64 := by
  rw [windowStart, if_neg (UInt64.lt_iff_toNat_lt.not.mpr (by simpa using h))]

lemma toNat_windowStart_wrapped (h : log.size.bytes ≤ log.received.toNat)
    (ha : log.size.bytes ≤ log.allocated.toNat) :
    (windowStart log).toNat = log.allocated.toNat - log.size.bytes := by
  rw [windowStart_wrapped h, toNat_sub _ _ (by simpa using ha), toNat_sizeU64]

end WallaBMC.Console
