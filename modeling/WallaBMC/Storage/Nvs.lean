import Mathlib.Tactic

/-! `fs.c` on top of the NVS of Zephyr. A key without data is missing. An operation that the flash makes
fail returns the error of its `fault`; `faults` are those of the successive attempts. -/

namespace WallaBMC.Storage

abbrev Errno := ℕ+

def enoent : Errno := 2

def eio : Errno := 5

def eacces : Errno := 13

def enodev : Errno := 19

def einval : Errno := 22

structure Nvs where
  entries : UInt16 → List UInt8
  ready : Bool

structure ReadFault where
  errno : Errno
  partly : List UInt8

structure ClearFault where
  errno : Errno
  erased : UInt16 → Bool

/-- The result of a read, and what it put at the start of the buffer. -/
structure ReadResult where
  rc : ℤ
  written : List UInt8

def flashWriteRetryCount : ℕ := 3

namespace Nvs

def read (nvs : Nvs) (fault : Option ReadFault) (id : UInt16) (size : ℕ) : ReadResult :=
  if !nvs.ready then ⟨-eacces, []⟩
  else
    match fault with
    | some fault => ⟨-fault.errno, fault.partly.take size⟩
    | none =>
      if nvs.entries id = [] then ⟨-enoent, []⟩
      else ⟨(nvs.entries id).length, (nvs.entries id).take size⟩

def write (nvs : Nvs) (fault : Option Errno) (id : UInt16) (data : List UInt8) : ℤ × Nvs :=
  if !nvs.ready then (-eacces, nvs)
  else
    match fault with
    | some errno => (-errno, nvs)
    | none =>
      if nvs.entries id = data then (0, nvs)
      else (data.length, { nvs with entries := Function.update nvs.entries id data })

def clear (nvs : Nvs) (fault : Option ClearFault) : ℤ × Nvs :=
  if !nvs.ready then (-eacces, nvs)
  else
    match fault with
    | some fault =>
      (-fault.errno,
        { nvs with entries := fun id => if fault.erased id then [] else nvs.entries id })
    | none => (0, ⟨fun _ => [], false⟩)

end Nvs

structure Fs where
  enabled : Bool
  nvs : Nvs

section

variable {φ : Type*}

/-- `attempt`, with at most `retries` further attempts while it returns `-EIO`. -/
def again (attempt : Option φ → Nvs → ℤ × Nvs) : ℕ → List φ → Nvs → ℤ × Nvs
  | 0, faults, nvs => attempt faults.head? nvs
  | retries + 1, faults, nvs =>
    let (rc, nvs) := attempt faults.head? nvs
    if rc = -eio then again attempt retries faults.tail nvs else (rc, nvs)

end

def mountFs (fs : Fs) (pageInfo mount : Option Errno) : ℤ × Fs :=
  match pageInfo, mount with
  | some errno, _ => (-errno, fs)
  | none, some errno => (-errno, fs)
  | none, none => (0, ⟨true, { fs.nvs with ready := true }⟩)

def fsInit (fs : Fs) (deviceReady : Bool) (pageInfo mount : Option Errno) : ℤ × Fs :=
  if !deviceReady then (-enodev, fs) else mountFs fs pageInfo mount

def fsClear (faults : List ClearFault) (fs : Fs) : ℤ × Fs :=
  if !fs.enabled then (-enodev, fs)
  else
    let (rc, nvs) := again (fun fault nvs => nvs.clear fault) flashWriteRetryCount faults fs.nvs
    (rc, { fs with nvs := nvs })

def fsKeyRead (fault : Option ReadFault) (fs : Fs) (id : UInt16) (size : ℕ) : ReadResult :=
  if !fs.enabled then ⟨-enodev, []⟩
  else
    let result := fs.nvs.read fault id size
    if result.rc < 0 then result
    else if size < result.rc then ⟨-einval, result.written⟩
    else result

def fsKeyWrite (faults : List Errno) (fs : Fs) (id : UInt16) (data : List UInt8) : ℤ × Fs :=
  if !fs.enabled then (-enodev, fs)
  else
    let (rc, nvs) :=
      again (fun fault nvs => nvs.write fault id data) flashWriteRetryCount faults fs.nvs
    (if rc = 0 then data.length else rc, { fs with nvs := nvs })

section Specs

def Fs.entry (fs : Fs) (id : UInt16) : List UInt8 := fs.nvs.entries id

def Fs.put (fs : Fs) (id : UInt16) (data : List UInt8) : Fs :=
  { fs with nvs := { fs.nvs with entries := Function.update fs.nvs.entries id data } }

def Fs.up (fs : Fs) : Bool := fs.enabled && fs.nvs.ready

def Outlasted (retries : ℕ) (faults : List Errno) : Prop :=
  faults.length ≤ retries ∧ ∀ errno ∈ faults, errno = eio

instance (retries : ℕ) (faults : List Errno) : Decidable (Outlasted retries faults) :=
  inferInstanceAs (Decidable (_ ∧ _))

variable {fs : Fs} {nvs : Nvs} {id : UInt16} {data : List UInt8} {retries : ℕ} {faults : List Errno}

@[simp] lemma Fs.entry_put (fs : Fs) (id : UInt16) (data : List UInt8) (other : UInt16) :
    (fs.put id data).entry other = if other = id then data else fs.entry other :=
  Function.update_apply ..

@[simp] lemma Fs.up_put (fs : Fs) (id : UInt16) (data : List UInt8) : (fs.put id data).up = fs.up :=
  rfl

lemma Fs.up_iff : fs.up = true ↔ fs.enabled = true ∧ fs.nvs.ready = true := Bool.and_eq_true_iff

lemma outlasted_nil (retries : ℕ) : Outlasted retries [] := ⟨Nat.zero_le _, nofun⟩

lemma outlasted_cons {errno : Errno} :
    Outlasted (retries + 1) (errno :: faults) ↔ errno = eio ∧ Outlasted retries faults := by
  simp only [Outlasted, List.length_cons, List.forall_mem_cons]
  constructor
  · rintro ⟨hlen, heio, hrest⟩
    exact ⟨heio, by omega, hrest⟩
  · rintro ⟨heio, hlen, hrest⟩
    exact ⟨by omega, heio, hrest⟩

lemma errno_neg (errno : Errno) : -(errno : ℤ) < 0 := by
  have := errno.pos
  omega

lemma neg_errno_inj {errno errno' : Errno} : -(errno : ℤ) = -(errno' : ℤ) ↔ errno = errno' := by
  rw [neg_inj]
  exact ⟨fun h => PNat.coe_injective (by exact_mod_cast h), fun h => by rw [h]⟩

lemma nvs_write_done (hready : nvs.ready = true) (id : UInt16) (data : List UInt8) :
    ((nvs.write none id data).1 = 0 ∨ (nvs.write none id data).1 = data.length) ∧
      (nvs.write none id data).2 =
        { nvs with entries := Function.update nvs.entries id data } := by
  by_cases hsame : nvs.entries id = data
  · have hwrite : nvs.write none id data = (0, nvs) := by simp [Nvs.write, hready, hsame]
    rw [hwrite, ← hsame, Function.update_eq_self]
    exact ⟨.inl rfl, rfl⟩
  · simp [Nvs.write, hready, hsame]

lemma nvs_write_failed {errno : Errno} (hready : nvs.ready = true) (id : UInt16) (data : List UInt8) :
    nvs.write (some errno) id data = (-(errno : ℤ), nvs) := by
  simp [Nvs.write, hready]

lemma again_write_done (id : UInt16) (data : List UInt8) (hready : nvs.ready = true)
    (hout : Outlasted retries faults) :
    let out := again (fun fault nvs => nvs.write fault id data) retries faults nvs
    (out.1 = 0 ∨ out.1 = data.length) ∧
      out.2 = { nvs with entries := Function.update nvs.entries id data } := by
  have hdone := nvs_write_done hready id data
  induction retries generalizing faults with
  | zero =>
    have hnil : faults = [] := List.eq_nil_of_length_eq_zero (Nat.le_zero.mp hout.1)
    rwa [hnil]
  | succ retries ih =>
    cases faults with
    | nil =>
      have hne : (nvs.write none id data).1 ≠ -(eio : ℤ) := by
        have := errno_neg eio
        omega
      simpa only [again, List.head?_nil, hne, if_false] using hdone
    | cons errno faults =>
      obtain ⟨heio, hrest⟩ := outlasted_cons.mp hout
      subst heio
      simp only [again, List.head?_cons, nvs_write_failed hready, if_true, List.tail_cons]
      exact ih hrest

lemma again_write_failed (id : UInt16) (data : List UInt8) (hready : nvs.ready = true)
    (hout : ¬ Outlasted retries faults) :
    let out := again (fun fault nvs => nvs.write fault id data) retries faults nvs
    out.1 < 0 ∧ out.2 = nvs := by
  induction retries generalizing faults with
  | zero =>
    cases faults with
    | nil => exact absurd (outlasted_nil 0) hout
    | cons errno faults => simp [again, nvs_write_failed hready]
  | succ retries ih =>
    cases faults with
    | nil => exact absurd (outlasted_nil _) hout
    | cons errno faults =>
      rw [outlasted_cons] at hout
      simp only [again, List.head?_cons, nvs_write_failed hready, List.tail_cons, neg_errno_inj]
      split_ifs with heio
      · exact ih (fun h => hout ⟨heio, h⟩)
      · exact ⟨errno_neg errno, rfl⟩

lemma again_write_unready (hready : nvs.ready = false) :
    again (fun fault nvs => nvs.write fault id data) retries faults nvs = (-(eacces : ℤ), nvs) := by
  have hne : -(eacces : ℤ) ≠ -eio := by decide
  cases retries with
  | zero => simp [again, Nvs.write, hready]
  | succ retries => simp [again, Nvs.write, hready, hne]

theorem fsKeyWrite_done (id : UInt16) (data : List UInt8) (hup : fs.up = true) (hout : Outlasted flashWriteRetryCount faults) :
    0 ≤ (fsKeyWrite faults fs id data).1 ∧ (fsKeyWrite faults fs id data).2 = fs.put id data := by
  obtain ⟨henabled, hready⟩ := Fs.up_iff.mp hup
  obtain ⟨hrc, hnvs⟩ := again_write_done id data hready hout
  simp only [fsKeyWrite, henabled, Bool.not_true, Bool.false_eq_true, if_false, hnvs, Fs.put, and_true]
  split_ifs with hzero
  · exact Int.natCast_nonneg _
  · omega

theorem fsKeyWrite_failed (id : UInt16) (data : List UInt8)
    (h : fs.up = true → ¬ Outlasted flashWriteRetryCount faults) :
    (fsKeyWrite faults fs id data).1 < 0 ∧ (fsKeyWrite faults fs id data).2 = fs := by
  rw [fsKeyWrite]
  cases henabled : fs.enabled with
  | false => simp
  | true =>
    have hfs : (⟨true, fs.nvs⟩ : Fs) = fs := by rw [← henabled]
    cases hready : fs.nvs.ready with
    | false =>
      have hneg : -(eacces : ℤ) ≠ 0 := by decide
      simp only [again_write_unready hready, hneg, Bool.not_true, Bool.false_eq_true, if_false, hfs,
        and_true]
      decide
    | true =>
      obtain ⟨hrc, hnvs⟩ :=
        again_write_failed id data hready (h (Fs.up_iff.mpr ⟨henabled, hready⟩))
      simp only [Bool.not_true, Bool.false_eq_true, if_false, hnvs, hfs, and_true]
      split_ifs with hzero
      · omega
      · exact hrc

lemma again_clear_zero (nvs : Nvs) (retries : ℕ) (clearFaults : List ClearFault) :
    let out := again (fun fault nvs => nvs.clear fault) retries clearFaults nvs
    out.1 < 0 ∨ out.1 = 0 ∧ out.2.ready = false := by
  have hattempt : ∀ (nvs : Nvs) fault, (nvs.clear fault).1 < 0 ∨
      (nvs.clear fault).1 = 0 ∧ (nvs.clear fault).2.ready = false := by
    intro nvs fault
    cases hready : nvs.ready <;> cases fault <;> simp [Nvs.clear, hready]
  induction retries generalizing nvs clearFaults with
  | zero => exact hattempt nvs _
  | succ retries ih =>
    simp only [again]
    split_ifs with heio
    · exact ih _ _
    · exact hattempt nvs _

theorem fsClear_zero (fs : Fs) (clearFaults : List ClearFault) :
    (fsClear clearFaults fs).1 < 0 ∨
      (fsClear clearFaults fs).1 = 0 ∧ (fsClear clearFaults fs).2.up = false := by
  rw [fsClear, Fs.up]
  cases henabled : fs.enabled with
  | false => simp
  | true =>
    rcases again_clear_zero fs.nvs flashWriteRetryCount clearFaults with h | h
    · exact .inl h
    · exact .inr ⟨h.1, by simp [h.2]⟩

end Specs

end WallaBMC.Storage
