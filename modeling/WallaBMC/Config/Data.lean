import WallaBMC.Config.Net
import WallaBMC.Library.Bytes

/-! `config_data`, and how `config.c` reads its fields from storage and writes them back. A field is its
bytes in memory; those of `isStr` are C strings and are stored without their terminator. -/

namespace WallaBMC.Config

open Redfish Storage Library.Bytes

def maxHostnameLen : ℕ := 20

def maxPwLen : ℕ := 20

def maxNtpServerLen : ℕ := 40

def cfgCurrentVersion : UInt8 := 3

inductive ConfigId
  | version
  | bmcAdminPassword
  | bmcHostname
  | bmcDefaultIp4
  | bmcDefaultIp4Nm
  | bmcDefaultIp4Gw
  | bmcUseDhcp4
  | bmcUseNtp
  | bmcNtpServer
  | hostAutoPoweron
  deriving DecidableEq

namespace ConfigId

def key : ConfigId → UInt16
  | version => 1
  | bmcAdminPassword => 2
  | bmcHostname => 3
  | bmcDefaultIp4 => 4
  | bmcDefaultIp4Nm => 5
  | bmcDefaultIp4Gw => 6
  | bmcUseDhcp4 => 7
  | bmcUseNtp => 8
  | bmcNtpServer => 9
  | hostAutoPoweron => 10

def size : ConfigId → ℕ
  | version | bmcUseDhcp4 | bmcUseNtp | hostAutoPoweron => 1
  | bmcDefaultIp4 | bmcDefaultIp4Nm | bmcDefaultIp4Gw => 4
  | bmcAdminPassword => maxPwLen + 1
  | bmcHostname => maxHostnameLen + 1
  | bmcNtpServer => maxNtpServerLen + 1

def isStr : ConfigId → Bool
  | bmcAdminPassword | bmcHostname | bmcNtpServer => true
  | _ => false

/-- The longest value a field holds. -/
def limit (id : ConfigId) : ℕ := if id.isStr then id.size - 1 else id.size

def layout (id : ConfigId) (value : List UInt8) : List UInt8 := if id.isStr then value ++ [0] else value

/-- What `config_write` or `config_write_str` stores of the field. -/
def image (id : ConfigId) (mem : List UInt8) : List UInt8 := if id.isStr then cstr mem else mem

lemma size_pos (id : ConfigId) : 0 < id.size := by
  cases id <;> decide

lemma key_injective : Function.Injective key := by
  intro id id' h
  cases id <;> cases id' <;> first | rfl | exact absurd h (by decide)

@[simp] lemma key_inj {id id' : ConfigId} : id.key = id'.key ↔ id = id' := key_injective.eq_iff

end ConfigId

@[ext] structure ConfigData where
  bytes : ConfigId → List UInt8
  length_bytes : ∀ id, (bytes id).length = id.size

namespace ConfigData

def zero : ConfigData := ⟨fun id => List.replicate id.size 0, fun _ => List.length_replicate⟩

def set (data : ConfigData) (id : ConfigId) (mem : List UInt8) (h : mem.length = id.size) : ConfigData where
  bytes := Function.update data.bytes id mem
  length_bytes other := by
    by_cases hid : other = id
    · subst hid
      rw [Function.update_self, h]
    · rw [Function.update_of_ne hid, data.length_bytes]

def write (data : ConfigData) (id : ConfigId) (src : List UInt8) : ConfigData :=
  data.set id (overwrite (data.bytes id) src) (by rw [length_overwrite, data.length_bytes])

def terminate (data : ConfigData) (id : ConfigId) (i : ℕ) : ConfigData :=
  data.set id ((data.bytes id).set i 0) (by rw [List.length_set, data.length_bytes])

def strlcpy (data : ConfigData) (id : ConfigId) (src : CString) : ConfigData :=
  let copyLen := min src.bytes.length (id.size - 1)
  (data.write id (src.bytes.take copyLen)).terminate id copyLen

/-- The field holds as much of `value` as fits. -/
def assign (data : ConfigData) (id : ConfigId) (value : List UInt8) : ConfigData :=
  data.write id (id.layout (value.take id.limit))

def image (data : ConfigData) (id : ConfigId) : List UInt8 := id.image (data.bytes id)

def bmcDefaultIp4 (data : ConfigData) : Ip4 := ⟨data.bytes .bmcDefaultIp4, data.length_bytes _⟩

def bmcDefaultIp4Nm (data : ConfigData) : Ip4 := ⟨data.bytes .bmcDefaultIp4Nm, data.length_bytes _⟩

def bmcDefaultIp4Gw (data : ConfigData) : Ip4 := ⟨data.bytes .bmcDefaultIp4Gw, data.length_bytes _⟩

def bmcAdminPassword (data : ConfigData) : CString :=
  ⟨cstr (data.bytes .bmcAdminPassword), zero_notMem_cstr _⟩

def bmcUseDhcp4 (data : ConfigData) : Bool := data.bytes .bmcUseDhcp4 ≠ [0]

def bmcUseNtp (data : ConfigData) : Bool := data.bytes .bmcUseNtp ≠ [0]

end ConfigData

structure FieldFaults where
  read : Option ReadFault
  write : List Errno
  net : NetFaults

/-- What fails while each field is loaded or changed, and while the store is cleared. -/
structure Faults where
  field : ConfigId → FieldFaults
  clear : List ClearFault

def Faults.none : Faults := ⟨fun _ => ⟨.none, [], ⟨.none, fun _ => false, false, false⟩⟩, []⟩

structure State where
  data : ConfigData
  useFs : Bool
  fs : Fs
  net : Net

def State.entry (s : State) (id : ConfigId) : List UInt8 := s.fs.entry id.key

section

variable (faults : Faults) (s : State)

def configReadRaw (id : ConfigId) (size : ℕ) : ReadResult :=
  if s.useFs then fsKeyRead (faults.field id).read s.fs id.key size else ⟨-enodev, []⟩

def configWriteRaw (id : ConfigId) (src : List UInt8) : ℤ × State :=
  if s.useFs then
    let (rc, fs) := fsKeyWrite (faults.field id).write s.fs id.key src
    (rc, { s with fs := fs })
  else (-enodev, s)

def configRead (id : ConfigId) : ℤ × State :=
  let result := configReadRaw faults s id id.size
  (result.rc, { s with data := s.data.write id result.written })

def configReadStr (id : ConfigId) : ℤ × State :=
  let result := configReadRaw faults s id (id.size - 1)
  let data := s.data.write id result.written
  (result.rc, { s with data := if 0 ≤ result.rc then data.terminate id result.rc.toNat else data })

/-- The reading macro that fits the type of the field. -/
def readField (id : ConfigId) : ℤ × State :=
  if id.isStr then configReadStr faults s id else configRead faults s id

def configWrite (id : ConfigId) : ℤ × State := configWriteRaw faults s id (s.data.bytes id)

def configWriteStr (id : ConfigId) : ℤ × State :=
  configWriteRaw faults s id (cstr (s.data.bytes id))

def writeField (id : ConfigId) : ℤ × State :=
  if id.isStr then configWriteStr faults s id else configWrite faults s id

/-- The ends of the setters. -/
def configSave (id : ConfigId) : ℤ × State :=
  let (rc, s) := writeField faults s id
  if rc < 0 then (rc, s) else (0, s)

end

namespace ConfigData

variable {data : ConfigData} {id other : ConfigId} {mem src : List UInt8}

@[simp] lemma bytes_set_self (h : mem.length = id.size) : (data.set id mem h).bytes id = mem :=
  Function.update_self ..

@[simp] lemma bytes_write_self : (data.write id src).bytes id = overwrite (data.bytes id) src :=
  bytes_set_self _

lemma bytes_write_of_ne (h : other ≠ id) : (data.write id src).bytes other = data.bytes other :=
  Function.update_of_ne h ..

lemma bytes_terminate_of_ne {i : ℕ} (h : other ≠ id) :
    (data.terminate id i).bytes other = data.bytes other :=
  Function.update_of_ne h ..

lemma bytes_write_full (h : src.length = id.size) : (data.write id src).bytes id = src := by
  rw [bytes_write_self, overwrite_full (by rw [h, data.length_bytes])]

lemma write_write_full {first : List UInt8} (h : src.length = id.size) :
    (data.write id first).write id src = data.write id src := by
  ext other : 2
  by_cases hid : other = id
  · rw [hid, bytes_write_full h, bytes_write_full h]
  · rw [bytes_write_of_ne hid, bytes_write_of_ne hid, bytes_write_of_ne hid]

lemma write_terminate (h : src.length < id.size) :
    (data.write id src).terminate id src.length = data.write id (src ++ [0]) := by
  have hmem : src.length < (data.bytes id).length := by rwa [data.length_bytes]
  ext other : 2
  by_cases hid : other = id
  · rw [hid, terminate, bytes_set_self, bytes_write_self, bytes_write_self, overwrite_set hmem]
  · rw [bytes_terminate_of_ne hid, bytes_write_of_ne hid, bytes_write_of_ne hid]

lemma strlcpy_eq (data : ConfigData) (hstr : id.isStr = true) (src : CString) :
    data.strlcpy id src = data.assign id src.bytes := by
  have hpos := id.size_pos
  have htake : src.bytes.take (min src.bytes.length (id.size - 1)) = src.bytes.take (id.size - 1) := by
    rw [List.take_eq_take_iff]
    omega
  have hlen : min src.bytes.length (id.size - 1) = (src.bytes.take (id.size - 1)).length := by
    rw [List.length_take, min_comm]
  rw [strlcpy, htake, hlen, assign, ConfigId.layout, ConfigId.limit, if_pos hstr, if_pos hstr]
  exact write_terminate (by rw [List.length_take]; omega)

lemma image_str (h : id.isStr = true) : data.image id = cstr (data.bytes id) := if_pos h

lemma image_scalar (h : id.isStr = false) : data.image id = data.bytes id := by
  rw [image, ConfigId.image, h]
  rfl

lemma image_write_str (data : ConfigData) (hstr : id.isStr = true) (h : src.length < id.size) :
    (data.write id (src ++ [0])).image id = cstr src := by
  rw [image_str hstr, bytes_write_self, cstr_overwrite (by rwa [data.length_bytes])]

end ConfigData

section

variable {faults : Faults} {s : State} {id other : ConfigId}

def State.Writable (s : State) (faults : Faults) (id : ConfigId) : Prop :=
  s.useFs = true ∧ s.fs.up = true ∧ Outlasted flashWriteRetryCount (faults.field id).write

instance (s : State) (faults : Faults) (id : ConfigId) : Decidable (s.Writable faults id) :=
  inferInstanceAs (Decidable (_ ∧ _))

def State.put (s : State) (id : ConfigId) : State :=
  { s with fs := s.fs.put id.key (s.data.image id) }

@[simp] lemma State.entry_put (s : State) (id other : ConfigId) :
    (s.put id).entry other = if other = id then s.data.image id else s.entry other := by
  simp [State.put, State.entry]

lemma writeField_eq : writeField faults s id = configWriteRaw faults s id (s.data.image id) := by
  rw [writeField, configWriteStr, configWrite, ConfigData.image, ConfigId.image]
  split_ifs <;> rfl

theorem writeField_done (h : s.Writable faults id) :
    0 ≤ (writeField faults s id).1 ∧ (writeField faults s id).2 = s.put id := by
  obtain ⟨huse, hup, hout⟩ := h
  obtain ⟨hrc, hfs⟩ := fsKeyWrite_done id.key (s.data.image id) hup hout
  rw [writeField_eq]
  simp only [configWriteRaw, huse, if_true, hfs, hrc, State.put, and_self]

theorem writeField_failed (h : ¬ s.Writable faults id) :
    (writeField faults s id).1 < 0 ∧ (writeField faults s id).2 = s := by
  rw [writeField_eq]
  rw [configWriteRaw]
  cases huse : s.useFs with
  | false => simp
  | true =>
    obtain ⟨hrc, hfs⟩ :=
      fsKeyWrite_failed id.key (s.data.image id) (fun hup hout => h ⟨huse, hup, hout⟩)
    simp only [if_true, hrc, hfs]
    exact ⟨trivial, by rw [← huse]⟩

theorem configSave_done (h : s.Writable faults id) : configSave faults s id = (0, s.put id) := by
  obtain ⟨hrc, hput⟩ := writeField_done h
  simp only [configSave, hrc.not_gt, if_false, hput]

theorem configSave_failed (h : ¬ s.Writable faults id) :
    (configSave faults s id).1 < 0 ∧ (configSave faults s id).2 = s := by
  obtain ⟨hrc, hsame⟩ := writeField_failed h
  rw [configSave]
  simp only [hrc, if_true, hsame, and_self]

@[simp] lemma configSave_data (faults : Faults) (s : State) (id : ConfigId) :
    (configSave faults s id).2.data = s.data := by
  by_cases h : s.Writable faults id
  · rw [configSave_done h]
    rfl
  · rw [(configSave_failed h).2]

@[simp] lemma configSave_net (faults : Faults) (s : State) (id : ConfigId) :
    (configSave faults s id).2.net = s.net := by
  by_cases h : s.Writable faults id
  · rw [configSave_done h]
    rfl
  · rw [(configSave_failed h).2]

def State.usable (s : State) : Bool := s.useFs && s.fs.up

/-- What a failing read leaves at the start of the field. -/
def leftover (usable : Bool) (fault : Option ReadFault) (id : ConfigId) (entry : List UInt8) : List UInt8 :=
  if usable then
    match fault with
    | some fault => fault.partly.take id.limit
    | none => entry.take id.limit
  else []

def Readable (usable : Bool) (fault : Option ReadFault) (id : ConfigId) (entry : List UInt8) : Prop :=
  usable = true ∧ fault = none ∧ entry ≠ [] ∧ entry.length ≤ id.limit

instance (usable : Bool) (fault : Option ReadFault) (id : ConfigId) (entry : List UInt8) :
    Decidable (Readable usable fault id entry) :=
  inferInstanceAs (Decidable (_ ∧ _))

def State.leftover (s : State) (faults : Faults) (id : ConfigId) : List UInt8 :=
  Config.leftover s.usable (faults.field id).read id (s.entry id)

def State.Readable (s : State) (faults : Faults) (id : ConfigId) : Prop :=
  Config.Readable s.usable (faults.field id).read id (s.entry id)

lemma State.usable_iff : s.usable = true ↔ s.useFs = true ∧ s.fs.up = true := Bool.and_eq_true_iff

lemma configReadRaw_done (h : s.Readable faults id) :
    configReadRaw faults s id id.limit = ⟨(s.entry id).length, s.entry id⟩ := by
  obtain ⟨husable, hread, hne, hlen⟩ := h
  obtain ⟨huse, hup⟩ := State.usable_iff.mp husable
  obtain ⟨henabled, hready⟩ := Fs.up_iff.mp hup
  have hentry : s.fs.nvs.entries id.key = s.entry id := rfl
  have hle : ¬ (id.limit : ℤ) < (s.entry id).length := by omega
  simp only [configReadRaw, huse, fsKeyRead, henabled, Nvs.read, hready, hread, hentry, hne, hle,
    List.take_of_length_le hlen, Bool.not_true, Bool.false_eq_true, if_true, if_false]
  simp

lemma configReadRaw_failed (h : ¬ s.Readable faults id) :
    (configReadRaw faults s id id.limit).rc < 0 ∧
      (configReadRaw faults s id id.limit).written = s.leftover faults id := by
  unfold State.leftover leftover configReadRaw State.usable fsKeyRead
  cases huse : s.useFs with
  | false => simp
  | true =>
    cases henabled : s.fs.enabled with
    | false => simp [Fs.up, henabled]
    | true =>
      cases hready : s.fs.nvs.ready with
      | false => simp [Fs.up, henabled, hready, Nvs.read]
      | true =>
        cases hread : (faults.field id).read with
        | some fault => simp [Fs.up, henabled, hready, Nvs.read]
        | none =>
          have hentry : s.fs.nvs.entries id.key = s.entry id := rfl
          by_cases hne : s.entry id = []
          · simp [Fs.up, henabled, hready, Nvs.read, hentry, hne]
          · have hlen : (id.limit : ℤ) < (s.entry id).length := by
              by_contra hle
              exact h ⟨State.usable_iff.mpr ⟨huse, Fs.up_iff.mpr ⟨henabled, hready⟩⟩, hread, hne, by omega⟩
            have hpos : ¬ ((s.entry id).length : ℤ) < 0 := by omega
            simp only [Fs.up, henabled, hready, Nvs.read, hentry, hne, hlen, hpos, Bool.not_true,
              Bool.false_eq_true, Bool.and_self, if_true, if_false, and_true]
            decide

theorem readField_done (h : s.Readable faults id) :
    0 ≤ (readField faults s id).1 ∧
      (readField faults s id).2 = { s with data := s.data.write id (id.layout (s.entry id)) } := by
  have hraw := configReadRaw_done h
  have hlen := h.2.2.2
  rw [ConfigId.limit] at hraw hlen
  rw [readField, ConfigId.layout]
  cases hstr : id.isStr with
  | true =>
    simp only [hstr, if_true] at hraw hlen
    have hlt : (s.entry id).length < id.size := by
      have := id.size_pos
      omega
    simp only [configReadStr, hraw, if_true, Int.natCast_nonneg, Int.toNat_natCast,
      ConfigData.write_terminate hlt, and_self]
  | false =>
    simp only [hstr, Bool.false_eq_true, if_false] at hraw
    simp only [configRead, hraw, Bool.false_eq_true, if_false, Int.natCast_nonneg, and_self]

theorem readField_failed (h : ¬ s.Readable faults id) :
    (readField faults s id).1 < 0 ∧
      (readField faults s id).2 = { s with data := s.data.write id (s.leftover faults id) } := by
  obtain ⟨hrc, hwritten⟩ := configReadRaw_failed h
  rw [ConfigId.limit] at hrc hwritten
  rw [readField]
  cases hstr : id.isStr with
  | true =>
    simp only [hstr, if_true] at hrc hwritten
    simp only [configReadStr, hwritten, hrc, hrc.not_ge, if_true, if_false, and_self]
  | false =>
    simp only [hstr, Bool.false_eq_true, if_false] at hrc hwritten
    simp only [configRead, hwritten, hrc, Bool.false_eq_true, if_false, and_self]

end

end WallaBMC.Config
