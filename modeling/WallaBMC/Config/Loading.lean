import WallaBMC.Config.Init

/-! What `config_init` makes of a store. `loadedValue` is the value a stored entry stands for when nothing
fails; loading is total, keeps its strings terminated, and a second boot finds the values of the first. -/

namespace WallaBMC.Config

open Redfish Storage Library.Bytes

/-- `fs_init` with a working flash. -/
def mounted (fs : Fs) : Fs := (fsInit fs true none none).2

def blank (id : ConfigId) : List UInt8 := List.replicate id.size 0

def loadedValue (id : ConfigId) (default entry : List UInt8) : List UInt8 :=
  if entry ≠ [] ∧ entry.length ≤ id.limit then id.image (overwrite (blank id) (id.layout entry))
  else default.take id.limit

/-- What the field `id` may hold: a C string that fits, or exactly its bytes. -/
structure IsValue (id : ConfigId) (value : List UInt8) : Prop where
  fits : value.length ≤ id.limit
  noNul : id.isStr = true → 0 ∉ value
  full : id.isStr = false → value.length = id.size

section

variable {p : Platform} {faults : Faults} {s : State} {fs : Fs} {id : ConfigId}
  {usable : Bool} {default mem entry src : List UInt8} {fieldFaults : FieldFaults}

@[simp] lemma length_blank (id : ConfigId) : (blank id).length = id.size := List.length_replicate

@[simp] lemma up_mounted (fs : Fs) : (mounted fs).up = true := rfl

@[simp] lemma entry_mounted (fs : Fs) (key : UInt16) : (mounted fs).entry key = fs.entry key := rfl

lemma mounted_of_up (h : fs.up = true) : mounted fs = fs := by
  obtain ⟨henabled, hready⟩ := Fs.up_iff.mp h
  cases fs with
  | mk enabled nvs =>
    cases nvs with
    | mk entries ready =>
      cases henabled
      cases hready
      rfl

lemma limit_lt_size (hstr : id.isStr = true) : id.limit < id.size := by
  have := id.size_pos
  rw [ConfigId.limit, if_pos hstr]
  omega

lemma image_layout (hstr : id.isStr = true) (hmem : mem.length = id.size) (h : src.length ≤ id.limit) :
    id.image (overwrite mem (id.layout src)) = cstr src := by
  have hlt := limit_lt_size hstr
  rw [ConfigId.image, ConfigId.layout, if_pos hstr, if_pos hstr, cstr_overwrite (by omega)]

lemma terminated_layout (hstr : id.isStr = true) (hmem : mem.length = id.size)
    (h : src.length ≤ id.limit) : 0 ∈ overwrite mem (id.layout src) := by
  have hlt := limit_lt_size hstr
  rw [ConfigId.layout, if_pos hstr]
  exact zero_mem_overwrite (by omega)

lemma length_take_limit (value : List UInt8) : (value.take id.limit).length ≤ id.limit := by
  rw [List.length_take]
  exact min_le_left _ _

lemma loadCell_terminated (hstr : id.isStr = true) {c : Cell} (hmem : c.mem.length = id.size) :
    0 ∈ (loadCell usable id default fieldFaults c).mem := by
  rw [loadCell]
  split_ifs with h
  · exact terminated_layout hstr hmem h.2.2.2
  · exact terminated_layout hstr (by rw [length_overwrite, hmem]) (length_take_limit default)

theorem configInit_terminated (p : Platform) (faults : Faults) (s : State) (hstr : id.isStr = true) :
    0 ∈ (configInit p faults s).2.data.bytes id := by
  have hne : id ≠ .version := by
    rintro rfl
    cases hstr
  have hcell := (configInit_spec p faults s).2.2.2.2 id hne
  have hmem : (configInit p faults s).2.data.bytes id = ((configInit p faults s).2.cell id).mem := rfl
  rw [hmem, hcell]
  exact loadCell_terminated hstr (ConfigData.length_bytes _ id)

theorem configReadStr_index (faults : Faults) (s : State) (id : ConfigId) :
    (configReadRaw faults s id (id.size - 1)).rc.toNat < id.size := by
  have hpos := id.size_pos
  have hodd : ∀ errno : Errno, (-(errno : ℤ)).toNat = 0 := fun errno => by
    have := errno_neg errno
    omega
  rw [configReadRaw, fsKeyRead]
  cases s.useFs with
  | false => simpa only [Bool.false_eq_true, if_false, hodd] using hpos
  | true =>
    cases s.fs.enabled with
    | false => simpa only [Bool.not_false, if_true, hodd] using hpos
    | true =>
      simp only [Bool.not_true, Bool.false_eq_true, if_true, if_false]
      split_ifs
      · omega
      · simpa only [hodd] using hpos
      · omega

lemma isValue_image (data : ConfigData) (hterminated : id.isStr = true → 0 ∈ data.bytes id) :
    IsValue id (data.image id) := by
  rw [ConfigData.image, ConfigId.image]
  cases hstr : id.isStr with
  | true =>
    have hlt := length_cstr_lt (hterminated hstr)
    rw [data.length_bytes] at hlt
    refine ⟨?_, fun _ => zero_notMem_cstr _, fun h => absurd (hstr.symm.trans h) Bool.noConfusion⟩
    rw [ConfigId.limit, if_pos hstr, if_pos rfl]
    omega
  | false =>
    have hlimit : id.limit = id.size := by rw [ConfigId.limit, hstr]; rfl
    refine ⟨?_, fun h => absurd (hstr.symm.trans h) Bool.noConfusion, fun _ => data.length_bytes id⟩
    rw [hlimit]
    exact (data.length_bytes id).le

lemma isValue_take {value : List UInt8} (hnoNul : id.isStr = true → 0 ∉ value)
    (hfull : id.isStr = false → value.length = id.size) : IsValue id (value.take id.limit) := by
  refine ⟨length_take_limit value, fun hstr h => hnoNul hstr (List.mem_of_mem_take h), fun hstr => ?_⟩
  rw [ConfigId.limit, hstr, List.length_take, hfull hstr]
  exact min_self _

lemma isValue_default (p : Platform) (net : Net) (id : ConfigId) :
    IsValue id ((defaultValue p net id).take id.limit) := by
  apply isValue_take
  · cases id with
    | bmcAdminPassword => exact fun _ => p.defaultAdminPassword.noNul
    | bmcHostname => exact fun _ => net.hostname.noNul
    | bmcNtpServer => exact fun _ => ntpServerDefault.noNul
    | _ => exact nofun
  · cases id <;> first | exact fun _ => rfl | exact nofun

lemma image_value {value : List UInt8} (hvalue : IsValue id value) (hmem : mem.length = id.size) :
    id.image (overwrite mem (id.layout value)) = value := by
  cases hstr : id.isStr with
  | true => rw [image_layout hstr hmem hvalue.fits, cstr_of_notMem (hvalue.noNul hstr)]
  | false =>
    have hfull := hvalue.full hstr
    rw [ConfigId.layout, ConfigId.image, hstr]
    exact overwrite_full (hfull.trans hmem.symm)

lemma loadedValue_value {value : List UInt8} (hvalue : IsValue id value) :
    loadedValue id default value = if value = [] then default.take id.limit else value := by
  rw [loadedValue]
  by_cases hnil : value = []
  · rw [if_neg (fun h => h.1 hnil), if_pos hnil]
  · rw [if_pos ⟨hnil, hvalue.fits⟩, if_neg hnil, image_value hvalue (length_blank id)]

section Load

variable {write : List Errno} {net : NetFaults}

lemma loadCell_fits (hfits : entry ≠ [] ∧ entry.length ≤ id.limit) :
    loadCell true id default ⟨none, write, net⟩ ⟨blank id, entry⟩ =
      ⟨overwrite (blank id) (id.layout entry), entry⟩ :=
  if_pos ⟨rfl, rfl, hfits⟩

lemma loadCell_unfit (hfits : ¬ (entry ≠ [] ∧ entry.length ≤ id.limit)) :
    loadCell true id default ⟨none, write, net⟩ ⟨blank id, entry⟩ =
      resetCell true id default write ⟨overwrite (blank id) (entry.take id.limit), entry⟩ :=
  if_neg (fun h => hfits h.2.2)

lemma loadCell_image (hdefault : IsValue id (default.take id.limit)) :
    id.image (loadCell true id default ⟨none, write, net⟩ ⟨blank id, entry⟩).mem =
      loadedValue id default entry := by
  rw [loadedValue]
  by_cases hfits : entry ≠ [] ∧ entry.length ≤ id.limit
  · rw [loadCell_fits hfits, if_pos hfits]
  · rw [loadCell_unfit hfits, if_neg hfits]
    exact image_value hdefault (by rw [length_overwrite, length_blank])

lemma loadCell_entry (hdefault : IsValue id (default.take id.limit)) :
    (loadCell true id default ⟨none, [], net⟩ ⟨blank id, entry⟩).entry =
      if entry ≠ [] ∧ entry.length ≤ id.limit then entry else default.take id.limit := by
  by_cases hfits : entry ≠ [] ∧ entry.length ≤ id.limit
  · rw [loadCell_fits hfits, if_pos hfits]
  · rw [loadCell_unfit hfits, if_neg hfits, resetCell, if_pos ⟨rfl, outlasted_nil _⟩]
    exact image_value hdefault (by rw [length_overwrite, length_blank])

lemma loadedValue_again (hdefault : IsValue id (default.take id.limit)) :
    loadedValue id default (loadCell true id default ⟨none, [], net⟩ ⟨blank id, entry⟩).entry =
      loadedValue id default entry := by
  rw [loadCell_entry hdefault]
  by_cases hfits : entry ≠ [] ∧ entry.length ≤ id.limit
  · rw [if_pos hfits]
  · rw [if_neg hfits, loadedValue_value hdefault, loadedValue, if_neg hfits, ite_self]

lemma loadCell_off (c : Cell) (fieldFaults : FieldFaults) :
    loadCell false id default fieldFaults c =
      ⟨overwrite c.mem (id.layout (default.take id.limit)), c.entry⟩ := by
  simp [loadCell, Readable, resetCell, leftover]

lemma loadCell_again_mem (hdefault : IsValue id (default.take id.limit))
    (hshort : id.isStr = true → entry.length ≤ id.limit) :
    (loadCell true id default ⟨none, [], net⟩
        ⟨blank id, (loadCell true id default ⟨none, [], net⟩ ⟨blank id, entry⟩).entry⟩).mem =
      (loadCell true id default ⟨none, [], net⟩ ⟨blank id, entry⟩).mem := by
  rw [loadCell_entry hdefault]
  by_cases hfits : entry ≠ [] ∧ entry.length ≤ id.limit
  · rw [if_pos hfits]
  · have hfirst : (loadCell true id default ⟨none, [], net⟩ ⟨blank id, entry⟩).mem =
        overwrite (blank id) (id.layout (default.take id.limit)) := by
      rw [loadCell_unfit hfits]
      cases hstr : id.isStr with
      | true =>
        have hnil : entry = [] := not_not.mp (fun hne => hfits ⟨hne, hshort hstr⟩)
        simp [resetCell, hnil]
      | false =>
        have hfull : (id.layout (default.take id.limit)).length = id.size := by
          rw [ConfigId.layout, hstr]
          exact hdefault.full hstr
        simp only [resetCell]
        rw [overwrite_full (by rw [length_overwrite, length_blank, hfull]),
          overwrite_full (by rw [length_blank, hfull])]
    rw [if_neg hfits, hfirst]
    by_cases hnil : default.take id.limit = []
    · rw [hnil, loadCell_unfit (fun h => h.1 rfl)]
      simp [resetCell, hnil]
    · rw [loadCell_fits ⟨hnil, hdefault.fits⟩]

end Load

lemma checked_inUse {t : State} (hchecked : Checked faults s t) (hoff : s.useFs = false)
    (hon : t.useFs = true) :
    t.fs.up = true ∧ t.net = s.net ∧ t.entry .version = [cfgCurrentVersion] ∧
      OnlyCell .version s.tried t := by
  cases hchecked with
  | disabled => exact absurd (hoff.symm.trans hon) Bool.noConfusion
  | loaded henabled hread hentry =>
    exact ⟨(State.usable_iff.mp hread.1).2, rfl, hentry, onlyCell_write .version _ s.tried⟩
  | fresh henabled hread hwrite =>
    refine ⟨hwrite.2.1, rfl, ?_,
      (onlyCell_write .version _ s.tried).trans (onlyCell_put .version s.tried.current)⟩
    rw [State.entry_put, if_pos rfl]
    exact ConfigData.bytes_write_full rfl
  | failed => cases hon
  | foreign t henabled hread hentry huse => exact absurd (huse.symm.trans hon) Bool.noConfusion

theorem configInit_inUse (hoff : s.useFs = false) (hon : (configInit p faults s).2.useFs = true) :
    (configInit p faults s).2.fs.up = true ∧
      (configInit p faults s).2.entry .version = [cfgCurrentVersion] ∧
      ∀ id, id ≠ .version → (configInit p faults s).2.cell id =
        loadCell true id (defaultValue p s.net id) (faults.field id) ⟨blank id, s.entry id⟩ := by
  obtain ⟨huse, hup, hnet, hversion, hcell⟩ := configInit_spec p faults s
  obtain ⟨hup', hnet', hentry, honly⟩ :=
    checked_inUse (checkVersion_checked faults { s with data := .zero }) hoff (huse.symm.trans hon)
  refine ⟨hup.trans hup', ?_, fun id hid => ?_⟩
  · exact (congrArg Cell.entry hversion).trans hentry
  · have husable := State.usable_iff.mpr ⟨huse.symm.trans hon, hup'⟩
    rw [hcell id hid, honly.cell id hid, husable, hnet']
    rfl

/-- The store says that another version wrote it. -/
def Foreign (fs : Fs) : Prop :=
  (fs.entry ConfigId.version.key).length = 1 ∧ fs.entry ConfigId.version.key ≠ [cfgCurrentVersion]

instance (fs : Fs) : Decidable (Foreign fs) := inferInstanceAs (Decidable (_ ∧ _))

def erased : Fs := ⟨true, ⟨fun _ => [], false⟩⟩

lemma writable_none (husable : s.usable = true) (id : ConfigId) : s.Writable .none id :=
  writable_iff.mpr ⟨husable, outlasted_nil _⟩

lemma fsClear_up (hup : fs.up = true) : fsClear [] fs = (0, erased) := by
  obtain ⟨henabled, hready⟩ := Fs.up_iff.mp hup
  have hne : ¬ (0 : ℤ) = -eio := by decide
  simp [fsClear, henabled, again, flashWriteRetryCount, Nvs.clear, hready, hne, erased]

lemma checked_mounted {t : State} (hchecked : Checked .none s t) (hup : s.fs.up = true) :
    ¬ Foreign s.fs ∧ t.useFs = true ∨
      Foreign s.fs ∧ t.useFs = false ∧ t.net = s.net ∧ t.fs = erased ∧
        t.data = s.data.write .version [cfgCurrentVersion] := by
  have husable : s.tried.usable = true := State.usable_iff.mpr ⟨rfl, hup⟩
  have hreadable : Foreign s.fs → s.tried.Readable .none .version := fun h =>
    ⟨husable, rfl, fun hnil => by simpa [hnil] using h.1.symm.trans (congrArg List.length hnil), h.1.le⟩
  cases hchecked with
  | disabled henabled => exact absurd (henabled.symm.trans (Fs.up_iff.mp hup).1) Bool.noConfusion
  | loaded henabled hread hentry => exact .inl ⟨fun h => h.2 hentry, rfl⟩
  | fresh henabled hread hwrite => exact .inl ⟨fun h => hread (hreadable h), rfl⟩
  | failed henabled hread hwrite => exact absurd (writable_none husable .version) hwrite
  | foreign t henabled hread hentry huse hnet hfs hdata =>
    have hclear : fsClear Faults.none.clear s.fs = (0, erased) := fsClear_up hup
    rw [hclear] at hfs hdata
    exact .inr ⟨⟨length_of_readable hread, hentry⟩, huse, hnet, hfs, hdata⟩

lemma checked_version {t : State} (hchecked : Checked .none s t) (hup : s.fs.up = true) :
    t.data.bytes .version = [cfgCurrentVersion] := by
  have hcurrent : s.tried.current.data.bytes .version = [cfgCurrentVersion] :=
    ConfigData.bytes_write_full rfl
  have hmounted := checked_mounted hchecked hup
  cases hchecked with
  | disabled henabled => exact absurd (henabled.symm.trans (Fs.up_iff.mp hup).1) Bool.noConfusion
  | loaded | fresh | failed => exact hcurrent
  | foreign t henabled hread hentry huse =>
    rcases hmounted with ⟨hnot, -⟩ | ⟨-, -, -, -, hdata⟩
    · exact absurd ⟨length_of_readable hread, hentry⟩ hnot
    · rw [hdata]
      exact hcurrent

lemma boot_version (p : Platform) (hup : fs.up = true) :
    (boot p .none fs).data.bytes .version = [cfgCurrentVersion] := by
  have hversion := (configInit_spec p .none ⟨.zero, false, fs, p.net⟩).2.2.2.1
  exact (congrArg Cell.mem hversion).trans
    (checked_version (checkVersion_checked .none ⟨.zero, false, fs, p.net⟩) hup)

lemma boot_native (p : Platform) (hup : fs.up = true) (hnative : ¬ Foreign fs) :
    (boot p .none fs).useFs = true := by
  have hchecked := checkVersion_checked .none (⟨.zero, false, fs, p.net⟩ : State)
  refine (configInit_spec p .none ⟨.zero, false, fs, p.net⟩).1.trans ?_
  rcases checked_mounted hchecked hup with ⟨-, hon⟩ | ⟨hforeign, -⟩
  · exact hon
  · exact absurd hforeign hnative

lemma boot_native_cell (p : Platform) (hup : fs.up = true) (hnative : ¬ Foreign fs)
    (hid : id ≠ .version) :
    (boot p .none fs).cell id =
      loadCell true id (defaultValue p p.net id) (Faults.none.field id) ⟨blank id, fs.entry id.key⟩ :=
  (configInit_inUse rfl (boot_native p hup hnative)).2.2 id hid

theorem reboot_inUse (p : Platform) (hup : fs.up = true)
    (hversion : fs.entry ConfigId.version.key = [cfgCurrentVersion]) (hid : id ≠ .version) :
    (boot p .none fs).data.image id = loadedValue id (defaultValue p p.net id) (fs.entry id.key) := by
  have hcell := boot_native_cell p hup (fun hforeign => hforeign.2 hversion) hid
  exact (congrArg (fun c : Cell => id.image c.mem) hcell).trans (loadCell_image (isValue_default p p.net id))

lemma boot_foreign (p : Platform) (hup : fs.up = true) (hforeign : Foreign fs) :
    (boot p .none fs).useFs = false ∧ (boot p .none fs).entry .version = [] ∧
      ∀ id, id ≠ .version → (boot p .none fs).cell id =
        ⟨overwrite (blank id) (id.layout ((defaultValue p p.net id).take id.limit)), []⟩ := by
  have hchecked := checkVersion_checked .none (⟨.zero, false, fs, p.net⟩ : State)
  obtain ⟨huse, -, -, hversion, hcell⟩ := configInit_spec p .none ⟨.zero, false, fs, p.net⟩
  rcases checked_mounted hchecked hup with ⟨hnative, -⟩ | ⟨-, hoff, hnet, hfs, hdata⟩
  · exact absurd hforeign hnative
  have hentry : ∀ id, (checkVersion .none ⟨.zero, false, fs, p.net⟩).entry id = [] := fun id => by
    rw [State.entry, hfs]
    rfl
  refine ⟨huse.trans hoff, (congrArg Cell.entry hversion).trans (hentry .version), fun id hid => ?_⟩
  have hstart : (checkVersion .none ⟨.zero, false, fs, p.net⟩).cell id = ⟨blank id, []⟩ := by
    rw [State.cell, hentry, hdata, ConfigData.bytes_write_of_ne hid]
    rfl
  have husable : (checkVersion .none ⟨.zero, false, fs, p.net⟩).usable = false := by
    rw [State.usable, hoff, Bool.false_and]
  refine (hcell id hid).trans ?_
  rw [hstart, husable, hnet, loadCell_off]

lemma mounted_erased_native {fs : Fs} (hentry : fs.entry ConfigId.version.key = []) :
    ¬ Foreign (mounted fs) := by
  rintro ⟨hlen, -⟩
  rw [entry_mounted, hentry] at hlen
  cases hlen

lemma boot_native_up (p : Platform) (hup : fs.up = true) (hnative : ¬ Foreign fs) :
    (boot p .none fs).fs.up = true ∧ (boot p .none fs).entry .version = [cfgCurrentVersion] := by
  obtain ⟨hup', hversion, -⟩ := configInit_inUse rfl (boot_native p hup hnative)
  exact ⟨hup', hversion⟩

lemma boot_again_native (p : Platform) (hup : fs.up = true) (hnative : ¬ Foreign fs)
    (hid : id ≠ .version) :
    (boot p .none (mounted (boot p .none fs).fs)).cell id =
      loadCell true id (defaultValue p p.net id) (Faults.none.field id)
        ⟨blank id, (loadCell true id (defaultValue p p.net id) (Faults.none.field id)
          ⟨blank id, fs.entry id.key⟩).entry⟩ := by
  obtain ⟨hup', hversion⟩ := boot_native_up p hup hnative
  have hnative' : ¬ Foreign (boot p .none fs).fs := fun hforeign => hforeign.2 hversion
  rw [mounted_of_up hup', boot_native_cell p hup' hnative' hid, ← State.entry_cell,
    boot_native_cell p hup hnative hid]

lemma boot_again_foreign (p : Platform) (hup : fs.up = true) (hforeign : Foreign fs)
    (hid : id ≠ .version) :
    (boot p .none (mounted (boot p .none fs).fs)).data.bytes id = (boot p .none fs).data.bytes id := by
  obtain ⟨-, hversion, hcell⟩ := boot_foreign p hup hforeign
  rw [← State.mem_cell, ← State.mem_cell,
    boot_native_cell p (up_mounted _) (mounted_erased_native hversion) hid, entry_mounted,
    ← State.entry_cell, hcell id hid]
  simp [loadCell, Readable, resetCell, leftover, Faults.none]

lemma boot_again_version (p : Platform) (hup : fs.up = true) :
    (boot p .none (mounted (boot p .none fs).fs)).data.bytes .version =
      (boot p .none fs).data.bytes .version := by
  rw [boot_version p hup, boot_version p (up_mounted _)]

theorem boot_again (p : Platform) (hup : fs.up = true) (id : ConfigId) :
    (boot p .none (mounted (boot p .none fs).fs)).data.image id = (boot p .none fs).data.image id ∧
      ((id.isStr = true → (fs.entry id.key).length ≤ id.limit) →
        (boot p .none (mounted (boot p .none fs).fs)).data.bytes id = (boot p .none fs).data.bytes id) := by
  by_cases hid : id = .version
  · subst hid
    exact ⟨boot_again_version p hup, fun _ => boot_again_version p hup⟩
  by_cases hforeign : Foreign fs
  · have hbytes := boot_again_foreign p hup hforeign hid
    exact ⟨congrArg id.image hbytes, fun _ => hbytes⟩
  · have hdefault := isValue_default p p.net id
    rw [← State.mem_cell, ← State.mem_cell, ← State.image_cell, ← State.image_cell,
      boot_again_native p hup hforeign hid, boot_native_cell p hup hforeign hid]
    exact ⟨(loadCell_image hdefault).trans ((loadedValue_again hdefault).trans (loadCell_image hdefault).symm),
      loadCell_again_mem hdefault⟩

/-- A second mount and boot: the values of the first, byte for byte where no string was too long. -/
theorem configInit_loading (p : Platform) :
    (∀ faults s, (configInit p faults s).1 = 0 ∧
      ∀ id, id.isStr = true → 0 ∈ (configInit p faults s).2.data.bytes id) ∧
    (∀ faults s id, (configReadRaw faults s id (id.size - 1)).rc.toNat < id.size) ∧
    ∀ fs,
      let first := boot p .none (mounted fs)
      let second := boot p .none (mounted first.fs)
      (∀ id, second.data.image id = first.data.image id) ∧
        ((∀ id : ConfigId, id.isStr = true → (fs.entry id.key).length ≤ id.limit) →
          second.data = first.data) := by
  refine ⟨fun faults s => ⟨rfl, fun id => configInit_terminated p faults s⟩, configReadStr_index,
    fun fs => ⟨fun id => (boot_again p (up_mounted fs) id).1, fun hshort => ?_⟩⟩
  apply ConfigData.ext
  funext id
  exact (boot_again p (up_mounted fs) id).2 (hshort id)

def sampleName : CString := ⟨ascii "wallabmc", by decide⟩

def otherName : CString := ⟨ascii "rack7", by decide⟩

def samplePlatform : Platform where
  defaultAdminPassword := sampleName
  password_fits := by decide
  net := ⟨sampleName, none, ⟨false, false, 20, none⟩⟩
  inetPton _ := none

def storeOf (entries : List (ConfigId × List UInt8)) : Fs :=
  ⟨false, ⟨fun key => ((entries.find? (fun entry => entry.1.key = key)).map Prod.snd).getD [], false⟩⟩

def emptyStore : Fs := storeOf []

def longNtpServer : Fs :=
  storeOf [(.version, [cfgCurrentVersion]), (.bmcNtpServer, List.replicate 41 120)]

theorem configInit_leaks :
    ¬ ∀ fs, (boot samplePlatform .none (mounted (boot samplePlatform .none (mounted fs)).fs)).data =
      (boot samplePlatform .none (mounted fs)).data := by
  intro h
  have hbytes := congrArg (fun data : ConfigData => data.bytes .bmcNtpServer) (h longNtpServer)
  exact absurd hbytes (by decide +kernel)

end

end WallaBMC.Config
