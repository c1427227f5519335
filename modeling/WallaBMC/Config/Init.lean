import WallaBMC.Config.Setters

/-! `config_init`. Loading a field looks at its own bytes and its own key only, so `loadCell` describes it
on the pair of both; the version branch decides whether storage stays in use. -/

namespace WallaBMC.Config

open Redfish Storage Library.Bytes

variable (p : Platform) (faults : Faults)

def configClear (s : State) : ℤ × State :=
  let (rc, fs) := fsClear faults.clear s.fs
  (rc, { s with fs := fs })

def ConfigData.version (data : ConfigData) : List UInt8 := data.bytes .version

def writeCurrentVersion (s : State) : ℤ × State :=
  configWrite faults { s with data := s.data.write .version [cfgCurrentVersion] } .version

def settleVersion (rc : ℤ) (s : State) : ℤ × State :=
  if rc < 0 then writeCurrentVersion faults s
  else if s.data.version ≠ [cfgCurrentVersion] then
    let (rc, s) := configClear faults s
    if rc = 0 then writeCurrentVersion faults s else (rc, s)
  else (0, s)

def keepStorage (out : ℤ × State) : State := if out.1 < 0 then { out.2 with useFs := false } else out.2

/-- The part of `config_init` that decides about storage. -/
def checkVersion (s : State) : State :=
  if s.fs.enabled then
    let (rc, s) := configRead faults { s with useFs := true } .version
    keepStorage (settleVersion faults rc s)
  else s

def ntpServerDefault : CString := ⟨ascii "pool.ntp.org", by decide⟩

def defaultValue (net : Net) : ConfigId → List UInt8
  | .version => [cfgCurrentVersion]
  | .bmcAdminPassword => p.defaultAdminPassword.bytes
  | .bmcHostname => net.hostname.bytes
  | .bmcDefaultIp4 | .bmcDefaultIp4Nm | .bmcDefaultIp4Gw => Ip4.any.bytes
  | .bmcUseDhcp4 => [1]
  | .bmcUseNtp => [1]
  | .bmcNtpServer => ntpServerDefault.bytes
  | .hostAutoPoweron => [0]

def loadField (s : State) (id : ConfigId) : State :=
  let (rc, s) := readField faults s id
  if rc < 0 then
    (writeField faults { s with data := s.data.assign id (defaultValue p s.net id) } id).2
  else s

def loadOrder : List ConfigId :=
  [.bmcAdminPassword, .bmcHostname, .bmcDefaultIp4, .bmcDefaultIp4Nm, .bmcDefaultIp4Gw, .bmcUseDhcp4,
    .bmcUseNtp, .bmcNtpServer, .hostAutoPoweron]

def configInit (s : State) : ℤ × State :=
  let s := checkVersion faults { s with data := .zero }
  (0, loadOrder.foldl (loadField p faults) s)

/-- `config_init` after a reset, on what `fs_init` has mounted. -/
def boot (fs : Fs) : State := (configInit p faults ⟨.zero, false, fs, p.net⟩).2

@[ext] structure Cell where
  mem : List UInt8
  entry : List UInt8

def State.cell (s : State) (id : ConfigId) : Cell := ⟨s.data.bytes id, s.entry id⟩

lemma State.mem_cell (s : State) (id : ConfigId) : (s.cell id).mem = s.data.bytes id := rfl

lemma State.image_cell (s : State) (id : ConfigId) : id.image (s.cell id).mem = s.data.image id := rfl

lemma State.entry_cell (s : State) (id : ConfigId) : (s.cell id).entry = s.fs.entry id.key := rfl

/-- The default, saved if that is possible. -/
def resetCell (usable : Bool) (id : ConfigId) (default : List UInt8) (write : List Errno) (c : Cell) : Cell :=
  let mem := overwrite c.mem (id.layout (default.take id.limit))
  ⟨mem, if usable = true ∧ Outlasted flashWriteRetryCount write then id.image mem else c.entry⟩

def loadCell (usable : Bool) (id : ConfigId) (default : List UInt8) (faults : FieldFaults) (c : Cell) :
    Cell :=
  if Readable usable faults.read id c.entry then ⟨overwrite c.mem (id.layout c.entry), c.entry⟩
  else resetCell usable id default faults.write
    ⟨overwrite c.mem (leftover usable faults.read id c.entry), c.entry⟩

structure OnlyCell (id : ConfigId) (s t : State) : Prop where
  useFs : t.useFs = s.useFs
  up : t.fs.up = s.fs.up
  net : t.net = s.net
  bytes : ∀ other, other ≠ id → t.data.bytes other = s.data.bytes other
  entry : ∀ key, key ≠ id.key → t.fs.entry key = s.fs.entry key

section

variable {p} {faults} {s t : State} {id other : ConfigId}

lemma OnlyCell.refl (id : ConfigId) (s : State) : OnlyCell id s s :=
  ⟨rfl, rfl, rfl, fun _ _ => rfl, fun _ _ => rfl⟩

lemma OnlyCell.trans {u : State} (h : OnlyCell id s t) (h' : OnlyCell id t u) : OnlyCell id s u where
  useFs := h'.useFs.trans h.useFs
  up := h'.up.trans h.up
  net := h'.net.trans h.net
  bytes other hne := (h'.bytes other hne).trans (h.bytes other hne)
  entry key hne := (h'.entry key hne).trans (h.entry key hne)

lemma OnlyCell.cell (h : OnlyCell id s t) (other : ConfigId) (hne : other ≠ id) :
    t.cell other = s.cell other :=
  Cell.ext (h.bytes other hne) (h.entry other.key (fun he => hne (ConfigId.key_injective he)))

lemma OnlyCell.usable (h : OnlyCell id s t) : t.usable = s.usable := by
  rw [State.usable, State.usable, h.useFs, h.up]

lemma onlyCell_write (id : ConfigId) (src : List UInt8) (s : State) :
    OnlyCell id s { s with data := s.data.write id src } :=
  ⟨rfl, rfl, rfl, fun _ hne => ConfigData.bytes_write_of_ne hne, fun _ _ => rfl⟩

lemma onlyCell_put (id : ConfigId) (s : State) : OnlyCell id s (s.put id) := by
  refine ⟨rfl, rfl, rfl, fun _ _ => rfl, fun key hne => ?_⟩
  rw [State.put, Fs.entry_put, if_neg hne]

lemma writeField_onlyCell (id : ConfigId) (s : State) : OnlyCell id s (writeField faults s id).2 := by
  by_cases hw : s.Writable faults id
  · rw [(writeField_done hw).2]
    exact onlyCell_put id s
  · rw [(writeField_failed hw).2]
    exact .refl id s

lemma writable_iff : s.Writable faults id ↔
    s.usable = true ∧ Outlasted flashWriteRetryCount (faults.field id).write := by
  rw [State.usable_iff, and_assoc, State.Writable]

lemma writeField_cell (s : State) (id : ConfigId) :
    (writeField faults s id).2.cell id =
      ⟨s.data.bytes id, if s.usable = true ∧ Outlasted flashWriteRetryCount (faults.field id).write
        then s.data.image id else s.entry id⟩ := by
  by_cases hw : s.Writable faults id
  · rw [(writeField_done hw).2, if_pos (writable_iff.mp hw), State.cell, State.entry_put, if_pos rfl]
    rfl
  · rw [(writeField_failed hw).2, if_neg (fun h => hw (writable_iff.mpr h))]
    rfl

lemma loadField_onlyCell (p : Platform) (faults : Faults) (s : State) (id : ConfigId) :
    OnlyCell id s (loadField p faults s id) := by
  rw [loadField]
  by_cases hr : s.Readable faults id
  · obtain ⟨hrc, hread⟩ := readField_done hr
    simp only [hrc.not_gt, if_false, hread]
    exact onlyCell_write id _ s
  · obtain ⟨hrc, hread⟩ := readField_failed hr
    simp only [hrc, if_true, hread]
    exact ((onlyCell_write id _ s).trans (onlyCell_write id _ _)).trans (writeField_onlyCell id _)

lemma loadField_cell (s : State) (id : ConfigId) :
    (loadField p faults s id).cell id =
      loadCell s.usable id (defaultValue p s.net id) (faults.field id) (s.cell id) := by
  rw [loadField, loadCell]
  by_cases hr : s.Readable faults id
  · obtain ⟨hrc, hread⟩ := readField_done hr
    have hr' : Readable s.usable (faults.field id).read id (s.cell id).entry := hr
    simp only [hrc.not_gt, if_false, hread, if_pos hr']
    simp [State.cell, State.entry]
  · obtain ⟨hrc, hread⟩ := readField_failed hr
    have hr' : ¬ Readable s.usable (faults.field id).read id (s.cell id).entry := hr
    simp only [hrc, if_true, hread, if_neg hr', writeField_cell, resetCell, ConfigData.assign,
      ConfigData.image, ConfigData.bytes_write_self]
    rfl

lemma foldl_loadField (p : Platform) (faults : Faults) (ids : List ConfigId) (s : State) :
    let t := ids.foldl (loadField p faults) s
    t.useFs = s.useFs ∧ t.fs.up = s.fs.up ∧ t.net = s.net ∧
      (∀ id, id ∉ ids → t.cell id = s.cell id) ∧
      ∀ key, (∀ id : ConfigId, key ≠ id.key) → t.fs.entry key = s.fs.entry key := by
  induction ids generalizing s with
  | nil => exact ⟨rfl, rfl, rfl, fun _ _ => rfl, fun _ _ => rfl⟩
  | cons first ids ih =>
    have hfirst := loadField_onlyCell p faults s first
    obtain ⟨huse, hup, hnet, hcell, hentry⟩ := ih (loadField p faults s first)
    refine ⟨huse.trans hfirst.useFs, hup.trans hfirst.up, hnet.trans hfirst.net, fun id hid => ?_,
      fun key hkey => (hentry key hkey).trans (hfirst.entry key (hkey first))⟩
    rw [List.mem_cons, not_or] at hid
    exact (hcell id hid.2).trans (hfirst.cell id hid.1)

lemma foldl_loadField_cell {ids : List ConfigId} (hnodup : ids.Nodup) (hid : id ∈ ids) (s : State) :
    (ids.foldl (loadField p faults) s).cell id =
      loadCell s.usable id (defaultValue p s.net id) (faults.field id) (s.cell id) := by
  induction ids generalizing s with
  | nil => cases hid
  | cons first ids ih =>
    obtain ⟨hfirst, hrest⟩ := List.nodup_cons.mp hnodup
    have honly := loadField_onlyCell p faults s first
    rw [List.foldl_cons]
    by_cases he : id = first
    · subst he
      rw [(foldl_loadField p faults ids _).2.2.2.1 id hfirst, loadField_cell]
    · have hmem : id ∈ ids := (List.mem_cons.mp hid).resolve_left he
      rw [ih hrest hmem, honly.usable, honly.net, honly.cell id he]

lemma mem_loadOrder (h : id ≠ .version) : id ∈ loadOrder := by
  cases id <;> first | exact absurd rfl h | decide

theorem configInit_spec (p : Platform) (faults : Faults) (s : State) :
    let start := checkVersion faults { s with data := .zero }
    let t := (configInit p faults s).2
    t.useFs = start.useFs ∧ t.fs.up = start.fs.up ∧ t.net = start.net ∧
      t.cell .version = start.cell .version ∧
      ∀ id, id ≠ .version → t.cell id =
        loadCell start.usable id (defaultValue p start.net id) (faults.field id) (start.cell id) := by
  obtain ⟨huse, hup, hnet, hcell, -⟩ := foldl_loadField p faults loadOrder
    (checkVersion faults { s with data := .zero })
  exact ⟨huse, hup, hnet, hcell _ (by decide),
    fun id hid => foldl_loadField_cell (by decide) (mem_loadOrder hid) _⟩

theorem configInit_entry (p : Platform) (faults : Faults) (s : State) {key : UInt16}
    (hkey : ∀ id : ConfigId, key ≠ id.key) :
    (configInit p faults s).2.fs.entry key =
      (checkVersion faults { s with data := .zero }).fs.entry key :=
  (foldl_loadField p faults loadOrder _).2.2.2.2 key hkey

def State.tried (s : State) : State := { s with useFs := true }

def State.current (s : State) : State := { s with data := s.data.write .version [cfgCurrentVersion] }

inductive Checked (faults : Faults) (s : State) : State → Prop
  | disabled (henabled : s.fs.enabled = false) : Checked faults s s
  | loaded (henabled : s.fs.enabled = true) (hread : s.tried.Readable faults .version)
      (hentry : s.entry .version = [cfgCurrentVersion]) : Checked faults s s.tried.current
  | fresh (henabled : s.fs.enabled = true) (hread : ¬ s.tried.Readable faults .version)
      (hwrite : s.tried.Writable faults .version) : Checked faults s (s.tried.current.put .version)
  | failed (henabled : s.fs.enabled = true) (hread : ¬ s.tried.Readable faults .version)
      (hwrite : ¬ s.tried.Writable faults .version) : Checked faults s { s.current with useFs := false }
  | foreign (t : State) (henabled : s.fs.enabled = true) (hread : s.tried.Readable faults .version)
      (hentry : s.entry .version ≠ [cfgCurrentVersion]) (huse : t.useFs = false) (hnet : t.net = s.net)
      (hfs : t.fs = (fsClear faults.clear s.fs).2)
      (hdata : t.data = s.data.write .version
        (if (fsClear faults.clear s.fs).1 = 0 then [cfgCurrentVersion] else s.entry .version)) :
      Checked faults s t

lemma keepStorage_current (s : State) :
    keepStorage (writeCurrentVersion faults s) =
      if s.Writable faults .version then s.current.put .version else { s.current with useFs := false } := by
  have heq : writeCurrentVersion faults s = writeField faults s.current .version := rfl
  have hiff : s.current.Writable faults .version ↔ s.Writable faults .version := Iff.rfl
  rw [heq, keepStorage]
  split_ifs with hrc hw hw
  · exact absurd (writeField_done (hiff.mpr hw)).1 hrc.not_ge
  · rw [(writeField_failed (fun h => hw (hiff.mp h))).2]
  · rw [(writeField_done (hiff.mpr hw)).2]
  · exact absurd (writeField_failed (fun h => hw (hiff.mp h))).1 hrc

lemma length_of_readable (h : s.tried.Readable faults .version) : (s.entry .version).length = 1 := by
  have hle : (s.entry .version).length ≤ 1 := h.2.2.2
  have hpos : 0 < (s.entry .version).length := List.length_pos_iff.mpr h.2.2.1
  omega

lemma keepStorage_cleared (henabled : s.fs.enabled = true) (hread : s.tried.Readable faults .version)
    (hentry : s.entry .version ≠ [cfgCurrentVersion]) :
    Checked faults s
      (keepStorage (match configClear faults
          { s.tried with data := s.data.write .version (s.entry .version) } with
        | (rc, t) => if rc = 0 then writeCurrentVersion faults t else (rc, t))) := by
  have hlen : [cfgCurrentVersion].length = ConfigId.version.size := rfl
  rcases fsClear_zero s.fs faults.clear with hrc | ⟨hrc, hdown⟩
  · have hout : configClear faults { s.tried with data := s.data.write .version (s.entry .version) } =
        ((fsClear faults.clear s.fs).1, { s.tried with
          data := s.data.write .version (s.entry .version), fs := (fsClear faults.clear s.fs).2 }) := rfl
    simp only [hout, hrc.ne, if_false, keepStorage, hrc, if_true]
    exact .foreign _ henabled hread hentry rfl rfl rfl (by rw [if_neg hrc.ne])
  · have hout : configClear faults { s.tried with data := s.data.write .version (s.entry .version) } =
        (0, { s.tried with
          data := s.data.write .version (s.entry .version), fs := (fsClear faults.clear s.fs).2 }) := by
      rw [← hrc]
      rfl
    simp only [hout, if_true]
    rw [keepStorage_current, if_neg]
    · refine .foreign _ henabled hread hentry rfl rfl rfl ?_
      rw [if_pos hrc]
      exact ConfigData.write_write_full hlen
    · rintro ⟨-, hup, -⟩
      rw [hdown] at hup
      cases hup

theorem checkVersion_checked (faults : Faults) (s : State) : Checked faults s (checkVersion faults s) := by
  cases henabled : s.fs.enabled with
  | false =>
    rw [checkVersion, henabled]
    exact .disabled henabled
  | true =>
    have heq : checkVersion faults s = keepStorage (settleVersion faults
        (readField faults s.tried .version).1 (readField faults s.tried .version).2) := if_pos henabled
    have hlen : [cfgCurrentVersion].length = ConfigId.version.size := rfl
    rw [heq, settleVersion]
    by_cases hread : s.tried.Readable faults .version
    · obtain ⟨hrc, hdata⟩ := readField_done hread
      have hversion : (s.data.write .version (s.entry .version)).version = s.entry .version :=
        ConfigData.bytes_write_full (length_of_readable hread)
      rw [if_neg hrc.not_gt, hdata]
      by_cases hentry : s.entry .version = [cfgCurrentVersion]
      · rw [if_neg]
        · have hloaded := Checked.loaded henabled hread hentry
          rwa [State.current, ← hentry] at hloaded
        · exact not_not.mpr (hversion.trans hentry)
      · rw [if_pos]
        · exact keepStorage_cleared henabled hread hentry
        · exact fun h => hentry (hversion.symm.trans h)
    · obtain ⟨hrc, hdata⟩ := readField_failed hread
      rw [if_pos hrc, hdata, keepStorage_current, State.current, ConfigData.write_write_full hlen]
      by_cases hwrite : s.tried.Writable faults .version
      · rw [if_pos]
        · exact .fresh henabled hread hwrite
        · exact hwrite
      · rw [if_neg]
        · exact .failed henabled hread hwrite
        · exact hwrite

end

end WallaBMC.Config
