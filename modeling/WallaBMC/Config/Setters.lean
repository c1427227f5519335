import WallaBMC.Config.Data

/-! The setters of `config.c` and what one call of them does. `Platform` holds what the build and the C
library supply. A setter writes its field in `config_data` before it applies and saves the new value. -/

namespace WallaBMC.Config

open Redfish Storage Library.Bytes

structure Platform where
  defaultAdminPassword : CString
  password_fits : defaultAdminPassword.bytes.length ≤ maxPwLen
  net : Net
  inetPton : CString → Option Ip4

variable (p : Platform) (faults : Faults)

def configBmcHostnameSet (hostname : CString) (s : State) : ℤ × State :=
  let (rc, net) :=
    netDoSetHostname s.data.bmcUseDhcp4 (faults.field .bmcHostname).net.hostname hostname s.net
  let s := { s with net := net }
  if rc ≠ 0 then (rc, s)
  else configSave faults { s with data := s.data.strlcpy .bmcHostname hostname } .bmcHostname

def netDoSetDefaultIp4FromConfig (netFaults : NetFaults) (s : State) : ℤ × State :=
  let (rc, net) := netDoSetDefaultIp4 s.data.bmcDefaultIp4 s.data.bmcDefaultIp4Nm s.data.bmcDefaultIp4Gw
    netFaults s.net
  (rc, { s with net := net })

def ip4Stoa (str : Option CString) : Option Ip4 :=
  match str with
  | some str => p.inetPton str
  | none => some .any

/-- The setters of the three addresses; without a string the address becomes zero. -/
def ip4Set (id : ConfigId) (str : Option CString) (s : State) : ℤ × State :=
  match ip4Stoa p str with
  | none => (-einval, s)
  | some address =>
    let s := { s with data := s.data.write id address.bytes }
    let (rc, s) := netDoSetDefaultIp4FromConfig (faults.field id).net s
    if rc ≠ 0 then (rc, s) else configSave faults s id

def configBmcDefaultIp4Set (str : Option CString) (s : State) : ℤ × State :=
  ip4Set p faults .bmcDefaultIp4 str s

def configBmcDefaultIp4NmSet (str : Option CString) (s : State) : ℤ × State :=
  ip4Set p faults .bmcDefaultIp4Nm str s

def configBmcDefaultIp4GwSet (str : Option CString) (s : State) : ℤ × State :=
  ip4Set p faults .bmcDefaultIp4Gw str s

def flagBytes (use : Bool) : List UInt8 := [if use then 1 else 0]

/-- The setters of the three flags; `apply` is what they switch on and off. -/
def flagSet (id : ConfigId) (apply : Bool → State → Net) (use : Bool) (s : State) : ℤ × State :=
  if s.data.bytes id = flagBytes use then (0, s)
  else
    let s := { s with data := s.data.write id (flagBytes use) }
    configSave faults { s with net := apply use s } id

def applyDhcp4 (use : Bool) (s : State) : Net :=
  if use then (netStartDhcp4 s.net).2
  else (netStopDhcp4 s.data.bmcDefaultIp4 s.data.bmcDefaultIp4Nm s.data.bmcDefaultIp4Gw
    (faults.field .bmcUseDhcp4).net s.net).2

def configBmcUseDhcp4Set (use : Bool) (s : State) : ℤ × State :=
  flagSet faults .bmcUseDhcp4 (applyDhcp4 faults) use s

def applyNtp (use : Bool) (s : State) : Net := if use then (startNtp s.net).2 else (stopNtp s.net).2

def configBmcUseNtpSet (use : Bool) (s : State) : ℤ × State :=
  flagSet faults .bmcUseNtp applyNtp use s

def configHostAutoPoweronSet (use : Bool) (s : State) : ℤ × State :=
  flagSet faults .hostAutoPoweron (fun _ s => s.net) use s

def configBmcNtpServerSet (ntpServer : CString) (s : State) : ℤ × State :=
  let s := { s with data := s.data.strlcpy .bmcNtpServer ntpServer }
  let (rc, s) := configSave faults s .bmcNtpServer
  if rc < 0 then (rc, s)
  else if s.data.bmcUseNtp then
    let (_, net) := stopNtp s.net
    let (rc, net) := startNtp net
    if rc < 0 then (rc, { s with net := net }) else (0, { s with net := net })
  else (0, s)

def configBmcPasswordSet (password : CString) (s : State) : ℤ × State :=
  if password.bytes.length > maxPwLen then (-einval, s)
  else configSave faults { s with data := s.data.strlcpy .bmcAdminPassword password } .bmcAdminPassword

inductive SetterCall
  | password (password : CString)
  | hostname (hostname : CString)
  | ip4 (str : Option CString)
  | ip4Nm (str : Option CString)
  | ip4Gw (str : Option CString)
  | useDhcp4 (use : Bool)
  | useNtp (use : Bool)
  | ntpServer (ntpServer : CString)
  | autoPoweron (use : Bool)
  deriving DecidableEq

namespace SetterCall

def run (s : State) : SetterCall → ℤ × State
  | password str => configBmcPasswordSet faults str s
  | hostname str => configBmcHostnameSet faults str s
  | ip4 str => configBmcDefaultIp4Set p faults str s
  | ip4Nm str => configBmcDefaultIp4NmSet p faults str s
  | ip4Gw str => configBmcDefaultIp4GwSet p faults str s
  | useDhcp4 use => configBmcUseDhcp4Set faults use s
  | useNtp use => configBmcUseNtpSet faults use s
  | ntpServer str => configBmcNtpServerSet faults str s
  | autoPoweron use => configHostAutoPoweronSet faults use s

def id : SetterCall → ConfigId
  | password _ => .bmcAdminPassword
  | hostname _ => .bmcHostname
  | ip4 _ => .bmcDefaultIp4
  | ip4Nm _ => .bmcDefaultIp4Nm
  | ip4Gw _ => .bmcDefaultIp4Gw
  | useDhcp4 _ => .bmcUseDhcp4
  | useNtp _ => .bmcUseNtp
  | ntpServer _ => .bmcNtpServer
  | autoPoweron _ => .hostAutoPoweron

/-- The value asked for, if the argument denotes one. -/
def requested : SetterCall → Option (List UInt8)
  | password str | hostname str | ntpServer str => some str.bytes
  | ip4 str | ip4Nm str | ip4Gw str => (ip4Stoa p str).map Ip4.bytes
  | useDhcp4 use | useNtp use | autoPoweron use => some (flagBytes use)

def flag? : SetterCall → Option Bool
  | useDhcp4 use | useNtp use | autoPoweron use => some use
  | _ => none

end SetterCall

namespace SetterCall

def written (data : ConfigData) (c : SetterCall) : ConfigData :=
  match c.requested p with
  | none => data
  | some value => data.assign c.id value

/-- The early return of the flag setters. -/
def Idle (s : State) (c : SetterCall) : Prop := ∃ use, c.flag? = some use ∧ s.data.bytes c.id = flagBytes use

/-- All that comes before the save goes through. -/
def Accepted (s : State) (c : SetterCall) : Prop :=
  match c with
  | password str => str.bytes.length ≤ maxPwLen
  | hostname _ => (faults.field .bmcHostname).net.hostname = none
  | ip4 _ | ip4Nm _ | ip4Gw _ =>
    c.requested p ≠ none ∧ s.net.Takes (faults.field c.id).net (c.written p s.data).bmcDefaultIp4
  | useDhcp4 _ | useNtp _ | ntpServer _ | autoPoweron _ => True

end SetterCall

/-- Storage is in use as before, and there still is an interface if there was one. -/
structure Beside (s t : State) : Prop where
  useFs : t.useFs = s.useFs
  iface : t.net.iface.isSome = s.net.iface.isSome

inductive Effect (s : State) (c : SetterCall) : ℤ → State → Prop
  | idle (hidle : c.Idle s) : Effect s c 0 s
  | refused (rc : ℤ) (t : State) (hrc : rc ≠ 0) (haccepted : ¬ c.Accepted p faults s)
      (hbeside : Beside s t) (hdata : t.data = s.data ∨ t.data = c.written p s.data)
      (hfs : t.fs = s.fs) : Effect s c rc t
  | unsaved (rc : ℤ) (t : State) (hrc : rc ≠ 0) (hidle : ¬ c.Idle s) (haccepted : c.Accepted p faults s)
      (hwritable : ¬ s.Writable faults c.id) (hbeside : Beside s t)
      (hdata : t.data = c.written p s.data) (hfs : t.fs = s.fs) : Effect s c rc t
  | saved (t : State) (hidle : ¬ c.Idle s) (haccepted : c.Accepted p faults s)
      (hwritable : s.Writable faults c.id) (hbeside : Beside s t)
      (hdata : t.data = c.written p s.data)
      (hfs : t.fs = s.fs.put c.id.key ((c.written p s.data).image c.id)) : Effect s c 0 t

section

variable {p} {faults} {s t : State} {c : SetterCall}

lemma Beside.refl (s : State) : Beside s s := ⟨rfl, rfl⟩

lemma requested_str {value : List UInt8} (hreq : c.requested p = some value)
    (hstr : c.id.isStr = true) : 0 ∉ value := by
  cases c with
  | password str | hostname str | ntpServer str =>
    cases hreq
    exact str.noNul
  | _ => cases hstr

lemma requested_scalar {value : List UInt8} (hreq : c.requested p = some value)
    (hstr : c.id.isStr = false) : value.length = c.id.size := by
  cases c with
  | password str | hostname str | ntpServer str => cases hstr
  | ip4 str | ip4Nm str | ip4Gw str =>
    obtain ⟨address, -, rfl⟩ := Option.map_eq_some_iff.mp hreq
    exact address.length_bytes
  | useDhcp4 use | useNtp use | autoPoweron use =>
    cases hreq
    rfl

lemma written_scalar {value : List UInt8} (hreq : c.requested p = some value)
    (hstr : c.id.isStr = false) (data : ConfigData) : c.written p data = data.write c.id value := by
  have hlen := requested_scalar hreq hstr
  rw [SetterCall.written, hreq]
  simp only [ConfigData.assign, ConfigId.layout, ConfigId.limit, hstr, Bool.false_eq_true, if_false]
  rw [← hlen, List.take_length]

lemma written_str {str : CString} (hreq : c.requested p = some str.bytes) (hstr : c.id.isStr = true)
    (data : ConfigData) : c.written p data = data.strlcpy c.id str := by
  rw [SetterCall.written, hreq, ConfigData.strlcpy_eq data hstr]

lemma not_idle (h : c.flag? = none) (s : State) : ¬ c.Idle s := by
  rintro ⟨use, hflag, -⟩
  rw [h] at hflag
  cases hflag

lemma writable_congr {id : ConfigId} (huse : t.useFs = s.useFs) (hfs : t.fs = s.fs) :
    t.Writable faults id ↔ s.Writable faults id := by
  rw [State.Writable, State.Writable, huse, hfs]

lemma configSave_effect (hidle : ¬ c.Idle s) (haccepted : c.Accepted p faults s) (hbeside : Beside s t)
    (hdata : t.data = c.written p s.data) (hfs : t.fs = s.fs) :
    Effect p faults s c (configSave faults t c.id).1 (configSave faults t c.id).2 := by
  by_cases hw : t.Writable faults c.id
  · rw [configSave_done hw]
    have hput : (t.put c.id).fs = s.fs.put c.id.key ((c.written p s.data).image c.id) := by
      rw [State.put, hdata, hfs]
    exact .saved _ hidle haccepted ((writable_congr hbeside.useFs hfs).mp hw) ⟨hbeside.useFs, hbeside.iface⟩
      hdata hput
  · obtain ⟨hrc, hsame⟩ := configSave_failed hw
    rw [hsame]
    exact .unsaved _ _ hrc.ne hidle haccepted (fun h => hw ((writable_congr hbeside.useFs hfs).mpr h))
      hbeside hdata hfs

lemma netDoSetHostname_iface (useDhcp4 : Bool) (fault : Option Errno) (hostname : CString) (net : Net) :
    (netDoSetHostname useDhcp4 fault hostname net).2.iface.isSome = net.iface.isSome := by
  cases fault <;> cases useDhcp4 <;>
    simp [netDoSetHostname, netHostnameSet, restartDhcp4, startDhcp4, stopDhcp4]

lemma applyDhcp4_iface (use : Bool) (s : State) :
    (applyDhcp4 faults use s).iface.isSome = s.net.iface.isSome := by
  cases use with
  | true => simp [applyDhcp4, netStartDhcp4, startDhcp4]
  | false => simp [applyDhcp4, netStopDhcp4, stopDhcp4, netDoSetDefaultIp4_iface]

lemma applyNtp_iface (use : Bool) (s : State) :
    (applyNtp use s).iface.isSome = s.net.iface.isSome := by
  rw [applyNtp, startNtp, stopNtp]
  split_ifs <;> rfl

lemma netDoSetDefaultIp4FromConfig_beside (netFaults : NetFaults) (s : State) :
    Beside s (netDoSetDefaultIp4FromConfig netFaults s).2 :=
  ⟨rfl, netDoSetDefaultIp4_iface⟩

lemma netDoSetDefaultIp4FromConfig_zero (netFaults : NetFaults) (s : State) :
    (netDoSetDefaultIp4FromConfig netFaults s).1 = 0 ↔ s.net.Takes netFaults s.data.bmcDefaultIp4 :=
  netDoSetDefaultIp4_zero

lemma ip4Set_effect {str : Option CString} (hreq : c.requested p = (ip4Stoa p str).map Ip4.bytes)
    (hstr : c.id.isStr = false) (hflag : c.flag? = none)
    (hacc : c.Accepted p faults s ↔ c.requested p ≠ none ∧
      s.net.Takes (faults.field c.id).net (c.written p s.data).bmcDefaultIp4) :
    Effect p faults s c (ip4Set p faults c.id str s).1 (ip4Set p faults c.id str s).2 := by
  unfold ip4Set
  cases hparse : ip4Stoa p str with
  | none =>
    have hnone : c.requested p = none := by rw [hreq, hparse]; rfl
    exact .refused _ s (errno_neg einval).ne (fun h => (hacc.mp h).1 hnone) (.refl s) (.inl rfl) rfl
  | some address =>
    have hsome : c.requested p = some address.bytes := by rw [hreq, hparse]; rfl
    have hwritten := written_scalar hsome hstr s.data
    have hwrote : ({ s with data := s.data.write c.id address.bytes } : State).data =
        c.written p s.data := hwritten.symm
    have hbeside := netDoSetDefaultIp4FromConfig_beside (faults.field c.id).net
      { s with data := s.data.write c.id address.bytes }
    have hzero := netDoSetDefaultIp4FromConfig_zero (faults.field c.id).net
      { s with data := s.data.write c.id address.bytes }
    rw [hwrote] at hzero
    have haccepted : c.Accepted p faults s ↔ (netDoSetDefaultIp4FromConfig (faults.field c.id).net
        { s with data := s.data.write c.id address.bytes }).1 = 0 := by
      rw [hacc, hzero]
      simp [hsome]
    dsimp only
    split_ifs with hrc
    · exact .refused _ _ hrc (fun h => hrc (haccepted.mp h)) ⟨hbeside.useFs, hbeside.iface⟩
        (.inr hwrote) rfl
    · exact configSave_effect (not_idle hflag s) (haccepted.mpr (not_not.mp hrc))
        ⟨hbeside.useFs, hbeside.iface⟩ hwrote rfl

lemma flagSet_effect {use : Bool} {apply : Bool → State → Net} (hflag : c.flag? = some use)
    (hreq : c.requested p = some (flagBytes use)) (hstr : c.id.isStr = false)
    (hacc : c.Accepted p faults s)
    (hiface : ∀ s, (apply use s).iface.isSome = s.net.iface.isSome) :
    Effect p faults s c (flagSet faults c.id apply use s).1 (flagSet faults c.id apply use s).2 := by
  have hidle : c.Idle s ↔ s.data.bytes c.id = flagBytes use := by
    simp [SetterCall.Idle, hflag]
  rw [flagSet]
  split_ifs with h
  · exact .idle (hidle.mpr h)
  · exact configSave_effect (fun hi => h (hidle.mp hi)) hacc ⟨rfl, hiface _⟩
      (written_scalar hreq hstr s.data).symm rfl

lemma configBmcNtpServerSet_effect (str : CString) :
    Effect p faults s (.ntpServer str) (configBmcNtpServerSet faults str s).1
      (configBmcNtpServerSet faults str s).2 := by
  have hwritten := written_str (p := p) (c := .ntpServer str) rfl rfl s.data
  have hnot := not_idle (c := .ntpServer str) rfl s
  rw [configBmcNtpServerSet]
  by_cases hw : s.Writable faults .bmcNtpServer
  · have hiface := (applyNtp_iface true { s with net := (stopNtp s.net).2 }).trans
      (applyNtp_iface false s)
    have hsave := configSave_done (s := { s with data := s.data.strlcpy .bmcNtpServer str }) hw
    simp only [hsave, lt_self_iff_false, if_false, startNtp_rc]
    split_ifs
    · exact .saved _ hnot trivial hw ⟨rfl, hiface⟩ hwritten.symm (by rw [hwritten]; rfl)
    · exact .saved _ hnot trivial hw ⟨rfl, rfl⟩ hwritten.symm (by rw [hwritten]; rfl)
  · obtain ⟨hrc, hsame⟩ :=
      configSave_failed (s := { s with data := s.data.strlcpy .bmcNtpServer str }) hw
    simp only [hrc, if_true, hsame]
    exact .unsaved _ _ hrc.ne hnot trivial hw ⟨rfl, rfl⟩ hwritten.symm rfl

theorem setter_effect (p : Platform) (faults : Faults) (s : State) (c : SetterCall) :
    Effect p faults s c (c.run p faults s).1 (c.run p faults s).2 := by
  cases c with
  | password str =>
    simp only [SetterCall.run, configBmcPasswordSet]
    split_ifs with hlen
    · exact .refused _ s (errno_neg einval).ne (fun h => hlen.not_ge h) (.refl s) (.inl rfl) rfl
    · exact configSave_effect (c := .password str) (not_idle rfl s) (not_lt.mp hlen) ⟨rfl, rfl⟩
        (written_str (c := .password str) rfl rfl s.data).symm rfl
  | hostname str =>
    have hiface := netDoSetHostname_iface s.data.bmcUseDhcp4 (faults.field .bmcHostname).net.hostname str s.net
    simp only [SetterCall.run, configBmcHostnameSet]
    split_ifs with hrc
    · exact .refused _ _ hrc (fun h => hrc (netDoSetHostname_zero.mpr h)) ⟨rfl, hiface⟩ (.inl rfl) rfl
    · exact configSave_effect (c := .hostname str) (not_idle rfl s)
        (netDoSetHostname_zero.mp (not_not.mp hrc)) ⟨rfl, hiface⟩
        (written_str (c := .hostname str) rfl rfl s.data).symm rfl
  | ip4 str => exact ip4Set_effect (c := .ip4 str) rfl rfl rfl Iff.rfl
  | ip4Nm str => exact ip4Set_effect (c := .ip4Nm str) rfl rfl rfl Iff.rfl
  | ip4Gw str => exact ip4Set_effect (c := .ip4Gw str) rfl rfl rfl Iff.rfl
  | useDhcp4 use =>
    exact flagSet_effect (c := .useDhcp4 use) rfl rfl rfl trivial (applyDhcp4_iface use)
  | useNtp use => exact flagSet_effect (c := .useNtp use) rfl rfl rfl trivial (applyNtp_iface use)
  | autoPoweron use => exact flagSet_effect (c := .autoPoweron use) rfl rfl rfl trivial (fun _ => rfl)
  | ntpServer str => exact configBmcNtpServerSet_effect str

lemma image_written {value : List UInt8} (hreq : c.requested p = some value) (data : ConfigData) :
    (c.written p data).image c.id = value.take c.id.limit := by
  cases hstr : c.id.isStr with
  | true =>
    have hnot : 0 ∉ value.take c.id.limit := fun h => requested_str hreq hstr (List.mem_of_mem_take h)
    have hlen : (value.take c.id.limit).length < c.id.size := by
      have := c.id.size_pos
      rw [List.length_take, ConfigId.limit, if_pos hstr]
      omega
    have himage := ConfigData.image_write_str data hstr hlen
    rw [cstr_of_notMem hnot] at himage
    rw [SetterCall.written, hreq]
    simpa only [ConfigData.assign, ConfigId.layout, hstr, if_true] using himage
  | false =>
    have hlen := requested_scalar hreq hstr
    have hlimit : c.id.limit = c.id.size := by rw [ConfigId.limit, hstr]; rfl
    rw [written_scalar hreq hstr, ConfigData.image_scalar hstr, ConfigData.bytes_write_full hlen,
      hlimit, ← hlen, List.take_length]

lemma written_of_none (hreq : c.requested p = none) (data : ConfigData) : c.written p data = data := by
  rw [SetterCall.written, hreq]

lemma bytes_written_of_ne {id : ConfigId} (h : id ≠ c.id) (data : ConfigData) :
    (c.written p data).bytes id = data.bytes id := by
  rw [SetterCall.written]
  cases c.requested p with
  | none => rfl
  | some value => exact ConfigData.bytes_write_of_ne h

end

end WallaBMC.Config
