import WallaBMC.Config.Services

/-! The string setters: what is left of an accepted string in `config_data`, in the running hostname and,
through `config_init` and `net_init`, in the hostname after the next boot. -/

namespace WallaBMC.Config

open Redfish Storage Library.Bytes Library.Runs

/-- The longest name that `net_hostname_set` takes. -/
def netHostnameMaxLen : ℕ := 63

def HostnameRule (fault : Option Errno) (hostname : CString) : Prop :=
  fault = none ↔ hostname.bytes.length ≤ netHostnameMaxLen

inductive StringSetter
  | password
  | hostname
  | ntpServer
  deriving DecidableEq

namespace StringSetter

def call : StringSetter → CString → SetterCall
  | password, str => .password str
  | hostname, str => .hostname str
  | ntpServer, str => .ntpServer str

def id : StringSetter → ConfigId
  | password => .bmcAdminPassword
  | hostname => .bmcHostname
  | ntpServer => .bmcNtpServer

/-- What is checked before the copy. -/
def Admits : StringSetter → CString → Prop
  | password, str => str.bytes.length ≤ maxPwLen
  | hostname, str => str.bytes.length ≤ netHostnameMaxLen
  | ntpServer, _ => True

end StringSetter

/-- A boot without a storage fault; the configured name is short enough for `net_hostname_set`. -/
structure Restart where
  app : NetConfigInitApp
  netFaults : NetFaults
  stopFaults : NetFaults
  app_hostname : ∀ net, (app.run net).2.hostname = net.hostname
  hostname_set : netFaults.hostname = none

def Restart.run (r : Restart) (p : Platform) (fs : Fs) : State :=
  (netInit r.app r.netFaults r.stopFaults (boot p .none (mounted fs))).2

structure StringSetter.Keeps (f : StringSetter) (p : Platform) (r : Restart) (str : CString) (t : State) : Prop where
  getter : t.data.image f.id = str.bytes
  running : f = hostname → t.net.hostname = str
  restarted : f = hostname → (r.run p t.fs).net.hostname = str

variable {p : Platform} {faults : Faults} {s t : State} {f : StringSetter} {str : CString}

lemma Effect.zero_entry {c : SetterCall} (h : Effect p faults s c 0 t) (hidle : ¬ c.Idle s) :
    t.entry c.id = (c.written p s.data).image c.id := by
  generalize hrc : (0 : ℤ) = rc at h
  cases h with
  | idle hsame => exact absurd hsame hidle
  | refused _ _ hne | unsaved _ _ hne => exact absurd hrc.symm hne
  | saved _ _ _ _ _ _ hfs => exact entry_saved hfs

lemma StringSetter.call_id (f : StringSetter) (str : CString) : (f.call str).id = f.id := by
  cases f <;> rfl

lemma StringSetter.call_requested (f : StringSetter) (str : CString) : (f.call str).requested p = some str.bytes := by
  cases f <;> rfl

lemma StringSetter.call_not_idle (f : StringSetter) (str : CString) (s : State) : ¬ (f.call str).Idle s := by
  apply not_idle
  cases f <;> rfl

lemma StringSetter.call_zero_iff (hrule : HostnameRule (faults.field .bmcHostname).net.hostname str) :
    ((f.call str).run p faults s).1 = 0 ↔ f.Admits str ∧ s.Writable faults f.id := by
  have haccepted : (f.call str).Accepted p faults s ↔ f.Admits str := by
    cases f with
    | password => exact Iff.rfl
    | hostname => exact hrule
    | ntpServer => exact Iff.rfl
  rw [(setter_effect p faults s (f.call str)).zero_iff, or_iff_right (f.call_not_idle str s), haccepted,
    f.call_id]

lemma hostname_netDoSetDefaultIp4 (address netmask gateway : Ip4) (netFaults : NetFaults) (net : Net) :
    (netDoSetDefaultIp4 address netmask gateway netFaults net).2.hostname = net.hostname := by
  rw [netDoSetDefaultIp4]
  cases net.iface with
  | none => rfl
  | some iface =>
    dsimp only
    split_ifs <;> rfl

lemma hostname_configBmcHostnameSet (h : (configBmcHostnameSet faults str s).1 = 0) :
    (configBmcHostnameSet faults str s).2.net.hostname = str := by
  have hset : (netDoSetHostname s.data.bmcUseDhcp4 (faults.field .bmcHostname).net.hostname str s.net).1 = 0 := by
    by_contra hrc
    rw [configBmcHostnameSet] at h
    dsimp only at h
    rw [if_pos hrc] at h
    exact hrc h
  have hfault := netDoSetHostname_zero.mp hset
  rw [configBmcHostnameSet]
  dsimp only
  rw [if_neg (not_not.mpr hset), configSave_net, hfault]
  cases hdhcp : s.data.bmcUseDhcp4 <;> rfl

lemma hostname_netInit {app : NetConfigInitApp} {netFaults stopFaults : NetFaults}
    (happ : ∀ net, (app.run net).2.hostname = net.hostname) (hset : netFaults.hostname = none) (s : State) :
    (netInit app netFaults stopFaults s).2.net.hostname = s.data.bmcHostname := by
  have haddress : (netInitAddress netFaults s).net.hostname = s.data.bmcHostname := by
    rw [netInitAddress, hset]
    dsimp only
    split_ifs
    · exact hostname_netDoSetDefaultIp4 _ _ _ _ _
    · rfl
  have hdhcp : ∀ t : State, (netInitDhcp4 stopFaults t).net.hostname = t.net.hostname := by
    intro t
    rw [netInitDhcp4]
    split_ifs
    · exact hostname_netDoSetDefaultIp4 _ _ _ _ _
    · rfl
  have hntp : ∀ (data : ConfigData) (net : Net), (ntpInit data net).2.hostname = net.hostname := by
    intro data net
    rw [ntpInit, startNtp]
    split_ifs <;> rfl
  rw [netInit]
  dsimp only
  split_ifs
  · exact (happ _).trans haddress
  · exact (hntp _ _).trans ((hdhcp _).trans ((happ _).trans haddress))

lemma hostname_restart (r : Restart) (ht : InUse t) {value : List UInt8} (hvalue : IsValue .bmcHostname value)
    (hentry : t.entry .bmcHostname = value) :
    (r.run p t.fs).net.hostname.bytes =
      if value = [] then p.net.hostname.bytes.take ConfigId.bmcHostname.limit else value := by
  have hname : (r.run p t.fs).net.hostname = (boot p .none (mounted t.fs)).data.bmcHostname :=
    hostname_netInit r.app_hostname r.hostname_set _
  have himage : (boot p .none (mounted t.fs)).data.image .bmcHostname = _ :=
    (congrArg (fun fs => (boot p .none fs).data.image .bmcHostname) (mounted_of_up ht.up)).trans
      (reboot_inUse p ht.up ht.version (by decide))
  rw [hname]
  refine himage.trans ?_
  rw [show t.fs.entry ConfigId.bmcHostname.key = value from hentry]
  exact loadedValue_value hvalue

lemma eq_of_bytes {name name' : CString} (h : name.bytes = name'.bytes) : name = name' := by
  cases name
  cases name'
  congr

lemma isValue_hostname (hfits : str.bytes.length ≤ maxHostnameLen) : IsValue .bmcHostname str.bytes :=
  ⟨hfits, fun _ => str.noNul, fun h => Bool.noConfusion h⟩

lemma hostname_restarted_iff (r : Restart) (ht : InUse t) (hfits : str.bytes.length ≤ maxHostnameLen)
    (hentry : t.entry .bmcHostname = str.bytes) :
    (r.run p t.fs).net.hostname = str ↔ (str.bytes = [] → p.net.hostname.bytes = []) := by
  have hbytes := hostname_restart (p := p) r ht (isValue_hostname hfits) hentry
  have hequal : (r.run p t.fs).net.hostname = str ↔ (r.run p t.fs).net.hostname.bytes = str.bytes :=
    ⟨congrArg CString.bytes, eq_of_bytes⟩
  rw [hequal, hbytes]
  by_cases hnil : str.bytes = []
  · rw [if_pos hnil, hnil, take_limit_eq_nil]
    exact ⟨fun h _ => h, fun h => h rfl⟩
  · rw [if_neg hnil]
    exact iff_of_true rfl (fun h => absurd h hnil)

lemma StringSetter.keeps_iff (r : Restart) (hrule : HostnameRule (faults.field .bmcHostname).net.hostname str)
    (hs : s.useFs = true → InUse s) (hzero : ((f.call str).run p faults s).1 = 0) :
    f.Keeps p r str ((f.call str).run p faults s).2 ↔
      str.bytes.length ≤ f.id.limit ∧ (f = hostname → str.bytes = [] → p.net.hostname.bytes = []) := by
  have heffect := setter_effect p faults s (f.call str)
  obtain ⟨-, hwritable⟩ := (call_zero_iff hrule).mp hzero
  have hin : InUse ((f.call str).run p faults s).2 := heffect.inUse (hs hwritable.1)
  rw [hzero] at heffect
  have hwritten := image_written (f.call_requested (p := p) str) s.data
  rw [f.call_id] at hwritten
  have himage : ((f.call str).run p faults s).2.data.image f.id = str.bytes.take f.id.limit := by
    rwa [heffect.zero_data]
  have hentry : ((f.call str).run p faults s).2.entry f.id = str.bytes.take f.id.limit := by
    have hsaved := heffect.zero_entry (f.call_not_idle str s)
    rw [f.call_id] at hsaved
    exact hsaved.trans hwritten
  have hrunning : f = hostname → ((f.call str).run p faults s).2.net.hostname = str := by
    rintro rfl
    exact hostname_configBmcHostnameSet hzero
  have hfits : str.bytes.take f.id.limit = str.bytes ↔ str.bytes.length ≤ f.id.limit := List.take_eq_self_iff _
  constructor
  · intro hkeeps
    have hle := hfits.mp (himage.symm.trans hkeeps.getter)
    rw [hfits.mpr hle] at hentry
    refine ⟨hle, ?_⟩
    rintro rfl
    exact (hostname_restarted_iff r hin hle hentry).mp (hkeeps.restarted rfl)
  · rintro ⟨hle, hempty⟩
    rw [hfits.mpr hle] at hentry
    refine ⟨himage.trans (hfits.mpr hle), hrunning, ?_⟩
    rintro rfl
    exact (hostname_restarted_iff r hin hle hentry).mpr (hempty rfl)

lemma exec_useFs (p : Platform) (s : State) (calls : List Call) :
    (exec (callStep p) s calls).useFs = s.useFs := by
  induction calls generalizing s with
  | nil => rfl
  | cons call calls ih =>
    have hcall := (setter_effect p call.faults s call.setter).useFs
    exact (ih (callStep p s call).1).trans hcall

/-- An accepted string is kept when it fits its array and, if it is a hostname, is not empty beside another
name of the build. -/
theorem string_kept_iff (p : Platform) (bootFaults : Faults) (fs : Fs) (calls : List Call) (faults : Faults)
    (r : Restart) (f : StringSetter) (str : CString)
    (hrule : HostnameRule (faults.field .bmcHostname).net.hostname str) :
    let s := exec (callStep p) (boot p bootFaults fs) calls
    (((f.call str).run p faults s).1 = 0 → f.Keeps p r str ((f.call str).run p faults s).2) ↔
      (f.Admits str → s.Writable faults f.id → str.bytes.length ≤ f.id.limit ∧
        (f = .hostname → str.bytes = [] → p.net.hostname.bytes = [])) := by
  intro s
  have hs : s.useFs = true → InUse s := by
    intro huse
    rw [exec_useFs] at huse
    exact exec_inUse (boot_inUse huse) calls
  have hzero := f.call_zero_iff (p := p) (s := s) hrule
  constructor
  · intro hkeeps hadmits hwritable
    have hdone := hzero.mpr ⟨hadmits, hwritable⟩
    exact (f.keeps_iff r hrule hs hdone).mp (hkeeps hdone)
  · intro hfits hdone
    obtain ⟨hadmits, hwritable⟩ := hzero.mp hdone
    exact (f.keeps_iff r hrule hs hdone).mpr (hfits hadmits hwritable)

def sampleRestart : Restart where
  app := sampleApp
  netFaults := sampleNoFaults
  stopFaults := sampleNoFaults
  app_hostname net := by
    simp only [sampleApp, sampleInitApp]
    cases net.iface <;> rfl
  hostname_set := rfl

theorem string_kept_otherName :
    StringSetter.hostname.Keeps samplePlatform sampleRestart otherName
      ((StringSetter.hostname.call otherName).run samplePlatform .none
        (boot samplePlatform .none (mounted emptyStore))).2 :=
  (string_kept_iff samplePlatform .none (mounted emptyStore) [] .none sampleRestart .hostname otherName
    (iff_of_true rfl (by decide))).mpr (fun _ _ => ⟨by decide, fun _ hnil => absurd hnil (by decide)⟩)
    (by decide +kernel)

def longName : CString := ⟨List.replicate 21 120, by decide⟩

/-- The network takes 21 bytes, the array 20. -/
theorem longName_cut :
    HostnameRule (Faults.none.field .bmcHostname).net.hostname longName ∧
      ((StringSetter.hostname.call longName).run samplePlatform .none
        (boot samplePlatform .none (mounted emptyStore))).1 = 0 ∧
      ¬ StringSetter.hostname.Keeps samplePlatform sampleRestart longName
        ((StringSetter.hostname.call longName).run samplePlatform .none
          (boot samplePlatform .none (mounted emptyStore))).2 := by
  refine ⟨iff_of_true rfl (by decide), by decide +kernel, ?_⟩
  intro hkeeps
  exact absurd hkeeps.getter (by decide +kernel)

end WallaBMC.Config
