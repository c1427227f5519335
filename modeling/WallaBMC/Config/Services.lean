import WallaBMC.Config.Reboot

/-! `net_init` and what runs after it: the setters and the NTP work. Cancelling the work waits for a running
handler, which then does not schedule itself again. -/

namespace WallaBMC.Config

open Redfish Storage Library.Bytes Library.Runs

/-- Returning zero, `net_config_init_app` has started the DHCP client of the default interface. -/
structure NetConfigInitApp where
  run : Net → ℤ × Net
  starts : ∀ net, (run net).1 = 0 → (run net).2.iface.map Iface.dhcp = some true
  ntp : ∀ net, (run net).2.ntp = net.ntp

/-- The static variables of `ntp.c` after a reset. -/
def Ntp.reset : Ntp := ⟨false, false, 20, none⟩

def ConfigData.bmcHostname (data : ConfigData) : CString :=
  ⟨cstr (data.bytes .bmcHostname), zero_notMem_cstr _⟩

def ntpInit (data : ConfigData) (net : Net) : ℤ × Net :=
  if data.bmcUseNtp then startNtp net else (0, net)

def netInitAddress (netFaults : NetFaults) (s : State) : State :=
  let s := { s with net := (netHostnameSet netFaults.hostname s.data.bmcHostname s.net).2 }
  if s.data.bmcDefaultIp4 ≠ .any then (netDoSetDefaultIp4FromConfig netFaults s).2 else s

def netInitDhcp4 (stopFaults : NetFaults) (s : State) : State :=
  if !s.data.bmcUseDhcp4 then
    { s with net := (netStopDhcp4 s.data.bmcDefaultIp4 s.data.bmcDefaultIp4Nm s.data.bmcDefaultIp4Gw
      stopFaults s.net).2 }
  else s

/-- `netFaults` fails the first setting of the address, `stopFaults` the one after stopping DHCP. -/
def netInit (app : NetConfigInitApp) (netFaults stopFaults : NetFaults) (s : State) : ℤ × State :=
  let s := netInitAddress netFaults s
  let (rc, net) := app.run s.net
  let s := { s with net := net }
  if rc ≠ 0 then (rc, s)
  else
    let s := netInitDhcp4 stopFaults s
    (0, { s with net := (ntpInit s.data s.net).2 })

/-- `running` while `ntp_sync_work_handler` runs. -/
structure Services where
  state : State
  running : Bool

def Services.ntp (s : Services) : Ntp := s.state.net.ntp

def Services.setNtp (s : Services) (ntp : Ntp) : Services :=
  { s with state := { s.state with net := { s.state.net with ntp := ntp } } }

/-- The call gets to `k_work_cancel_delayable_sync`. -/
def SetterCall.cancels (faults : Faults) (s : State) : SetterCall → Bool
  | useNtp use => !use && s.data.bytes .bmcUseNtp ≠ flagBytes false && s.net.ntp.started
  | ntpServer str =>
    let (rc, s) := configSave faults { s with data := s.data.strlcpy .bmcNtpServer str } .bmcNtpServer
    !(rc < 0) && s.data.bmcUseNtp && s.net.ntp.started
  | _ => false

/-- `sntpOk` is the success of a handler that the call waits for. -/
inductive ServiceEvent
  | call (faults : Faults) (setter : SetterCall) (sntpOk : Bool)
  | workStart
  | workEnd (sntpOk : Bool)

def ntpSyncWorkHandlerStart (s : Services) : Services :=
  if s.ntp.work.isSome then
    { s.setNtp { s.ntp with work := none, intervalSec := 60 } with running := true }
  else s

def Ntp.queried (ntp : Ntp) (sntpOk : Bool) : Ntp :=
  if sntpOk && !ntp.synced then { ntp with synced := true, intervalSec := 6 * 60 * 60 } else ntp

def ntpSyncWorkHandlerEnd (sntpOk : Bool) (s : Services) : Services :=
  if s.running then
    let ntp := s.ntp.queried sntpOk
    { s.setNtp { ntp with work := some ntp.intervalSec } with running := false }
  else s

def serviceStep (p : Platform) (s : Services) : ServiceEvent → Services × ℤ
  | .call faults setter sntpOk =>
    let (rc, state) := setter.run p faults s.state
    let t := { s with state := state }
    if s.running && setter.cancels faults s.state then
      ({ t.setNtp { t.ntp with synced := t.ntp.synced || sntpOk } with running := false }, rc)
    else (t, rc)
  | .workStart => (ntpSyncWorkHandlerStart s, 0)
  | .workEnd sntpOk => (ntpSyncWorkHandlerEnd sntpOk s, 0)

structure Follows (s : Services) : Prop where
  ntp : s.ntp.started = s.state.data.bmcUseNtp
  work : (s.ntp.work.isSome || s.running) = s.ntp.started
  dhcp : s.state.net.iface.map Iface.dhcp = some s.state.data.bmcUseDhcp4

/-- Neither flag nor service differs, apart from what the restart of DHCP may turn on. -/
structure SameServices (s t : State) : Prop where
  useNtp : t.data.bmcUseNtp = s.data.bmcUseNtp
  ntp : t.net.ntp = s.net.ntp
  useDhcp4 : t.data.bmcUseDhcp4 = s.data.bmcUseDhcp4
  dhcp : s.net.iface.map Iface.dhcp = some s.data.bmcUseDhcp4 →
    t.net.iface.map Iface.dhcp = some s.data.bmcUseDhcp4

section

variable {p : Platform} {faults : Faults} {s t : State} {running : Bool} {id : ConfigId}

lemma SameServices.refl (s : State) : SameServices s s := ⟨rfl, rfl, rfl, fun h => h⟩

lemma SameServices.trans {u : State} (h : SameServices s t) (h' : SameServices t u) : SameServices s u where
  useNtp := h'.useNtp.trans h.useNtp
  ntp := h'.ntp.trans h.ntp
  useDhcp4 := h'.useDhcp4.trans h.useDhcp4
  dhcp hs := by
    have ht := h.dhcp hs
    rw [← h.useDhcp4] at ht ⊢
    exact h'.dhcp ht

lemma SameServices.follows (h : SameServices s t) (hs : Follows ⟨s, running⟩) : Follows ⟨t, running⟩ where
  ntp := by
    have hflag := hs.ntp
    simp only [Services.ntp, h.ntp, h.useNtp] at hflag ⊢
    exact hflag
  work := by
    have hwork := hs.work
    simp only [Services.ntp, h.ntp] at hwork ⊢
    exact hwork
  dhcp := by
    have hdhcp := h.dhcp hs.dhcp
    rwa [← h.useDhcp4] at hdhcp

lemma sameServices_save (faults : Faults) (s : State) (id : ConfigId) :
    SameServices s (configSave faults s id).2 := by
  have hdata := configSave_data faults s id
  have hnet := configSave_net faults s id
  constructor
  · rw [hdata]
  · rw [hnet]
  · rw [hdata]
  · rw [hnet]
    exact fun hdhcp => hdhcp

lemma sameServices_data {data : ConfigData} (h : ∀ other, other ≠ id → data.bytes other = s.data.bytes other)
    (hntp : id ≠ .bmcUseNtp) (hdhcp : id ≠ .bmcUseDhcp4) : SameServices s { s with data := data } where
  useNtp := by simp only [ConfigData.bmcUseNtp, h _ hntp.symm]
  ntp := rfl
  useDhcp4 := by simp only [ConfigData.bmcUseDhcp4, h _ hdhcp.symm]
  dhcp hs := hs

lemma sameServices_write (src : List UInt8) (hntp : id ≠ .bmcUseNtp) (hdhcp : id ≠ .bmcUseDhcp4) :
    SameServices s { s with data := s.data.write id src } :=
  sameServices_data (fun _ hne => ConfigData.bytes_write_of_ne hne) hntp hdhcp

lemma sameServices_strlcpy (id : ConfigId) (src : CString) (hntp : id ≠ .bmcUseNtp) (hdhcp : id ≠ .bmcUseDhcp4) :
    SameServices s { s with data := s.data.strlcpy id src } := by
  apply sameServices_data (fun other hne => ?_) hntp hdhcp
  rw [ConfigData.strlcpy, ConfigData.bytes_terminate_of_ne hne, ConfigData.bytes_write_of_ne hne]

lemma dhcp_netDoSetDefaultIp4 (address netmask gateway : Ip4) (netFaults : NetFaults) (net : Net) :
    (netDoSetDefaultIp4 address netmask gateway netFaults net).2.iface.map Iface.dhcp = net.iface.map Iface.dhcp ∧
      (netDoSetDefaultIp4 address netmask gateway netFaults net).2.ntp = net.ntp := by
  rw [netDoSetDefaultIp4]
  cases hiface : net.iface with
  | none => exact ⟨by rw [hiface], rfl⟩
  | some iface =>
    dsimp only
    split_ifs
    · exact ⟨rfl, rfl⟩
    · exact ⟨rfl, rfl⟩
    · exact ⟨congrArg some (dhcp_addrAdd _ _), rfl⟩
    · exact ⟨congrArg some (dhcp_addrAdd _ _), rfl⟩

lemma sameServices_address (netFaults : NetFaults) (s : State) :
    SameServices s (netDoSetDefaultIp4FromConfig netFaults s).2 := by
  obtain ⟨hdhcp, hntp⟩ := dhcp_netDoSetDefaultIp4 s.data.bmcDefaultIp4 s.data.bmcDefaultIp4Nm
    s.data.bmcDefaultIp4Gw netFaults s.net
  exact ⟨rfl, hntp, rfl, fun hs => hdhcp.trans hs⟩

lemma netStopDhcp4_dhcp (address netmask gateway : Ip4) (netFaults : NetFaults) {net : Net} {dhcp : Bool}
    (h : net.iface.map Iface.dhcp = some dhcp) :
    (netStopDhcp4 address netmask gateway netFaults net).2.iface.map Iface.dhcp = some false := by
  obtain ⟨hdhcp, -⟩ := dhcp_netDoSetDefaultIp4 address netmask gateway netFaults (stopDhcp4 net).2
  obtain ⟨iface, hiface, -⟩ := Option.map_eq_some_iff.mp h
  rw [netStopDhcp4]
  refine hdhcp.trans ?_
  rw [stopDhcp4, hiface]
  rfl

lemma startDhcp4_dhcp {net : Net} {dhcp : Bool} (h : net.iface.map Iface.dhcp = some dhcp) :
    (startDhcp4 net).2.iface.map Iface.dhcp = some true := by
  obtain ⟨iface, hiface, -⟩ := Option.map_eq_some_iff.mp h
  rw [startDhcp4, hiface]
  rfl

lemma restartDhcp4_dhcp {net : Net} {dhcp : Bool} (h : net.iface.map Iface.dhcp = some dhcp) :
    (restartDhcp4 net).2.iface.map Iface.dhcp = some true := by
  obtain ⟨iface, hiface, -⟩ := Option.map_eq_some_iff.mp h
  have hstop : (stopDhcp4 net).2.iface.map Iface.dhcp = some false := by
    rw [stopDhcp4, hiface]
    rfl
  exact startDhcp4_dhcp hstop

lemma sameServices_hostname (fault : Option Errno) (hostname : CString) (s : State) :
    SameServices s { s with net := (netDoSetHostname s.data.bmcUseDhcp4 fault hostname s.net).2 } := by
  rw [netDoSetHostname]
  cases fault with
  | some errno =>
    have hne : -(errno : ℤ) ≠ 0 := (errno_neg errno).ne
    simp only [netHostnameSet, hne, ne_eq, not_false_eq_true, if_true]
    exact .refl s
  | none =>
    simp only [netHostnameSet, ne_eq, not_true_eq_false, if_false]
    cases huse : s.data.bmcUseDhcp4 with
    | false => exact ⟨rfl, rfl, rfl, fun hs => hs⟩
    | true =>
      refine ⟨rfl, rfl, rfl, fun hs => ?_⟩
      rw [huse]
      have hnamed : { s.net with hostname := hostname }.iface.map Iface.dhcp = some s.data.bmcUseDhcp4 := hs
      exact restartDhcp4_dhcp hnamed

lemma sameServices_ip4Set (str : Option CString) (hntp : id ≠ .bmcUseNtp) (hdhcp : id ≠ .bmcUseDhcp4)
    (s : State) : SameServices s (ip4Set p faults id str s).2 := by
  rw [ip4Set]
  cases ip4Stoa p str with
  | none => exact .refl s
  | some address =>
    have hwrite : SameServices s { s with data := s.data.write id address.bytes } :=
      sameServices_write address.bytes hntp hdhcp
    have hnet := hwrite.trans (sameServices_address (faults.field id).net _)
    dsimp only
    split_ifs
    · exact hnet
    · exact hnet.trans (sameServices_save _ _ _)

lemma bytes_flag (data : ConfigData) (hsize : id.size = 1) (use : Bool) :
    (data.write id (flagBytes use)).bytes id = flagBytes use :=
  ConfigData.bytes_write_full hsize.symm

lemma flagBytes_ne_zero (use : Bool) : decide (flagBytes use ≠ [0]) = use := by
  cases use <;> rfl

lemma sameServices_autoPoweron (use : Bool) (s : State) :
    SameServices s (configHostAutoPoweronSet faults use s).2 := by
  rw [configHostAutoPoweronSet, flagSet]
  split_ifs
  · exact .refl s
  · have hwrite : SameServices s { s with data := s.data.write .hostAutoPoweron (flagBytes use) } :=
      sameServices_write _ (by decide) (by decide)
    exact hwrite.trans (sameServices_save _ _ _)

lemma useDhcp4_follows (use : Bool) (hs : Follows ⟨s, running⟩) :
    Follows ⟨(configBmcUseDhcp4Set faults use s).2, running⟩ := by
  rw [configBmcUseDhcp4Set, flagSet]
  split_ifs with hidle
  · exact hs
  · apply (sameServices_save _ _ _).follows
    have hother : (s.data.write .bmcUseDhcp4 (flagBytes use)).bmcUseNtp = s.data.bmcUseNtp := by
      rw [ConfigData.bmcUseNtp, ConfigData.bytes_write_of_ne (by decide)]
      rfl
    have hflag : (s.data.write .bmcUseDhcp4 (flagBytes use)).bmcUseDhcp4 = use := by
      rw [ConfigData.bmcUseDhcp4, bytes_flag s.data rfl use, flagBytes_ne_zero]
    have hnet : (applyDhcp4 faults use { s with data := s.data.write .bmcUseDhcp4 (flagBytes use) }).ntp =
        s.net.ntp := by
      cases use with
      | false => exact (dhcp_netDoSetDefaultIp4 _ _ _ _ _).2
      | true => rfl
    refine ⟨?_, ?_, ?_⟩
    · have hntp := hs.ntp
      simp only [Services.ntp, hnet, hother] at hntp ⊢
      exact hntp
    · have hwork := hs.work
      simp only [Services.ntp, hnet] at hwork ⊢
      exact hwork
    · simp only [hflag]
      cases use with
      | false => exact netStopDhcp4_dhcp _ _ _ _ hs.dhcp
      | true => exact startDhcp4_dhcp hs.dhcp

/-- Some work waits or runs. -/
def Timed (ntp : Ntp) (running : Bool) : Prop := (ntp.work.isSome || running) = ntp.started

lemma startNtp_spec {net : Net} (h : Timed net.ntp running) :
    (startNtp net).2.ntp.started = true ∧ Timed (startNtp net).2.ntp running ∧
      (startNtp net).2.iface = net.iface := by
  rw [startNtp]
  split_ifs with hstarted
  · exact ⟨hstarted, h, rfl⟩
  · exact ⟨rfl, rfl, rfl⟩

lemma stopNtp_spec {net : Net} (h : Timed net.ntp running) :
    (stopNtp net).2.ntp.started = false ∧ Timed (stopNtp net).2.ntp (running && !net.ntp.started) ∧
      (stopNtp net).2.iface = net.iface := by
  rw [stopNtp]
  cases hstarted : net.ntp.started with
  | true => exact ⟨rfl, by simp [Timed], rfl⟩
  | false =>
    rw [Timed, hstarted] at h
    exact ⟨hstarted, by simp [Timed, hstarted, h], rfl⟩

lemma useNtp_follows (use : Bool) (hs : Follows ⟨s, running⟩) :
    Follows ⟨(configBmcUseNtpSet faults use s).2,
      running && !(SetterCall.useNtp use).cancels faults s⟩ := by
  rw [configBmcUseNtpSet, flagSet]
  split_ifs with hidle
  · have hcancels : (SetterCall.useNtp use).cancels faults s = false := by
      cases use <;> simp [SetterCall.cancels, hidle]
    rw [hcancels, Bool.not_false, Bool.and_true]
    exact hs
  · apply (sameServices_save _ _ _).follows
    have hother : (s.data.write .bmcUseNtp (flagBytes use)).bmcUseDhcp4 = s.data.bmcUseDhcp4 := by
      rw [ConfigData.bmcUseDhcp4, ConfigData.bytes_write_of_ne (by decide)]
      rfl
    have hflag : (s.data.write .bmcUseNtp (flagBytes use)).bmcUseNtp = use := by
      rw [ConfigData.bmcUseNtp, bytes_flag s.data rfl use, flagBytes_ne_zero]
    have hdhcp := hs.dhcp
    have hwork : Timed s.net.ntp running := hs.work
    cases use with
    | true =>
      obtain ⟨hstarted, htimed, hiface⟩ := startNtp_spec hwork
      rw [show (SetterCall.useNtp true).cancels faults s = false from rfl, Bool.not_false, Bool.and_true]
      refine ⟨?_, htimed, ?_⟩
      · exact hstarted.trans hflag.symm
      · rw [← hother, ← hiface] at hdhcp
        exact hdhcp
    | false =>
      obtain ⟨hstopped, htimed, hiface⟩ := stopNtp_spec hwork
      have hcancels : (SetterCall.useNtp false).cancels faults s = s.net.ntp.started := by
        simp [SetterCall.cancels, hidle]
      rw [hcancels]
      refine ⟨?_, htimed, ?_⟩
      · exact hstopped.trans hflag.symm
      · rw [← hother, ← hiface] at hdhcp
        exact hdhcp

lemma ntpServer_follows (str : CString) (hs : Follows ⟨s, running⟩) :
    Follows ⟨(configBmcNtpServerSet faults str s).2,
      running && !(SetterCall.ntpServer str).cancels faults s⟩ := by
  have hcopy : SameServices s { s with data := s.data.strlcpy .bmcNtpServer str } :=
    sameServices_strlcpy _ str (by decide) (by decide)
  have hsave := hcopy.trans (sameServices_save faults _ .bmcNtpServer)
  rw [configBmcNtpServerSet, SetterCall.cancels]
  generalize configSave faults { s with data := s.data.strlcpy .bmcNtpServer str } .bmcNtpServer = saved at hsave ⊢
  obtain ⟨rc, t⟩ := saved
  have ht : Follows ⟨t, running⟩ := hsave.follows hs
  dsimp only
  by_cases hrc : rc < 0
  · simp only [hrc, decide_true, Bool.not_true, Bool.false_and, Bool.not_false, Bool.and_true, if_true]
    exact ht
  · simp only [hrc, decide_false, Bool.not_false, Bool.true_and, if_false]
    cases huse : t.data.bmcUseNtp with
    | false =>
      simp only [Bool.false_and, Bool.not_false, Bool.and_true, Bool.false_eq_true, if_false]
      exact ht
    | true =>
      obtain ⟨-, hstop, hkept⟩ := stopNtp_spec (show Timed t.net.ntp running from ht.work)
      obtain ⟨hstarted, htimed, hiface⟩ := startNtp_spec hstop
      simp only [Bool.true_and, if_true, startNtp_rc, lt_self_iff_false, if_false]
      refine ⟨hstarted.trans huse.symm, htimed, ?_⟩
      have hdhcp := ht.dhcp
      rw [← hkept, ← hiface] at hdhcp
      exact hdhcp

lemma follows_uncancelled {c : SetterCall} (hc : c.cancels faults s = false) (ht : Follows ⟨t, running⟩) :
    Follows ⟨t, running && !c.cancels faults s⟩ := by
  rwa [hc, Bool.not_false, Bool.and_true]

lemma setter_follows (p : Platform) (faults : Faults) (c : SetterCall) (hs : Follows ⟨s, running⟩) :
    Follows ⟨(c.run p faults s).2, running && !c.cancels faults s⟩ := by
  cases c with
  | useNtp use => exact useNtp_follows use hs
  | ntpServer str => exact ntpServer_follows str hs
  | useDhcp4 use => exact follows_uncancelled rfl (useDhcp4_follows use hs)
  | hostname str =>
    apply follows_uncancelled rfl
    refine SameServices.follows ?_ hs
    have hnet := sameServices_hostname (faults.field .bmcHostname).net.hostname str s
    rw [SetterCall.run, configBmcHostnameSet]
    dsimp only
    split_ifs
    · exact hnet
    · have hcopy := hnet.trans (sameServices_strlcpy .bmcHostname str (by decide) (by decide))
      exact hcopy.trans (sameServices_save _ _ _)
  | password str =>
    apply follows_uncancelled rfl
    refine SameServices.follows ?_ hs
    rw [SetterCall.run, configBmcPasswordSet]
    split_ifs
    · exact .refl s
    · have hcopy : SameServices s { s with data := s.data.strlcpy .bmcAdminPassword str } :=
        sameServices_strlcpy _ str (by decide) (by decide)
      exact hcopy.trans (sameServices_save _ _ _)
  | ip4 str | ip4Nm str | ip4Gw str =>
    apply follows_uncancelled rfl
    exact (sameServices_ip4Set str (by decide) (by decide) s).follows hs
  | autoPoweron use =>
    apply follows_uncancelled rfl
    exact (sameServices_autoPoweron use s).follows hs

@[simp] lemma Ntp.started_queried (ntp : Ntp) (sntpOk : Bool) : (ntp.queried sntpOk).started = ntp.started := by
  rw [Ntp.queried]
  split_ifs <;> rfl

lemma serviceStep_follows (p : Platform) {s : Services} (hs : Follows s) (e : ServiceEvent) :
    Follows (serviceStep p s e).1 := by
  cases e with
  | call faults setter sntpOk =>
    have hset := setter_follows p faults setter hs
    simp only [serviceStep]
    split_ifs with hcancel
    · obtain ⟨hrunning, hcancels⟩ := Bool.and_eq_true_iff.mp hcancel
      rw [hcancels, Bool.not_true, Bool.and_false] at hset
      exact ⟨hset.ntp, hset.work, hset.dhcp⟩
    · have hsame : (s.running && !setter.cancels faults s.state) = s.running := by
        cases hrunning : s.running <;> cases hcancels : setter.cancels faults s.state <;>
          simp_all
      rw [hsame] at hset
      exact hset
  | workStart =>
    have hwork := hs.work
    rw [serviceStep, ntpSyncWorkHandlerStart]
    split_ifs with hsome
    · rw [hsome, Bool.true_or] at hwork
      exact ⟨hs.ntp, hwork, hs.dhcp⟩
    · exact hs
  | workEnd sntpOk =>
    have hwork := hs.work
    rw [serviceStep, ntpSyncWorkHandlerEnd]
    split_ifs with hrunning
    · rw [hrunning, Bool.or_true] at hwork
      refine ⟨?_, ?_, hs.dhcp⟩
      · exact (Ntp.started_queried _ _).trans hs.ntp
      · exact hwork.trans (Ntp.started_queried _ _).symm
    · exact hs

lemma netInitAddress_ntp (netFaults : NetFaults) (s : State) :
    (netInitAddress netFaults s).net.ntp = s.net.ntp := by
  have hname : (netHostnameSet netFaults.hostname s.data.bmcHostname s.net).2.ntp = s.net.ntp := by
    cases hfault : netFaults.hostname <;> rfl
  rw [netInitAddress]
  dsimp only
  split_ifs
  · exact (sameServices_address netFaults _).ntp.trans hname
  · exact hname

lemma netInitDhcp4_spec (stopFaults : NetFaults) (hdhcp : s.net.iface.map Iface.dhcp = some true) :
    (netInitDhcp4 stopFaults s).data = s.data ∧ (netInitDhcp4 stopFaults s).net.ntp = s.net.ntp ∧
      (netInitDhcp4 stopFaults s).net.iface.map Iface.dhcp = some s.data.bmcUseDhcp4 := by
  rw [netInitDhcp4]
  cases huse : s.data.bmcUseDhcp4 with
  | true => exact ⟨rfl, rfl, hdhcp⟩
  | false =>
    refine ⟨rfl, ?_, netStopDhcp4_dhcp _ _ _ _ hdhcp⟩
    exact (dhcp_netDoSetDefaultIp4 _ _ _ _ (stopDhcp4 s.net).2).2

lemma netInit_follows {app : NetConfigInitApp} {netFaults stopFaults : NetFaults} (hntp : s.net.ntp = .reset)
    (hinit : (netInit app netFaults stopFaults s).1 = 0) :
    Follows ⟨(netInit app netFaults stopFaults s).2, false⟩ := by
  rw [netInit] at hinit ⊢
  generalize hbase : netInitAddress netFaults s = t at hinit ⊢
  have hreset : (app.run t.net).2.ntp = .reset := by
    rw [app.ntp, ← hbase, netInitAddress_ntp, hntp]
  dsimp only at hinit ⊢
  split_ifs at hinit ⊢ with hrc
  · exact absurd hinit hrc
  obtain ⟨hdata, hsame, hdhcp⟩ := netInitDhcp4_spec stopFaults (s := { t with net := (app.run t.net).2 })
    (app.starts t.net (not_not.mp hrc))
  generalize netInitDhcp4 stopFaults { t with net := (app.run t.net).2 } = u at hdata hsame hdhcp ⊢
  rw [hreset] at hsame
  rw [← hdata] at hdhcp
  have htimed : Timed u.net.ntp false := by
    rw [hsame]
    rfl
  rw [ntpInit]
  cases huse : u.data.bmcUseNtp with
  | false =>
    refine ⟨?_, htimed, hdhcp⟩
    rw [huse]
    exact congrArg Ntp.started hsame
  | true =>
    obtain ⟨hstarted, hwork, hiface⟩ := startNtp_spec htimed
    refine ⟨hstarted.trans huse.symm, hwork, ?_⟩
    rw [← hiface] at hdhcp
    exact hdhcp

theorem services_follow (p : Platform) (app : NetConfigInitApp) (netFaults stopFaults : NetFaults) (s : State)
    (hntp : s.net.ntp = .reset) (hinit : (netInit app netFaults stopFaults s).1 = 0)
    (events : List ServiceEvent) :
    Follows (exec (serviceStep p) ⟨(netInit app netFaults stopFaults s).2, false⟩ events) :=
  exec_invariant (fun _ e hs _ => serviceStep_follows p hs e) (netInit_follows hntp hinit)
    (along_true _ events)

def sampleInitApp (net : Net) : ℤ × Net :=
  match net.iface with
  | none => (-enoent, net)
  | some _ => startDhcp4 net

lemma sampleInitApp_starts (net : Net) (h : (sampleInitApp net).1 = 0) :
    (sampleInitApp net).2.iface.map Iface.dhcp = some true := by
  rw [sampleInitApp] at h ⊢
  cases hiface : net.iface with
  | none =>
    rw [hiface] at h
    exact absurd h (errno_neg enoent).ne
  | some iface =>
    simp only [startDhcp4, hiface]
    rfl

lemma sampleInitApp_ntp (net : Net) : (sampleInitApp net).2.ntp = net.ntp := by
  rw [sampleInitApp]
  cases net.iface <;> rfl

def sampleApp : NetConfigInitApp := ⟨sampleInitApp, sampleInitApp_starts, sampleInitApp_ntp⟩

def sampleNoFaults : NetFaults := ⟨none, fun _ => false, false, false⟩

/-- Two is a flag that was loaded from flash. -/
def sampleLoaded : State :=
  { boot samplePlatform .none (mounted emptyStore) with
    data := (boot samplePlatform .none (mounted emptyStore)).data.write .bmcUseNtp [2]
    net := ⟨⟨[], List.not_mem_nil⟩, some ⟨.any, [], false⟩, .reset⟩ }

theorem services_follow_stopped :
    sampleLoaded.net.ntp = .reset ∧ (netInit sampleApp sampleNoFaults sampleNoFaults sampleLoaded).1 = 0 ∧
      Follows (exec (serviceStep samplePlatform)
        ⟨(netInit sampleApp sampleNoFaults sampleNoFaults sampleLoaded).2, false⟩
        [.workStart, .call .none (.useNtp false) true]) :=
  ⟨rfl, by decide +kernel, services_follow samplePlatform sampleApp sampleNoFaults sampleNoFaults sampleLoaded
    rfl (by decide +kernel) [.workStart, .call .none (.useNtp false) true]⟩

end

end WallaBMC.Config
