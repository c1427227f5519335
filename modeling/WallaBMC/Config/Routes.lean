import WallaBMC.Config.Services

/-! The gateway and the address table of the default interface, which the DHCP client and
`net_do_set_default_ip4` both write. The client sets the gateway once, with the lease. -/

namespace WallaBMC.Config

open Redfish Storage Library.Bytes Library.Runs

structure Lease where
  address : Ip4
  netmask : Ip4
  gateway : Ip4
  deriving DecidableEq

def Lease.entry (lease : Lease) : IfAddr := ⟨lease.address, lease.netmask, .dhcp⟩

/-- Adding its address, the client may give it the place of others. -/
structure DhcpClient where
  add : IfAddr → List IfAddr → List IfAddr
  takes_place : ∀ addr addrs, ∃ before taken after,
    addrs = before ++ taken ++ after ∧ add addr addrs = before ++ addr :: after

def DhcpClient.bind (client : DhcpClient) (lease : Lease) (iface : Iface) : Iface :=
  { iface with
    gw := lease.gateway
    unicast := client.add lease.entry (iface.unicast.filter (fun addr => addr.addrType ≠ .dhcp)) }

def DhcpClient.start (client : DhcpClient) (lease : Option Lease) (iface : Iface) : Iface :=
  match lease with
  | none => { iface with dhcp := true }
  | some lease => client.bind lease { iface with dhcp := true }

structure Route where
  state : State
  lease : Option Lease

def Route.running (w : Route) : Bool := w.state.net.iface.any Iface.dhcp

def Route.setIface (w : Route) (iface : Iface) : State :=
  { w.state with net := { w.state.net with iface := some iface } }

inductive RouteEvent
  | lease (lease : Lease)
  | useDhcp4 (faults : Faults) (use : Bool)
  | ip4 (faults : Faults) (str : Option CString)
  | ip4Nm (faults : Faults) (str : Option CString)
  | ip4Gw (faults : Faults) (str : Option CString)

def leaseStep (client : DhcpClient) (lease : Lease) (w : Route) : Route :=
  match w.state.net.iface with
  | none => w
  | some iface => if iface.dhcp then ⟨w.setIface (client.bind lease iface), some lease⟩ else w

/-- Stopping the client gives the lease up. -/
def useDhcp4Step (faults : Faults) (use : Bool) (w : Route) : Route :=
  let t : Route := ⟨(configBmcUseDhcp4Set faults use w.state).2, w.lease⟩
  if t.running then t else { t with lease := none }

def routeStep (p : Platform) (client : DhcpClient) (w : Route) : RouteEvent → Route × ℤ
  | .lease lease => (leaseStep client lease w, 0)
  | .useDhcp4 faults use => (useDhcp4Step faults use w, (configBmcUseDhcp4Set faults use w.state).1)
  | .ip4 faults str =>
    let (rc, state) := configBmcDefaultIp4Set p faults str w.state
    ({ w with state := state }, rc)
  | .ip4Nm faults str =>
    let (rc, state) := configBmcDefaultIp4NmSet p faults str w.state
    ({ w with state := state }, rc)
  | .ip4Gw faults str =>
    let (rc, state) := configBmcDefaultIp4GwSet p faults str w.state
    ({ w with state := state }, rc)

def OnlyAddress (address : Ip4) (addrs : List IfAddr) : Prop :=
  addrs.length ≤ 1 ∧ ∀ addr ∈ addrs, addr.address = address

instance (address : Ip4) (addrs : List IfAddr) : Decidable (OnlyAddress address addrs) :=
  inferInstanceAs (Decidable (_ ∧ _))

/-- Under a lease the route is the lease's; with the client stopped it is the configured one. -/
structure Route.Owned (w : Route) : Prop where
  leased : ∀ lease ∈ w.lease, ∃ iface ∈ w.state.net.iface, iface.gw = lease.gateway ∧ lease.entry ∈ iface.unicast
  stopped : ∀ iface ∈ w.state.net.iface, iface.dhcp = false →
    iface.gw = w.state.data.bmcDefaultIp4Gw ∧ OnlyAddress w.state.data.bmcDefaultIp4 iface.unicast

/-- The static addresses that cannot be removed. -/
def Iface.stuck (netFaults : NetFaults) (iface : Iface) : List IfAddr :=
  iface.unicast.filter (fun addr =>
    (addr.addrType = .manual ∨ addr.addrType = .overridable) ∧ netFaults.addrRm addr.address)

/-- No other address stays than the configured one. -/
def Clears (netFaults : NetFaults) (data : ConfigData) (iface : Iface) : Prop :=
  OnlyAddress data.bmcDefaultIp4 (iface.stuck netFaults)

instance (netFaults : NetFaults) (data : ConfigData) (iface : Iface) : Decidable (Clears netFaults data iface) :=
  inferInstanceAs (Decidable (OnlyAddress _ _))

/-- The static mask lands on the leased address when both addresses are the same. -/
def MaskFits (netFaults : NetFaults) (data : ConfigData) (lease : Lease) : Prop :=
  data.bmcDefaultIp4 = lease.address → data.bmcDefaultIp4 ≠ .any → netFaults.addrAdd = false →
    netFaults.setNetmask = false → data.bmcDefaultIp4Nm = lease.netmask

instance (netFaults : NetFaults) (data : ConfigData) (lease : Lease) : Decidable (MaskFits netFaults data lease) :=
  inferInstanceAs (Decidable (_ → _ → _ → _ → _))

/-- With these settings applied, the route stays with its owner. -/
def Fits (netFaults : NetFaults) (data : ConfigData) (w : Route) : Prop :=
  (∀ lease ∈ w.lease, data.bmcDefaultIp4Gw = lease.gateway ∧ MaskFits netFaults data lease) ∧
    ∀ iface ∈ w.state.net.iface, iface.dhcp = false → Clears netFaults data iface

instance (netFaults : NetFaults) (data : ConfigData) (w : Route) : Decidable (Fits netFaults data w) :=
  inferInstanceAs (Decidable ((∀ lease ∈ w.lease, _ ∧ _) ∧ ∀ iface ∈ w.state.net.iface, _ → _))

def Compatible (p : Platform) (faults : Faults) (id : ConfigId) (str : Option CString) (w : Route) : Prop :=
  ∀ address ∈ ip4Stoa p str, Fits (faults.field id).net (w.state.data.write id address.bytes) w

instance (p : Platform) (faults : Faults) (id : ConfigId) (str : Option CString) (w : Route) :
    Decidable (Compatible p faults id str w) :=
  inferInstanceAs (Decidable (∀ address ∈ ip4Stoa p str, Fits _ _ _))

def StopsClean (faults : Faults) (use : Bool) (w : Route) : Prop :=
  use = false → w.state.data.bytes .bmcUseDhcp4 ≠ flagBytes use →
    ∀ iface ∈ w.state.net.iface, Clears (faults.field .bmcUseDhcp4).net w.state.data iface

instance (faults : Faults) (use : Bool) (w : Route) : Decidable (StopsClean faults use w) :=
  inferInstanceAs (Decidable (_ → _ → ∀ iface ∈ w.state.net.iface, _))

def RouteRespected (p : Platform) (w : Route) : RouteEvent → Prop
  | .lease _ => True
  | .useDhcp4 faults use => StopsClean faults use w
  | .ip4 faults str => Compatible p faults .bmcDefaultIp4 str w
  | .ip4Nm faults str => Compatible p faults .bmcDefaultIp4Nm str w
  | .ip4Gw faults str => Compatible p faults .bmcDefaultIp4Gw str w

instance (p : Platform) (w : Route) (e : RouteEvent) : Decidable (RouteRespected p w e) :=
  match e with
  | .lease _ => isTrue trivial
  | .useDhcp4 faults use => inferInstanceAs (Decidable (StopsClean faults use w))
  | .ip4 faults str => inferInstanceAs (Decidable (Compatible p faults .bmcDefaultIp4 str w))
  | .ip4Nm faults str => inferInstanceAs (Decidable (Compatible p faults .bmcDefaultIp4Nm str w))
  | .ip4Gw faults str => inferInstanceAs (Decidable (Compatible p faults .bmcDefaultIp4Gw str w))

/-- The default interface may have its lease when `net_config_init_app` returns. -/
structure LeasingApp (client : DhcpClient) extends NetConfigInitApp where
  lease : Net → Option Lease
  iface : ∀ net, (run net).1 = 0 → (run net).2.iface = net.iface.map (client.start (lease net))

def netInitRoute {client : DhcpClient} (app : LeasingApp client) (netFaults stopFaults : NetFaults) (s : State) :
    Route :=
  let t : Route := ⟨(netInit app.toNetConfigInitApp netFaults stopFaults s).2,
    app.lease (netInitAddress netFaults s).net⟩
  if t.running then t else { t with lease := none }

/-- No address is left of a lease when the client does not run, and none has come from elsewhere. -/
structure Tended (iface : Iface) : Prop where
  configured : ∀ addr ∈ iface.unicast, addr.addrType ≠ .autoconf
  leased : ∀ addr ∈ iface.unicast, addr.addrType = .dhcp → iface.dhcp = true

structure Route.Sound (w : Route) : Prop where
  tended : ∀ iface ∈ w.state.net.iface, Tended iface
  leased : ∀ lease ∈ w.lease, w.running = true

def Iface.setDefault (iface : Iface) (address netmask gateway : Ip4) (netFaults : NetFaults) : Iface :=
  let kept := Iface.removeManual netFaults.addrRm { iface with gw := gateway }
  if address = .any ∨ netFaults.addrAdd = true then kept
  else if netFaults.setNetmask then kept.addrAdd address
  else (kept.addrAdd address).setNetmask address netmask

variable {p : Platform} {client : DhcpClient} {faults : Faults} {netFaults : NetFaults} {s : State} {w : Route}
  {iface : Iface} {lease : Lease} {addr : IfAddr} {address netmask gateway : Ip4} {id : ConfigId}

lemma iface_netDoSetDefaultIp4 (address netmask gateway : Ip4) (netFaults : NetFaults) (net : Net) :
    (netDoSetDefaultIp4 address netmask gateway netFaults net).2.iface =
      net.iface.map (fun iface => iface.setDefault address netmask gateway netFaults) := by
  rw [netDoSetDefaultIp4]
  cases hiface : net.iface with
  | none => exact hiface
  | some iface =>
    by_cases hany : address = .any
    · simp [Iface.setDefault, hany]
    · cases hadd : netFaults.addrAdd <;> cases hmask : netFaults.setNetmask <;>
        simp [Iface.setDefault, hany, hadd, hmask]

@[simp] lemma gw_setDefault : (iface.setDefault address netmask gateway netFaults).gw = gateway := by
  simp only [Iface.setDefault]
  split_ifs <;> simp [Iface.setNetmask, Iface.removeManual]

@[simp] lemma dhcp_setDefault : (iface.setDefault address netmask gateway netFaults).dhcp = iface.dhcp := by
  simp only [Iface.setDefault]
  split_ifs <;> simp [Iface.setNetmask, Iface.removeManual]

lemma mem_addrAdd (h : addr ∈ (iface.addrAdd address).unicast) :
    addr ∈ iface.unicast ∨ addr = ⟨address, .any, .overridable⟩ := by
  rw [Iface.addrAdd] at h
  split_ifs at h
  · exact .inl h
  · simpa using h

lemma mem_removeManual {fails : Ip4 → Bool} : addr ∈ (iface.removeManual fails).unicast ↔
    addr ∈ iface.unicast ∧
      ((addr.addrType ≠ .manual ∧ addr.addrType ≠ .overridable) ∨ fails addr.address = true) := by
  simp [Iface.removeManual]

lemma type_setDefault (h : addr ∈ (iface.setDefault address netmask gateway netFaults).unicast) :
    (∃ old ∈ iface.unicast, addr.addrType = old.addrType) ∨ addr.addrType = .overridable := by
  have hkept : ∀ old ∈ (Iface.removeManual netFaults.addrRm { iface with gw := gateway }).unicast, old ∈ iface.unicast :=
    fun old hold => (mem_removeManual.mp hold).1
  have hadded : ∀ old ∈ ((Iface.removeManual netFaults.addrRm { iface with gw := gateway }).addrAdd address).unicast,
      (∃ old' ∈ iface.unicast, old.addrType = old'.addrType) ∨ old.addrType = .overridable := by
    intro old hold
    rcases mem_addrAdd hold with hmem | rfl
    · exact .inl ⟨old, hkept old hmem, rfl⟩
    · exact .inr rfl
  simp only [Iface.setDefault] at h
  split_ifs at h
  · exact .inl ⟨addr, hkept addr h, rfl⟩
  · exact hadded addr h
  · obtain ⟨old, hold, rfl⟩ := List.mem_map.mp h
    have hsame := hadded old hold
    split_ifs
    · exact hsame
    · exact hsame

lemma tended_setDefault (h : Tended iface) : Tended (iface.setDefault address netmask gateway netFaults) := by
  refine ⟨?_, ?_⟩
  · intro addr haddr hauto
    rcases type_setDefault haddr with ⟨old, hold, htype⟩ | htype
    · exact h.configured old hold (htype.symm.trans hauto)
    · rw [htype] at hauto
      cases hauto
  · intro addr haddr hdhcp
    rw [dhcp_setDefault]
    rcases type_setDefault haddr with ⟨old, hold, htype⟩ | htype
    · exact h.leased old hold (htype.symm.trans hdhcp)
    · rw [htype] at hdhcp
      cases hdhcp

lemma OnlyAddress.sublist {addrs addrs' : List IfAddr} (h : OnlyAddress address addrs)
    (hsub : List.Sublist addrs' addrs) : OnlyAddress address addrs' :=
  ⟨hsub.length_le.trans h.1, fun addr haddr => h.2 addr (hsub.subset haddr)⟩

lemma onlyAddress_addrAdd :
    OnlyAddress address (iface.addrAdd address).unicast ↔ OnlyAddress address iface.unicast := by
  rw [Iface.addrAdd]
  split_ifs with hany
  · exact Iff.rfl
  · constructor
    · exact fun h => h.sublist (List.sublist_append_left _ _)
    · intro h
      have hnil : iface.unicast = [] := by
        rw [List.eq_nil_iff_forall_not_mem]
        intro addr haddr
        exact hany (List.any_eq_true.mpr ⟨addr, haddr, decide_eq_true (h.2 addr haddr)⟩)
      simp [OnlyAddress, hnil]

lemma onlyAddress_setNetmask {other : Ip4} :
    OnlyAddress address (iface.setNetmask other netmask).unicast ↔ OnlyAddress address iface.unicast := by
  have hsame : ∀ addr : IfAddr,
      (if addr.address = other then { addr with netmask := netmask } else addr).address = addr.address := by
    intro addr
    split_ifs <;> rfl
  simp [OnlyAddress, Iface.setNetmask, hsame]

lemma removeManual_stuck (h : Tended iface) (hstopped : iface.dhcp = false) :
    (iface.removeManual netFaults.addrRm).unicast = iface.stuck netFaults := by
  rw [Iface.removeManual, Iface.stuck]
  apply List.filter_congr
  intro addr haddr
  have hauto := h.configured addr haddr
  have hleased := h.leased addr haddr
  rw [hstopped] at hleased
  cases htype : addr.addrType with
  | autoconf => exact absurd htype hauto
  | dhcp => cases hleased htype
  | manual | overridable => simp

lemma setDefault_stopped (h : Tended iface) (hstopped : iface.dhcp = false) :
    OnlyAddress address (iface.setDefault address netmask gateway netFaults).unicast ↔
      OnlyAddress address (iface.stuck netFaults) := by
  have hmoved : Tended { iface with gw := gateway } := ⟨h.configured, h.leased⟩
  have hkept : (Iface.removeManual netFaults.addrRm { iface with gw := gateway }).unicast = iface.stuck netFaults :=
    removeManual_stuck hmoved hstopped
  simp only [Iface.setDefault]
  split_ifs
  · rw [hkept]
  · rw [onlyAddress_addrAdd, hkept]
  · rw [onlyAddress_setNetmask, onlyAddress_addrAdd, hkept]

lemma onlyAddress_setDefault (hbare : iface.unicast = []) :
    OnlyAddress address (iface.setDefault address netmask gateway netFaults).unicast := by
  have hnil : (Iface.removeManual netFaults.addrRm { iface with gw := gateway }).unicast = [] := by
    rw [Iface.removeManual, hbare]
    rfl
  have hkept : OnlyAddress address (Iface.removeManual netFaults.addrRm { iface with gw := gateway }).unicast := by
    rw [hnil]
    exact ⟨Nat.zero_le _, fun _ h => absurd h List.not_mem_nil⟩
  simp only [Iface.setDefault]
  split_ifs
  · exact hkept
  · exact onlyAddress_addrAdd.mpr hkept
  · exact onlyAddress_setNetmask.mpr (onlyAddress_addrAdd.mpr hkept)

/-- The entry of a lease stays as it is, unless the static mask overwrites its own. -/
lemma entry_mem_setDefault (hmem : lease.entry ∈ iface.unicast) :
    lease.entry ∈ (iface.setDefault address netmask gateway netFaults).unicast ↔
      (address = lease.address → address ≠ .any → netFaults.addrAdd = false → netFaults.setNetmask = false →
        netmask = lease.netmask) := by
  have hkept : lease.entry ∈ (Iface.removeManual netFaults.addrRm { iface with gw := gateway }).unicast :=
    mem_removeManual.mpr ⟨hmem, .inl ⟨by simp [Lease.entry], by simp [Lease.entry]⟩⟩
  have hadded : lease.entry ∈ ((Iface.removeManual netFaults.addrRm { iface with gw := gateway }).addrAdd address).unicast := by
    rw [Iface.addrAdd]
    split_ifs
    · exact hkept
    · exact List.mem_append_left _ hkept
  simp only [Iface.setDefault]
  split_ifs with hnone hmask
  · refine iff_of_true hkept ?_
    intro _ hany hadd
    rcases hnone with hzero | hfault
    · exact absurd hzero hany
    · rw [hadd] at hfault
      cases hfault
  · refine iff_of_true hadded ?_
    intro _ _ _ hfine
    rw [hfine] at hmask
    cases hmask
  · obtain ⟨hany, hadd⟩ := not_or.mp hnone
    rw [Bool.not_eq_true] at hadd hmask
    simp only [ne_eq, hany, not_false_eq_true, hadd, hmask, forall_const, Iface.setNetmask, List.mem_map]
    constructor
    · rintro ⟨old, -, hold⟩ rfl
      split_ifs at hold with haddress
      · exact congrArg IfAddr.netmask hold
      · exact absurd (congrArg IfAddr.address hold) haddress
    · intro hfits
      refine ⟨lease.entry, hadded, ?_⟩
      split_ifs with haddress
      · rw [hfits haddress.symm]
        rfl
      · rfl

lemma iface_netStopDhcp4 (address netmask gateway : Ip4) (netFaults : NetFaults) (net : Net) :
    (netStopDhcp4 address netmask gateway netFaults net).2.iface =
      (stopDhcp4 net).2.iface.map (fun iface => iface.setDefault address netmask gateway netFaults) := by
  rw [netStopDhcp4]
  exact iface_netDoSetDefaultIp4 _ _ _ _ _

lemma tended_stopDhcp4 {net : Net} (h : ∀ iface ∈ net.iface, Tended iface) :
    ∀ iface ∈ (stopDhcp4 net).2.iface, Tended iface ∧ iface.dhcp = false := by
  intro iface hiface
  obtain ⟨old, hold, rfl⟩ := Option.mem_map.mp hiface
  have htended := h old hold
  refine ⟨⟨?_, ?_⟩, rfl⟩
  · intro addr haddr
    exact htended.configured addr (List.mem_of_mem_filter haddr)
  · intro addr haddr hdhcp
    have hkept := of_decide_eq_true (List.mem_filter.mp haddr).2
    exact absurd hdhcp hkept

lemma clears_stopDhcp4 {net : Net} {data : ConfigData} :
    (∀ iface ∈ (stopDhcp4 net).2.iface, Clears netFaults data iface) ↔
      ∀ iface ∈ net.iface, Clears netFaults data iface := by
  have hstuck : ∀ iface : Iface, Iface.stuck netFaults { iface with
      dhcp := false, unicast := iface.unicast.filter (fun addr => addr.addrType ≠ .dhcp) } = iface.stuck netFaults := by
    intro iface
    rw [Iface.stuck, Iface.stuck, List.filter_filter]
    apply List.filter_congr
    intro addr _
    cases addr.addrType <;> simp
  simp only [stopDhcp4, Option.mem_map, forall_exists_index, and_imp, forall_apply_eq_imp_iff₂, Clears, hstuck]

lemma stopped_route {t : State} {net : Net} (h : ∀ iface ∈ net.iface, Tended iface)
    (hnet : t.net.iface = (netStopDhcp4 t.data.bmcDefaultIp4 t.data.bmcDefaultIp4Nm t.data.bmcDefaultIp4Gw
      netFaults net).2.iface) (lease : Option Lease) :
    (Route.mk t lease).running = false ∧ (Route.mk t none).Sound ∧
      ((Route.mk t none).Owned ↔ ∀ iface ∈ net.iface, Clears netFaults t.data iface) := by
  rw [iface_netStopDhcp4] at hnet
  have hstopped := tended_stopDhcp4 h
  rw [← clears_stopDhcp4]
  generalize (stopDhcp4 net).2.iface = old at hnet hstopped
  refine ⟨?_, ⟨?_, fun _ h => absurd h (Option.not_mem_none _)⟩, ?_⟩
  · rw [Route.running, hnet]
    cases old with
    | none => rfl
    | some iface => exact dhcp_setDefault.trans (hstopped iface rfl).2
  · intro iface hiface
    rw [hnet] at hiface
    obtain ⟨before, hbefore, rfl⟩ := Option.mem_map.mp hiface
    exact tended_setDefault (hstopped before hbefore).1
  · constructor
    · intro howned before hbefore
      obtain ⟨htended, hdhcp⟩ := hstopped before hbefore
      have hiface := Option.mem_map_of_mem (fun iface => iface.setDefault t.data.bmcDefaultIp4
        t.data.bmcDefaultIp4Nm t.data.bmcDefaultIp4Gw netFaults) hbefore
      rw [← hnet] at hiface
      exact (setDefault_stopped htended hdhcp).mp (howned.stopped _ hiface (dhcp_setDefault.trans hdhcp)).2
    · intro hclears
      refine ⟨fun _ h => absurd h (Option.not_mem_none _), ?_⟩
      intro iface hiface _
      rw [hnet] at hiface
      obtain ⟨before, hbefore, rfl⟩ := Option.mem_map.mp hiface
      obtain ⟨htended, hdhcp⟩ := hstopped before hbefore
      exact ⟨gw_setDefault, (setDefault_stopped htended hdhcp).mpr (hclears before hbefore)⟩

lemma DhcpClient.mem_add_self (client : DhcpClient) (addr : IfAddr) (addrs : List IfAddr) :
    addr ∈ client.add addr addrs := by
  obtain ⟨before, taken, after, -, hadd⟩ := client.takes_place addr addrs
  rw [hadd]
  exact List.mem_append_right _ (List.mem_cons_self ..)

lemma DhcpClient.mem_of_mem_add (client : DhcpClient) {addrs : List IfAddr} {other : IfAddr}
    (h : other ∈ client.add addr addrs) : other = addr ∨ other ∈ addrs := by
  obtain ⟨before, taken, after, haddrs, hadd⟩ := client.takes_place addr addrs
  rw [hadd, List.mem_append, List.mem_cons] at h
  rw [haddrs, List.mem_append, List.mem_append]
  tauto

lemma stuck_bind (client : DhcpClient) (lease : Lease) (iface : Iface) :
    List.Sublist ((client.bind lease iface).stuck netFaults) (iface.stuck netFaults) := by
  obtain ⟨before, taken, after, haddrs, hadd⟩ :=
    client.takes_place lease.entry (iface.unicast.filter (fun addr => addr.addrType ≠ .dhcp))
  have hsub : List.Sublist (before ++ after) iface.unicast := by
    have hkept : List.Sublist (before ++ after) (iface.unicast.filter (fun addr => addr.addrType ≠ .dhcp)) := by
      rw [haddrs, List.append_assoc]
      exact (List.Sublist.refl before).append (List.sublist_append_right _ _)
    exact hkept.trans List.filter_sublist
  have hentry : (client.bind lease iface).stuck netFaults = (before ++ after).filter (fun addr =>
      (addr.addrType = .manual ∨ addr.addrType = .overridable) ∧ netFaults.addrRm addr.address) := by
    rw [Iface.stuck, DhcpClient.bind, hadd, List.filter_append, List.filter_append,
      List.filter_cons_of_neg (by simp [Lease.entry])]
  rw [hentry]
  exact hsub.filter _

lemma tended_bind (h : Tended iface) (hrunning : iface.dhcp = true) : Tended (client.bind lease iface) := by
  refine ⟨?_, fun _ _ _ => hrunning⟩
  intro addr haddr
  rcases client.mem_of_mem_add haddr with rfl | hold
  · rintro ⟨⟩
  · exact h.configured addr (List.mem_of_mem_filter hold)

lemma leaseStep_sound (hw : w.Sound) : (leaseStep client lease w).Sound := by
  rw [leaseStep]
  split
  · exact hw
  · rename_i iface hiface
    split_ifs with hrunning
    · refine ⟨?_, fun _ _ => hrunning⟩
      rintro _ ⟨⟩
      exact tended_bind (hw.tended iface hiface) hrunning
    · exact hw

lemma leaseStep_owned (howned : w.Owned) : (leaseStep client lease w).Owned := by
  rw [leaseStep]
  split
  · exact howned
  · rename_i iface hiface
    split_ifs with hrunning
    · refine ⟨?_, ?_⟩
      · rintro _ ⟨⟩
        exact ⟨client.bind lease iface, rfl, rfl, client.mem_add_self _ _⟩
      · rintro _ ⟨⟩ hstopped
        rw [show (client.bind lease iface).dhcp = iface.dhcp from rfl, hrunning] at hstopped
        cases hstopped
    · exact howned

lemma running_settle (hw : w.Sound) : (if w.running then w else { w with lease := none }) = w := by
  split_ifs with hrunning
  · rfl
  · obtain ⟨state, lease⟩ := w
    cases lease with
    | none => rfl
    | some lease => exact absurd (hw.leased lease rfl) hrunning

lemma started_route {t : State} (hw : w.Sound) (howned : w.Owned)
    (hnet : t.net.iface = w.state.net.iface.map (fun iface => { iface with dhcp := true })) :
    (Route.mk t w.lease).Owned ∧ (Route.mk t w.lease).Sound := by
  have hrunning : ∀ iface ∈ t.net.iface, iface.dhcp = true := by
    intro iface hiface
    rw [hnet] at hiface
    obtain ⟨before, -, rfl⟩ := Option.mem_map.mp hiface
    rfl
  refine ⟨⟨?_, ?_⟩, ?_, ?_⟩
  · intro lease hlease
    obtain ⟨iface, hiface, hgw, hmem⟩ := howned.leased lease hlease
    refine ⟨{ iface with dhcp := true }, ?_, hgw, hmem⟩
    rw [hnet]
    exact Option.mem_map_of_mem _ hiface
  · intro iface hiface hstopped
    rw [hrunning iface hiface] at hstopped
    cases hstopped
  · intro iface hiface
    have hdhcp := hrunning iface hiface
    rw [hnet] at hiface
    obtain ⟨before, hbefore, rfl⟩ := Option.mem_map.mp hiface
    exact ⟨(hw.tended before hbefore).configured, fun _ _ _ => rfl⟩
  · intro lease hlease
    have hbefore := hw.leased lease hlease
    rw [Route.running] at hbefore ⊢
    rw [hnet]
    cases hiface : w.state.net.iface with
    | none =>
      rw [hiface] at hbefore
      cases hbefore
    | some iface => rfl

lemma useDhcp4_idle {use : Bool} (hidle : s.data.bytes .bmcUseDhcp4 = flagBytes use) :
    (configBmcUseDhcp4Set faults use s).2 = s := by
  rw [configBmcUseDhcp4Set, flagSet, if_pos hidle]

lemma useDhcp4_started (hchanged : s.data.bytes .bmcUseDhcp4 ≠ flagBytes true) :
    (configBmcUseDhcp4Set faults true s).2.net = (startDhcp4 s.net).2 := by
  rw [configBmcUseDhcp4Set, flagSet, if_neg hchanged, configSave_net]
  rfl

lemma useDhcp4_stopped (faults : Faults) {t : State} (hchanged : s.data.bytes .bmcUseDhcp4 ≠ flagBytes false)
    (ht : (configBmcUseDhcp4Set faults false s).2 = t) :
    t.net = (netStopDhcp4 t.data.bmcDefaultIp4 t.data.bmcDefaultIp4Nm t.data.bmcDefaultIp4Gw
      (faults.field .bmcUseDhcp4).net s.net).2 := by
  rw [← ht, configBmcUseDhcp4Set, flagSet, if_neg hchanged, configSave_net, configSave_data]
  rfl

lemma useDhcp4_bmcDefaultIp4 (faults : Faults) (use : Bool) (s : State) :
    (configBmcUseDhcp4Set faults use s).2.data.bmcDefaultIp4 = s.data.bmcDefaultIp4 := by
  have hother : (s.data.write .bmcUseDhcp4 (flagBytes use)).bytes .bmcDefaultIp4 = s.data.bytes .bmcDefaultIp4 :=
    ConfigData.bytes_write_of_ne (by decide)
  rw [configBmcUseDhcp4Set, flagSet]
  split_ifs
  · rfl
  · rw [configSave_data]
    simp only [ConfigData.bmcDefaultIp4, hother]

lemma useDhcp4Step_routed (faults : Faults) (use : Bool) (hw : w.Sound) (howned : w.Owned) :
    (useDhcp4Step faults use w).Sound ∧ ((useDhcp4Step faults use w).Owned ↔ StopsClean faults use w) := by
  rw [useDhcp4Step]
  by_cases hidle : w.state.data.bytes .bmcUseDhcp4 = flagBytes use
  · rw [useDhcp4_idle hidle, running_settle hw]
    exact ⟨hw, iff_of_true howned fun _ hchanged => absurd hidle hchanged⟩
  · cases use with
    | true =>
      have hnet : (configBmcUseDhcp4Set faults true w.state).2.net.iface =
          w.state.net.iface.map (fun iface => { iface with dhcp := true }) := by
        rw [useDhcp4_started hidle]
        rfl
      obtain ⟨hnow, hsound⟩ := started_route hw howned hnet
      rw [running_settle hsound]
      exact ⟨hsound, iff_of_true hnow nofun⟩
    | false =>
      have hnet := congrArg Net.iface (useDhcp4_stopped faults hidle rfl)
      obtain ⟨hrunning, hsound, hnow⟩ := stopped_route hw.tended hnet w.lease
      have hdata := useDhcp4_bmcDefaultIp4 faults false w.state
      rw [if_neg (by rw [hrunning]; exact Bool.false_ne_true)]
      refine ⟨hsound, hnow.trans ?_⟩
      simp only [Clears, StopsClean, hdata, hidle, ne_eq, not_false_eq_true, forall_const]

lemma ip4Set_refused {str : Option CString} (hstr : ip4Stoa p str = none) : (ip4Set p faults id str s).2 = s := by
  rw [ip4Set, hstr]

lemma ip4Set_applied (faults : Faults) (id : ConfigId) (s : State) {str : Option CString}
    (hstr : ip4Stoa p str = some address) :
    (ip4Set p faults id str s).2.data = s.data.write id address.bytes ∧
      (ip4Set p faults id str s).2.net.iface = s.net.iface.map (fun iface =>
        iface.setDefault (s.data.write id address.bytes).bmcDefaultIp4
          (s.data.write id address.bytes).bmcDefaultIp4Nm (s.data.write id address.bytes).bmcDefaultIp4Gw
          (faults.field id).net) := by
  rw [ip4Set, hstr, ← iface_netDoSetDefaultIp4]
  dsimp only
  split_ifs
  · exact ⟨rfl, rfl⟩
  · rw [configSave_data, configSave_net]
    exact ⟨rfl, rfl⟩

lemma ip4Set_sound {str : Option CString} (hw : w.Sound) :
    (Route.mk (ip4Set p faults id str w.state).2 w.lease).Sound := by
  cases hstr : ip4Stoa p str with
  | none =>
    rw [ip4Set_refused hstr]
    exact hw
  | some address =>
    obtain ⟨-, hnet⟩ := ip4Set_applied faults id w.state hstr
    refine ⟨?_, ?_⟩
    · intro iface hiface
      rw [hnet] at hiface
      obtain ⟨before, hbefore, rfl⟩ := Option.mem_map.mp hiface
      exact tended_setDefault (hw.tended before hbefore)
    · intro lease hlease
      have hbefore := hw.leased lease hlease
      rw [Route.running] at hbefore ⊢
      rw [hnet, Option.any_map]
      simpa [Function.comp_def] using hbefore

lemma ip4Set_owned {t : State} (hw : w.Sound) (howned : w.Owned)
    (hnet : t.net.iface = w.state.net.iface.map (fun iface => iface.setDefault t.data.bmcDefaultIp4
      t.data.bmcDefaultIp4Nm t.data.bmcDefaultIp4Gw netFaults)) :
    (Route.mk t w.lease).Owned ↔ Fits netFaults t.data w := by
  constructor
  · intro hnow
    refine ⟨?_, ?_⟩
    · intro lease hlease
      obtain ⟨before, hbefore, -, hmem⟩ := howned.leased lease hlease
      obtain ⟨iface, hiface, hgw, hnew⟩ := hnow.leased lease hlease
      rw [hnet, hbefore] at hiface
      obtain rfl := Option.some.inj hiface
      rw [gw_setDefault] at hgw
      exact ⟨hgw, (entry_mem_setDefault hmem).mp hnew⟩
    · intro iface hiface hstopped
      have hafter := Option.mem_map_of_mem (fun iface => iface.setDefault t.data.bmcDefaultIp4
        t.data.bmcDefaultIp4Nm t.data.bmcDefaultIp4Gw netFaults) hiface
      rw [← hnet] at hafter
      exact (setDefault_stopped (hw.tended iface hiface) hstopped).mp
        (hnow.stopped _ hafter (dhcp_setDefault.trans hstopped)).2
  · rintro ⟨hleased, hclears⟩
    refine ⟨?_, ?_⟩
    · intro lease hlease
      obtain ⟨before, hbefore, -, hmem⟩ := howned.leased lease hlease
      obtain ⟨hgw, hmask⟩ := hleased lease hlease
      rw [hnet]
      exact ⟨_, Option.mem_map_of_mem _ hbefore, gw_setDefault.trans hgw, (entry_mem_setDefault hmem).mpr hmask⟩
    · intro iface hiface hstopped
      rw [hnet] at hiface
      obtain ⟨before, hbefore, rfl⟩ := Option.mem_map.mp hiface
      rw [dhcp_setDefault] at hstopped
      exact ⟨gw_setDefault, (setDefault_stopped (hw.tended before hbefore) hstopped).mpr
        (hclears before hbefore hstopped)⟩

/-- The single gateway goes to the static settings whoever owns it. -/
lemma ip4Set_owned_iff {str : Option CString} (hw : w.Sound) (howned : w.Owned) :
    (Route.mk (ip4Set p faults id str w.state).2 w.lease).Owned ↔ Compatible p faults id str w := by
  rw [Compatible]
  cases hstr : ip4Stoa p str with
  | none =>
    rw [ip4Set_refused hstr]
    exact iff_of_true howned (fun _ h => absurd h (Option.not_mem_none _))
  | some address =>
    obtain ⟨hdata, hnet⟩ := ip4Set_applied faults id w.state hstr
    rw [← hdata] at hnet
    rw [ip4Set_owned hw howned hnet, hdata]
    simp

lemma routeStep_sound (hw : w.Sound) (howned : w.Owned) (e : RouteEvent) : (routeStep p client w e).1.Sound := by
  cases e with
  | lease lease => exact leaseStep_sound hw
  | useDhcp4 faults use => exact (useDhcp4Step_routed faults use hw howned).1
  | ip4 faults str => exact ip4Set_sound hw
  | ip4Nm faults str => exact ip4Set_sound hw
  | ip4Gw faults str => exact ip4Set_sound hw

lemma routeStep_owned_iff (hw : w.Sound) (howned : w.Owned) (e : RouteEvent) :
    (routeStep p client w e).1.Owned ↔ RouteRespected p w e := by
  cases e with
  | lease lease => exact iff_of_true (leaseStep_owned howned) trivial
  | useDhcp4 faults use => exact (useDhcp4Step_routed faults use hw howned).2
  | ip4 faults str => exact ip4Set_owned_iff hw howned
  | ip4Nm faults str => exact ip4Set_owned_iff hw howned
  | ip4Gw faults str => exact ip4Set_owned_iff hw howned

/-- On a bare interface nothing but the configured address has been set. -/
structure Fresh (data : ConfigData) (iface : Iface) : Prop extends Tended iface where
  only : OnlyAddress data.bmcDefaultIp4 iface.unicast

lemma Fresh.clears {data : ConfigData} (h : Fresh data iface) (netFaults : NetFaults) : Clears netFaults data iface :=
  h.only.sublist List.filter_sublist

lemma netInitAddress_data : (netInitAddress netFaults s).data = s.data := by
  rw [netInitAddress]
  dsimp only
  split_ifs <;> rfl

lemma netInitAddress_fresh (hbare : ∀ iface ∈ s.net.iface, iface.unicast = []) :
    ∀ iface ∈ (netInitAddress netFaults s).net.iface, Fresh s.data iface := by
  have hname : (netHostnameSet netFaults.hostname s.data.bmcHostname s.net).2.iface = s.net.iface := by
    cases hfault : netFaults.hostname <;> rfl
  have hempty : ∀ iface ∈ s.net.iface, Tended iface := by
    intro iface hiface
    have hnil := hbare iface hiface
    refine ⟨?_, ?_⟩ <;> intro addr haddr <;> rw [hnil] at haddr <;> cases haddr
  rw [netInitAddress]
  dsimp only
  split_ifs
  · intro iface hiface
    rw [netDoSetDefaultIp4FromConfig, iface_netDoSetDefaultIp4, hname] at hiface
    obtain ⟨before, hbefore, rfl⟩ := Option.mem_map.mp hiface
    exact ⟨tended_setDefault (hempty before hbefore), onlyAddress_setDefault (hbare before hbefore)⟩
  · intro iface hiface
    rw [hname] at hiface
    refine ⟨hempty iface hiface, ?_⟩
    rw [hbare iface hiface]
    exact ⟨Nat.zero_le _, fun _ h => absurd h List.not_mem_nil⟩

lemma iface_ntpInit (data : ConfigData) (net : Net) : (ntpInit data net).2.iface = net.iface := by
  rw [ntpInit, startNtp]
  split_ifs <;> rfl

lemma netInit_done {app : NetConfigInitApp} {stopFaults : NetFaults}
    (hinit : (netInit app netFaults stopFaults s).1 = 0) {base : State} (hbase : netInitAddress netFaults s = base) :
    (app.run base.net).1 = 0 ∧ (netInit app netFaults stopFaults s).2.data = base.data ∧
      (netInit app netFaults stopFaults s).2.net.iface =
        if base.data.bmcUseDhcp4 then (app.run base.net).2.iface
        else (netStopDhcp4 base.data.bmcDefaultIp4 base.data.bmcDefaultIp4Nm base.data.bmcDefaultIp4Gw stopFaults
          (app.run base.net).2).2.iface := by
  rw [netInit, hbase] at hinit ⊢
  by_cases hrc : (app.run base.net).1 = 0
  · refine ⟨hrc, ?_⟩
    dsimp only
    rw [if_neg (not_not.mpr hrc), iface_ntpInit, netInitDhcp4]
    cases base.data.bmcUseDhcp4 <;> exact ⟨rfl, rfl⟩
  · dsimp only at hinit
    rw [if_pos hrc] at hinit
    exact absurd hinit hrc

lemma app_route {t : State} {net : Net} {lease : Option Lease} (h : ∀ iface ∈ net.iface, Tended iface)
    (hnet : t.net.iface = net.iface.map (client.start lease)) (hrunning : t.net.iface.map Iface.dhcp = some true) :
    (Route.mk t lease).Owned ∧ (Route.mk t lease).Sound := by
  obtain ⟨iface, hiface, hdhcp⟩ := Option.map_eq_some_iff.mp hrunning
  have honly : ∀ other ∈ t.net.iface, other = iface := by
    intro other hother
    rw [hiface] at hother
    exact (Option.some.inj hother).symm
  obtain ⟨before, hbefore, hstart⟩ := Option.map_eq_some_iff.mp (hnet.symm.trans hiface)
  have hon : Tended { before with dhcp := true } := ⟨(h before hbefore).configured, fun _ _ _ => rfl⟩
  refine ⟨⟨?_, ?_⟩, ?_, ?_⟩
  · rintro lease rfl
    refine ⟨iface, hiface, ?_, ?_⟩
    · rw [← hstart]
      rfl
    · rw [← hstart]
      exact client.mem_add_self _ _
  · intro other hother hstopped
    rw [honly other hother, hdhcp] at hstopped
    cases hstopped
  · intro other hother
    rw [honly other hother, ← hstart]
    cases lease with
    | none => exact hon
    | some lease => exact tended_bind hon rfl
  · intro _ _
    rw [Route.running, hiface]
    exact hdhcp

lemma clears_start {data : ConfigData} {lease : Option Lease} (h : Clears netFaults data iface) :
    Clears netFaults data (client.start lease iface) := by
  cases lease with
  | none => exact h
  | some lease => exact OnlyAddress.sublist h (stuck_bind client lease { iface with dhcp := true })

lemma netInitRoute_routed (app : LeasingApp client) {stopFaults : NetFaults}
    (hbare : ∀ iface ∈ s.net.iface, iface.unicast = [])
    (hinit : (netInit app.toNetConfigInitApp netFaults stopFaults s).1 = 0) :
    (netInitRoute app netFaults stopFaults s).Owned ∧ (netInitRoute app netFaults stopFaults s).Sound := by
  have hfresh : ∀ iface ∈ (netInitAddress netFaults s).net.iface, Fresh (netInitAddress netFaults s).data iface := by
    rw [netInitAddress_data]
    exact netInitAddress_fresh hbare
  rw [netInitRoute]
  generalize hbase : netInitAddress netFaults s = base at hfresh
  have htended : ∀ iface ∈ base.net.iface, Tended iface := fun iface hiface => (hfresh iface hiface).toTended
  obtain ⟨hrc, hdata, hnet⟩ := netInit_done hinit hbase
  generalize (netInit app.toNetConfigInitApp netFaults stopFaults s).2 = t at hdata hnet
  have hstarted := app.iface base.net hrc
  cases huse : base.data.bmcUseDhcp4 with
  | true =>
    rw [huse, if_pos rfl] at hnet
    have hrunning := app.starts base.net hrc
    rw [← hnet] at hstarted hrunning
    obtain ⟨hnow, hsound⟩ := app_route htended hstarted hrunning
    rw [running_settle hsound]
    exact ⟨hnow, hsound⟩
  | false =>
    rw [huse, if_neg Bool.false_ne_true, ← hdata] at hnet
    have hrunning := app_route (t := { t with net := (app.run base.net).2 }) htended hstarted (app.starts base.net hrc)
    obtain ⟨hstopped, hsound, hnow⟩ := stopped_route hrunning.2.tended hnet (app.lease base.net)
    rw [if_neg (by rw [hstopped]; exact Bool.false_ne_true)]
    refine ⟨hnow.mpr ?_, hsound⟩
    intro iface hiface
    dsimp only at hiface
    rw [hstarted] at hiface
    obtain ⟨before, hbefore, rfl⟩ := Option.mem_map.mp hiface
    rw [hdata]
    exact clears_start ((hfresh before hbefore).clears stopFaults)

/-- A static setting applied under a lease takes the gateway over, whatever the lease says, and an address that
cannot be removed stays beside the configured one. -/
theorem route_owned_iff (p : Platform) {client : DhcpClient} (app : LeasingApp client)
    (netFaults stopFaults : NetFaults) (s : State) (hbare : ∀ iface ∈ s.net.iface, iface.unicast = [])
    (hinit : (netInit app.toNetConfigInitApp netFaults stopFaults s).1 = 0) (events : List RouteEvent) :
    (netInitRoute app netFaults stopFaults s).Owned ∧
      (Along (routeStep p client) (fun w e => (routeStep p client w e).1.Owned)
          (netInitRoute app netFaults stopFaults s) events ↔
        Along (routeStep p client) (RouteRespected p) (netInitRoute app netFaults stopFaults s) events) := by
  obtain ⟨howned, hsound⟩ := netInitRoute_routed app hbare hinit
  refine ⟨howned, ?_⟩
  apply along_congr (I := fun w => w.Owned ∧ w.Sound) _ _ ⟨howned, hsound⟩
  · exact fun w e hw hnow => ⟨hnow, routeStep_sound hw.2 hw.1 e⟩
  · exact fun w e hw => routeStep_owned_iff hw.2 hw.1 e

def takeSlot (addr : IfAddr) : List IfAddr → List IfAddr
  | [] => [addr]
  | other :: addrs => if other.addrType = .overridable then addr :: addrs else other :: takeSlot addr addrs

lemma takeSlot_place (addr : IfAddr) (addrs : List IfAddr) : ∃ before taken after,
    addrs = before ++ taken ++ after ∧ takeSlot addr addrs = before ++ addr :: after := by
  induction addrs with
  | nil => exact ⟨[], [], [], rfl, rfl⟩
  | cons other addrs ih =>
    rw [takeSlot]
    split_ifs
    · exact ⟨[], [other], addrs, rfl, rfl⟩
    · obtain ⟨before, taken, after, haddrs, htake⟩ := ih
      exact ⟨other :: before, taken, after, congrArg (other :: ·) haddrs, congrArg (other :: ·) htake⟩

def sampleClient : DhcpClient := ⟨takeSlot, takeSlot_place⟩

lemma sampleInitApp_iface (net : Net) (h : (sampleInitApp net).1 = 0) :
    (sampleInitApp net).2.iface = net.iface.map (sampleClient.start none) := by
  rw [sampleInitApp] at h ⊢
  cases hiface : net.iface with
  | none =>
    rw [hiface] at h
    exact absurd h (errno_neg enoent).ne
  | some iface =>
    simp only [startDhcp4, hiface]
    rfl

def leasingApp : LeasingApp sampleClient where
  toNetConfigInitApp := sampleApp
  lease _ := none
  iface := sampleInitApp_iface

def sampleLease : Lease := ⟨⟨[10, 0, 2, 15], rfl⟩, ⟨[255, 255, 255, 0], rfl⟩, ⟨[10, 0, 2, 2], rfl⟩⟩

def sampleRoute : Route := netInitRoute leasingApp sampleNoFaults sampleNoFaults sampleLoaded

lemma sampleLoaded_bare : ∀ iface ∈ sampleLoaded.net.iface, iface.unicast = [] := by
  rintro _ ⟨⟩
  rfl

theorem route_owned_sample :
    sampleRoute.Owned ∧
      Along (routeStep samplePlatform sampleClient)
        (fun w e => (routeStep samplePlatform sampleClient w e).1.Owned) sampleRoute
        [.ip4 .none none, .lease sampleLease, .useDhcp4 .none false, .ip4Gw .none none] := by
  obtain ⟨howned, hiff⟩ := route_owned_iff samplePlatform leasingApp sampleNoFaults sampleNoFaults sampleLoaded
    sampleLoaded_bare (by decide +kernel)
    [.ip4 .none none, .lease sampleLease, .useDhcp4 .none false, .ip4Gw .none none]
  exact ⟨howned, hiff.mpr (by decide +kernel)⟩

theorem gateway_taken_over :
    (netInit leasingApp.toNetConfigInitApp sampleNoFaults sampleNoFaults sampleLoaded).1 = 0 ∧
      ¬ Along (routeStep samplePlatform sampleClient)
        (fun w e => (routeStep samplePlatform sampleClient w e).1.Owned) sampleRoute
        [.lease sampleLease, .ip4 .none none] := by
  refine ⟨by decide +kernel, ?_⟩
  rintro ⟨-, hlater, -⟩
  obtain ⟨iface, hiface, hgw, -⟩ := hlater.leased sampleLease (by decide +kernel)
  revert iface
  decide +kernel

end WallaBMC.Config
