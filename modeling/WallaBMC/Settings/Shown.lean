import WallaBMC.Config.Strings
import WallaBMC.Documents.Handlers
import WallaBMC.Settings.Named

/-! The settings as a client sees them: what the documents show of `config_data` and of the running hostname.
A PATCH that is answered with success assigns the values it names, in any run and whatever could not be saved. -/

namespace WallaBMC.Settings

open Library Library.Runs Redfish Storage Config Documents
open Payloads (EthernetBody)

/-- The values of the fields, as long as they are in memory, and the name that the network runs under. -/
@[ext] structure Shown where
  value : ConfigId → List UInt8
  hostname : List UInt8

def shown (s : State) : Shown := ⟨s.data.image, s.net.hostname.bytes⟩

namespace Shown

def flag (a : Shown) (id : ConfigId) : Bool := a.value id ≠ [0]

def ipv4StaticAddresses (a : Shown) : Option RedfishIpv4Addr :=
  if a.value .bmcDefaultIp4 ≠ Ip4.any.bytes then
    some ⟨DottedQuad.text (a.value .bmcDefaultIp4), DottedQuad.text (a.value .bmcDefaultIp4Nm),
      DottedQuad.text (a.value .bmcDefaultIp4Gw), none⟩
  else none

def ethernet (a : Shown) (live : Option RedfishIpv4Addr) : RedfishEthernetInterface :=
  ⟨a.hostname, a.flag .bmcUseDhcp4, live, a.ipv4StaticAddresses⟩

def networkProtocol (a : Shown) : RedfishNtp := ⟨a.flag .bmcUseNtp, [a.value .bmcNtpServer]⟩

def powerRestorePolicy (a : Shown) : String := if a.flag .hostAutoPoweron then "AlwaysOn" else "AlwaysOff"

end Shown

/-- The value that a successful call assigns. A password that is too long is passed over in silence. -/
def taken (p : Platform) (c : SetterCall) : Option (List UInt8) :=
  match c with
  | .password str => if str.bytes.length ≤ maxPwLen then some str.bytes else none
  | c => c.requested p

def Shown.assign (p : Platform) (a : Shown) (c : SetterCall) : Shown :=
  match taken p c with
  | none => a
  | some value =>
    ⟨Function.update a.value c.id (value.take c.id.limit), if c.id = .bmcHostname then value else a.hostname⟩

def patchStep (p : Platform) (s : State) (e : Faults × Patch) : State × Option ℤ :=
  match e.2.run p e.1 s with
  | some (status, t) => (t, some status)
  | none => (s, none)

/-- The calls whose result is looked at have succeeded; the others write their field whatever the result is. -/
def Answered (c : SetterCall) (rc : ℤ) : Prop := rc = 0 ∨ c.flag?.isSome = true ∨ ∃ str, c = .password str

variable {p : Platform} {faults : Faults} {s t : State} {c : SetterCall} {rc : ℤ} {step : Step} {steps : List Step}
  {patch : Patch}

section Views

lemma ip4_eq_iff {a b : Ip4} : a = b ↔ a.bytes = b.bytes := by
  cases a
  cases b
  exact Ip4.mk.injEq .. ▸ Iff.rfl

lemma ipv4StaticAddresses_shown (s : State) :
    Documents.ipv4StaticAddresses s.data = (shown s).ipv4StaticAddresses := by
  simp only [Documents.ipv4StaticAddresses, Shown.ipv4StaticAddresses, ne_eq, ip4_eq_iff]
  rfl

lemma ethernetInterface_shown (s : State) (unicast : List NetIfAddr) :
    ethernetInterface s unicast = (shown s).ethernet (ipv4Addresses s.net.iface unicast) := by
  rw [ethernetInterface, Shown.ethernet, ipv4StaticAddresses_shown]
  rfl

lemma networkProtocol_shown (s : State) : networkProtocol s.data = (shown s).networkProtocol := rfl

lemma powerRestorePolicy_shown (s : State) : powerRestorePolicy s.data = (shown s).powerRestorePolicy := rfl

end Views

section Setters

lemma hostname_ip4Set (id : ConfigId) (str : Option CString) :
    (ip4Set p faults id str s).2.net.hostname = s.net.hostname := by
  rw [ip4Set]
  cases ip4Stoa p str with
  | none => rfl
  | some address =>
    dsimp only
    split_ifs
    · exact hostname_netDoSetDefaultIp4 _ _ _ _ _
    · rw [configSave_net]
      exact hostname_netDoSetDefaultIp4 _ _ _ _ _

lemma hostname_flagSet {id : ConfigId} {apply : Bool → State → Net} {use : Bool}
    (happly : ∀ s, (apply use s).hostname = s.net.hostname) :
    (flagSet faults id apply use s).2.net.hostname = s.net.hostname := by
  rw [flagSet]
  split_ifs
  · rfl
  · rw [configSave_net]
    exact happly _

lemma hostname_applyDhcp4 (use : Bool) (s : State) : (applyDhcp4 faults use s).hostname = s.net.hostname := by
  cases use with
  | true => rfl
  | false => exact hostname_netDoSetDefaultIp4 _ _ _ _ _

lemma hostname_startNtp (net : Net) : (startNtp net).2.hostname = net.hostname := by
  rw [startNtp]
  split_ifs <;> rfl

lemma hostname_stopNtp (net : Net) : (stopNtp net).2.hostname = net.hostname := by
  rw [stopNtp]
  split_ifs <;> rfl

lemma hostname_applyNtp (use : Bool) (s : State) : (applyNtp use s).hostname = s.net.hostname := by
  cases use with
  | true => exact hostname_startNtp s.net
  | false => exact hostname_stopNtp s.net

lemma hostname_configBmcNtpServerSet (str : CString) :
    (configBmcNtpServerSet faults str s).2.net.hostname = s.net.hostname := by
  have hsave := configSave_net faults { s with data := s.data.strlcpy .bmcNtpServer str } .bmcNtpServer
  have hrestart (net : Net) : (startNtp (stopNtp net).2).2.hostname = net.hostname :=
    (hostname_startNtp _).trans (hostname_stopNtp net)
  rw [configBmcNtpServerSet]
  dsimp only
  split_ifs <;> simp only [hrestart, hsave]

lemma hostname_setter (h : c.id ≠ .bmcHostname) : (c.run p faults s).2.net.hostname = s.net.hostname := by
  cases c with
  | password str =>
    rw [SetterCall.run, configBmcPasswordSet]
    split_ifs
    · rfl
    · rw [configSave_net]
  | hostname str => exact absurd rfl h
  | ip4 str | ip4Nm str | ip4Gw str => exact hostname_ip4Set _ str
  | useDhcp4 use => exact hostname_flagSet (hostname_applyDhcp4 use)
  | useNtp use => exact hostname_flagSet (hostname_applyNtp use)
  | ntpServer str => exact hostname_configBmcNtpServerSet str
  | autoPoweron use => exact hostname_flagSet fun _ => rfl

lemma hostname_call (h : c.id = .bmcHostname) : ∃ str, c = .hostname str := by
  cases c <;> first | exact ⟨_, rfl⟩ | cases h

lemma shown_written {value : List UInt8} (hreq : c.requested p = some value) (hdata : t.data = c.written p s.data) :
    t.data.image = Function.update s.data.image c.id (value.take c.id.limit) := by
  funext id
  by_cases hid : id = c.id
  · subst hid
    rw [Function.update_self, hdata, image_written hreq]
  · rw [Function.update_of_ne hid, ConfigData.image, ConfigData.image, hdata, bytes_written_of_ne hid]

lemma taken_eq (h : ∀ str, c ≠ .password str) : taken p c = c.requested p := by
  cases c with
  | password str => exact absurd rfl (h str)
  | _ => rfl

lemma shown_assign {value : List UInt8} (htaken : taken p c = some value) (hdata : t.data = c.written p s.data)
    (hreq : c.requested p = some value)
    (hname : t.net.hostname.bytes = if c.id = .bmcHostname then value else s.net.hostname.bytes) :
    shown t = (shown s).assign p c := by
  simp only [Shown.assign, htaken]
  exact Shown.ext (shown_written hreq hdata) hname

theorem setter_shown (h : Answered c (c.run p faults s).1) :
    shown (c.run p faults s).2 = (shown s).assign p c := by
  have heffect := setter_effect p faults s c
  obtain ⟨hrecorded, hrefused⟩ := setter_data p faults s c
  by_cases hpassword : ∃ str, c = .password str
  · obtain ⟨str, rfl⟩ := hpassword
    have hname : ((SetterCall.password str).run p faults s).2.net.hostname = s.net.hostname :=
      hostname_setter ConfigId.noConfusion
    by_cases hfits : str.bytes.length ≤ maxPwLen
    · exact shown_assign (if_pos hfits) (hrecorded hfits) rfl (congrArg CString.bytes hname)
    · have htaken : taken p (.password str) = none := if_neg hfits
      rw [Shown.assign, htaken, shown, hrefused hfits, hname]
      rfl
  · have htaken : taken p c = c.requested p := taken_eq fun str hc => hpassword ⟨str, hc⟩
    have hdata : (c.run p faults s).2.data = c.written p s.data := by
      rcases h with hzero | hflag | hstr
      · exact (hzero ▸ heffect : Effect p faults s c 0 _).zero_data
      · exact heffect.flag_data hflag
      · exact absurd hstr hpassword
    have hname : ∀ value, c.requested p = some value → (c.run p faults s).2.net.hostname.bytes =
        if c.id = .bmcHostname then value else s.net.hostname.bytes := by
      intro value hreq
      split_ifs with hid
      · obtain ⟨str, rfl⟩ := hostname_call hid
        rcases h with hzero | hflag | hstr
        · rw [← Option.some.inj hreq]
          exact congrArg CString.bytes (hostname_configBmcHostnameSet hzero)
        · cases hflag
        · exact absurd hstr hpassword
      · rw [hostname_setter hid]
    cases hreq : c.requested p with
    | some value => exact shown_assign (htaken.trans hreq) hdata hreq (hname value hreq)
    | none =>
      have hid : c.id ≠ .bmcHostname := by
        intro hid
        obtain ⟨str, rfl⟩ := hostname_call hid
        cases hreq
      rw [Shown.assign, htaken, hreq, shown, hdata, written_of_none hreq, hostname_setter hid]
      rfl

end Setters

section Patches

section Rule

variable {α : Type*} {R : State → α → Prop} {assign : α → SetterCall → α} {a : α}

/-- What every answered call carries over, a PATCH that is answered with success carries over. -/
lemma runSteps_rule
    (hcall : ∀ s a c, Answered c (c.run p faults s).1 → R s a → R (c.run p faults s).2 (assign a c))
    (hsimple : Simple steps) (hzero : (runSteps p faults s steps).1 = 0) (h : R s a) :
    R (runSteps p faults s steps).2 ((steps.map Step.setter).foldl assign a) := by
  induction steps generalizing s a with
  | nil => exact h
  | cons step steps ih =>
    have hgo : ¬ (step.checked = true ∧ (step.setter.run p faults s).1 ≠ 0) := by
      intro hstop
      rw [runSteps_cons, if_pos hstop] at hzero
      exact absurd hzero (by decide : internalServerError ≠ 0)
    have hanswered : Answered step.setter (step.setter.run p faults s).1 := by
      rcases hsimple.1 with hchecked | hflag | ⟨hpassword, -⟩
      · exact .inl (not_not.mp fun hrc => hgo ⟨hchecked, hrc⟩)
      · exact .inr (.inl hflag)
      · exact .inr (.inr hpassword)
    rw [runSteps_cons, if_neg hgo] at hzero ⊢
    exact ih hsimple.2 hzero (hcall s a step.setter hanswered h)

lemma patch_rule
    (hcall : ∀ s a c, Answered c (c.run p faults s).1 → R s a → R (c.run p faults s).2 (assign a c))
    (hrun : patch.run p faults s = some (0, t)) (h : R s a) : R t (patch.named.foldl assign a) := by
  have hplan := plan_simple patch
  rw [patch_run] at hrun
  rw [Patch.named]
  generalize patch.plan = plan at hplan hrun ⊢
  cases plan with
  | reject => cases hrun
  | nullPointer => cases hrun
  | steps list =>
    obtain ⟨hsimple, -⟩ := hplan list rfl
    have hout : runSteps p faults s list = (0, t) := Option.some.inj hrun
    have hsteps := runSteps_rule hcall hsimple (congrArg Prod.fst hout) h
    rwa [hout] at hsteps

end Rule

lemma patch_shown (h : patch.run p faults s = some (0, t)) :
    shown t = patch.named.foldl (Shown.assign p) (shown s) := by
  apply patch_rule (R := fun s a => shown s = a) _ h rfl
  intro s a c hanswered hshown
  rw [setter_shown hanswered, hshown]

lemma patches_assign (es : List (Faults × Patch)) (hzero : ∀ v ∈ trace (patchStep p) s es, v.output = some 0) :
    shown (exec (patchStep p) s es) = (es.flatMap fun e => e.2.named).foldl (Shown.assign p) (shown s) := by
  induction es generalizing s with
  | nil => rfl
  | cons e es ih =>
    have hfirst : (patchStep p s e).2 = some 0 := hzero _ List.mem_cons_self
    have hrest := ih fun v hv => hzero v (List.mem_cons_of_mem _ hv)
    have hstep : shown (patchStep p s e).1 = e.2.named.foldl (Shown.assign p) (shown s) := by
      cases hrun : e.2.run p e.1 s with
      | none =>
        rw [patchStep, hrun] at hfirst
        cases hfirst
      | some out =>
        obtain ⟨status, t⟩ := out
        simp only [patchStep, hrun, Option.some.injEq] at hfirst ⊢
        exact patch_shown (hfirst ▸ hrun)
    rw [exec_cons, hrest, hstep, List.flatMap_cons, List.foldl_append]

/-- What GET shows after any run of PATCHes that were all answered with success. -/
theorem patches_read_back (p : Platform) (s : State) (es : List (Faults × Patch))
    (hzero : ∀ v ∈ trace (patchStep p) s es, v.output = some 0) :
    let t := exec (patchStep p) s es
    let a := (es.flatMap fun e => e.2.named).foldl (Shown.assign p) (shown s)
    (∀ unicast, ethernetInterface t unicast = a.ethernet (ipv4Addresses t.net.iface unicast)) ∧
      networkProtocol t.data = a.networkProtocol ∧ Documents.powerRestorePolicy t.data = a.powerRestorePolicy ∧
      t.data.bmcAdminPassword.bytes = a.value .bmcAdminPassword := by
  intro t a
  have hassign : shown t = a := patches_assign es hzero
  refine ⟨fun unicast => ?_, ?_, ?_, ?_⟩
  · rw [ethernetInterface_shown, hassign]
  · rw [networkProtocol_shown, hassign]
  · rw [powerRestorePolicy_shown, hassign]
  · exact congrArg (fun a => a.value .bmcAdminPassword) hassign

def nameAndPolicy : List (Faults × Patch) :=
  [(.none, .ethernet (some ⟨some sampleName, some false, none⟩)), (.none, turnOn)]

theorem patches_read_back_named :
    networkProtocol (exec (patchStep samplePlatform) sampleState nameAndPolicy).data =
      ((nameAndPolicy.flatMap fun e => e.2.named).foldl (Shown.assign samplePlatform)
        (shown sampleState)).networkProtocol :=
  (patches_read_back samplePlatform sampleState nameAndPolicy (by decide +kernel)).2.1

end Patches

section Echo

structure Echoes (doc : RedfishEthernetInterface) (body : EthernetBody) : Prop where
  hostName : body.hostName.map CString.bytes = some doc.hostName
  dhcpEnabled : body.dhcpEnabled = some doc.dhcpEnabled
  empty : doc.ipv4StaticAddresses = none → body.ipv4Static = some none
  element : ∀ addr, doc.ipv4StaticAddresses = some addr → ∃ address subnetMask gateway : CString,
    body.ipv4Static = some (some ⟨some address, some subnetMask, some gateway⟩) ∧
      address.bytes = addr.address ∧ subnetMask.bytes = addr.subnetMask ∧ gateway.bytes = addr.gateway

/-- `inet_pton` reads what `net_addr_ntop` prints. -/
def ReadsNtop (p : Platform) : Prop := ∀ (str : CString) (address : Ip4),
  str.bytes = netAddrNtop address → p.inetPton str = some address

lemma flag_flagBytes (use : Bool) : decide (flagBytes use ≠ [0]) = use := by
  cases use <;> decide

lemma assign_hostname (a : Shown) (str : CString) :
    a.assign p (.hostname str) = ⟨Function.update a.value .bmcHostname (str.bytes.take maxHostnameLen), str.bytes⟩ :=
  rfl

lemma assign_useDhcp4 (a : Shown) (use : Bool) :
    a.assign p (.useDhcp4 use) = ⟨Function.update a.value .bmcUseDhcp4 (flagBytes use), a.hostname⟩ := rfl

lemma take_address (address : Ip4) : address.bytes.take 4 = address.bytes := by
  rw [List.take_eq_self_iff, address.length_bytes]

lemma assign_address (a : Shown) {address : Ip4} (hlimit : c.id.limit = 4) (hid : c.id ≠ .bmcHostname)
    (htaken : taken p c = some address.bytes) :
    a.assign p c = ⟨Function.update a.value c.id address.bytes, a.hostname⟩ := by
  simp only [Shown.assign, htaken, hlimit, take_address, if_neg hid]

lemma assign_addr (a : Shown) (addr : Ipv4Addr) {address subnetMask gateway : Ip4}
    (haddress : ip4Stoa p addr.address = some address) (hsubnetMask : ip4Stoa p addr.subnetMask = some subnetMask)
    (hgateway : ip4Stoa p addr.gateway = some gateway) :
    (addr.steps.map Step.setter).foldl (Shown.assign p) a =
      ⟨Function.update (Function.update (Function.update a.value .bmcDefaultIp4 address.bytes)
        .bmcDefaultIp4Nm subnetMask.bytes) .bmcDefaultIp4Gw gateway.bytes, a.hostname⟩ := by
  have hfirst := assign_address (p := p) (c := .ip4 addr.address) a rfl ConfigId.noConfusion
    (congrArg (Option.map Ip4.bytes) haddress)
  have hsecond := fun a => assign_address (p := p) (c := .ip4Nm addr.subnetMask) a rfl ConfigId.noConfusion
    (congrArg (Option.map Ip4.bytes) hsubnetMask)
  have hthird := fun a => assign_address (p := p) (c := .ip4Gw addr.gateway) a rfl ConfigId.noConfusion
    (congrArg (Option.map Ip4.bytes) hgateway)
  simp only [Ipv4Addr.steps, checked, List.map_cons, List.map_nil, List.foldl_cons, List.foldl_nil, hfirst, hsecond,
    hthird]
  rfl

lemma named_ethernet {body : EthernetBody} {hostName : CString} {use : Bool} {element : Option Ipv4Addr}
    (hname : body.hostName = some hostName) (huse : body.dhcpEnabled = some use)
    (hstatic : body.ipv4Static = some element) :
    (Patch.ethernet (some body.payload)).named =
      .hostname hostName :: .useDhcp4 use :: ((element.getD ⟨none, none, none⟩).steps.map Step.setter) := by
  obtain ⟨_, _, _⟩ := body
  cases hname
  cases huse
  cases hstatic
  rfl

/-- The running name, the flag and the addresses behind the document, with what is not shown in `hidden`. -/
structure Echoed (a b : Shown) : Prop where
  hostname : b.hostname = a.hostname
  useDhcp4 : b.flag .bmcUseDhcp4 = a.flag .bmcUseDhcp4
  ipv4StaticAddresses : b.ipv4StaticAddresses = a.ipv4StaticAddresses
  others : ∀ id, id ≠ .bmcHostname → id ≠ .bmcUseDhcp4 → id ≠ .bmcDefaultIp4Nm → id ≠ .bmcDefaultIp4Gw →
    b.value id = a.value id
  hidden : a.ipv4StaticAddresses = none →
    b.value .bmcDefaultIp4Nm = Ip4.any.bytes ∧ b.value .bmcDefaultIp4Gw = Ip4.any.bytes

lemma static_none {a : Shown} : a.ipv4StaticAddresses = none ↔ a.value .bmcDefaultIp4 = Ip4.any.bytes := by
  rw [Shown.ipv4StaticAddresses]
  by_cases h : a.value .bmcDefaultIp4 = Ip4.any.bytes
  · rw [if_neg (not_not.mpr h)]
    exact iff_of_true rfl h
  · rw [if_pos h]
    exact iff_of_false (Option.some_ne_none _) h

lemma echoed_empty {a : Shown} {hostName : CString} (hname : hostName.bytes = a.hostname)
    (h : a.ipv4StaticAddresses = none) :
    Echoed a ((Ipv4Addr.steps ⟨none, none, none⟩).map Step.setter |>.foldl (Shown.assign p)
      ((a.assign p (.hostname hostName)).assign p (.useDhcp4 (a.flag .bmcUseDhcp4)))) := by
  have hany : ip4Stoa p none = some .any := rfl
  have hzero := static_none.mp h
  rw [assign_addr _ _ hany hany hany, assign_useDhcp4, assign_hostname]
  constructor
  · exact hname
  · exact flag_flagBytes _
  · rw [h, static_none]
    rfl
  · intro id hid hflag hmask hgateway
    by_cases haddress : id = .bmcDefaultIp4
    · subst haddress
      exact hzero.symm
    · simp [Function.update_of_ne, hid, hflag, hmask, hgateway, haddress]
  · exact fun _ => ⟨rfl, rfl⟩

lemma echoed_addr {a : Shown} {hostName : CString} {addr : Ipv4Addr} {address subnetMask gateway : Ip4}
    (hname : hostName.bytes = a.hostname) (h : a.ipv4StaticAddresses ≠ none)
    (haddress : ip4Stoa p addr.address = some address) (hsubnetMask : ip4Stoa p addr.subnetMask = some subnetMask)
    (hgateway : ip4Stoa p addr.gateway = some gateway) (hip : a.value .bmcDefaultIp4 = address.bytes)
    (hnm : a.value .bmcDefaultIp4Nm = subnetMask.bytes) (hgw : a.value .bmcDefaultIp4Gw = gateway.bytes) :
    Echoed a (addr.steps.map Step.setter |>.foldl (Shown.assign p)
      ((a.assign p (.hostname hostName)).assign p (.useDhcp4 (a.flag .bmcUseDhcp4)))) := by
  rw [assign_addr _ _ haddress hsubnetMask hgateway, assign_useDhcp4, assign_hostname, ← hip, ← hnm, ← hgw]
  constructor
  · exact hname
  · exact flag_flagBytes _
  · rfl
  · intro id hid hflag hmask hgateway
    by_cases haddress : id = .bmcDefaultIp4
    · subst haddress
      rfl
    · simp [Function.update_of_ne, hid, hflag, hmask, hgateway, haddress]
  · exact fun hnone => absurd hnone h

/-- The reader of `DottedQuad`, and a board with an interface. -/
def quadPton (str : CString) : Option Ip4 :=
  match DottedQuad.read str.bytes with
  | some bytes => if h : bytes.length = 4 then some ⟨bytes, h⟩ else none
  | none => none

def quadPlatform : Platform :=
  { samplePlatform with
    net := ⟨sampleName, some ⟨.any, [], false⟩, ⟨false, false, 20, none⟩⟩
    inetPton := quadPton }

lemma quadPlatform_readsNtop : ReadsNtop quadPlatform := by
  intro str address hstr
  have hread : DottedQuad.read str.bytes = some address.bytes := hstr ▸ DottedQuad.read_text address.length_bytes
  change quadPton str = some address
  rw [quadPton, hread]
  exact dif_pos address.length_bytes

def addressed : State :=
  ((SetterCall.ip4 (some staticAddress)).run quadPlatform .none (boot quadPlatform .none (mounted emptyStore))).2

def zeroAddress : CString := ⟨ascii "0.0.0.0", by decide⟩

def addressedBody : EthernetBody :=
  ⟨some sampleName, some true, some (some ⟨some staticAddress, some zeroAddress, some zeroAddress⟩)⟩

def echoedBack : State :=
  ((Patch.ethernet (some addressedBody.payload)).run quadPlatform .none addressed).elim addressed Prod.snd

lemma addressed_static : (ethernetInterface addressed []).ipv4StaticAddresses =
    some ⟨staticAddress.bytes, zeroAddress.bytes, zeroAddress.bytes, none⟩ := by
  decide +kernel

lemma addressed_echoes : Echoes (ethernetInterface addressed []) addressedBody := by
  constructor
  · decide +kernel
  · decide +kernel
  · intro hnone
    rw [addressed_static] at hnone
    cases hnone
  · intro addr haddr
    rw [addressed_static] at haddr
    obtain rfl := Option.some.inj haddr
    exact ⟨staticAddress, zeroAddress, zeroAddress, rfl, rfl, rfl, rfl⟩

end Echo

end WallaBMC.Settings
