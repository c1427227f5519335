import WallaBMC.Power.Gpios
import WallaBMC.Settings.Done
import WallaBMC.Time.Iso

/-! The handlers that write, with the memory of their local `payload`. A pointer in it is null, was stored by
`json_obj_parse` for this body, or is left over from before; `used` lists the pointers that are passed on
to be read as C strings. -/

namespace WallaBMC.Settings.Payloads

open Redfish Storage Config Settings Time
open Power (powerReset powerSetState)

/-- `target` is the C string that a pointer left over happens to point to, if any. -/
inductive Ptr
  | null
  | leftover (target : Option CString)
  | parsed (str : CString)
  deriving DecidableEq

def Ptr.target : Ptr → Option CString
  | .null => none
  | .leftover target => target
  | .parsed str => some str

def Ptr.nonNull : Ptr → Bool
  | .null => false
  | _ => true

/-- What `json_obj_parse` does to the field of a string. -/
def Ptr.store (body : Option CString) (old : Ptr) : Ptr :=
  match body with
  | some str => .parsed str
  | none => old

/-- No result where a pointer is read that does not point to a C string. -/
structure Outcome (σ : Type*) where
  used : List Ptr
  result : Option (ℤ × σ)

variable {σ τ : Type*}

def ret (r : ℤ × σ) : Outcome σ := ⟨[], some r⟩

def read (ptr : Ptr) (k : CString → Outcome σ) : Outcome σ :=
  match ptr.target with
  | none => ⟨[ptr], none⟩
  | some str => ⟨ptr :: (k str).used, (k str).result⟩

/-- A function that takes a null pointer for no string. -/
def readUnlessNull (ptr : Ptr) (k : Option CString → Outcome σ) : Outcome σ :=
  if ptr.nonNull then read ptr (fun str => k (some str)) else k none

def Outcome.map (f : σ → τ) (o : Outcome σ) : Outcome τ := ⟨o.used, o.result.map (fun r => (r.1, f r.2))⟩

structure AccountMem where
  password : Ptr

structure ManagerMem where
  dateTime : Ptr

structure EthernetMem where
  hostName : Ptr
  dhcpEnabled : UInt8
  address : Ptr
  subnetMask : Ptr
  gateway : Ptr
  ipv4StaticCount : UInt32

structure NetworkProtocolMem where
  protocolEnabled : UInt8
  ntpServer : Ptr
  ntpServersCount : UInt32

structure SystemMem where
  powerRestorePolicy : Ptr

structure ResetMem where
  resetType : Ptr

structure ManagerPayload where
  dateTime : Option CString

structure ResetPayload where
  resetType : Option CString

/-- The array has room for one address; it is absent, empty, or has one element. -/
structure EthernetBody where
  hostName : Option CString
  dhcpEnabled : Option Bool
  ipv4Static : Option (Option Ipv4Addr)

def jsonBool (b : Bool) : UInt8 := if b then 1 else 0

def AccountMem.parse (body : AccountPayload) (mem : AccountMem) : AccountMem :=
  ⟨mem.password.store body.password⟩

def ManagerMem.parse (body : ManagerPayload) (mem : ManagerMem) : ManagerMem :=
  ⟨mem.dateTime.store body.dateTime⟩

def EthernetMem.parse (body : EthernetBody) (mem : EthernetMem) : EthernetMem where
  hostName := mem.hostName.store body.hostName
  dhcpEnabled := (body.dhcpEnabled.map jsonBool).getD mem.dhcpEnabled
  address := mem.address.store (body.ipv4Static.join.bind Ipv4Addr.address)
  subnetMask := mem.subnetMask.store (body.ipv4Static.join.bind Ipv4Addr.subnetMask)
  gateway := mem.gateway.store (body.ipv4Static.join.bind Ipv4Addr.gateway)
  ipv4StaticCount := (body.ipv4Static.map (fun addr => if addr.isSome then 1 else 0)).getD mem.ipv4StaticCount

def NetworkProtocolMem.parse (body : NetworkProtocolPayload) (mem : NetworkProtocolMem) :
    NetworkProtocolMem where
  protocolEnabled := (body.protocolEnabled.map jsonBool).getD mem.protocolEnabled
  ntpServer := mem.ntpServer.store body.ntpServers.join
  ntpServersCount := (body.ntpServers.map (fun server => if server.isSome then 1 else 0)).getD mem.ntpServersCount

def SystemMem.parse (body : SystemPayload) (mem : SystemMem) : SystemMem :=
  ⟨mem.powerRestorePolicy.store body.powerRestorePolicy⟩

def ResetMem.parse (body : ResetPayload) (mem : ResetMem) : ResetMem := ⟨mem.resetType.store body.resetType⟩

/-- `memset` and the two sentinels. -/
def EthernetMem.cleared : EthernetMem := ⟨.null, 0xff, .null, .null, .null, -1⟩

def NetworkProtocolMem.cleared : NetworkProtocolMem := ⟨0xff, .null, -1⟩

section Handlers

variable (p : Platform) (faults : Faults)

def accountPatchHandler (_payload : AccountMem) (parsed : Option AccountPayload) (s : State) : Outcome State :=
  let payload : AccountMem := ⟨.null⟩
  match parsed with
  | none => ret (badRequest, s)
  | some body =>
    let payload := payload.parse body
    if payload.password.nonNull then
      read payload.password (fun str => ret (0, (configBmcPasswordSet faults str s).2))
    else ret (0, s)

def text (str : CString) : List Char := str.bytes.map (fun b => Char.ofNat b.toNat)

def dateTimeSet (cal : Calendar) (clockFaults : ClockFaults) (c : Clock) (str : CString) : ℤ × Clock :=
  let (ret, c) := timeSetFromIsoStr cal clockFaults (text str) c
  if ret ≠ 0 then (internalServerError, c) else (0, c)

/-- Nothing clears this payload. -/
def managerPatchHandler (cal : Calendar) (clockFaults : ClockFaults) (payload : ManagerMem)
    (parsed : Option ManagerPayload) (c : Clock) : Outcome Clock :=
  match parsed with
  | none => ret (badRequest, c)
  | some body =>
    let payload := payload.parse body
    if payload.dateTime.nonNull then
      read payload.dateTime (fun str => ret (dateTimeSet cal clockFaults c str))
    else ret (0, c)

def ethernetStatic (payload : EthernetMem) (s : State) : Outcome State :=
  readUnlessNull payload.address fun address =>
    let (ret, s) := configBmcDefaultIp4Set p faults address s
    if ret ≠ 0 then Payloads.ret (internalServerError, s)
    else
      readUnlessNull payload.subnetMask fun subnetMask =>
        let (ret, s) := configBmcDefaultIp4NmSet p faults subnetMask s
        if ret ≠ 0 then Payloads.ret (internalServerError, s)
        else
          readUnlessNull payload.gateway fun gateway =>
            let (ret, s) := configBmcDefaultIp4GwSet p faults gateway s
            if ret ≠ 0 then Payloads.ret (internalServerError, s) else Payloads.ret (0, s)

def ethernetRest (payload : EthernetMem) (s : State) : Outcome State :=
  let s := if payload.dhcpEnabled ≠ 0xff then
    (configBmcUseDhcp4Set faults (payload.dhcpEnabled ≠ 0) s).2 else s
  if payload.ipv4StaticCount ≠ -1 then ethernetStatic p faults payload s else ret (0, s)

def ethernetPatchHandler (_payload : EthernetMem) (parsed : Option EthernetBody) (s : State) : Outcome State :=
  let payload := EthernetMem.cleared
  match parsed with
  | none => ret (badRequest, s)
  | some body =>
    let payload := payload.parse body
    if payload.hostName.nonNull then
      read payload.hostName fun hostName =>
        let (ret, s) := configBmcHostnameSet faults hostName s
        if ret ≠ 0 then Payloads.ret (internalServerError, s) else ethernetRest p faults payload s
    else ethernetRest p faults payload s

def networkProtocolRest (payload : NetworkProtocolMem) (s : State) : ℤ × State :=
  if payload.protocolEnabled ≠ 0xff then (0, (configBmcUseNtpSet faults (payload.protocolEnabled ≠ 0) s).2)
  else (0, s)

def networkProtocolPatchHandler (_payload : NetworkProtocolMem) (parsed : Option NetworkProtocolPayload)
    (s : State) : Outcome State :=
  let payload := NetworkProtocolMem.cleared
  match parsed with
  | none => ret (badRequest, s)
  | some body =>
    let payload := payload.parse body
    if payload.ntpServersCount ≠ -1 then
      read payload.ntpServer fun server =>
        let (ret, s) := configBmcNtpServerSet faults server s
        if ret ≠ 0 then Payloads.ret (internalServerError, s)
        else Payloads.ret (networkProtocolRest faults payload s)
    else ret (networkProtocolRest faults payload s)

def autoPoweronSet (policy : CString) (s : State) : ℤ × State :=
  if policy.bytes = ascii "AlwaysOn" then
    let (ret, s) := configHostAutoPoweronSet faults true s
    if ret ≠ 0 then (internalServerError, s) else (0, s)
  else if policy.bytes = ascii "AlwaysOff" then
    let (ret, s) := configHostAutoPoweronSet faults false s
    if ret ≠ 0 then (internalServerError, s) else (0, s)
  else (badRequest, s)

def systemPatchHandler (_payload : SystemMem) (parsed : Option SystemPayload) (s : State) : Outcome State :=
  let payload : SystemMem := ⟨.null⟩
  match parsed with
  | none => ret (badRequest, s)
  | some body =>
    let payload := payload.parse body
    if payload.powerRestorePolicy.nonNull then
      read payload.powerRestorePolicy (fun policy => ret (autoPoweronSet faults policy s))
    else ret (0, s)

end Handlers

structure Host where
  power : Power.State
  reset : List Bool

structure HostFaults where
  power : ℕ → ℤ
  resetOkay : Bool
  reset : ℕ → ℤ

def resetAction (faults : HostFaults) (host : Host) (resetType : CString) : ℤ × Host :=
  if resetType.bytes = ascii "On" then (0, { host with power := powerSetState true faults.power host.power })
  else if resetType.bytes = ascii "ForceOff" then
    (0, { host with power := powerSetState false faults.power host.power })
  else if resetType.bytes = ascii "PowerCycle" then
    (0, { host with reset := (powerReset faults.resetOkay faults.reset host.reset).2 })
  else (badRequest, host)

def systemResetPostHandler (faults : HostFaults) (_payload : ResetMem) (parsed : Option ResetPayload)
    (host : Host) : Outcome Host :=
  let payload : ResetMem := ⟨.null⟩
  match parsed with
  | none => ret (badRequest, host)
  | some body =>
    let payload := payload.parse body
    read payload.resetType (fun resetType => ret (resetAction faults host resetType))

structure Bmc where
  config : State
  clock : Clock
  host : Host

structure Environment where
  platform : Platform
  faults : Faults
  calendar : Calendar
  clockFaults : ClockFaults
  hostFaults : HostFaults

/-- What was in the memory of each `payload` before. -/
structure Prior where
  account : AccountMem
  manager : ManagerMem
  ethernet : EthernetMem
  networkProtocol : NetworkProtocolMem
  system : SystemMem
  reset : ResetMem

/-- A body as it was parsed, for one of the handlers. -/
inductive Request
  | account (parsed : Option AccountPayload)
  | manager (parsed : Option ManagerPayload)
  | ethernet (parsed : Option EthernetBody)
  | networkProtocol (parsed : Option NetworkProtocolPayload)
  | system (parsed : Option SystemPayload)
  | reset (parsed : Option ResetPayload)

def Bmc.withConfig (bmc : Bmc) (s : State) : Bmc := { bmc with config := s }

def Bmc.withClock (bmc : Bmc) (c : Clock) : Bmc := { bmc with clock := c }

def Bmc.withHost (bmc : Bmc) (host : Host) : Bmc := { bmc with host := host }

def handle (env : Environment) (prior : Prior) (bmc : Bmc) : Request → Outcome Bmc
  | .account parsed => (accountPatchHandler env.faults prior.account parsed bmc.config).map bmc.withConfig
  | .manager parsed =>
    (managerPatchHandler env.calendar env.clockFaults prior.manager parsed bmc.clock).map bmc.withClock
  | .ethernet parsed =>
    (ethernetPatchHandler env.platform env.faults prior.ethernet parsed bmc.config).map bmc.withConfig
  | .networkProtocol parsed =>
    (networkProtocolPatchHandler env.faults prior.networkProtocol parsed bmc.config).map bmc.withConfig
  | .system parsed => (systemPatchHandler env.faults prior.system parsed bmc.config).map bmc.withConfig
  | .reset parsed => (systemResetPostHandler env.hostFaults prior.reset parsed bmc.host).map bmc.withHost

def EthernetBody.payload (body : EthernetBody) : EthernetPayload :=
  ⟨body.hostName, body.dhcpEnabled, body.ipv4Static.map (fun addr => addr.getD ⟨none, none, none⟩)⟩

/-- The request itself, without a memory: nothing for a body that asks to read what it does not have. -/
def Request.meant (env : Environment) (bmc : Bmc) : Request → Option (ℤ × Bmc)
  | .account parsed =>
    some ((Settings.accountPatchHandler env.faults parsed bmc.config).map id bmc.withConfig)
  | .manager none => some (badRequest, bmc)
  | .manager (some body) =>
    match body.dateTime with
    | none => some (0, bmc)
    | some str => some ((dateTimeSet env.calendar env.clockFaults bmc.clock str).map id bmc.withClock)
  | .ethernet parsed =>
    some ((Settings.ethernetPatchHandler env.platform env.faults (parsed.map EthernetBody.payload)
      bmc.config).map id bmc.withConfig)
  | .networkProtocol parsed =>
    (Settings.networkProtocolPatchHandler env.faults parsed bmc.config).map (Prod.map id bmc.withConfig)
  | .system parsed =>
    some ((Settings.systemPatchHandler env.faults parsed bmc.config).map id bmc.withConfig)
  | .reset none => some (badRequest, bmc)
  | .reset (some body) =>
    body.resetType.map (fun str => (resetAction env.hostFaults bmc.host str).map id bmc.withHost)

/-- The handlers that do not look whether the parse stored what they read. -/
def Request.Clean (prior : Prior) : Request → Prop
  | .manager (some body) => body.dateTime ≠ none ∨ prior.manager.dateTime = .null
  | .networkProtocol (some body) => body.ntpServers ≠ some none
  | .reset (some body) => body.resetType ≠ none
  | _ => True

def OnlyParsed (o : Outcome σ) : Prop := ∀ ptr ∈ o.used, ∃ str, ptr = .parsed str

structure Means (o : Outcome σ) (r : ℤ × σ) : Prop where
  used : OnlyParsed o
  result : o.result = some r

section

variable {p : Platform} {faults : Faults} {s : State} {r : ℤ × σ} {k : CString → Outcome σ} {str : CString}
  {o : Outcome σ}

lemma means_ret : Means (ret r) r := ⟨by simp [OnlyParsed, ret], rfl⟩

lemma means_read (h : Means (k str) r) : Means (read (.parsed str) k) r where
  used := by
    rw [read]
    exact List.forall_mem_cons.mpr ⟨⟨str, rfl⟩, h.used⟩
  result := h.result

lemma means_readUnlessNull {k : Option CString → Outcome σ} (opt : Option CString) (h : Means (k opt) r) :
    Means (readUnlessNull (Ptr.null.store opt) k) r := by
  cases opt with
  | none => exact h
  | some str => exact means_read (k := fun str => k (some str)) h

lemma Means.map (h : Means o r) (f : σ → τ) : Means (o.map f) (r.map id f) where
  used := h.used
  result := by
    rw [Outcome.map, h.result]
    rfl

lemma not_onlyParsed_read {ptr : Ptr} (h : ∀ str, ptr ≠ .parsed str) : ¬ OnlyParsed (read ptr k) := by
  intro honly
  have hmem : ptr ∈ (read ptr k).used := by
    rw [read]
    cases ptr.target with
    | none => exact List.mem_singleton_self ptr
    | some str => exact List.mem_cons_self ..
  obtain ⟨str, hstr⟩ := honly ptr hmem
  exact h str hstr

lemma means_account (mem : AccountMem) (parsed : Option AccountPayload) :
    Means (accountPatchHandler faults mem parsed s) (Settings.accountPatchHandler faults parsed s) := by
  cases parsed with
  | none => exact means_ret
  | some body =>
    obtain ⟨password⟩ := body
    cases password with
    | none => exact means_ret
    | some str => exact means_read (k := fun str => ret (0, (configBmcPasswordSet faults str s).2)) means_ret

lemma means_system (mem : SystemMem) (parsed : Option SystemPayload) :
    Means (systemPatchHandler faults mem parsed s) (Settings.systemPatchHandler faults parsed s) := by
  cases parsed with
  | none => exact means_ret
  | some body =>
    obtain ⟨policy⟩ := body
    cases policy with
    | none => exact means_ret
    | some policy => exact means_read (k := fun policy => ret (autoPoweronSet faults policy s)) means_ret

lemma jsonBool_ne_sentinel (b : Bool) : jsonBool b ≠ 0xff := by cases b <;> decide

lemma jsonBool_ne_zero (b : Bool) : decide (jsonBool b ≠ 0) = b := by cases b <;> rfl

lemma networkProtocolRest_eq (server : Option (Option CString)) (enabled : Option Bool) (s : State) :
    networkProtocolRest faults (NetworkProtocolMem.cleared.parse ⟨server, enabled⟩) s =
      match enabled with
      | some use => (0, (configBmcUseNtpSet faults use s).2)
      | none => (0, s) := by
  cases enabled with
  | none => rfl
  | some use =>
    have hstored : (NetworkProtocolMem.cleared.parse ⟨server, some use⟩).protocolEnabled = jsonBool use := rfl
    rw [networkProtocolRest, hstored, if_pos (jsonBool_ne_sentinel use), jsonBool_ne_zero]

lemma means_networkProtocol (mem : NetworkProtocolMem) (parsed : Option NetworkProtocolPayload)
    (h : ∀ body, parsed = some body → body.ntpServers ≠ some none) :
    ∃ r, Settings.networkProtocolPatchHandler faults parsed s = some r ∧
      Means (networkProtocolPatchHandler faults mem parsed s) r := by
  cases parsed with
  | none => exact ⟨_, rfl, means_ret⟩
  | some body =>
    obtain ⟨servers, enabled⟩ := body
    have hrest : ∀ s, networkProtocolRest faults (NetworkProtocolMem.cleared.parse ⟨servers, enabled⟩) s = _ :=
      networkProtocolRest_eq servers enabled
    rcases servers with _ | _ | server
    · refine ⟨_, rfl, ?_⟩
      change Means (ret (networkProtocolRest faults (NetworkProtocolMem.cleared.parse ⟨none, enabled⟩) s)) _
      rw [hrest]
      exact means_ret
    · exact absurd rfl (h _ rfl)
    · by_cases hret : (configBmcNtpServerSet faults server s).1 = 0
      · refine ⟨_, if_neg (not_not.mpr hret), ?_⟩
        apply means_read
        simp only [hret, ne_eq, not_true_eq_false, if_false]
        rw [hrest]
        exact means_ret
      · refine ⟨_, if_pos hret, ?_⟩
        apply means_read
        simp only [ne_eq, hret, not_false_eq_true, if_true]
        exact means_ret

lemma means_ethernetStatic (mem : EthernetMem) (addr : Ipv4Addr)
    (haddress : mem.address = Ptr.null.store addr.address)
    (hsubnetMask : mem.subnetMask = Ptr.null.store addr.subnetMask)
    (hgateway : mem.gateway = Ptr.null.store addr.gateway) :
    Means (ethernetStatic p faults mem s) (Settings.ethernetStatic p faults addr s) := by
  rw [ethernetStatic, Settings.ethernetStatic, haddress, hsubnetMask, hgateway]
  apply means_readUnlessNull
  by_cases hip4 : (configBmcDefaultIp4Set p faults addr.address s).1 = 0
  · simp only [hip4, ne_eq, not_true_eq_false, if_false]
    apply means_readUnlessNull
    generalize (configBmcDefaultIp4Set p faults addr.address s).2 = s
    by_cases hnm : (configBmcDefaultIp4NmSet p faults addr.subnetMask s).1 = 0
    · simp only [hnm, not_true_eq_false, if_false]
      apply means_readUnlessNull
      generalize (configBmcDefaultIp4NmSet p faults addr.subnetMask s).2 = s
      by_cases hgw : (configBmcDefaultIp4GwSet p faults addr.gateway s).1 = 0
      · simp only [hgw, not_true_eq_false, if_false]
        exact means_ret
      · simp only [hgw, not_false_eq_true, if_true]
        exact means_ret
    · simp only [hnm, not_false_eq_true, if_true]
      exact means_ret
  · simp only [hip4, ne_eq, not_false_eq_true, if_true]
    exact means_ret

lemma means_ethernetAddresses (body : EthernetBody) (s : State) :
    Means (if (EthernetMem.cleared.parse body).ipv4StaticCount ≠ -1 then
        ethernetStatic p faults (EthernetMem.cleared.parse body) s else ret (0, s))
      (match body.payload.ipv4Static with
        | some addr => Settings.ethernetStatic p faults addr s
        | none => (0, s)) := by
  obtain ⟨hostName, dhcpEnabled, ipv4Static⟩ := body
  rcases ipv4Static with _ | _ | addr
  · exact means_ret
  · have hcount : (EthernetMem.cleared.parse ⟨hostName, dhcpEnabled, some none⟩).ipv4StaticCount = 0 := rfl
    rw [hcount, if_pos (by decide)]
    exact means_ethernetStatic _ ⟨none, none, none⟩ rfl rfl rfl
  · have hcount : (EthernetMem.cleared.parse ⟨hostName, dhcpEnabled, some (some addr)⟩).ipv4StaticCount = 1 := rfl
    rw [hcount, if_pos (by decide)]
    exact means_ethernetStatic _ addr rfl rfl rfl

lemma means_ethernetRest (body : EthernetBody) (s : State) :
    Means (ethernetRest p faults (EthernetMem.cleared.parse body) s)
      (Settings.ethernetPatchHandler p faults (some { body.payload with hostName := none }) s) := by
  obtain ⟨hostName, dhcpEnabled, ipv4Static⟩ := body
  cases dhcpEnabled with
  | none => exact means_ethernetAddresses ⟨hostName, none, ipv4Static⟩ s
  | some use =>
    have hstored : (EthernetMem.cleared.parse ⟨hostName, some use, ipv4Static⟩).dhcpEnabled = jsonBool use := rfl
    rw [ethernetRest, hstored, if_pos (jsonBool_ne_sentinel use), jsonBool_ne_zero]
    exact means_ethernetAddresses ⟨hostName, some use, ipv4Static⟩ _

lemma hostName_set {hostName : CString} {dhcpEnabled : Option Bool} {ipv4Static : Option Ipv4Addr}
    (h : (configBmcHostnameSet faults hostName s).1 = 0) :
    Settings.ethernetPatchHandler p faults (some ⟨some hostName, dhcpEnabled, ipv4Static⟩) s =
      Settings.ethernetPatchHandler p faults (some ⟨none, dhcpEnabled, ipv4Static⟩)
        (configBmcHostnameSet faults hostName s).2 := by
  simp only [Settings.ethernetPatchHandler, h, ne_eq, not_true_eq_false, if_false]

lemma hostName_failed {hostName : CString} {dhcpEnabled : Option Bool} {ipv4Static : Option Ipv4Addr}
    (h : (configBmcHostnameSet faults hostName s).1 ≠ 0) :
    Settings.ethernetPatchHandler p faults (some ⟨some hostName, dhcpEnabled, ipv4Static⟩) s =
      (internalServerError, (configBmcHostnameSet faults hostName s).2) := by
  simp only [Settings.ethernetPatchHandler, ne_eq, h, not_false_eq_true, if_true]

lemma means_ethernet (mem : EthernetMem) (parsed : Option EthernetBody) :
    Means (ethernetPatchHandler p faults mem parsed s)
      (Settings.ethernetPatchHandler p faults (parsed.map EthernetBody.payload) s) := by
  cases parsed with
  | none => exact means_ret
  | some body =>
    obtain ⟨hostName, dhcpEnabled, ipv4Static⟩ := body
    cases hostName with
    | none => exact means_ethernetRest ⟨none, dhcpEnabled, ipv4Static⟩ s
    | some hostName =>
      rw [Option.map_some, EthernetBody.payload]
      apply means_read
      by_cases hret : (configBmcHostnameSet faults hostName s).1 = 0
      · rw [hostName_set hret]
        simp only [hret, ne_eq, not_true_eq_false, if_false]
        exact means_ethernetRest ⟨some hostName, dhcpEnabled, ipv4Static⟩ _
      · rw [hostName_failed hret]
        simp only [hret, ne_eq, not_false_eq_true, if_true]
        exact means_ret

variable {env : Environment} {prior : Prior} {bmc : Bmc}

lemma means_manager {cal : Calendar} {clockFaults : ClockFaults} {c : Clock} (mem : ManagerMem) (str : CString) :
    Means (managerPatchHandler cal clockFaults mem (some ⟨some str⟩) c) (dateTimeSet cal clockFaults c str) :=
  means_read (k := fun str => ret (dateTimeSet cal clockFaults c str)) means_ret

lemma means_manager_null {cal : Calendar} {clockFaults : ClockFaults} {c : Clock} {mem : ManagerMem}
    (h : mem.dateTime = .null) : Means (managerPatchHandler cal clockFaults mem (some ⟨none⟩) c) (0, c) := by
  have hptr : (mem.parse ⟨none⟩).dateTime = .null := h
  simp only [managerPatchHandler, hptr, Ptr.nonNull, Bool.false_eq_true, if_false]
  exact means_ret

lemma means_reset {hostFaults : HostFaults} {host : Host} (mem : ResetMem) (str : CString) :
    Means (systemResetPostHandler hostFaults mem (some ⟨some str⟩) host) (resetAction hostFaults host str) :=
  means_read (k := fun str => ret (resetAction hostFaults host str)) means_ret

lemma means_handle {req : Request} (h : req.Clean prior) :
    ∃ r, req.meant env bmc = some r ∧ Means (handle env prior bmc req) r := by
  cases req with
  | account parsed => exact ⟨_, rfl, (means_account prior.account parsed).map bmc.withConfig⟩
  | manager parsed =>
    cases parsed with
    | none => exact ⟨_, rfl, means_ret⟩
    | some body =>
      obtain ⟨dateTime⟩ := body
      cases dateTime with
      | none =>
        have hnull : prior.manager.dateTime = .null := h.resolve_left (not_not.mpr rfl)
        exact ⟨_, rfl, (means_manager_null hnull).map bmc.withClock⟩
      | some str => exact ⟨_, rfl, (means_manager prior.manager str).map bmc.withClock⟩
  | ethernet parsed => exact ⟨_, rfl, (means_ethernet prior.ethernet parsed).map bmc.withConfig⟩
  | networkProtocol parsed =>
    have hservers : ∀ body, parsed = some body → body.ntpServers ≠ some none := by
      rintro body rfl
      exact h
    obtain ⟨r, hr, hmeans⟩ : ∃ r,
        Settings.networkProtocolPatchHandler env.faults parsed bmc.config = some r ∧
          Means (networkProtocolPatchHandler env.faults prior.networkProtocol parsed bmc.config) r :=
      means_networkProtocol prior.networkProtocol parsed hservers
    exact ⟨r.map id bmc.withConfig, congrArg (Option.map _) hr, hmeans.map bmc.withConfig⟩
  | system parsed => exact ⟨_, rfl, (means_system prior.system parsed).map bmc.withConfig⟩
  | reset parsed =>
    cases parsed with
    | none => exact ⟨_, rfl, means_ret⟩
    | some body =>
      obtain ⟨resetType⟩ := body
      cases resetType with
      | none => exact absurd rfl h
      | some str => exact ⟨_, rfl, (means_reset prior.reset str).map bmc.withHost⟩

lemma not_onlyParsed_manager {cal : Calendar} {clockFaults : ClockFaults} {c : Clock} {mem : ManagerMem}
    (hnonNull : mem.dateTime ≠ .null) (hold : ∀ str, mem.dateTime ≠ .parsed str) :
    ¬ OnlyParsed (managerPatchHandler cal clockFaults mem (some ⟨none⟩) c) := by
  have hptr : (mem.parse ⟨none⟩).dateTime = mem.dateTime := rfl
  have hset : mem.dateTime.nonNull = true := by
    cases hmem : mem.dateTime with
    | null => exact absurd hmem hnonNull
    | leftover target => rfl
    | parsed str => rfl
  simp only [managerPatchHandler, hptr, hset, if_true]
  exact not_onlyParsed_read hold

theorem payload_pointers_iff (env : Environment) (prior : Prior) (bmc : Bmc) (req : Request)
    (hprior : ∀ str, prior.manager.dateTime ≠ .parsed str) :
    (OnlyParsed (handle env prior bmc req) ↔ req.Clean prior) ∧
      (req.Clean prior → (handle env prior bmc req).result = req.meant env bmc) := by
  constructor
  · constructor
    · intro honly
      cases req with
      | manager parsed =>
        rcases parsed with _ | body
        · trivial
        · obtain ⟨dateTime⟩ := body
          cases dateTime with
          | some str => exact .inl (by simp)
          | none =>
            by_contra hdirty
            have hnonNull : prior.manager.dateTime ≠ .null := fun hnull => hdirty (.inr hnull)
            exact not_onlyParsed_manager hnonNull hprior honly
      | networkProtocol parsed =>
        rcases parsed with _ | ⟨servers, enabled⟩
        · trivial
        · rintro (rfl : servers = some none)
          obtain ⟨str, hstr⟩ := honly .null (List.mem_singleton_self _)
          cases hstr
      | reset parsed =>
        rcases parsed with _ | body
        · trivial
        · obtain ⟨resetType⟩ := body
          rintro (rfl : resetType = none)
          obtain ⟨str, hstr⟩ := honly .null (List.mem_singleton_self _)
          cases hstr
      | account parsed => trivial
      | ethernet parsed => trivial
      | system parsed => trivial
    · intro hclean
      obtain ⟨r, -, hmeans⟩ : ∃ r, req.meant env bmc = some r ∧ Means (handle env prior bmc req) r :=
        means_handle hclean
      exact hmeans.used
  · intro hclean
    obtain ⟨r, hr, hmeans⟩ : ∃ r, req.meant env bmc = some r ∧ Means (handle env prior bmc req) r :=
      means_handle hclean
    rw [hmeans.result, hr]

end

def sampleEnvironment : Environment where
  platform := samplePlatform
  faults := .none
  calendar := gregorian
  clockFaults := ⟨true, 0, 0⟩
  hostFaults := ⟨fun _ => 0, true, fun _ => 0⟩

def sampleBmc : Bmc := ⟨sampleState, ⟨none, ⟨0, 0⟩⟩, ⟨⟨[false], false⟩, []⟩⟩

/-- Pointers to nothing, and anything in the other fields. -/
def garbage : Prior where
  account := ⟨.leftover none⟩
  manager := ⟨.leftover none⟩
  ethernet := ⟨.leftover none, 7, .leftover none, .leftover none, .leftover none, 9⟩
  networkProtocol := ⟨7, .leftover none, 9⟩
  system := ⟨.leftover none⟩
  reset := ⟨.leftover none⟩

def forceOff : Request := .reset (some ⟨some ⟨ascii "ForceOff", by decide⟩⟩)

theorem payload_pointers_forceOff :
    (OnlyParsed (handle sampleEnvironment garbage sampleBmc forceOff) ↔ forceOff.Clean garbage) ∧
      (forceOff.Clean garbage → (handle sampleEnvironment garbage sampleBmc forceOff).result =
        forceOff.meant sampleEnvironment sampleBmc) := by
  apply payload_pointers_iff
  intro str hstr
  cases hstr

/-- An empty object for the manager or the reset action, and an empty array of NTP servers. -/
theorem unparsed_pointers_read :
    ¬ OnlyParsed (handle sampleEnvironment garbage sampleBmc (.manager (some ⟨none⟩))) ∧
      ¬ OnlyParsed (handle sampleEnvironment garbage sampleBmc (.networkProtocol (some ⟨some none, none⟩))) ∧
      ¬ OnlyParsed (handle sampleEnvironment garbage sampleBmc (.reset (some ⟨none⟩))) := by
  refine ⟨fun honly => ?_, fun honly => ?_, fun honly => ?_⟩
  · obtain ⟨str, hstr⟩ := honly (.leftover none) (List.mem_singleton_self _)
    cases hstr
  · obtain ⟨str, hstr⟩ := honly .null (List.mem_singleton_self _)
    cases hstr
  · obtain ⟨str, hstr⟩ := honly .null (List.mem_singleton_self _)
    cases hstr

end WallaBMC.Settings.Payloads
