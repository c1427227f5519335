import WallaBMC.Config.Runs

/-! The PATCH handlers that change settings. Payloads hold what `json_obj_parse` stored: strings it did not
store are absent, and an empty address array leaves every string of its first element absent. A `Plan` is
the sequence of setter calls a payload leads to; `checked` says whether the handler looks at the result. -/

namespace WallaBMC.Settings

open Redfish Storage Config

structure AccountPayload where
  password : Option CString

structure Ipv4Addr where
  address : Option CString
  subnetMask : Option CString
  gateway : Option CString

/-- `dhcpEnabled` is absent while it is `0xff`, `ipv4Static` while the count is -1. -/
structure EthernetPayload where
  hostName : Option CString
  dhcpEnabled : Option Bool
  ipv4Static : Option Ipv4Addr

structure NetworkProtocolPayload where
  ntpServers : Option (Option CString)
  protocolEnabled : Option Bool

structure SystemPayload where
  powerRestorePolicy : Option CString

def badRequest : ℤ := 400

def internalServerError : ℤ := 500

variable (p : Platform) (faults : Faults)

def accountPatchHandler (parsed : Option AccountPayload) (s : State) : ℤ × State :=
  match parsed with
  | none => (badRequest, s)
  | some payload =>
    match payload.password with
    | some password => (0, (configBmcPasswordSet faults password s).2)
    | none => (0, s)

def ethernetStatic (addr : Ipv4Addr) (s : State) : ℤ × State :=
  let (ret, s) := configBmcDefaultIp4Set p faults addr.address s
  if ret ≠ 0 then (internalServerError, s)
  else
    let (ret, s) := configBmcDefaultIp4NmSet p faults addr.subnetMask s
    if ret ≠ 0 then (internalServerError, s)
    else
      let (ret, s) := configBmcDefaultIp4GwSet p faults addr.gateway s
      if ret ≠ 0 then (internalServerError, s) else (0, s)

def ethernetPatchHandler (parsed : Option EthernetPayload) (s : State) : ℤ × State :=
  match parsed with
  | none => (badRequest, s)
  | some payload =>
    let (ret, s) := match payload.hostName with
      | some hostName => configBmcHostnameSet faults hostName s
      | none => (0, s)
    if ret ≠ 0 then (internalServerError, s)
    else
      let s := match payload.dhcpEnabled with
        | some use => (configBmcUseDhcp4Set faults use s).2
        | none => s
      match payload.ipv4Static with
      | some addr => ethernetStatic p faults addr s
      | none => (0, s)

/-- No result where the handler copies from a null pointer. -/
def networkProtocolPatchHandler (parsed : Option NetworkProtocolPayload) (s : State) :
    Option (ℤ × State) :=
  let enable (payload : NetworkProtocolPayload) (s : State) : ℤ × State :=
    match payload.protocolEnabled with
    | some use => (0, (configBmcUseNtpSet faults use s).2)
    | none => (0, s)
  match parsed with
  | none => some (badRequest, s)
  | some payload =>
    match payload.ntpServers with
    | none => some (enable payload s)
    | some none => none
    | some (some server) =>
      let (ret, s) := configBmcNtpServerSet faults server s
      if ret ≠ 0 then some (internalServerError, s) else some (enable payload s)

def systemPatchHandler (parsed : Option SystemPayload) (s : State) : ℤ × State :=
  match parsed with
  | none => (badRequest, s)
  | some payload =>
    match payload.powerRestorePolicy with
    | none => (0, s)
    | some policy =>
      if policy.bytes = ascii "AlwaysOn" then
        let (ret, s) := configHostAutoPoweronSet faults true s
        if ret ≠ 0 then (internalServerError, s) else (0, s)
      else if policy.bytes = ascii "AlwaysOff" then
        let (ret, s) := configHostAutoPoweronSet faults false s
        if ret ≠ 0 then (internalServerError, s) else (0, s)
      else (badRequest, s)

inductive Patch
  | account (parsed : Option AccountPayload)
  | ethernet (parsed : Option EthernetPayload)
  | networkProtocol (parsed : Option NetworkProtocolPayload)
  | system (parsed : Option SystemPayload)

def Patch.run (s : State) : Patch → Option (ℤ × State)
  | account parsed => some (accountPatchHandler faults parsed s)
  | ethernet parsed => some (ethernetPatchHandler p faults parsed s)
  | networkProtocol parsed => networkProtocolPatchHandler faults parsed s
  | system parsed => some (systemPatchHandler faults parsed s)

structure Step where
  setter : SetterCall
  checked : Bool

inductive Plan
  | reject
  | nullPointer
  | steps (list : List Step)

def checked (c : SetterCall) : Step := ⟨c, true⟩

def unchecked (c : SetterCall) : Step := ⟨c, false⟩

def AccountPayload.steps (payload : AccountPayload) : List Step :=
  (payload.password.map (fun str => unchecked (.password str))).toList

def Ipv4Addr.steps (addr : Ipv4Addr) : List Step :=
  [checked (.ip4 addr.address), checked (.ip4Nm addr.subnetMask), checked (.ip4Gw addr.gateway)]

def EthernetPayload.steps (payload : EthernetPayload) : List Step :=
  (payload.hostName.map (fun str => checked (.hostname str))).toList ++
    ((payload.dhcpEnabled.map (fun use => unchecked (.useDhcp4 use))).toList ++
      ((payload.ipv4Static.map Ipv4Addr.steps).getD []))

def NetworkProtocolPayload.plan (payload : NetworkProtocolPayload) : Plan :=
  let enable := (payload.protocolEnabled.map (fun use => unchecked (.useNtp use))).toList
  match payload.ntpServers with
  | none => .steps enable
  | some none => .nullPointer
  | some (some server) => .steps (checked (.ntpServer server) :: enable)

def SystemPayload.plan (payload : SystemPayload) : Plan :=
  match payload.powerRestorePolicy with
  | none => .steps []
  | some policy =>
    if policy.bytes = ascii "AlwaysOn" then .steps [checked (.autoPoweron true)]
    else if policy.bytes = ascii "AlwaysOff" then .steps [checked (.autoPoweron false)]
    else .reject

def Patch.plan : Patch → Plan
  | account parsed => parsed.elim .reject (fun payload => .steps payload.steps)
  | ethernet parsed => parsed.elim .reject (fun payload => .steps payload.steps)
  | networkProtocol parsed => parsed.elim .reject NetworkProtocolPayload.plan
  | system parsed => parsed.elim .reject SystemPayload.plan

def runSteps (s : State) : List Step → ℤ × State
  | [] => (0, s)
  | step :: steps =>
    let (ret, s) := step.setter.run p faults s
    if step.checked = true ∧ ret ≠ 0 then (internalServerError, s) else runSteps s steps

def Plan.run (s : State) : Plan → Option (ℤ × State)
  | .reject => some (badRequest, s)
  | .nullPointer => none
  | .steps list => some (runSteps p faults s list)

def Plan.setters : Plan → List SetterCall
  | .reject | .nullPointer => []
  | .steps list => list.map Step.setter

/-- The setter calls of a payload. Those for the mask and the gateway that an address leaves out are among them. -/
def Patch.named (patch : Patch) : List SetterCall := patch.plan.setters

section

variable {p} {faults} {s : State} {c : SetterCall} {steps : List Step}

@[simp] lemma runSteps_nil : runSteps p faults s [] = (0, s) := rfl

lemma runSteps_cons (step : Step) :
    runSteps p faults s (step :: steps) =
      if step.checked = true ∧ (step.setter.run p faults s).1 ≠ 0 then
        (internalServerError, (step.setter.run p faults s).2)
      else runSteps p faults (step.setter.run p faults s).2 steps := rfl

@[simp] lemma runSteps_checked :
    runSteps p faults s (checked c :: steps) =
      if (c.run p faults s).1 ≠ 0 then (internalServerError, (c.run p faults s).2)
      else runSteps p faults (c.run p faults s).2 steps := by
  simp [runSteps, checked]

@[simp] lemma runSteps_unchecked :
    runSteps p faults s (unchecked c :: steps) = runSteps p faults (c.run p faults s).2 steps := by
  simp [runSteps, unchecked]

lemma ethernetStatic_eq (addr : Ipv4Addr) (s : State) :
    ethernetStatic p faults addr s = runSteps p faults s addr.steps := by
  simp only [Ipv4Addr.steps, runSteps_checked, runSteps_nil, ethernetStatic, SetterCall.run]
  rfl

lemma ethernetPatchHandler_eq (payload : EthernetPayload) (s : State) :
    ethernetPatchHandler p faults (some payload) s = runSteps p faults s payload.steps := by
  rcases payload with ⟨hostName, dhcpEnabled, ipv4Static⟩
  have hstatic : ∀ s, runSteps p faults s ((ipv4Static.map Ipv4Addr.steps).getD []) =
      match ipv4Static with
      | some addr => ethernetStatic p faults addr s
      | none => (0, s) := fun s => by
    cases ipv4Static with
    | none => rfl
    | some addr => exact (ethernetStatic_eq addr s).symm
  cases hostName <;> cases dhcpEnabled <;>
    simp [ethernetPatchHandler, EthernetPayload.steps, hstatic, SetterCall.run]

theorem patch_run (p : Platform) (faults : Faults) (s : State) (patch : Patch) :
    patch.run p faults s = patch.plan.run p faults s := by
  cases patch with
  | account parsed =>
    cases parsed with
    | none => rfl
    | some payload =>
      cases hpassword : payload.password <;>
        simp [Patch.run, accountPatchHandler, Patch.plan, Plan.run, AccountPayload.steps, hpassword,
          SetterCall.run]
  | ethernet parsed =>
    cases parsed with
    | none => rfl
    | some payload => exact congrArg some (ethernetPatchHandler_eq payload s)
  | networkProtocol parsed =>
    cases parsed with
    | none => rfl
    | some payload =>
      rcases hservers : payload.ntpServers with _ | _ | server <;>
        cases henabled : payload.protocolEnabled <;>
        simp only [Patch.run, networkProtocolPatchHandler, Patch.plan, Plan.run, NetworkProtocolPayload.plan,
          hservers, henabled, SetterCall.run, Option.elim_some, Option.map_none, Option.map_some,
          Option.toList_none, Option.toList_some, runSteps_checked, runSteps_unchecked, runSteps_nil]
      all_goals exact (apply_ite some _ _ _).symm
  | system parsed =>
    cases parsed with
    | none => rfl
    | some payload =>
      cases hpolicy : payload.powerRestorePolicy with
      | none => simp [Patch.run, systemPatchHandler, Patch.plan, Plan.run, SystemPayload.plan, hpolicy]
      | some policy =>
        simp only [Patch.run, systemPatchHandler, Patch.plan, SystemPayload.plan, hpolicy,
          Option.elim_some]
        by_cases hon : policy.bytes = ascii "AlwaysOn"
        · rw [if_pos hon, if_pos hon]
          have hsteps : runSteps p faults s [checked (.autoPoweron true)] = _ := runSteps_checked
          exact congrArg some hsteps.symm
        · rw [if_neg hon, if_neg hon]
          by_cases hoff : policy.bytes = ascii "AlwaysOff"
          · rw [if_pos hoff, if_pos hoff]
            have hsteps : runSteps p faults s [checked (.autoPoweron false)] = _ := runSteps_checked
            exact congrArg some hsteps.symm
          · rw [if_neg hoff, if_neg hoff]
            rfl

end

end WallaBMC.Settings
