import WallaBMC.Settings.Shown

/-! Saving the form of the web interface. `saveBmcConfig` sends what is not as the documents showed it when they were
last fetched, with a PATCH for each resource, and stops at the first that fails. Others may set settings meanwhile. -/

namespace WallaBMC.Web

open Redfish Storage Config Settings Documents Library Library.Text
open Payloads (EthernetBody)

structure StaticAddress where
  address : List Char
  subnetMask : List Char
  gateway : List Char
  deriving DecidableEq

structure NtpData where
  protocolEnabled : Bool
  ntpServers : List (List Char)

structure EthData where
  hostName : List Char
  dhcpEnabled : Option Bool
  ipv4StaticAddresses : List StaticAddress

structure Fetched where
  powerRestorePolicy : List Char
  ntp : Option NtpData
  ethData : Option EthData

/-- The elements `cfg-...`; two of them are a choice between true and false. -/
structure Form where
  password : List Char
  powerPolicy : List Char
  ntp : Bool
  ntpServer : List Char
  hostname : List Char
  dhcp : Bool
  staticIp : StaticAddress

def undefined : List Char := "undefined".toList

def refreshConfigData (fetched : Fetched) (form : Form) : Form :=
  let form := { form with password := [], powerPolicy := fetched.powerRestorePolicy }
  let form := match fetched.ntp with
    | some ntp => { form with ntp := ntp.protocolEnabled, ntpServer := ntp.ntpServers.headD undefined }
    | none => form
  match fetched.ethData with
  | some eth => { form with
      hostname := eth.hostName
      dhcp := eth.dhcpEnabled.getD false
      staticIp := eth.ipv4StaticAddresses.headD ⟨[], [], []⟩ }
  | none => form

/-- A string of the body as `json_obj_parse` stores it. -/
def jsonString (text : List Char) : CString := ⟨stringText text, zero_notMem_stringText text⟩

def StaticAddress.payload (addr : StaticAddress) : Ipv4Addr :=
  ⟨some (jsonString addr.address), some (jsonString addr.subnetMask), some (jsonString addr.gateway)⟩

section

variable (fetched : Fetched) (form : Form)

def payloadSys : SystemPayload :=
  ⟨if form.powerPolicy ≠ fetched.powerRestorePolicy then some (jsonString form.powerPolicy) else none⟩

def payloadNtp : NetworkProtocolPayload where
  ntpServers :=
    if form.ntpServer ≠ (fetched.ntp.elim [] NtpData.ntpServers).headD [] then some (some (jsonString form.ntpServer))
    else none
  protocolEnabled := if form.ntp ≠ fetched.ntp.elim false NtpData.protocolEnabled then some form.ntp else none

def payloadEth (eth : EthData) : EthernetBody where
  hostName := if form.hostname ≠ [] ∧ form.hostname ≠ eth.hostName then some (jsonString form.hostname) else none
  dhcpEnabled := if form.dhcp ≠ eth.dhcpEnabled.getD false then some form.dhcp else none
  ipv4Static :=
    if form.staticIp.address ≠ [] then
      if eth.ipv4StaticAddresses.head? ≠ some form.staticIp then some (some form.staticIp.payload) else none
    else if eth.ipv4StaticAddresses ≠ [] then some none
    else none

def patchSys : List Body :=
  let payload := payloadSys fetched form
  if payload.powerRestorePolicy.isSome then [.system (some payload)] else []

def patchNtp : List Body :=
  let payload := payloadNtp fetched form
  if payload.ntpServers.isSome || payload.protocolEnabled.isSome then [.networkProtocol (some payload)] else []

def patchEth : List Body :=
  fetched.ethData.elim [] fun eth =>
    let payload := payloadEth form eth
    if payload.hostName.isSome || payload.dhcpEnabled.isSome || payload.ipv4Static.isSome then
      [.ethernet (some payload)]
    else []

def patchPassword : List Body :=
  if form.password ≠ [] then [.account (some ⟨some (jsonString form.password)⟩)] else []

def saveBmcConfig : List Body :=
  patchSys fetched form ++ patchNtp fetched form ++ patchEth fetched form ++ patchPassword form

end

/-- `others` is what other clients and the shell set before the call. It may not get to its handler, the body may not be
parsed, and the answer may be lost. -/
structure Call where
  others : List (Faults × SetterCall)
  arrives : Bool
  parses : Bool
  faults : Faults
  answered : Bool

def unparsed : Body → Body
  | .account _ => .account none
  | .ethernet _ => .ethernet none
  | .networkProtocol _ => .networkProtocol none
  | .system _ => .system none

def Call.received (call : Call) (body : Body) : Body := if call.parses then body else unparsed body

section

variable (p : Platform)

def setAll (others : List (Faults × SetterCall)) (s : State) : State :=
  others.foldl (fun s e => (e.2.run p e.1 s).2) s

def redfishPatch (call : Call) (body : Body) (s : State) : Bool × State :=
  let s := setAll p call.others s
  if call.arrives then
    match (call.received body).patch.run p call.faults s with
    | some (status, s) => (decide (status = 0) && call.answered, s)
    | none => (false, s)
  else (false, s)

def redfishPatches : List Body → (ℕ → Call) → State → Bool × State
  | [], _, s => (true, s)
  | body :: bodies, calls, s =>
    let (ok, s) := redfishPatch p (calls 0) body s
    if ok then redfishPatches bodies (fun n => calls (n + 1)) s else (false, s)

end

def policySetter (policy : List Char) : Option SetterCall :=
  if stringText policy = ascii "AlwaysOn" then some (.autoPoweron true)
  else if stringText policy = ascii "AlwaysOff" then some (.autoPoweron false)
  else none

def staticEdit (form : Form) (eth : EthData) (member : StaticAddress → List Char) : Option (Option CString) :=
  if form.staticIp.address ≠ [] then
    if eth.ipv4StaticAddresses.head? ≠ some form.staticIp then some (some (jsonString (member form.staticIp))) else none
  else if eth.ipv4StaticAddresses ≠ [] then some none
  else none

section

variable (fetched : Fetched) (form : Form)

def edit : ConfigId → Option SetterCall
  | .version => none
  | .bmcAdminPassword => if form.password ≠ [] then some (.password (jsonString form.password)) else none
  | .hostAutoPoweron =>
    if form.powerPolicy ≠ fetched.powerRestorePolicy then policySetter form.powerPolicy else none
  | .bmcUseNtp => if form.ntp ≠ fetched.ntp.elim false NtpData.protocolEnabled then some (.useNtp form.ntp) else none
  | .bmcNtpServer =>
    if form.ntpServer ≠ (fetched.ntp.elim [] NtpData.ntpServers).headD [] then
      some (.ntpServer (jsonString form.ntpServer))
    else none
  | .bmcHostname => fetched.ethData.bind fun eth =>
    if form.hostname ≠ [] ∧ form.hostname ≠ eth.hostName then some (.hostname (jsonString form.hostname)) else none
  | .bmcUseDhcp4 => fetched.ethData.bind fun eth =>
    if form.dhcp ≠ eth.dhcpEnabled.getD false then some (.useDhcp4 form.dhcp) else none
  | .bmcDefaultIp4 => fetched.ethData.bind fun eth => (staticEdit form eth StaticAddress.address).map .ip4
  | .bmcDefaultIp4Nm => fetched.ethData.bind fun eth => (staticEdit form eth StaticAddress.subnetMask).map .ip4Nm
  | .bmcDefaultIp4Gw => fetched.ethData.bind fun eth => (staticEdit form eth StaticAddress.gateway).map .ip4Gw

def sent : List ConfigId :=
  [.hostAutoPoweron, .bmcNtpServer, .bmcUseNtp, .bmcHostname, .bmcUseDhcp4, .bmcDefaultIp4, .bmcDefaultIp4Nm,
    .bmcDefaultIp4Gw, .bmcAdminPassword]

end

/-- The field is as it was, in memory and in the store, and for the hostname the running one as well. -/
structure Unchanged (id : ConfigId) (s t : State) : Prop where
  cell : t.cell id = s.cell id
  hostname : id = .bmcHostname → t.net.hostname = s.net.hostname

structure Alike (id : ConfigId) (a b : Shown) : Prop where
  value : a.value id = b.value id
  hostname : id = .bmcHostname → a.hostname = b.hostname

variable {p : Platform} {faults : Faults} {s t u : State} {c : SetterCall} {id : ConfigId} {fetched : Fetched}
  {form : Form} {a b : Shown} {body : Body} {bodies : List Body} {calls : ℕ → Call}

section Edits

lemma policySetter_id {policy : List Char} (h : policySetter policy = some c) : c.id = .hostAutoPoweron := by
  rw [policySetter] at h
  split_ifs at h
  · cases h
    rfl
  · cases h
    rfl

lemma edit_id (h : edit fetched form id = some c) : c.id = id := by
  cases id with
  | version => cases h
  | hostAutoPoweron => exact policySetter_id (Option.ite_none_right_eq_some.mp h).2
  | bmcAdminPassword | bmcUseNtp | bmcNtpServer =>
    rw [← (Option.ite_none_right_eq_some.mp h).2 |> Option.some.inj]
    rfl
  | bmcHostname | bmcUseDhcp4 =>
    obtain ⟨eth, -, hedit⟩ := Option.bind_eq_some_iff.mp h
    rw [← (Option.ite_none_right_eq_some.mp hedit).2 |> Option.some.inj]
    rfl
  | bmcDefaultIp4 | bmcDefaultIp4Nm | bmcDefaultIp4Gw =>
    obtain ⟨eth, -, hedit⟩ := Option.bind_eq_some_iff.mp h
    obtain ⟨str, -, rfl⟩ := Option.map_eq_some_iff.mp hedit
    rfl

lemma named_patchSys :
    (patchSys fetched form).flatMap (fun body => body.patch.named) = (edit fetched form .hostAutoPoweron).toList := by
  by_cases hpolicy : form.powerPolicy ≠ fetched.powerRestorePolicy
  · simp only [patchSys, payloadSys, edit, if_pos hpolicy, policySetter, Option.isSome_some, if_true,
      List.flatMap_cons, List.flatMap_nil, List.append_nil, Patch.named, Body.patch, Patch.plan, Option.elim_some,
      SystemPayload.plan, jsonString]
    split_ifs <;> rfl
  · simp only [patchSys, payloadSys, edit, if_neg hpolicy]
    rfl

lemma named_unless_empty {sends : Bool} (h : sends = false → body.patch.named = []) :
    (if sends = true then [body] else []).flatMap (fun body => body.patch.named) = body.patch.named := by
  cases sends with
  | false => exact (h rfl).symm
  | true => exact List.append_nil _

lemma named_patchNtp :
    (patchNtp fetched form).flatMap (fun body => body.patch.named) =
      (edit fetched form .bmcNtpServer).toList ++ (edit fetched form .bmcUseNtp).toList := by
  rw [patchNtp, named_unless_empty]
  · simp only [payloadNtp, edit]
    split_ifs <;> rfl
  · intro hempty
    simp only [Bool.or_eq_false_iff, Option.isSome_eq_false_iff, Option.isNone_iff_eq_none] at hempty
    have hpayload : payloadNtp fetched form = ⟨none, none⟩ := by rw [← hempty.1, ← hempty.2]
    rw [hpayload]
    rfl

lemma named_payloadEth (payload : EthernetBody) :
    (Body.ethernet (some payload)).patch.named =
      (payload.hostName.map .hostname).toList ++ ((payload.dhcpEnabled.map .useDhcp4).toList ++
        (payload.ipv4Static.elim [] fun addr => (addr.getD ⟨none, none, none⟩).steps.map Step.setter)) := by
  obtain ⟨_ | _, _ | _, _ | _⟩ := payload <;> rfl

lemma staticEdit_steps (eth : EthData) :
    ((payloadEth form eth).ipv4Static.elim [] fun addr => (addr.getD ⟨none, none, none⟩).steps.map Step.setter) =
      ((staticEdit form eth StaticAddress.address).map SetterCall.ip4).toList ++
        (((staticEdit form eth StaticAddress.subnetMask).map SetterCall.ip4Nm).toList ++
          ((staticEdit form eth StaticAddress.gateway).map SetterCall.ip4Gw).toList) := by
  simp only [payloadEth, staticEdit]
  split_ifs <;> rfl

lemma named_patchEth :
    (patchEth fetched form).flatMap (fun body => body.patch.named) =
      [ConfigId.bmcHostname, .bmcUseDhcp4, .bmcDefaultIp4, .bmcDefaultIp4Nm, .bmcDefaultIp4Gw].flatMap
        fun id => (edit fetched form id).toList := by
  cases heth : fetched.ethData with
  | none => simp [patchEth, edit, heth]
  | some eth =>
    simp only [patchEth, heth, Option.elim_some]
    rw [named_unless_empty]
    · simp only [named_payloadEth, List.flatMap_cons, List.flatMap_nil, List.append_nil, edit, heth,
        Option.bind_some, payloadEth]
      congr 1
      · split_ifs <;> rfl
      · congr 1
        · split_ifs <;> rfl
        · exact staticEdit_steps eth
    · intro hempty
      simp only [Bool.or_eq_false_iff, Option.isSome_eq_false_iff, Option.isNone_iff_eq_none] at hempty
      rw [named_payloadEth, hempty.1.1, hempty.1.2, hempty.2]
      rfl

lemma named_patchPassword (fetched : Fetched) :
    (patchPassword form).flatMap (fun body => body.patch.named) =
      (edit fetched form .bmcAdminPassword).toList := by
  simp only [patchPassword, edit]
  split_ifs <;> rfl

lemma named_saveBmcConfig :
    (saveBmcConfig fetched form).flatMap (fun body => body.patch.named) =
      sent.flatMap fun id => (edit fetched form id).toList := by
  simp only [saveBmcConfig, List.flatMap_append, named_patchSys, named_patchNtp, named_patchEth,
    named_patchPassword fetched, sent, List.flatMap_cons, List.flatMap_nil, List.append_nil,
    List.append_assoc]

lemma edits_of (id : ConfigId) :
    (sent.flatMap fun id => (edit fetched form id).toList).filter (fun c => c.id = id) =
      (edit fetched form id).toList := by
  have hown : ∀ other, (edit fetched form other).toList.filter (fun c => c.id = id) =
      if other = id then (edit fetched form other).toList else [] := by
    intro other
    cases hedit : edit fetched form other with
    | none => split_ifs <;> rfl
    | some c => simp only [Option.toList_some, List.filter_cons, edit_id hedit, List.filter_nil, decide_eq_true_eq]
  rw [List.filter_flatMap]
  simp only [hown]
  cases id <;> simp [sent, edit]

end Edits

section Frame

lemma Unchanged.refl (id : ConfigId) (s : State) : Unchanged id s s := ⟨rfl, fun _ => rfl⟩

lemma Unchanged.trans (h : Unchanged id s t) (h' : Unchanged id t u) : Unchanged id s u :=
  ⟨h'.cell.trans h.cell, fun hid => (h'.hostname hid).trans (h.hostname hid)⟩

lemma unchanged_setter (h : c.id ≠ id) : Unchanged id s (c.run p faults s).2 where
  cell := (setter_effect p faults s c).cell (Ne.symm h)
  hostname hid := hostname_setter (hid ▸ h)

lemma unchanged_setAll {others : List (Faults × SetterCall)} (h : ∀ e ∈ others, e.2.id ≠ id) :
    Unchanged id s (setAll p others s) := by
  induction others generalizing s with
  | nil => exact Unchanged.refl id s
  | cons e others ih =>
    obtain ⟨hfirst, hrest⟩ := List.forall_mem_cons.mp h
    exact (unchanged_setter hfirst).trans (ih hrest)

lemma unchanged_runSteps {steps : List Step} (h : ∀ c ∈ steps.map Step.setter, c.id ≠ id) :
    Unchanged id s (runSteps p faults s steps).2 := by
  induction steps generalizing s with
  | nil => exact Unchanged.refl id s
  | cons step steps ih =>
    obtain ⟨hfirst, hrest⟩ := List.forall_mem_cons.mp h
    rw [runSteps_cons]
    split_ifs
    · exact unchanged_setter hfirst
    · exact (unchanged_setter hfirst).trans (ih hrest)

lemma unchanged_patch {patch : Patch} {status : ℤ} (h : ∀ c ∈ patch.named, c.id ≠ id)
    (hrun : patch.run p faults s = some (status, t)) : Unchanged id s t := by
  rw [patch_run] at hrun
  rw [Patch.named] at h
  cases hplan : patch.plan with
  | reject =>
    rw [hplan] at hrun
    cases hrun
    exact Unchanged.refl id s
  | nullPointer =>
    rw [hplan] at hrun
    cases hrun
  | steps list =>
    rw [hplan] at hrun h
    have hsteps : Unchanged id s (runSteps p faults s list).2 := unchanged_runSteps h
    rwa [Option.some.inj hrun] at hsteps

lemma named_unparsed (body : Body) : (unparsed body).patch.named = [] := by cases body <;> rfl

lemma named_received (call : Call) (h : ∀ c ∈ body.patch.named, c.id ≠ id) :
    ∀ c ∈ (call.received body).patch.named, c.id ≠ id := by
  rw [Call.received]
  split_ifs
  · exact h
  · rw [named_unparsed]
    exact fun c hc => by cases hc

lemma unchanged_redfishPatch {call : Call} (hothers : ∀ e ∈ call.others, e.2.id ≠ id)
    (h : ∀ c ∈ body.patch.named, c.id ≠ id) : Unchanged id s (redfishPatch p call body s).2 := by
  have hbefore : Unchanged id s (setAll p call.others s) := unchanged_setAll hothers
  have hnamed := named_received call h
  rw [redfishPatch]
  generalize setAll p call.others s = s₁ at hbefore
  cases call.arrives with
  | false => exact hbefore
  | true =>
    cases hrun : (call.received body).patch.run p call.faults s₁ with
    | none => simpa only [hrun, if_true] using hbefore
    | some out => simpa only [hrun, if_true] using hbefore.trans (unchanged_patch hnamed hrun)

lemma unchanged_redfishPatches (hothers : ∀ n, ∀ e ∈ (calls n).others, e.2.id ≠ id)
    (h : ∀ c ∈ bodies.flatMap (fun body => body.patch.named), c.id ≠ id) :
    Unchanged id s (redfishPatches p bodies calls s).2 := by
  induction bodies generalizing calls s with
  | nil => exact Unchanged.refl id s
  | cons body bodies ih =>
    obtain ⟨hbody, hbodies⟩ := List.forall_mem_append.mp h
    have hfirst : Unchanged id s (redfishPatch p (calls 0) body s).2 := unchanged_redfishPatch (hothers 0) hbody
    rw [redfishPatches]
    dsimp only
    split_ifs
    · exact hfirst.trans (ih (fun n => hothers (n + 1)) hbodies)
    · exact hfirst

end Frame

section Assigned

lemma Alike.refl (id : ConfigId) (a : Shown) : Alike id a a := ⟨rfl, fun _ => rfl⟩

lemma Alike.trans {d : Shown} (h : Alike id a b) (h' : Alike id b d) : Alike id a d :=
  ⟨h.value.trans h'.value, fun hid => (h.hostname hid).trans (h'.hostname hid)⟩

lemma Unchanged.alike (h : Unchanged id s t) : Alike id (shown t) (shown s) where
  value := congrArg (fun cell : Cell => id.image cell.mem) h.cell
  hostname hid := congrArg CString.bytes (h.hostname hid)

lemma Alike.assign (h : Alike id a b) (c : SetterCall) : Alike id (a.assign p c) (b.assign p c) := by
  rw [Shown.assign, Shown.assign]
  cases taken p c with
  | none => exact h
  | some value =>
    refine ⟨?_, fun hid => ?_⟩
    · dsimp only
      by_cases hown : id = c.id
      · rw [hown, Function.update_self, Function.update_self]
      · rw [Function.update_of_ne hown, Function.update_of_ne hown]
        exact h.value
    · dsimp only
      rw [h.hostname hid]

lemma alike_assign (h : c.id ≠ id) : Alike id (a.assign p c) a := by
  rw [Shown.assign]
  cases taken p c with
  | none => exact Alike.refl id a
  | some value =>
    refine ⟨Function.update_of_ne (Ne.symm h) .., fun hid => if_neg ?_⟩
    rw [← hid]
    exact h

lemma Alike.foldl (h : Alike id a b) (cs : List SetterCall) :
    Alike id (cs.foldl (Shown.assign p) a) (cs.foldl (Shown.assign p) b) := by
  induction cs generalizing a b with
  | nil => exact h
  | cons c cs ih => exact ih (h.assign c)

lemma alike_filter (cs : List SetterCall) (a : Shown) :
    Alike id (cs.foldl (Shown.assign p) a) ((cs.filter fun c => c.id = id).foldl (Shown.assign p) a) := by
  induction cs generalizing a with
  | nil => exact Alike.refl id a
  | cons c cs ih =>
    by_cases hown : c.id = id
    · rw [List.filter_cons_of_pos (by simpa using hown)]
      exact ih (a.assign p c)
    · rw [List.filter_cons_of_neg (by simpa using hown)]
      exact ((alike_assign hown).foldl cs).trans (ih a)

lemma received_parsed {call : Call} (h : (call.received body).patch.run p faults s = some (0, t)) :
    call.received body = body := by
  rw [Call.received] at h ⊢
  split_ifs at h ⊢
  · rfl
  · cases body <;> cases h

lemma redfishPatch_ok {call : Call} (hok : (redfishPatch p call body s).1 = true) :
    shown (redfishPatch p call body s).2 =
      body.patch.named.foldl (Shown.assign p) (shown (setAll p call.others s)) := by
  rw [redfishPatch] at hok ⊢
  generalize setAll p call.others s = s₁ at hok ⊢
  cases harrives : call.arrives with
  | false =>
    rw [harrives] at hok
    cases hok
  | true =>
    rw [harrives] at hok
    cases hrun : (call.received body).patch.run p call.faults s₁ with
    | none =>
      simp only [hrun] at hok
      cases hok
    | some out =>
      obtain ⟨status, t⟩ := out
      simp only [hrun, if_true, Bool.and_eq_true, decide_eq_true_eq] at hok ⊢
      obtain ⟨rfl, -⟩ := hok
      rw [received_parsed hrun] at hrun
      exact patch_shown hrun

lemma alike_redfishPatches (hothers : ∀ n, ∀ e ∈ (calls n).others, e.2.id ≠ id)
    (hok : (redfishPatches p bodies calls s).1 = true) :
    Alike id (shown (redfishPatches p bodies calls s).2)
      ((bodies.flatMap fun body => body.patch.named).foldl (Shown.assign p) (shown s)) := by
  induction bodies generalizing calls s with
  | nil => exact Alike.refl id _
  | cons body bodies ih =>
    have hbefore : Unchanged id s (setAll p (calls 0).others s) := unchanged_setAll (hothers 0)
    rw [redfishPatches] at hok ⊢
    dsimp only at hok ⊢
    split_ifs at hok ⊢ with hfirst
    have hassign := redfishPatch_ok hfirst
    rw [List.flatMap_cons, List.foldl_append]
    apply (ih (fun n => hothers (n + 1)) hok).trans
    rw [hassign]
    exact (hbefore.alike.foldl _).foldl _

end Assigned

lemma alike_save (hothers : ∀ n, ∀ e ∈ (calls n).others, e.2.id ≠ id)
    (hok : (redfishPatches p (saveBmcConfig fetched form) calls s).1 = true) :
    Alike id (shown (redfishPatches p (saveBmcConfig fetched form) calls s).2)
      ((edit fetched form id).elim (shown s) ((shown s).assign p)) := by
  have halike := alike_redfishPatches hothers hok
  rw [named_saveBmcConfig] at halike
  have hown := halike.trans (alike_filter _ (shown s))
  rw [edits_of id] at hown
  cases hedit : edit fetched form id with
  | none =>
    rw [hedit] at hown
    exact hown
  | some c =>
    rw [hedit] at hown
    exact hown

/-- Whatever happens to the calls and whatever others set, a setting that was not edited stays, and one that was
edited gets its value if no call fails. -/
theorem save_merges (p : Platform) (fetched : Fetched) (form : Form) (calls : ℕ → Call) (s : State) (id : ConfigId)
    (hothers : ∀ n, ∀ e ∈ (calls n).others, e.2.id ≠ id) :
    (edit fetched form id = none → Unchanged id s (redfishPatches p (saveBmcConfig fetched form) calls s).2) ∧
      ((redfishPatches p (saveBmcConfig fetched form) calls s).1 = true →
        Alike id (shown (redfishPatches p (saveBmcConfig fetched form) calls s).2)
          ((edit fetched form id).elim (shown s) ((shown s).assign p))) := by
  refine ⟨fun hnone => ?_, alike_save hothers⟩
  apply unchanged_redfishPatches hothers
  rw [named_saveBmcConfig]
  intro c hc hid
  have hmem : c ∈ (sent.flatMap fun id => (edit fetched form id).toList).filter (fun c => c.id = id) :=
    List.mem_filter.mpr ⟨hc, decide_eq_true hid⟩
  rw [edits_of id, hnone] at hmem
  cases hmem

def refreshed : Fetched where
  powerRestorePolicy := "AlwaysOff".toList
  ntp := some ⟨true, ["pool.ntp.org".toList]⟩
  ethData := some ⟨"wallabmc".toList, some true, [⟨"10.0.0.7".toList, "0.0.0.0".toList, "0.0.0.0".toList⟩]⟩

def filledIn : Form where
  password := []
  powerPolicy := "AlwaysOn".toList
  ntp := true
  ntpServer := "pool.ntp.org".toList
  hostname := "wally".toList
  dhcp := false
  staticIp := ⟨"10.0.0.8".toList, "255.255.255.0".toList, "10.0.0.1".toList⟩

def callAfter (others : List (Faults × SetterCall)) : Call := ⟨others, true, true, .none, true⟩

theorem save_merges_beside :
    let out := redfishPatches quadPlatform (saveBmcConfig refreshed filledIn)
      (fun _ => callAfter [(.none, .ntpServer sampleName)]) addressed
    (edit refreshed filledIn .bmcHostname = none → Unchanged .bmcHostname addressed out.2) ∧
      (out.1 = true → Alike .bmcHostname (shown out.2)
        ((edit refreshed filledIn .bmcHostname).elim (shown addressed) ((shown addressed).assign quadPlatform))) := by
  apply save_merges
  intro n e he
  rw [callAfter, List.mem_singleton] at he
  rw [he]
  exact ConfigId.noConfusion

section Refreshed

def Reads (text : List Char) (bytes : List UInt8) : Prop := utf8 text = bytes ∧ ∀ c ∈ text, 0x20 ≤ c.toNat

structure ReadsAddress (addr : StaticAddress) (shownAddr : RedfishIpv4Addr) : Prop where
  address : Reads addr.address shownAddr.address
  subnetMask : Reads addr.subnetMask shownAddr.subnetMask
  gateway : Reads addr.gateway shownAddr.gateway

structure Fetches (s : State) (unicast : List NetIfAddr) (fetched : Fetched) : Prop where
  powerRestorePolicy : fetched.powerRestorePolicy = (Documents.powerRestorePolicy s.data).toList
  ntp : ∃ ntpServers, fetched.ntp = some ⟨(networkProtocol s.data).protocolEnabled, ntpServers⟩ ∧
    List.Forall₂ Reads ntpServers (networkProtocol s.data).ntpServers
  ethData : ∃ hostName ipv4StaticAddresses,
    fetched.ethData = some ⟨hostName, some (ethernetInterface s unicast).dhcpEnabled, ipv4StaticAddresses⟩ ∧
      Reads hostName (ethernetInterface s unicast).hostName ∧
        List.Forall₂ ReadsAddress ipv4StaticAddresses (ethernetInterface s unicast).ipv4StaticAddresses.toList

def Writes (text : List Char) (address : Ip4) : Prop := (∀ c ∈ text, Verbatim c) ∧ utf8 text = netAddrNtop address

/-- What was edited is stored as it is written. -/
structure Plain (fetched : Fetched) (form : Form) : Prop where
  powerPolicy : form.powerPolicy = "AlwaysOff".toList ∨ form.powerPolicy = "AlwaysOn".toList
  ntpServer : edit fetched form .bmcNtpServer ≠ none →
    (∀ c ∈ form.ntpServer, Verbatim c) ∧ (utf8 form.ntpServer).length ≤ ConfigId.bmcNtpServer.limit
  hostname : edit fetched form .bmcHostname ≠ none → ∀ c ∈ form.hostname, Verbatim c
  staticIp : edit fetched form .bmcDefaultIp4 ≠ none → form.staticIp.address ≠ [] →
    ∃ address subnetMask gateway, address ≠ .any ∧ Writes form.staticIp.address address ∧
      Writes form.staticIp.subnetMask subnetMask ∧ Writes form.staticIp.gateway gateway

/-- An empty password or hostname leaves them alone, and without an address the mask and the gateway are gone. -/
def Form.settled (fetched : Fetched) (form : Form) : Form :=
  { form with
    password := []
    hostname := if form.hostname = [] then fetched.ethData.elim [] EthData.hostName else form.hostname
    staticIp := if form.staticIp.address = [] then ⟨[], [], []⟩ else form.staticIp }

variable {unicast : List NetIfAddr}

lemma value_assign {value : List UInt8} (htaken : taken p c = some value) :
    (a.assign p c).value c.id = value.take c.id.limit := by
  rw [Shown.assign, htaken]
  exact Function.update_self ..

lemma flag_saved {use : Bool} (hid : c.id = id) (htaken : taken p c = some (flagBytes use)) (hlimit : id.limit = 1)
    (h : Alike id b ((if use ≠ a.flag id then some c else none).elim a (a.assign p))) : b.flag id = use := by
  subst hid
  split_ifs at h with hedited
  · have hvalue := h.value.trans (value_assign htaken)
    have htake : (flagBytes use).take 1 = flagBytes use := rfl
    rw [hlimit, htake] at hvalue
    rw [Shown.flag, hvalue]
    exact flag_flagBytes use
  · rw [Shown.flag, h.value]
    exact (not_not.mp hedited).symm

lemma reads_verbatim {text : List Char} (h : ∀ c ∈ text, Verbatim c) : Reads text (stringText text) :=
  ⟨(stringText_verbatim h).symm, fun c hc => (h c hc).1⟩

def Saved (p : Platform) (fetched : Fetched) (form : Form) (s t : State) : Prop :=
  ∀ id, Alike id (shown t) ((edit fetched form id).elim (shown s) ((shown s).assign p))

def policyText (use : Bool) : List Char := (if use then "AlwaysOn" else "AlwaysOff").toList

lemma policySetter_text (use : Bool) : policySetter (policyText use) = some (.autoPoweron use) := by
  cases use <;> decide

lemma policyText_injective : Function.Injective policyText := by
  intro use use' h
  cases use <;> cases use' <;> first | rfl | exact absurd h (by decide)

lemma policy_saved (hsaved : Saved p fetched form s t) (hfetched : Fetches s unicast fetched)
    (hplain : Plain fetched form) : form.powerPolicy = (Documents.powerRestorePolicy t.data).toList := by
  obtain ⟨use, huse⟩ : ∃ use, form.powerPolicy = policyText use :=
    hplain.powerPolicy.elim (fun h => ⟨false, h⟩) (fun h => ⟨true, h⟩)
  have hpolicy := hsaved .hostAutoPoweron
  have hold : fetched.powerRestorePolicy = policyText ((shown s).flag .hostAutoPoweron) := hfetched.powerRestorePolicy
  simp only [edit, huse, hold, policyText_injective.ne_iff, policySetter_text] at hpolicy
  have hflag := flag_saved (p := p) (c := .autoPoweron use) rfl rfl rfl hpolicy
  rw [huse, ← hflag]
  rfl

lemma ntp_saved {ntpServers : List (List Char)} (hsaved : Saved p fetched form s t)
    (hntp : fetched.ntp = some ⟨(networkProtocol s.data).protocolEnabled, ntpServers⟩) :
    form.ntp = (networkProtocol t.data).protocolEnabled := by
  have hflag := hsaved .bmcUseNtp
  have hold : (networkProtocol s.data).protocolEnabled = (shown s).flag .bmcUseNtp := rfl
  simp only [edit, hntp, Option.elim_some, hold] at hflag
  exact (flag_saved (c := .useNtp form.ntp) rfl rfl rfl hflag).symm

lemma ntpServer_saved {ntpServers : List (List Char)} (hsaved : Saved p fetched form s t)
    (hplain : Plain fetched form)
    (hntp : fetched.ntp = some ⟨(networkProtocol s.data).protocolEnabled, ntpServers⟩)
    (hreads : List.Forall₂ Reads ntpServers (networkProtocol s.data).ntpServers) :
    Reads form.ntpServer (t.data.image .bmcNtpServer) := by
  obtain ⟨server, _, hserver, hnil, rfl⟩ := List.forall₂_cons_right_iff.mp hreads
  rw [List.forall₂_nil_right_iff] at hnil
  subst hnil
  have hvalue := (hsaved .bmcNtpServer).value
  have htext := hplain.ntpServer
  simp only [edit, hntp, Option.elim_some, List.headD_cons] at hvalue htext
  by_cases hedited : form.ntpServer ≠ server
  · rw [if_pos hedited] at hvalue htext
    obtain ⟨hverbatim, hfits⟩ := htext (Option.some_ne_none _)
    have hassign : ((shown s).assign p (.ntpServer (jsonString form.ntpServer))).value .bmcNtpServer =
        (stringText form.ntpServer).take ConfigId.bmcNtpServer.limit :=
      value_assign (c := .ntpServer (jsonString form.ntpServer)) rfl
    have htake : (stringText form.ntpServer).take ConfigId.bmcNtpServer.limit = stringText form.ntpServer := by
      apply List.take_of_length_le
      rwa [stringText_verbatim hverbatim]
    have hstored : t.data.image .bmcNtpServer = stringText form.ntpServer := hvalue.trans (hassign.trans htake)
    rw [hstored]
    exact reads_verbatim hverbatim
  · rw [if_neg hedited] at hvalue
    have hkept : t.data.image .bmcNtpServer = s.data.image .bmcNtpServer := hvalue
    rw [not_not.mp hedited, hkept]
    exact hserver

lemma hostname_saved {eth : EthData} (hsaved : Saved p fetched form s t) (hplain : Plain fetched form)
    (heth : fetched.ethData = some eth) (hreads : Reads eth.hostName (shown s).hostname) :
    Reads (form.settled fetched).hostname (shown t).hostname := by
  have hname := (hsaved .bmcHostname).hostname rfl
  have htext := hplain.hostname
  simp only [edit, heth, Option.bind_some] at hname htext
  simp only [Form.settled, heth, Option.elim_some]
  by_cases hempty : form.hostname = []
  · rw [if_neg (fun h => h.1 hempty)] at hname
    rw [if_pos hempty, hname]
    exact hreads
  · rw [if_neg hempty]
    by_cases hsame : form.hostname = eth.hostName
    · rw [if_neg (fun h => h.2 hsame)] at hname
      rw [hname, hsame]
      exact hreads
    · rw [if_pos ⟨hempty, hsame⟩] at hname htext
      have hassign : (shown t).hostname = stringText form.hostname := hname
      rw [hassign]
      exact reads_verbatim (htext (Option.some_ne_none _))

lemma dhcp_saved {eth : EthData} (hsaved : Saved p fetched form s t) (heth : fetched.ethData = some eth)
    (hdhcp : eth.dhcpEnabled = some ((shown s).flag .bmcUseDhcp4)) : (shown t).flag .bmcUseDhcp4 = form.dhcp := by
  have hflag := hsaved .bmcUseDhcp4
  simp only [edit, heth, Option.bind_some, hdhcp, Option.getD_some] at hflag
  exact flag_saved (c := .useDhcp4 form.dhcp) rfl rfl rfl hflag

lemma static_congr (hip : a.value .bmcDefaultIp4 = b.value .bmcDefaultIp4)
    (hnm : a.value .bmcDefaultIp4Nm = b.value .bmcDefaultIp4Nm)
    (hgw : a.value .bmcDefaultIp4Gw = b.value .bmcDefaultIp4Gw) : a.ipv4StaticAddresses = b.ipv4StaticAddresses := by
  rw [Shown.ipv4StaticAddresses, Shown.ipv4StaticAddresses, hip, hnm, hgw]

lemma ip4Stoa_writes {text : List Char} {address : Ip4} (hpton : ReadsNtop p) (h : Writes text address) :
    ip4Stoa p (some (jsonString text)) = some address :=
  hpton _ _ ((stringText_verbatim h.1).trans h.2)

lemma reads_writes {text : List Char} {address : Ip4} (h : Writes text address) : Reads text (netAddrNtop address) :=
  ⟨h.2, fun c hc => (h.1 c hc).1⟩

lemma value_address {address : Ip4} (hlimit : c.id.limit = 4) (htaken : taken p c = some address.bytes)
    (hvalue : b.value c.id = (a.assign p c).value c.id) : b.value c.id = address.bytes := by
  rw [hvalue, value_assign htaken, hlimit, take_address]

lemma reads_same {addrs : List StaticAddress} {addr : StaticAddress} {old : Option RedfishIpv4Addr}
    (hreads : List.Forall₂ ReadsAddress addrs old.toList) (hsame : addrs.head? = some addr) :
    List.Forall₂ ReadsAddress [addr] old.toList := by
  cases old with
  | none =>
    rw [List.forall₂_nil_right_iff.mp hreads] at hsame
    cases hsame
  | some old =>
    obtain ⟨first, _, hfirst, hnil, rfl⟩ := List.forall₂_cons_right_iff.mp hreads
    obtain rfl := Option.some.inj hsame
    exact .cons hfirst .nil

lemma static_saved {eth : EthData} (hpton : ReadsNtop p) (hsaved : Saved p fetched form s t)
    (hplain : Plain fetched form) (heth : fetched.ethData = some eth)
    (hreads : List.Forall₂ ReadsAddress eth.ipv4StaticAddresses (shown s).ipv4StaticAddresses.toList) :
    List.Forall₂ ReadsAddress (if form.staticIp.address = [] then [] else [form.staticIp])
      (shown t).ipv4StaticAddresses.toList := by
  have hip := (hsaved .bmcDefaultIp4).value
  have hnm := (hsaved .bmcDefaultIp4Nm).value
  have hgw := (hsaved .bmcDefaultIp4Gw).value
  have htext := hplain.staticIp
  simp only [edit, heth, Option.bind_some, staticEdit] at hip hnm hgw htext
  by_cases hempty : form.staticIp.address = []
  · rw [if_pos hempty]
    simp only [hempty, ne_eq, not_true_eq_false, if_false] at hip hnm hgw
    by_cases hnone : eth.ipv4StaticAddresses = []
    · simp only [hnone, not_true_eq_false, if_false, Option.map_none, Option.elim_none] at hip hnm hgw
      rw [static_congr hip hnm hgw, ← hnone]
      exact hreads
    · simp only [hnone, not_false_eq_true, if_true, Option.map_some, Option.elim_some] at hip
      have hzero : (shown t).value .bmcDefaultIp4 = Ip4.any.bytes := value_address (c := .ip4 none) rfl rfl hip
      rw [static_none.mpr hzero]
      exact .nil
  · rw [if_neg hempty]
    simp only [hempty, ne_eq, not_false_eq_true, if_true] at hip hnm hgw htext
    by_cases hsame : eth.ipv4StaticAddresses.head? = some form.staticIp
    · simp only [hsame, not_true_eq_false, if_false, Option.map_none, Option.elim_none] at hip hnm hgw
      rw [static_congr hip hnm hgw]
      exact reads_same hreads hsame
    · simp only [hsame, not_false_eq_true, if_true, Option.map_some, Option.elim_some] at hip hnm hgw htext
      obtain ⟨address, subnetMask, gateway, hne, haddress, hsubnetMask, hgateway⟩ :=
        htext (Option.some_ne_none _) trivial
      have hip : (shown t).value .bmcDefaultIp4 = address.bytes :=
        value_address (c := .ip4 _) rfl (congrArg (Option.map Ip4.bytes) (ip4Stoa_writes hpton haddress)) hip
      have hnm : (shown t).value .bmcDefaultIp4Nm = subnetMask.bytes :=
        value_address (c := .ip4Nm _) rfl (congrArg (Option.map Ip4.bytes) (ip4Stoa_writes hpton hsubnetMask)) hnm
      have hgw : (shown t).value .bmcDefaultIp4Gw = gateway.bytes :=
        value_address (c := .ip4Gw _) rfl (congrArg (Option.map Ip4.bytes) (ip4Stoa_writes hpton hgateway)) hgw
      have hbytes : address.bytes ≠ Ip4.any.bytes := fun h => hne (ip4_eq_iff.mpr h)
      rw [Shown.ipv4StaticAddresses, hip, hnm, hgw, if_pos hbytes]
      exact .cons ⟨reads_writes haddress, reads_writes hsubnetMask, reads_writes hgateway⟩ .nil

/-- After a save that no one else takes part in and in which no call fails, the page shows the form again. -/
theorem save_shown (hpton : ReadsNtop p) (hfetched : Fetches s unicast fetched) (hplain : Plain fetched form)
    (halone : ∀ n, (calls n).others = []) (hok : (redfishPatches p (saveBmcConfig fetched form) calls s).1 = true) :
    ∃ refetched, Fetches (redfishPatches p (saveBmcConfig fetched form) calls s).2 unicast refetched ∧
      refreshConfigData refetched form = form.settled fetched := by
  have hsaved : Saved p fetched form s (redfishPatches p (saveBmcConfig fetched form) calls s).2 := by
    intro id
    apply alike_save _ hok
    intro n e he
    rw [halone n] at he
    cases he
  generalize (redfishPatches p (saveBmcConfig fetched form) calls s).2 = t at hsaved
  obtain ⟨ntpServers, hntp, hservers⟩ := hfetched.ntp
  obtain ⟨hostName, statics, heth, hname, hstatics⟩ := hfetched.ethData
  rw [ethernetInterface_shown] at heth hname hstatics
  have hhostname := hostname_saved hsaved hplain heth hname
  have hstatic := static_saved hpton hsaved hplain heth hstatics
  have hdhcp := dhcp_saved hsaved heth rfl
  refine ⟨⟨form.powerPolicy, some ⟨form.ntp, [form.ntpServer]⟩, some ⟨(form.settled fetched).hostname, some form.dhcp,
    if form.staticIp.address = [] then [] else [form.staticIp]⟩⟩, ⟨?_, ?_, ?_⟩, ?_⟩
  · exact policy_saved hsaved hfetched hplain
  · exact ⟨_, by rw [← ntp_saved hsaved hntp], .cons (ntpServer_saved hsaved hplain hntp hservers) .nil⟩
  · rw [ethernetInterface_shown]
    exact ⟨_, _, by rw [← hdhcp]; rfl, hhostname, hstatic⟩
  · by_cases hempty : form.staticIp.address = []
    · simp only [refreshConfigData, Form.settled, if_pos hempty]
      rfl
    · simp only [refreshConfigData, Form.settled, if_neg hempty]
      rfl

lemma refreshed_addressed : Fetches addressed [] refreshed where
  powerRestorePolicy := by decide +kernel
  ntp := by
    have hservers : (networkProtocol addressed.data).ntpServers = [ascii "pool.ntp.org"] := by decide +kernel
    refine ⟨["pool.ntp.org".toList], ?_, ?_⟩
    · have henabled : (networkProtocol addressed.data).protocolEnabled = true := by decide +kernel
      rw [henabled]
      rfl
    · rw [hservers]
      exact .cons (reads_verbatim (List.forall_iff_forall_mem.mp (by decide))) .nil
  ethData := by
    have hdoc : (ethernetInterface addressed []).dhcpEnabled = true ∧
        (ethernetInterface addressed []).hostName = ascii "wallabmc" := by decide +kernel
    refine ⟨"wallabmc".toList, [⟨"10.0.0.7".toList, "0.0.0.0".toList, "0.0.0.0".toList⟩], ?_, ?_, ?_⟩
    · rw [hdoc.1]
      rfl
    · rw [hdoc.2]
      exact reads_verbatim (List.forall_iff_forall_mem.mp (by decide))
    · rw [addressed_static]
      refine .cons ⟨?_, ?_, ?_⟩ .nil
      · exact reads_verbatim (List.forall_iff_forall_mem.mp (by decide))
      · exact reads_verbatim (List.forall_iff_forall_mem.mp (by decide))
      · exact reads_verbatim (List.forall_iff_forall_mem.mp (by decide))

lemma writes_ascii {text : List Char} {address : Ip4} (h : List.Forall Verbatim text)
    (htext : utf8 text = netAddrNtop address) : Writes text address := ⟨List.forall_iff_forall_mem.mp h, htext⟩

lemma filledIn_plain : Plain refreshed filledIn where
  powerPolicy := .inr rfl
  ntpServer h := absurd rfl h
  hostname _ := List.forall_iff_forall_mem.mp (by decide)
  staticIp _ _ := ⟨⟨[10, 0, 0, 8], rfl⟩, ⟨[255, 255, 255, 0], rfl⟩, ⟨[10, 0, 0, 1], rfl⟩, by decide,
    writes_ascii (by decide) (by decide), writes_ascii (by decide) (by decide), writes_ascii (by decide) (by decide)⟩

theorem save_shown_filledIn :
    ∃ refetched, Fetches (redfishPatches quadPlatform (saveBmcConfig refreshed filledIn) (fun _ => callAfter [])
        addressed).2 [] refetched ∧
      refreshConfigData refetched filledIn = filledIn.settled refreshed :=
  save_shown quadPlatform_readsNtop refreshed_addressed filledIn_plain (fun _ => rfl) (by decide +kernel)

end Refreshed

end WallaBMC.Web
