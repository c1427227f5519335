import WallaBMC.Config.Failures
import WallaBMC.Settings.Payloads

/-! The fields of `config_data` that a PATCH names. An array with one address names the members the address
has, an empty array all three; the setters get a null string for a member that is absent. -/

namespace WallaBMC.Settings

open Redfish Storage Config Library.Bytes
open Payloads (EthernetBody)

inductive Body
  | account (parsed : Option AccountPayload)
  | ethernet (parsed : Option EthernetBody)
  | networkProtocol (parsed : Option NetworkProtocolPayload)
  | system (parsed : Option SystemPayload)

def Body.patch : Body → Patch
  | account parsed => .account parsed
  | ethernet parsed => .ethernet (parsed.map EthernetBody.payload)
  | networkProtocol parsed => .networkProtocol parsed
  | system parsed => .system parsed

def namesMember (body : EthernetBody) (member : Ipv4Addr → Option CString) : Bool :=
  body.ipv4Static.elim false (fun element => element.elim true (fun addr => (member addr).isSome))

def ethernetNames (body : EthernetBody) : ConfigId → Bool
  | .bmcHostname => body.hostName.isSome
  | .bmcUseDhcp4 => body.dhcpEnabled.isSome
  | .bmcDefaultIp4 => namesMember body Ipv4Addr.address
  | .bmcDefaultIp4Nm => namesMember body Ipv4Addr.subnetMask
  | .bmcDefaultIp4Gw => namesMember body Ipv4Addr.gateway
  | _ => false

def networkProtocolNames (payload : NetworkProtocolPayload) : ConfigId → Bool
  | .bmcNtpServer => payload.ntpServers.isSome
  | .bmcUseNtp => payload.protocolEnabled.isSome
  | _ => false

/-- The member of the setting is there, whatever other setters the payload leads to. -/
def Body.names : Body → ConfigId → Bool
  | account parsed, id => id = .bmcAdminPassword && (parsed.bind AccountPayload.password).isSome
  | ethernet parsed, id => parsed.elim false (fun body => ethernetNames body id)
  | networkProtocol parsed, id => parsed.elim false (fun payload => networkProtocolNames payload id)
  | system parsed, id => id = .hostAutoPoweron && (parsed.bind SystemPayload.powerRestorePolicy).isSome

/-- The address is zero in memory, and in the store as well where the call would write it. -/
def Cleared (p : Platform) (faults : Faults) (s : State) (c : SetterCall) : Prop :=
  s.data.bytes c.id = Ip4.any.bytes ∧
    (c.Accepted p faults s → s.Writable faults c.id → s.entry c.id = Ip4.any.bytes)

/-- Where the handler gets to a field that is not named, there is nothing to clear. -/
def Spares (p : Platform) (faults : Faults) (names : ConfigId → Bool) : State → List Step → Prop
  | _, [] => True
  | s, step :: steps =>
    (names step.setter.id = false → Cleared p faults s step.setter) ∧
      ((step.checked = true →
          step.setter.Idle s ∨ step.setter.Accepted p faults s ∧ s.Writable faults step.setter.id) →
        Spares p faults names { s with data := step.setter.written p s.data } steps)

def Body.Spares (p : Platform) (faults : Faults) (s : State) (body : Body) : Prop :=
  match body.patch.plan with
  | .reject | .nullPointer => True
  | .steps list => Settings.Spares p faults body.names s list

variable {p : Platform} {faults : Faults} {s t u : State} {c : SetterCall} {rc : ℤ} {step : Step} {steps : List Step}
  {names : ConfigId → Bool}

lemma setter_entry_iff (p : Platform) (faults : Faults) (s : State) (c : SetterCall) :
    (c.run p faults s).2.entry c.id = s.entry c.id ↔
      (¬ c.Idle s → c.Accepted p faults s → s.Writable faults c.id →
        s.entry c.id = (c.written p s.data).image c.id) := by
  have heffect := setter_effect p faults s c
  generalize c.run p faults s = out at heffect ⊢
  obtain ⟨rc, t⟩ := out
  cases heffect with
  | idle hidle => exact iff_of_true rfl (fun hnot => absurd hidle hnot)
  | refused _ _ _ haccepted _ _ hfs =>
    have hsame : t.entry c.id = s.entry c.id := by rw [State.entry, State.entry, hfs]
    exact iff_of_true hsame (fun _ haccepts => absurd haccepts haccepted)
  | unsaved _ _ _ _ _ hwritable _ _ hfs =>
    have hsame : t.entry c.id = s.entry c.id := by rw [State.entry, State.entry, hfs]
    exact iff_of_true hsame (fun _ _ hwrites => absurd hwrites hwritable)
  | saved _ hidle haccepted hwritable _ _ hfs =>
    rw [entry_saved hfs]
    exact ⟨fun h _ _ _ => h.symm, fun h => (h hidle haccepted hwritable).symm⟩

lemma setter_bytes_iff (p : Platform) (faults : Faults) (s : State) (c : SetterCall) :
    (c.run p faults s).2.data.bytes c.id = s.data.bytes c.id ↔
      (c.Records p faults → (c.written p s.data).bytes c.id = s.data.bytes c.id) := by
  obtain ⟨hrecorded, hrefused⟩ := setter_data p faults s c
  by_cases hrecords : c.Records p faults
  · rw [hrecorded hrecords]
    exact ⟨fun h _ => h, fun h => h hrecords⟩
  · rw [hrefused hrecords]
    exact iff_of_true rfl (fun h => absurd h hrecords)

/-- The setters of the addresses without a string. -/
def clearing : List SetterCall := [.ip4 none, .ip4Nm none, .ip4Gw none]

lemma clearing_spec (p : Platform) (faults : Faults) (h : c ∈ clearing) :
    c.requested p = some Ip4.any.bytes ∧ c.id.isStr = false ∧ c.id.size = 4 ∧ c.flag? = none ∧
      c.Records p faults := by
  simp only [clearing, List.mem_cons, List.not_mem_nil, or_false] at h
  rcases h with rfl | rfl | rfl <;> exact ⟨rfl, rfl, rfl, rfl, Option.some_ne_none _⟩

lemma setter_cell_iff (h : c ∈ clearing) :
    (c.run p faults s).2.cell c.id = s.cell c.id ↔ Cleared p faults s c := by
  obtain ⟨hrequested, hstr, hsize, hflag, hrecords⟩ := clearing_spec p faults h
  have hwritten : (c.written p s.data).bytes c.id = Ip4.any.bytes := by
    rw [written_scalar hrequested hstr]
    exact ConfigData.bytes_write_full hsize.symm
  have himage : (c.written p s.data).image c.id = Ip4.any.bytes := by
    rw [ConfigData.image, ConfigId.image, hstr]
    exact hwritten
  have hactive : ¬ c.Idle s := by
    rintro ⟨use, huse, -⟩
    rw [hflag] at huse
    cases huse
  rw [Cleared, State.cell, State.cell, Cell.mk.injEq, setter_bytes_iff, setter_entry_iff, hwritten, himage,
    imp_iff_right hrecords, imp_iff_right hactive, eq_comm]

lemma cleared_congr (h : Like s t) (hentry : t.entry c.id = s.entry c.id) :
    Cleared p faults t c ↔ Cleared p faults s c := by
  rw [Cleared, Cleared, like_accepted h, State.Writable, State.Writable, h.data, h.useFs, h.up, hentry]

lemma runSteps_frame_iff (hnodup : (ids (step :: steps)).Nodup) (names : ConfigId → Bool)
    (hgo : ¬ (step.checked = true ∧ (step.setter.run p faults t).1 ≠ 0)) :
    (∀ id, names id = false → (runSteps p faults t (step :: steps)).2.cell id = t.cell id) ↔
      (names step.setter.id = false → (step.setter.run p faults t).2.cell step.setter.id = t.cell step.setter.id) ∧
        ∀ id, names id = false → (runSteps p faults (step.setter.run p faults t).2 steps).2.cell id =
          (step.setter.run p faults t).2.cell id := by
  have heffect := setter_effect p faults t step.setter
  have hfirst : step.setter.id ∉ ids steps := (List.nodup_cons.mp hnodup).1
  have hkept := (runSteps_frame p faults steps (step.setter.run p faults t).2).2.2 _ hfirst
  rw [runSteps_cons, if_neg hgo]
  constructor
  · intro h
    have hown : names step.setter.id = false →
        (step.setter.run p faults t).2.cell step.setter.id = t.cell step.setter.id :=
      fun hnot => hkept.symm.trans (h _ hnot)
    refine ⟨hown, ?_⟩
    intro id hnot
    by_cases hid : id = step.setter.id
    · rw [hid, hkept]
    · exact (h id hnot).trans (heffect.cell hid).symm
  · rintro ⟨hown, hrest⟩ id hnot
    refine (hrest id hnot).trans ?_
    by_cases hid : id = step.setter.id
    · rw [hid] at hnot ⊢
      exact hown hnot
    · exact heffect.cell hid

lemma runSteps_stopped_iff (names : ConfigId → Bool)
    (hstop : step.checked = true ∧ (step.setter.run p faults t).1 ≠ 0) :
    (∀ id, names id = false → (runSteps p faults t (step :: steps)).2.cell id = t.cell id) ↔
      (names step.setter.id = false → (step.setter.run p faults t).2.cell step.setter.id = t.cell step.setter.id) := by
  have heffect := setter_effect p faults t step.setter
  rw [runSteps_cons, if_pos hstop]
  constructor
  · exact fun h hnot => h _ hnot
  · intro hown id hnot
    by_cases hid : id = step.setter.id
    · rw [hid] at hnot ⊢
      exact hown hnot
    · exact heffect.cell hid

theorem runSteps_spares_iff (p : Platform) (faults : Faults) (names : ConfigId → Bool) (hsimple : Simple steps)
    (hnodup : (ids steps).Nodup) (hclears : ∀ step ∈ steps, names step.setter.id = false → step.setter ∈ clearing)
    (h : Like s t) (hentry : ∀ id ∈ ids steps, t.entry id = s.entry id) :
    (∀ id, names id = false → (runSteps p faults t steps).2.cell id = t.cell id) ↔
      Spares p faults names s steps := by
  induction steps generalizing s t with
  | nil => exact iff_of_true (fun _ _ => rfl) trivial
  | cons step steps ih =>
    have heffect := setter_effect p faults t step.setter
    have hown : (names step.setter.id = false →
        (step.setter.run p faults t).2.cell step.setter.id = t.cell step.setter.id) ↔
          (names step.setter.id = false → Cleared p faults s step.setter) := by
      refine imp_congr_right (fun hnot => ?_)
      rw [setter_cell_iff (hclears step (List.mem_cons_self ..) hnot),
        cleared_congr h (hentry _ (List.mem_cons_self ..))]
    have hgoes := heffect.zero_iff.trans (like_goes h step.setter)
    by_cases hstop : step.checked = true ∧ (step.setter.run p faults t).1 ≠ 0
    · rw [runSteps_stopped_iff names hstop, hown, Settings.Spares, ← hgoes]
      refine ⟨fun hfirst => ⟨hfirst, fun hgo => absurd (hgo hstop.1) hstop.2⟩, fun hboth => hboth.1⟩
    · have hgo : step.checked = true → (step.setter.run p faults t).1 = 0 := fun hchecked =>
        not_not.mp (fun hrc => hstop ⟨hchecked, hrc⟩)
      rw [runSteps_frame_iff hnodup names hstop, hown, Settings.Spares, ← hgoes]
      refine and_congr_right (fun _ => ?_)
      rw [imp_iff_right hgo]
      rcases simple_next hsimple heffect hgo with hnil | hdata
      · rw [hnil]
        exact iff_of_true (fun _ _ => rfl) trivial
      · obtain ⟨hfirst, hrest⟩ := List.nodup_cons.mp hnodup
        apply ih hsimple.2 hrest (fun other hother => hclears other (List.mem_cons_of_mem _ hother))
          (like_written h heffect hdata)
        intro id hid
        have hne : id ≠ step.setter.id := by
          rintro rfl
          exact hfirst hid
        have hcell := heffect.cell hne
        exact (congrArg Cell.entry hcell).trans (hentry id (List.mem_cons_of_mem _ hid))

lemma spares_of_named (hnamed : ∀ step ∈ steps, names step.setter.id = true) : Spares p faults names s steps := by
  induction steps generalizing s with
  | nil => trivial
  | cons step steps ih =>
    obtain ⟨hfirst, hrest⟩ := List.forall_mem_cons.mp hnamed
    refine ⟨fun hnot => ?_, fun _ => ih hrest⟩
    rw [hfirst] at hnot
    cases hnot

/-- The array is absent or empty, or its address has every member. -/
def Whole (body : EthernetBody) : Prop :=
  ∀ addr, body.ipv4Static = some (some addr) →
    addr.address.isSome = true ∧ addr.subnetMask.isSome = true ∧ addr.gateway.isSome = true

lemma ethernet_steps {body : EthernetBody} (hstep : step ∈ body.payload.steps) :
    ethernetNames body step.setter.id = true ∨
      ∃ addr, body.ipv4Static = some (some addr) ∧ step ∈ addr.steps := by
  obtain ⟨hostName, dhcpEnabled, ipv4Static⟩ := body
  simp only [EthernetBody.payload, EthernetPayload.steps, List.mem_append, Option.mem_toList,
    Option.map_eq_some_iff] at hstep
  rcases hstep with ⟨str, hname, rfl⟩ | ⟨use, huse, rfl⟩ | haddr
  · exact .inl (Option.isSome_iff_exists.mpr ⟨str, hname⟩)
  · exact .inl (Option.isSome_iff_exists.mpr ⟨use, huse⟩)
  · rcases ipv4Static with _ | _ | addr
    · cases haddr
    · simp only [Option.map_some, Option.getD_some, Option.getD_none, Ipv4Addr.steps, List.mem_cons, List.not_mem_nil,
        or_false] at haddr
      rcases haddr with rfl | rfl | rfl <;> exact .inl rfl
    · exact .inr ⟨addr, rfl, haddr⟩

lemma networkProtocol_named {payload : NetworkProtocolPayload} (h : payload.plan = .steps steps) :
    ∀ step ∈ steps, networkProtocolNames payload step.setter.id = true := by
  rcases payload with ⟨_ | _ | server, _ | use⟩ <;> cases h <;>
    simp [networkProtocolNames, checked, unchecked, SetterCall.id]

lemma system_named {payload : SystemPayload} (h : payload.plan = .steps steps) :
    ∀ step ∈ steps, step.setter.id = .hostAutoPoweron ∧ payload.powerRestorePolicy.isSome = true := by
  rcases payload with ⟨_ | policy⟩
  · cases h
    simp
  · simp only [SystemPayload.plan] at h
    split_ifs at h <;> cases h <;> simp [checked, SetterCall.id]

lemma plan_steps {body : Body} (h : body.patch.plan = .steps steps) (hstep : step ∈ steps) :
    body.names step.setter.id = true ∨
      ∃ parsed addr, body = .ethernet (some parsed) ∧ parsed.ipv4Static = some (some addr) ∧ step ∈ addr.steps := by
  cases body with
  | account parsed =>
    rcases parsed with _ | ⟨_ | str⟩
    · cases h
    · cases h
      cases hstep
    · cases h
      obtain rfl := List.mem_singleton.mp hstep
      exact .inl rfl
  | ethernet parsed =>
    cases parsed with
    | none => cases h
    | some body =>
      cases h
      rcases ethernet_steps hstep with hnamed | ⟨addr, hstatic, haddr⟩
      · exact .inl hnamed
      · exact .inr ⟨body, addr, rfl, hstatic, haddr⟩
  | networkProtocol parsed =>
    cases parsed with
    | none => cases h
    | some payload => exact .inl (networkProtocol_named h step hstep)
  | system parsed =>
    cases parsed with
    | none => cases h
    | some payload =>
      obtain ⟨hid, hsome⟩ := system_named h step hstep
      rw [hid]
      exact .inl hsome

lemma addr_names {body : EthernetBody} {addr : Ipv4Addr} (hstatic : body.ipv4Static = some (some addr))
    (member : Ipv4Addr → Option CString) : namesMember body member = (member addr).isSome := by
  rw [namesMember, hstatic]
  rfl

lemma absent_member {body : EthernetBody} {addr : Ipv4Addr} (hstatic : body.ipv4Static = some (some addr))
    {member : Ipv4Addr → Option CString} (h : namesMember body member = false) : member addr = none := by
  rw [addr_names hstatic] at h
  exact Option.not_isSome_iff_eq_none.mp (by simp [h])

lemma plan_unnamed {body : Body} (h : body.patch.plan = .steps steps) :
    ∀ step ∈ steps, body.names step.setter.id = false → step.setter ∈ clearing := by
  intro step hstep hnot
  rcases plan_steps h hstep with hnamed | ⟨parsed, addr, rfl, hstatic, haddr⟩
  · rw [hnamed] at hnot
    cases hnot
  · simp only [Ipv4Addr.steps, List.mem_cons, List.not_mem_nil, or_false] at haddr
    rcases haddr with rfl | rfl | rfl
    · have habsent : addr.address = none := absent_member hstatic hnot
      simp [clearing, checked, habsent]
    · have habsent : addr.subnetMask = none := absent_member hstatic hnot
      simp [clearing, checked, habsent]
    · have habsent : addr.gateway = none := absent_member hstatic hnot
      simp [clearing, checked, habsent]

lemma plan_named {body : Body} (hwhole : ∀ parsed, body = .ethernet (some parsed) → Whole parsed)
    (h : body.patch.plan = .steps steps) : ∀ step ∈ steps, body.names step.setter.id = true := by
  intro step hstep
  rcases plan_steps h hstep with hnamed | ⟨parsed, addr, rfl, hstatic, haddr⟩
  · exact hnamed
  · obtain ⟨haddress, hmask, hgateway⟩ := hwhole parsed rfl addr hstatic
    simp only [Ipv4Addr.steps, List.mem_cons, List.not_mem_nil, or_false] at haddr
    rcases haddr with rfl | rfl | rfl
    · exact (addr_names hstatic _).trans haddress
    · exact (addr_names hstatic _).trans hmask
    · exact (addr_names hstatic _).trans hgateway

/-- A setter without a string clears the member that an address leaves out. -/
theorem patch_spares_iff (p : Platform) (faults : Faults) (s : State) (body : Body) :
    (∀ rc t, body.patch.run p faults s = some (rc, t) →
        ∀ id, body.names id = false → t.cell id = s.cell id) ↔ body.Spares p faults s := by
  rw [patch_run, Body.Spares]
  have hplan := plan_simple body.patch
  have hclears : ∀ steps, body.patch.plan = .steps steps →
      ∀ step ∈ steps, body.names step.setter.id = false → step.setter ∈ clearing := fun _ => plan_unnamed
  generalize body.patch.plan = plan at hplan hclears ⊢
  cases plan with
  | reject =>
    refine iff_of_true ?_ trivial
    rintro rc t ⟨⟩ id -
    rfl
  | nullPointer =>
    refine iff_of_true ?_ trivial
    rintro rc t ⟨⟩
  | steps list =>
    obtain ⟨hsimple, hnodup⟩ := hplan list rfl
    have hspares := runSteps_spares_iff p faults body.names hsimple hnodup (hclears list rfl)
      (⟨rfl, rfl, rfl, rfl⟩ : Like s s) (fun _ _ => rfl)
    refine Iff.trans ?_ hspares
    constructor
    · exact fun h => h _ _ rfl
    · rintro h rc t hrun
      have hout : runSteps p faults s list = (rc, t) := Option.some.inj hrun
      rwa [hout] at h

/-- Without an address that leaves members out nothing but what is named changes. -/
theorem whole_patch_spares (p : Platform) (faults : Faults) (s : State) {body : Body}
    (hwhole : ∀ parsed, body = .ethernet (some parsed) → Whole parsed) : body.Spares p faults s := by
  have hnamed : ∀ steps, body.patch.plan = .steps steps → ∀ step ∈ steps, body.names step.setter.id = true :=
    fun _ => plan_named hwhole
  rw [Body.Spares]
  generalize body.patch.plan = plan at hnamed ⊢
  cases plan with
  | reject | nullPointer => trivial
  | steps list => exact spares_of_named (hnamed list rfl)

def staticAddress : CString := ⟨ascii "10.0.0.7", by decide⟩

def parsingPlatform : Platform :=
  { samplePlatform with inetPton := fun _ => some ⟨[10, 0, 0, 7], rfl⟩ }

/-- The interface is up, and a gateway is configured. -/
def withGateway : State :=
  { boot samplePlatform .none (mounted emptyStore) with
    data := (boot samplePlatform .none (mounted emptyStore)).data.write .bmcDefaultIp4Gw [10, 0, 0, 1]
    net := ⟨sampleName, some ⟨⟨[10, 0, 0, 1], rfl⟩, [], true⟩, ⟨false, false, 1, none⟩⟩ }

def addressOnly : Body := .ethernet (some ⟨none, none, some (some ⟨some staticAddress, none, none⟩)⟩)

/-- A new address alone takes the gateway away. -/
theorem gateway_cleared :
    addressOnly.names .bmcDefaultIp4Gw = false ∧
      ∃ t, addressOnly.patch.run parsingPlatform .none withGateway = some (0, t) ∧
        withGateway.data.bytes .bmcDefaultIp4Gw = [10, 0, 0, 1] ∧ t.data.bytes .bmcDefaultIp4Gw = [0, 0, 0, 0] :=
  ⟨rfl, _, rfl, by decide +kernel, by decide +kernel⟩

end WallaBMC.Settings
