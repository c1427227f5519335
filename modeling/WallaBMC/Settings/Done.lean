import WallaBMC.Settings.Patch

/-! When a PATCH that is answered 204 has done what it was asked. The account handler drops the result of
its setter, the ethernet and network handlers that of their flag; a value is truncated to its field, and
an empty string cannot be stored. -/

namespace WallaBMC.Settings

open Redfish Storage Config Library.Bytes

/-- The setting has its requested value, and has it in the store when there is one. -/
def Done (p : Platform) (t : State) (c : SetterCall) : Prop :=
  ∃ value, c.requested p = some value ∧ t.data.image c.id = value ∧
    (t.useFs = true → value ≠ [] ∧ t.entry c.id = value)

/-- The value fits; with storage it is not empty, and it is written or stored already. -/
def Lands (p : Platform) (faults : Faults) (s : State) (c : SetterCall) : Prop :=
  ∃ value, c.requested p = some value ∧ value.length ≤ c.id.limit ∧
    (s.useFs = true → value ≠ [] ∧ (¬ c.Idle s ∧ s.Writable faults c.id ∨ s.entry c.id = value))

/-- Every setter whose result is looked at goes through, on `config_data` as the ones before leave it. -/
def Passes (p : Platform) (faults : Faults) : State → List Step → Prop
  | _, [] => True
  | s, step :: steps =>
    (step.checked = true →
      step.setter.Idle s ∨ step.setter.Accepted p faults s ∧ s.Writable faults step.setter.id) ∧
    Passes p faults { s with data := step.setter.written p s.data } steps

def Patch.Passes (p : Platform) (faults : Faults) (s : State) (patch : Patch) : Prop :=
  match patch.plan with
  | .reject | .nullPointer => False
  | .steps list => Settings.Passes p faults s list

/-- Only flags and, as the last step, the password go unchecked. -/
def Simple : List Step → Prop
  | [] => True
  | step :: steps =>
    (step.checked = true ∨ step.setter.flag?.isSome = true ∨
      (∃ str, step.setter = .password str) ∧ steps = []) ∧ Simple steps

def ids (steps : List Step) : List ConfigId := steps.map (fun step => step.setter.id)

variable {p : Platform} {faults : Faults} {s t u : State} {c : SetterCall} {rc : ℤ} {step : Step} {steps : List Step}

lemma account_simple (payload : AccountPayload) : Simple payload.steps ∧ (ids payload.steps).Nodup := by
  rcases payload with ⟨_ | str⟩
  · exact ⟨trivial, List.nodup_nil⟩
  · exact ⟨⟨.inr (.inr ⟨⟨str, rfl⟩, rfl⟩), trivial⟩, List.nodup_singleton _⟩

lemma ethernet_simple (payload : EthernetPayload) : Simple payload.steps ∧ (ids payload.steps).Nodup := by
  rcases payload with ⟨_ | hostName, _ | use, _ | addr⟩ <;>
    simp [EthernetPayload.steps, Ipv4Addr.steps, Simple, ids, checked, unchecked, SetterCall.id,
      SetterCall.flag?]

lemma networkProtocol_simple (payload : NetworkProtocolPayload) (h : payload.plan = .steps steps) :
    Simple steps ∧ (ids steps).Nodup := by
  rcases payload with ⟨_ | _ | server, _ | use⟩ <;> cases h <;>
    simp [Simple, ids, checked, unchecked, SetterCall.id, SetterCall.flag?]

lemma system_simple (payload : SystemPayload) (h : payload.plan = .steps steps) :
    Simple steps ∧ (ids steps).Nodup := by
  rcases payload with ⟨_ | policy⟩
  · cases h
    exact ⟨trivial, List.nodup_nil⟩
  · simp only [SystemPayload.plan] at h
    split_ifs at h <;> cases h <;> exact ⟨⟨.inl rfl, trivial⟩, List.nodup_singleton _⟩

lemma plan_simple (patch : Patch) (list : List Step) (h : patch.plan = .steps list) :
    Simple list ∧ (ids list).Nodup := by
  cases patch with
  | account parsed =>
    cases parsed with
    | none => cases h
    | some payload =>
      cases h
      exact account_simple payload
  | ethernet parsed =>
    cases parsed with
    | none => cases h
    | some payload =>
      cases h
      exact ethernet_simple payload
  | networkProtocol parsed =>
    cases parsed with
    | none => cases h
    | some payload => exact networkProtocol_simple payload h
  | system parsed =>
    cases parsed with
    | none => cases h
    | some payload => exact system_simple payload h

lemma done_congr (hcell : t.cell c.id = s.cell c.id) (huse : t.useFs = s.useFs) :
    Done p t c ↔ Done p s c := by
  have himage : t.data.image c.id = s.data.image c.id := by
    rw [← State.image_cell, hcell, State.image_cell]
  have hentry : t.entry c.id = s.entry c.id := congrArg Cell.entry hcell
  rw [Done, Done, himage, hentry, huse]

lemma lands_congr (hcell : t.cell c.id = s.cell c.id) (huse : t.useFs = s.useFs) (hup : t.fs.up = s.fs.up) :
    Lands p faults t c ↔ Lands p faults s c := by
  have hbytes : t.data.bytes c.id = s.data.bytes c.id := congrArg Cell.mem hcell
  have hentry : t.entry c.id = s.entry c.id := congrArg Cell.entry hcell
  unfold Lands SetterCall.Idle State.Writable
  rw [hbytes, hentry, huse, hup]

lemma done_fits (hterm : t.data.Terminated) (h : Done p t c) :
    ∃ value, c.requested p = some value ∧ value.length ≤ c.id.limit := by
  obtain ⟨value, hreq, himage, -⟩ := h
  refine ⟨value, hreq, ?_⟩
  rw [← himage]
  exact (isValue_image t.data (hterm c.id)).fits

lemma take_limit_eq_self {value : List UInt8} {id : ConfigId} :
    value.take id.limit = value ↔ value.length ≤ id.limit :=
  List.take_eq_self_iff value

theorem step_done (h : Effect p faults s c rc t) (hterm : s.data.Terminated)
    (hgood : rc = 0 ∨ c.flag?.isSome = true ∨ ∃ str, c = .password str) :
    Done p t c ↔ Lands p faults s c := by
  have hterm' := h.terminated hterm
  have huse := h.useFs
  cases h with
  | idle hidle =>
    obtain ⟨use, hflag, hram⟩ := id hidle
    obtain ⟨hreq, hstr, hlimit⟩ := flag_requested (p := p) hflag
    have himage : s.data.image c.id = flagBytes use := by rw [ConfigData.image_scalar hstr, hram]
    rw [Done, Lands]
    rw [hreq, himage]
    constructor
    · rintro ⟨value, hvalue, -, hfs⟩
      cases hvalue
      exact ⟨_, rfl, hlimit.ge, fun hon => ⟨(hfs hon).1, .inr (hfs hon).2⟩⟩
    · rintro ⟨value, hvalue, -, hfs⟩
      cases hvalue
      exact ⟨_, rfl, rfl, fun hon => ⟨(hfs hon).1, (hfs hon).2.resolve_left (fun h => h.1 hidle)⟩⟩
  | refused _ _ hrc haccepted =>
    rcases hgood with hzero | hflag | ⟨str, rfl⟩
    · exact absurd hzero hrc
    · obtain ⟨use, hflag⟩ := Option.isSome_iff_exists.mp hflag
      exact absurd (flag_accepted hflag) haccepted
    · have hlong : ¬ ∃ value, (SetterCall.password str).requested p = some value ∧
          value.length ≤ (SetterCall.password str).id.limit := by
        rintro ⟨value, hvalue, hlen⟩
        cases hvalue
        exact haccepted hlen
      refine iff_of_false (fun h => hlong (done_fits hterm' h)) ?_
      rintro ⟨value, hvalue, hlen, -⟩
      exact hlong ⟨value, hvalue, hlen⟩
  | unsaved _ _ _ hidle haccepted hwritable _ hdata hfs =>
    obtain ⟨value, hreq⟩ := accepted_requested haccepted
    have hentry : t.entry c.id = s.entry c.id := by rw [State.entry, State.entry, hfs]
    rw [Done, Lands]
    rw [hdata, image_written hreq, hentry, huse, hreq]
    simp only [Option.some.injEq, exists_eq_left', take_limit_eq_self, hwritable, and_false, false_or]
  | saved _ hidle haccepted hwritable _ hdata hfs =>
    obtain ⟨value, hreq⟩ := accepted_requested haccepted
    have hentry : t.entry c.id = value.take c.id.limit := by
      rw [entry_saved hfs, image_written hreq]
    rw [Done, Lands]
    rw [hdata, image_written hreq, hentry, huse, hreq]
    simp only [Option.some.injEq, exists_eq_left', take_limit_eq_self, hidle, hwritable, not_false_eq_true,
      and_self, true_or, and_true]
    constructor
    · exact fun h => ⟨h.1, fun hon => (h.2 hon).1⟩
    · exact fun h => ⟨h.1, fun hon => ⟨h.2 hon, h.1⟩⟩

section Run

lemma runSteps_frame (p : Platform) (faults : Faults) (steps : List Step) (s : State) :
    (runSteps p faults s steps).2.useFs = s.useFs ∧ (runSteps p faults s steps).2.fs.up = s.fs.up ∧
      ∀ id, id ∉ ids steps → (runSteps p faults s steps).2.cell id = s.cell id := by
  induction steps generalizing s with
  | nil => exact ⟨rfl, rfl, fun _ _ => rfl⟩
  | cons step steps ih =>
    have heffect := setter_effect p faults s step.setter
    obtain ⟨huse, hup, hcell⟩ := ih (step.setter.run p faults s).2
    have hfirst : ∀ id, id ∉ ids (step :: steps) → (step.setter.run p faults s).2.cell id = s.cell id :=
      fun id hid => heffect.cell (fun he => hid (he ▸ List.mem_cons_self))
    rw [runSteps_cons]
    split_ifs with hstop
    · exact ⟨heffect.useFs, heffect.up, hfirst⟩
    · exact ⟨huse.trans heffect.useFs, hup.trans heffect.up, fun id hid =>
        (hcell id (fun h => hid (List.mem_cons_of_mem _ h))).trans (hfirst id hid)⟩

/-- Results of the setters depend on this much of the state. -/
structure Like (s t : State) : Prop where
  data : t.data = s.data
  useFs : t.useFs = s.useFs
  up : t.fs.up = s.fs.up
  iface : t.net.iface.isSome = s.net.iface.isSome

lemma like_accepted (h : Like s t) (c : SetterCall) : c.Accepted p faults t ↔ c.Accepted p faults s := by
  cases c with
  | ip4 | ip4Nm | ip4Gw =>
    simp only [SetterCall.Accepted, Net.Takes]
    rw [h.data, h.iface]
  | _ => exact Iff.rfl

lemma like_goes (h : Like s t) (c : SetterCall) :
    (c.Idle t ∨ c.Accepted p faults t ∧ t.Writable faults c.id) ↔
      (c.Idle s ∨ c.Accepted p faults s ∧ s.Writable faults c.id) := by
  rw [like_accepted h, State.Writable, State.Writable, SetterCall.Idle, SetterCall.Idle, h.data, h.useFs, h.up]

lemma like_written {u : State} (h : Like s t) (heffect : Effect p faults t c rc u)
    (hdata : u.data = c.written p t.data) : Like { s with data := c.written p s.data } u where
  data := by rw [hdata, h.data]
  useFs := heffect.useFs.trans h.useFs
  up := heffect.up.trans h.up
  iface := heffect.iface.trans h.iface

/-- A password that is refused leaves `config_data` alone, but no step follows it. -/
lemma simple_next (hsimple : Simple (step :: steps)) (heffect : Effect p faults t step.setter rc u)
    (hgo : step.checked = true → rc = 0) : steps = [] ∨ u.data = step.setter.written p t.data := by
  rcases hsimple.1 with hchecked | hflag | ⟨-, hnil⟩
  · rw [hgo hchecked] at heffect
    exact .inr heffect.zero_data
  · exact .inr (heffect.flag_data hflag)
  · exact .inl hnil

theorem runSteps_zero (p : Platform) (faults : Faults) (hsimple : Simple steps) (h : Like s t) :
    (runSteps p faults t steps).1 = 0 ↔ Passes p faults s steps := by
  induction steps generalizing s t with
  | nil => exact iff_of_true rfl trivial
  | cons step steps ih =>
    have heffect := setter_effect p faults t step.setter
    have hzero := heffect.zero_iff.trans (like_goes h step.setter)
    rw [runSteps_cons, Settings.Passes, ← hzero]
    by_cases hstop : step.checked = true ∧ (step.setter.run p faults t).1 ≠ 0
    · rw [if_pos hstop]
      have hne : internalServerError ≠ 0 := by decide
      exact iff_of_false hne (fun hpass => hstop.2 (hpass.1 hstop.1))
    · have hgo : step.checked = true → (step.setter.run p faults t).1 = 0 := fun hchecked =>
        not_not.mp (fun hrc => hstop ⟨hchecked, hrc⟩)
      rw [if_neg hstop, and_iff_right hgo]
      rcases simple_next hsimple heffect hgo with hnil | hdata
      · rw [hnil]
        exact iff_of_true rfl trivial
      · exact ih hsimple.2 (like_written h heffect hdata)

theorem runSteps_done (p : Platform) (faults : Faults) (hsimple : Simple steps) (hnodup : (ids steps).Nodup) (hterm : s.data.Terminated)
    (hzero : (runSteps p faults s steps).1 = 0) (step : Step) (hmem : step ∈ steps) :
    Done p (runSteps p faults s steps).2 step.setter ↔ Lands p faults s step.setter := by
  induction steps generalizing s with
  | nil => cases hmem
  | cons first steps ih =>
    have heffect := setter_effect p faults s first.setter
    obtain ⟨hfirst, hrest⟩ := List.nodup_cons.mp hnodup
    have hgo : ¬ (first.checked = true ∧ (first.setter.run p faults s).1 ≠ 0) := fun hstop => by
      rw [runSteps_cons, if_pos hstop] at hzero
      exact absurd hzero (by decide : internalServerError ≠ 0)
    rw [runSteps_cons, if_neg hgo] at hzero ⊢
    obtain ⟨huse, -, hcell⟩ := runSteps_frame p faults steps (first.setter.run p faults s).2
    rcases List.mem_cons.mp hmem with rfl | hmem
    · rw [done_congr (hcell _ hfirst) huse]
      apply step_done heffect hterm
      rcases hsimple.1 with hchecked | hflag | ⟨hpassword, -⟩
      · exact .inl (not_not.mp (fun hrc => hgo ⟨hchecked, hrc⟩))
      · exact .inr (.inl hflag)
      · exact .inr (.inr hpassword)
    · have hne : step.setter.id ≠ first.setter.id := fun he =>
        hfirst (List.mem_map.mpr ⟨step, hmem, he⟩)
      rw [ih hsimple.2 hrest (heffect.terminated hterm) hzero hmem]
      exact lands_congr (heffect.cell hne) heffect.useFs heffect.up

end Run

/-- A PATCH answered 204 has done what it names exactly when every named value lands, unless a setter
whose result is looked at fails anyway. -/
theorem patch_done_iff (p : Platform) (faults : Faults) (s : State) (patch : Patch)
    (hterm : s.data.Terminated) :
    (∀ t, patch.run p faults s = some (0, t) → ∀ c ∈ patch.named, Done p t c) ↔
      (patch.Passes p faults s → ∀ c ∈ patch.named, Lands p faults s c) := by
  rw [patch_run, Patch.named, Patch.Passes]
  have hplan := plan_simple patch
  generalize patch.plan = plan at hplan ⊢
  cases plan with
  | reject | nullPointer => simp [Plan.setters]
  | steps list =>
    obtain ⟨hsimple, hnodup⟩ := hplan list rfl
    have hzero := runSteps_zero p faults hsimple (⟨rfl, rfl, rfl, rfl⟩ : Like s s)
    have hdone := runSteps_done p faults hsimple hnodup hterm
    constructor
    · intro h hpass c hc
      obtain ⟨step, hmem, rfl⟩ := List.mem_map.mp hc
      have hret := hzero.mpr hpass
      exact (hdone hret step hmem).mp (h _ (congrArg some (Prod.ext hret rfl)) _ hc)
    · intro h t hrun c hc
      obtain ⟨step, hmem, rfl⟩ := List.mem_map.mp hc
      have hout : runSteps p faults s list = (0, t) := Option.some.inj hrun
      have hret : (runSteps p faults s list).1 = 0 := congrArg Prod.fst hout
      have hdone' := (hdone hret step hmem).mpr (h (hzero.mp hret) _ hc)
      rwa [hout] at hdone'

def sampleState : State := boot samplePlatform .none (mounted emptyStore)

def alwaysOn : CString := ⟨ascii "AlwaysOn", by decide⟩

def turnOn : Patch := .system (some ⟨some alwaysOn⟩)

def turnedOn : State := (turnOn.run samplePlatform .none sampleState).elim sampleState Prod.snd

theorem patch_done_alwaysOn :
    turnOn.run samplePlatform .none sampleState = some (0, turnedOn) ∧
      ∀ c ∈ turnOn.named, Done samplePlatform turnedOn c := by
  have hrun : turnOn.run samplePlatform .none sampleState = some (0, turnedOn) := rfl
  refine ⟨hrun, ?_⟩
  apply (patch_done_iff samplePlatform .none sampleState turnOn (boot_terminated _ _ _)).mpr _ turnedOn hrun
  intro _ c hc
  have hnamed : turnOn.named = [.autoPoweron true] := by decide
  rw [hnamed, List.mem_singleton] at hc
  subst hc
  refine ⟨[1], rfl, by decide, fun _ => ⟨by decide, .inl ⟨?_, by decide +kernel⟩⟩⟩
  rintro ⟨use, hflag, hram⟩
  cases hflag
  exact absurd hram (by decide +kernel)

def longPassword : CString := ⟨List.replicate 21 97, by decide⟩

theorem long_password_ignored :
    ¬ ∀ patch t, Patch.run samplePlatform .none sampleState patch = some (0, t) →
      ∀ c ∈ patch.named, Done samplePlatform t c := by
  intro h
  have hdone := h (.account (some ⟨some longPassword⟩)) (configBmcPasswordSet .none longPassword sampleState).2 rfl
    (.password longPassword) (by decide)
  obtain ⟨value, hvalue, himage, -⟩ := hdone
  cases hvalue
  exact absurd himage (by decide +kernel)

end WallaBMC.Settings
