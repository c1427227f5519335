import WallaBMC.Settings.Done

/-! A PATCH that fails. The handlers have no way back: they stop at the setter that failed and keep what the
setters before it have changed. -/

namespace WallaBMC.Settings

open Redfish Storage Config Library.Bytes

/-- From `s` to `t` the setters of `before` took effect, and that of `failed` did not get further than
`config_data`. -/
structure Stopped (p : Platform) (s t : State) (before : List Step) (failed : Step) : Prop where
  committed : ∀ step ∈ before, ∃ value, step.setter.requested p = some value ∧
    t.data.image step.setter.id = value.take step.setter.id.limit ∧
    (t.entry step.setter.id = value.take step.setter.id.limit ∨
      t.entry step.setter.id = s.entry step.setter.id ∧ (step.checked = false ∨ step.setter.Idle s))
  failedEntry : t.entry failed.setter.id = s.entry failed.setter.id
  failedBytes : t.data.bytes failed.setter.id = s.data.bytes failed.setter.id ∨
    t.data.bytes failed.setter.id = (failed.setter.written p s.data).bytes failed.setter.id
  untouched : ∀ id, id ∉ ids before → id ≠ failed.setter.id → t.cell id = s.cell id

variable {p : Platform} {faults : Faults} {s t u : State} {c : SetterCall} {rc : ℤ} {steps before : List Step}
  {step failed : Step}

lemma bytes_written_congr {data data' : ConfigData} (h : data.bytes c.id = data'.bytes c.id) :
    (c.written p data).bytes c.id = (c.written p data').bytes c.id := by
  unfold SetterCall.written
  cases c.requested p with
  | none => exact h
  | some value => simp only [ConfigData.assign, ConfigData.bytes_write_self, h]

lemma stopped_nil (h : Effect p faults s failed.setter rc t) (hrc : rc ≠ 0) : Stopped p s t [] failed where
  committed := by simp
  failedEntry := by
    cases h with
    | idle => exact absurd rfl hrc
    | refused _ _ _ _ _ _ hfs | unsaved _ _ _ _ _ _ _ _ hfs => rw [State.entry, State.entry, hfs]
    | saved => exact absurd rfl hrc
  failedBytes := by
    cases h with
    | idle => exact absurd rfl hrc
    | refused _ _ _ _ _ hdata =>
      rcases hdata with hdata | hdata
      · exact .inl (by rw [hdata])
      · exact .inr (by rw [hdata])
    | unsaved _ _ _ _ _ _ _ hdata => exact .inr (by rw [hdata])
    | saved => exact absurd rfl hrc
  untouched id _ hne := h.cell hne

lemma committed_first (h : Effect p faults s step.setter rc t) (hgo : step.checked = true → rc = 0)
    (hpassed : rc = 0 ∨ step.setter.flag?.isSome = true) :
    ∃ value, step.setter.requested p = some value ∧
      t.data.image step.setter.id = value.take step.setter.id.limit ∧
      (t.entry step.setter.id = value.take step.setter.id.limit ∨
        t.entry step.setter.id = s.entry step.setter.id ∧ (step.checked = false ∨ step.setter.Idle s)) := by
  cases h with
  | idle hidle =>
    obtain ⟨use, hflag, -⟩ := id hidle
    obtain ⟨hreq, -, -⟩ := flag_requested (p := p) hflag
    refine ⟨_, hreq, ?_, .inr ⟨rfl, .inr hidle⟩⟩
    rw [← image_written hreq s.data, idle_written hidle]
  | refused _ _ hrc haccepted =>
    rcases hpassed with hzero | hflag
    · exact absurd hzero hrc
    · obtain ⟨use, hflag⟩ := Option.isSome_iff_exists.mp hflag
      exact absurd (flag_accepted hflag) haccepted
  | unsaved _ _ hrc _ haccepted _ _ hdata hfs =>
    obtain ⟨value, hreq⟩ := accepted_requested haccepted
    have hunchecked : step.checked = false := by
      cases hchecked : step.checked with
      | false => rfl
      | true => exact absurd (hgo hchecked) hrc
    refine ⟨value, hreq, ?_, .inr ⟨?_, .inl hunchecked⟩⟩
    · rw [hdata, image_written hreq]
    · rw [State.entry, State.entry, hfs]
  | saved _ _ haccepted _ _ hdata hfs =>
    obtain ⟨value, hreq⟩ := accepted_requested haccepted
    refine ⟨value, hreq, ?_, .inl ?_⟩
    · rw [hdata, image_written hreq]
    · rw [entry_saved hfs, image_written hreq]

lemma stopped_cons (h : Effect p faults s step.setter rc t) (hgo : step.checked = true → rc = 0)
    (hpassed : rc = 0 ∨ step.setter.flag?.isSome = true) (hstopped : Stopped p t u before failed)
    (hnotin : step.setter.id ∉ ids before) (hne : step.setter.id ≠ failed.setter.id) :
    Stopped p s u (step :: before) failed where
  committed other hother := by
    rcases List.mem_cons.mp hother with rfl | hmem
    · have hkept := hstopped.untouched _ hnotin hne
      obtain ⟨value, hreq, himage, hentry⟩ := committed_first h hgo hpassed
      have hentry' : u.entry other.setter.id = t.entry other.setter.id := congrArg Cell.entry hkept
      refine ⟨value, hreq, ?_, by rwa [hentry']⟩
      rw [← State.image_cell, hkept, State.image_cell, himage]
    · have hid : other.setter.id ≠ step.setter.id := fun he =>
        hnotin (he ▸ List.mem_map.mpr ⟨other, hmem, rfl⟩)
      have hcell := h.cell hid
      have hbytes : t.data.bytes other.setter.id = s.data.bytes other.setter.id := congrArg Cell.mem hcell
      have hentry : t.entry other.setter.id = s.entry other.setter.id := congrArg Cell.entry hcell
      have hidle : other.setter.Idle t ↔ other.setter.Idle s := by
        rw [SetterCall.Idle, SetterCall.Idle, hbytes]
      obtain ⟨value, hreq, himage, hstored⟩ := hstopped.committed other hmem
      rw [hentry, hidle] at hstored
      exact ⟨value, hreq, himage, hstored⟩
  failedEntry := hstopped.failedEntry.trans (congrArg Cell.entry (h.cell hne.symm))
  failedBytes := by
    have hbytes : t.data.bytes failed.setter.id = s.data.bytes failed.setter.id :=
      congrArg Cell.mem (h.cell hne.symm)
    rw [← hbytes, ← bytes_written_congr hbytes]
    exact hstopped.failedBytes
  untouched id hid hid' := by
    have hfirst : id ≠ step.setter.id := fun he => hid (he ▸ List.mem_cons_self)
    have hrest : id ∉ ids before := fun hmem => hid (List.mem_cons_of_mem _ hmem)
    rw [hstopped.untouched id hrest hid', h.cell hfirst]

/-- A run that stops early stops at a setter that failed, and nothing after it was called. -/
theorem runSteps_failed (p : Platform) (faults : Faults) (hsimple : Simple steps)
    (hnodup : (ids steps).Nodup) (hret : (runSteps p faults s steps).1 ≠ 0) :
    ∃ before failed after, steps = before ++ failed :: after ∧ failed.checked = true ∧
      (runSteps p faults s steps).1 = internalServerError ∧
      Stopped p s (runSteps p faults s steps).2 before failed := by
  induction steps generalizing s with
  | nil => exact absurd rfl hret
  | cons step steps ih =>
    have heffect := setter_effect p faults s step.setter
    have hfirst : step.setter.id ∉ ids steps := (List.nodup_cons.mp hnodup).1
    have hrest : (ids steps).Nodup := (List.nodup_cons.mp hnodup).2
    by_cases hstop : step.checked = true ∧ (step.setter.run p faults s).1 ≠ 0
    · rw [runSteps_cons, if_pos hstop]
      exact ⟨[], step, steps, rfl, hstop.1, rfl, stopped_nil heffect hstop.2⟩
    · have hgo : step.checked = true → (step.setter.run p faults s).1 = 0 := fun hchecked =>
        not_not.mp (fun hrc => hstop ⟨hchecked, hrc⟩)
      rw [runSteps_cons, if_neg hstop] at hret ⊢
      obtain ⟨before, failed, after, rfl, hchecked, hstatus, hstopped⟩ := ih hsimple.2 hrest hret
      have hpassed : (step.setter.run p faults s).1 = 0 ∨ step.setter.flag?.isSome = true := by
        rcases hsimple.1 with hc | hflag | ⟨-, hnil⟩
        · exact .inl (hgo hc)
        · exact .inr hflag
        · exact absurd hnil (by simp)
      have hids : ids (before ++ failed :: after) = ids before ++ failed.setter.id :: ids after := by
        simp [ids]
      rw [hids, List.mem_append, List.mem_cons, not_or, not_or] at hfirst
      exact ⟨step :: before, failed, after, rfl, hchecked, hstatus,
        stopped_cons heffect hgo hpassed hstopped hfirst.1 hfirst.2.1⟩

/-- A PATCH answered 400 has changed nothing. One answered 500 stopped at a setter that failed: that setter has
stored nothing, those before it keep their effect, and every other setting is as it was. -/
theorem patch_failure (p : Platform) (faults : Faults) (s t : State) (patch : Patch) (status : ℤ)
    (hrun : patch.run p faults s = some (status, t)) (hstatus : status ≠ 0) :
    status = badRequest ∧ t = s ∨
      ∃ before failed after, patch.plan = .steps (before ++ failed :: after) ∧ failed.checked = true ∧
        status = internalServerError ∧ Stopped p s t before failed := by
  rw [patch_run] at hrun
  have hplan := plan_simple patch
  generalize patch.plan = plan at hplan hrun ⊢
  cases plan with
  | reject =>
    cases hrun
    exact .inl ⟨rfl, rfl⟩
  | nullPointer => cases hrun
  | steps list =>
    obtain ⟨hsimple, hnodup⟩ := hplan list rfl
    have hout : runSteps p faults s list = (status, t) := Option.some.inj hrun
    have hret : (runSteps p faults s list).1 ≠ 0 := by rwa [hout]
    obtain ⟨before, failed, after, rfl, hchecked, hfailed, hstopped⟩ :=
      runSteps_failed p faults hsimple hnodup hret
    rw [hout] at hfailed hstopped
    exact .inr ⟨before, failed, after, rfl, hchecked, hfailed, hstopped⟩

def boardName : CString := ⟨ascii "bmc-07", by decide⟩

def notAnAddress : CString := ⟨ascii "10.0.0.256", by decide⟩

/-- A host name together with an address that does not parse. -/
def halfGood : Patch := .ethernet (some ⟨some boardName, none, some ⟨some notAnAddress, none, none⟩⟩)

def halfDone : State := (halfGood.run samplePlatform .none sampleState).elim sampleState Prod.snd

theorem patch_failure_half_good :
    halfGood.run samplePlatform .none sampleState = some (internalServerError, halfDone) ∧
      (internalServerError = badRequest ∧ halfDone = sampleState ∨
        ∃ before failed after, halfGood.plan = .steps (before ++ failed :: after) ∧ failed.checked = true ∧
          internalServerError = internalServerError ∧ Stopped samplePlatform sampleState halfDone before failed) :=
  have hrun : halfGood.run samplePlatform .none sampleState = some (internalServerError, halfDone) := rfl
  ⟨hrun, patch_failure samplePlatform .none sampleState halfDone halfGood internalServerError hrun (by decide)⟩

theorem half_good_changes :
    ¬ ∀ parsed status t,
      (Patch.ethernet parsed).run samplePlatform .none sampleState = some (status, t) → status ≠ 0 →
        t.data = sampleState.data ∧ ∀ id, t.entry id = sampleState.entry id := by
  intro h
  obtain ⟨-, hentry⟩ := h (some ⟨some boardName, none, some ⟨some notAnAddress, none, none⟩⟩)
    internalServerError halfDone rfl (by decide)
  exact absurd (hentry .bmcHostname) (by decide +kernel)

end WallaBMC.Settings
