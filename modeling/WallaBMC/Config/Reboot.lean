import WallaBMC.Config.Runs

/-! A reboot after successful setter calls. An empty string is stored as no data, which deletes its key, so
the next boot puts the default in its place; every other value survives. -/

namespace WallaBMC.Config

open Redfish Storage Library.Bytes Library.Runs

def lastSetter (id : ConfigId) (calls : List Call) : Option SetterCall :=
  (calls.reverse.find? (fun call => call.setter.id = id)).map Call.setter

/-- The last setter call for the field asked for the empty string. -/
def Emptied (p : Platform) (id : ConfigId) (calls : List Call) : Prop :=
  (lastSetter id calls).bind (fun c => c.requested p) = some []

instance (p : Platform) (id : ConfigId) (calls : List Call) : Decidable (Emptied p id calls) :=
  inferInstanceAs (Decidable (_ = _))

variable {p : Platform} {faults : Faults} {s t : State} {c : SetterCall} {rc : ℤ} {id : ConfigId}
  {calls : List Call} {call : Call} {value : List UInt8}

lemma limit_pos (id : ConfigId) : 0 < id.limit := by
  cases id <;> decide

lemma take_limit_eq_nil : value.take id.limit = [] ↔ value = [] := by
  rw [List.take_eq_nil_iff]
  exact or_iff_right (limit_pos id).ne'

lemma lastSetter_append :
    lastSetter id (calls ++ [call]) = if call.setter.id = id then some call.setter else lastSetter id calls := by
  rw [lastSetter, List.reverse_append, List.reverse_singleton, List.singleton_append, List.find?_cons]
  by_cases h : call.setter.id = id
  · simp [h]
  · simp [h, lastSetter]

lemma emptied_append_of_ne (h : call.setter.id ≠ id) :
    Emptied p id (calls ++ [call]) ↔ Emptied p id calls := by
  rw [Emptied, lastSetter_append, if_neg h]
  rfl

lemma emptied_append_self :
    Emptied p call.setter.id (calls ++ [call]) ↔ call.setter.requested p = some [] := by
  rw [Emptied, lastSetter_append, if_pos rfl]
  rfl

lemma lastSetter_id (h : lastSetter id calls = some c) : c.id = id := by
  obtain ⟨call, hfind, rfl⟩ := Option.map_eq_some_iff.mp h
  simpa using List.find?_some hfind

lemma not_emptied_scalar (hstr : id.isStr = false) (calls : List Call) : ¬ Emptied p id calls := by
  intro h
  obtain ⟨c, hc, hreq⟩ := Option.bind_eq_some_iff.mp h
  have hid := lastSetter_id hc
  subst hid
  have hlen := requested_scalar hreq hstr
  exact c.id.size_pos.ne hlen

lemma agrees_saved (hreq : c.requested p = some value) (hdata : t.data = c.written p s.data)
    (hentry : t.entry c.id = (c.written p s.data).image c.id) :
    Agrees p t c.id ↔ (c.requested p = some [] → defaultValue p p.net c.id = []) := by
  have himage := image_written hreq s.data
  rw [Agrees, hentry, hdata, himage, loadedValue_value (isValue_requested hreq), hreq]
  by_cases hnil : value = []
  · rw [if_pos (take_limit_eq_nil.mpr hnil), hnil, List.take_nil, take_limit_eq_nil]
    exact ⟨fun h _ => h, fun h => h rfl⟩
  · rw [if_neg (fun h => hnil (take_limit_eq_nil.mp h))]
    exact ⟨fun _ h => absurd (Option.some.inj h) hnil, fun _ => rfl⟩

lemma flag_scalar (h : c.Idle s) : c.id.isStr = false := by
  obtain ⟨use, hflag, -⟩ := h
  cases c <;> first | rfl | cases hflag

lemma agrees_step (hrc : (callStep p s call).2 = 0)
    (hbefore : Agrees p s id ↔ (Emptied p id calls → defaultValue p p.net id = [])) :
    Agrees p (callStep p s call).1 id ↔
      (Emptied p id (calls ++ [call]) → defaultValue p p.net id = []) := by
  have heffect := setter_effect p call.faults s call.setter
  change Effect p call.faults s call.setter (callStep p s call).2 (callStep p s call).1 at heffect
  rw [hrc] at heffect
  generalize (callStep p s call).1 = t at heffect ⊢
  by_cases hid : call.setter.id = id
  · subst hid
    rw [emptied_append_self]
    cases heffect with
    | idle hidle =>
      have hstr := flag_scalar hidle
      have hagrees := hbefore.mpr (fun h => absurd h (not_emptied_scalar hstr calls))
      refine iff_of_true hagrees (fun hreq => ?_)
      exact absurd (requested_scalar hreq hstr) call.setter.id.size_pos.ne
    | refused _ _ hne | unsaved _ _ hne => exact absurd rfl hne
    | saved _ _ haccepted _ _ hdata hfs =>
      obtain ⟨value, hreq⟩ := accepted_requested haccepted
      exact agrees_saved hreq hdata (entry_saved hfs)
  · rw [emptied_append_of_ne hid, ← hbefore]
    have hcell := heffect.cell (Ne.symm hid)
    rw [Agrees, Agrees, ← State.image_cell, ← State.image_cell, hcell]
    exact iff_of_eq (congrArg (fun c : Cell => loadedValue id _ c.entry = _) hcell)

lemma boot_agrees {fs : Fs} (hup : fs.up = true) (hon : (boot p .none fs).useFs = true)
    (hid : id ≠ .version) : Agrees p (boot p .none fs) id := by
  have hinUse := boot_inUse hon
  have hagain := (boot_again p hup id).1
  exact (hinUse.reboot_agrees hid).mp hagain

lemma agrees_run {fs : Fs} (hup : fs.up = true) (hon : (boot p .none fs).useFs = true)
    (hzero : ∀ v ∈ trace (callStep p) (boot p .none fs) calls, v.output = 0) (hid : id ≠ .version) :
    Agrees p (exec (callStep p) (boot p .none fs) calls) id ↔
      (Emptied p id calls → defaultValue p p.net id = []) := by
  induction calls using List.reverseRecOn with
  | nil =>
    exact iff_of_true (boot_agrees hup hon hid) (fun h => nomatch h)
  | append_singleton calls call ih =>
    rw [trace_append] at hzero
    have hbefore := ih (fun v hv => hzero v (List.mem_append_left _ hv))
    have hlast := hzero _ (List.mem_append_right _ List.mem_cons_self)
    rw [exec_concat]
    exact agrees_step hlast hbefore

/-- Exactly the emptied strings, unless their default is empty too, are lost at a reboot. -/
theorem reboot_preserves_iff (p : Platform) (fs : Fs) (calls : List Call)
    (hon : (boot p .none (mounted fs)).useFs = true)
    (hzero : ∀ v ∈ trace (callStep p) (boot p .none (mounted fs)) calls, v.output = 0) :
    let s := exec (callStep p) (boot p .none (mounted fs)) calls
    (∀ id, id ≠ .version → (boot p .none (mounted s.fs)).data.image id = s.data.image id) ↔
      ∀ id, Emptied p id calls → defaultValue p p.net id = [] := by
  have hinUse := exec_inUse (p := p) (boot_inUse hon) calls
  have hagrees {id : ConfigId} (hid : id ≠ .version) := agrees_run (up_mounted fs) hon hzero hid
  constructor
  · intro h id
    by_cases hid : id = .version
    · subst hid
      exact fun hemptied => absurd hemptied (not_emptied_scalar rfl calls)
    · exact (hagrees hid).mp ((hinUse.reboot_agrees hid).mp (h id hid))
  · intro h id hid
    exact (hinUse.reboot_agrees hid).mpr ((hagrees hid).mpr (h id))

def quietCall (c : SetterCall) : Call := ⟨c, .none⟩

theorem reboot_preserves_renamed :
    (boot samplePlatform .none (mounted emptyStore)).useFs = true ∧
      (∀ id, id ≠ .version →
        (boot samplePlatform .none (mounted (exec (callStep samplePlatform)
          (boot samplePlatform .none (mounted emptyStore)) [quietCall (.hostname otherName)]).fs)).data.image id =
        (exec (callStep samplePlatform) (boot samplePlatform .none (mounted emptyStore))
          [quietCall (.hostname otherName)]).data.image id) := by
  refine ⟨by decide +kernel, ?_⟩
  refine (reboot_preserves_iff samplePlatform emptyStore [quietCall (.hostname otherName)]
    (by decide +kernel) ?_).mpr ?_
  · decide +kernel
  · intro id
    cases id <;> decide +kernel

def noName : CString := ⟨[], nofun⟩

theorem empty_password_lost :
    ¬ ∀ fs calls, (boot samplePlatform .none (mounted fs)).useFs = true →
      (∀ v ∈ trace (callStep samplePlatform) (boot samplePlatform .none (mounted fs)) calls, v.output = 0) →
      ∀ id, id ≠ .version →
        (boot samplePlatform .none (mounted (exec (callStep samplePlatform)
          (boot samplePlatform .none (mounted fs)) calls).fs)).data.image id =
        (exec (callStep samplePlatform) (boot samplePlatform .none (mounted fs)) calls).data.image id := by
  intro h
  have hlost := h emptyStore [quietCall (.password noName)] (by decide +kernel) ?_ .bmcAdminPassword
    (by decide)
  · exact absurd hlost (by decide +kernel)
  · decide +kernel

end WallaBMC.Config
