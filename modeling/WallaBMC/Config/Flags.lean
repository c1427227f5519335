import WallaBMC.Config.Runs

/-! The flags `use_dhcp4`, `use_ntp` and `host_auto_poweron` across failing writes. A setter returns early
when `config_data` holds the value already, also when it does because an earlier save of it failed. -/

namespace WallaBMC.Config

open Redfish Storage Library.Bytes Library.Runs

variable {p : Platform} {faults : Faults} {s t : State} {c : SetterCall} {rc : ℤ}

/-- A flag setter that returns 0 leaves its argument in the store, and the next boot loads it. -/
def FlagSaved (p : Platform) (s : State) (call : Call) : Prop :=
  ∀ use, call.setter.flag? = some use → (callStep p s call).2 = 0 →
    (callStep p s call).1.entry call.setter.id = flagBytes use ∧
      (boot p .none (mounted (callStep p s call).1.fs)).data.bytes call.setter.id = flagBytes use

/-- Where `config_data` holds the flag's new value already, the store does too. -/
def FlagInStep (s : State) (call : Call) : Prop :=
  ∀ use, call.setter.flag? = some use → s.data.bytes call.setter.id = flagBytes use →
    s.entry call.setter.id = flagBytes use

instance (s : State) (call : Call) : Decidable (FlagInStep s call) :=
  inferInstanceAs (Decidable (∀ _, _ → _ → _))

lemma InUse.reboot_flag (hs : InUse s) {use : Bool} (hflag : c.flag? = some use)
    (hentry : s.entry c.id = flagBytes use) :
    (boot p .none (mounted s.fs)).data.bytes c.id = flagBytes use := by
  obtain ⟨hreq, hstr, hlimit⟩ := flag_requested (p := p) hflag
  have hvalue : IsValue c.id (flagBytes use) :=
    ⟨by rw [hlimit]; rfl, fun h => absurd (hstr.symm.trans h) Bool.noConfusion,
      fun _ => requested_scalar hreq hstr⟩
  have hload := reboot_inUse p hs.up hs.version (id_ne_version c)
  rw [mounted_of_up hs.up, ← ConfigData.image_scalar hstr, hload]
  have hentry' : s.fs.entry c.id.key = flagBytes use := hentry
  rw [hentry', loadedValue_value hvalue]
  exact if_neg (List.cons_ne_nil _ _)

lemma flag_saved {use : Bool} (hflag : c.flag? = some use)
    (hfs : t.fs = s.fs.put c.id.key ((c.written p s.data).image c.id)) : t.entry c.id = flagBytes use := by
  obtain ⟨hreq, -, hlimit⟩ := flag_requested (p := p) hflag
  rw [State.entry, hfs, Fs.entry_put, if_pos rfl, image_written hreq, hlimit]
  rfl

theorem flagSaved_iff (hs : InUse s) (call : Call) : FlagSaved p s call ↔ FlagInStep s call := by
  have heffect := setter_effect p call.faults s call.setter
  have hnext := callStep_inUse (p := p) s call hs
  change Effect p call.faults s call.setter (callStep p s call).2 (callStep p s call).1 at heffect
  rw [FlagSaved, FlagInStep]
  generalize (callStep p s call).1 = t at heffect hnext ⊢
  generalize (callStep p s call).2 = rc at heffect ⊢
  refine forall_congr' fun use => forall_congr' fun hflag => ?_
  have hidle : call.setter.Idle s ↔ s.data.bytes call.setter.id = flagBytes use := by
    simp [SetterCall.Idle, hflag]
  have hreboot := fun hentry => hnext.reboot_flag (p := p) hflag hentry
  cases heffect with
  | idle h =>
    constructor
    · exact fun hsaved _ => (hsaved rfl).1
    · intro hstep _
      have hentry := hstep (hidle.mp h)
      exact ⟨hentry, hreboot hentry⟩
  | refused _ _ _ hrefused => exact absurd (flag_accepted hflag) hrefused
  | unsaved _ _ hrc hnot =>
    exact ⟨fun _ hram => absurd (hidle.mpr hram) hnot, fun _ hzero => absurd hzero hrc⟩
  | saved _ hnot _ _ _ _ hfs =>
    have hentry := flag_saved (p := p) hflag hfs
    exact ⟨fun _ hram => absurd (hidle.mpr hram) hnot, fun _ _ => ⟨hentry, hreboot hentry⟩⟩

theorem flags_saved_iff (p : Platform) (faults : Faults) (fs : Fs) (calls : List Call)
    (hon : (boot p faults fs).useFs = true) :
    Along (callStep p) (FlagSaved p) (boot p faults fs) calls ↔
      Along (callStep p) FlagInStep (boot p faults fs) calls :=
  along_congr (fun s call hs _ => callStep_inUse s call hs)
    (fun _ call hs => flagSaved_iff hs call) (boot_inUse hon)

def failingWrites : Faults := ⟨fun _ => ⟨none, [enodev], ⟨none, fun _ => false, false, false⟩⟩, []⟩

theorem flags_saved_retried :
    Along (callStep samplePlatform) (FlagSaved samplePlatform)
      (boot samplePlatform .none (mounted emptyStore))
      [⟨.useNtp false, failingWrites⟩, ⟨.useNtp true, .none⟩] := by
  refine (flags_saved_iff samplePlatform .none (mounted emptyStore)
    [⟨.useNtp false, failingWrites⟩, ⟨.useNtp true, .none⟩] (by decide +kernel)).mpr ?_
  decide +kernel

theorem flag_lost_after_failed_write :
    ¬ ∀ fs calls, (boot samplePlatform .none fs).useFs = true →
      Along (callStep samplePlatform) (FlagSaved samplePlatform) (boot samplePlatform .none fs) calls := by
  intro h
  have hrun := h (mounted emptyStore) [⟨.useDhcp4 false, failingWrites⟩, ⟨.useDhcp4 false, .none⟩]
    (by decide +kernel)
  have hsecond := (hrun.2.1 false rfl (by decide +kernel)).1
  exact absurd hsecond (by decide +kernel)

end WallaBMC.Config
