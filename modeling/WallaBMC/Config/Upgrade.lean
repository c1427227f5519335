import WallaBMC.Config.Runs

/-! The flag-day upgrade. `nvs_clear` leaves the store unmounted, so the version that `config_init` writes
next is refused and the boot goes on without storage; only the boot after it sets the new store up. -/

namespace WallaBMC.Config

open Redfish Storage Library.Bytes Library.Runs

/-- What the upgrading boot should have reached. -/
structure Upgraded (p : Platform) (s : State) : Prop where
  useFs : s.useFs = true
  version : s.entry .version = [cfgCurrentVersion]
  defaults : ∀ id, id ≠ .version → s.entry id = (defaultValue p p.net id).take id.limit
  erased : ∀ key, (∀ id : ConfigId, key ≠ id.key) → s.fs.entry key = []
  persists : ∀ call value, call.setter.requested p = some value → (callStep p s call).2 = 0 →
    (callStep p s call).1.entry call.setter.id = value.take call.setter.id.limit

variable {p : Platform} {faults : Faults} {s : State} {fs : Fs} {id : ConfigId}

lemma foreign_erased (p : Platform) (hup : fs.up = true) (hforeign : Foreign fs) (key : UInt16) :
    (boot p .none fs).fs.entry key = [] := by
  obtain ⟨-, hversion, hcell⟩ := boot_foreign p hup hforeign
  by_cases hkey : ∀ id : ConfigId, key ≠ id.key
  · have hentry := configInit_entry p .none ⟨.zero, false, fs, p.net⟩ hkey
    rcases checked_mounted (checkVersion_checked .none (⟨.zero, false, fs, p.net⟩ : State)) hup with
      ⟨hnative, -⟩ | ⟨-, -, -, hfs, -⟩
    · exact absurd hforeign hnative
    · rw [hfs] at hentry
      exact hentry
  · simp only [not_forall, not_not] at hkey
    obtain ⟨id, rfl⟩ := hkey
    rw [← State.entry_cell]
    by_cases hid : id = .version
    · rw [hid]
      exact hversion
    · rw [hcell id hid]

section Fresh

variable (p : Platform) (hup : fs.up = true) (hempty : ∀ key, fs.entry key = [])

include hempty

lemma empty_native : ¬ Foreign fs := by
  rintro ⟨hlen, -⟩
  rw [hempty] at hlen
  cases hlen

include hup

lemma fresh_cell (hid : id ≠ .version) :
    (boot p .none fs).data.image id = (defaultValue p p.net id).take id.limit ∧
      (boot p .none fs).entry id = (defaultValue p p.net id).take id.limit := by
  have hdefault := isValue_default p p.net id
  have hunfit : ¬ (([] : List UInt8) ≠ [] ∧ ([] : List UInt8).length ≤ id.limit) := fun h => h.1 rfl
  have hcell := boot_native_cell p hup (empty_native hempty) hid
  rw [hempty] at hcell
  constructor
  · rw [← State.image_cell, hcell]
    refine (loadCell_image hdefault).trans ?_
    rw [loadedValue, if_neg hunfit]
  · have hentry : (boot p .none fs).entry id = ((boot p .none fs).cell id).entry := rfl
    rw [hentry, hcell]
    refine (loadCell_entry hdefault).trans ?_
    rw [if_neg hunfit]

lemma fresh_persists (call : Call) (value : List UInt8) (hreq : call.setter.requested p = some value)
    (hzero : (callStep p (boot p .none fs) call).2 = 0) :
    (callStep p (boot p .none fs) call).1.entry call.setter.id = value.take call.setter.id.limit := by
  obtain ⟨himage, hentry⟩ := fresh_cell p hup hempty (id_ne_version call.setter)
  have heffect := setter_effect p call.faults (boot p .none fs) call.setter
  change Effect p call.faults (boot p .none fs) call.setter (callStep p (boot p .none fs) call).2
    (callStep p (boot p .none fs) call).1 at heffect
  rw [hzero] at heffect
  generalize (callStep p (boot p .none fs) call).1 = t at heffect ⊢
  cases heffect with
  | idle hidle =>
    obtain ⟨use, hflag, hram⟩ := hidle
    obtain ⟨hreq', hstr, hlimit⟩ := flag_requested (p := p) hflag
    rw [hreq] at hreq'
    cases hreq'
    rw [hentry, ← himage, ConfigData.image_scalar hstr, hram, hlimit]
    rfl
  | refused _ _ hne | unsaved _ _ hne => exact absurd rfl hne
  | saved _ _ _ _ _ _ hfs => rw [State.entry, hfs, Fs.entry_put, if_pos rfl, image_written hreq]

theorem fresh_upgraded : Upgraded p (boot p .none fs) := by
  have hnative := empty_native hempty
  have hon := boot_native p hup hnative
  refine ⟨hon, (boot_inUse hon).version, fun id hid => (fresh_cell p hup hempty hid).2, fun key hkey => ?_,
    fresh_persists p hup hempty⟩
  obtain ⟨-, -, -, honly⟩ := checked_inUse (checkVersion_checked .none (⟨.zero, false, fs, p.net⟩ : State)) rfl
    ((configInit_spec p .none ⟨.zero, false, fs, p.net⟩).1.symm.trans hon)
  exact (configInit_entry p .none ⟨.zero, false, fs, p.net⟩ hkey).trans
    ((honly.entry key (hkey .version)).trans (hempty key))

end Fresh

/-- The upgrading boot erases the store and gives it up; the next one completes the upgrade. -/
theorem upgrade_delayed (p : Platform) (hforeign : Foreign fs) :
    (boot p .none (mounted fs)).useFs = false ∧
      (∀ key, (boot p .none (mounted fs)).fs.entry key = []) ∧
      Upgraded p (boot p .none (mounted (boot p .none (mounted fs)).fs)) := by
  have herased := foreign_erased p (up_mounted fs) hforeign
  exact ⟨(boot_foreign p (up_mounted fs) hforeign).1, herased, fresh_upgraded p (up_mounted _) herased⟩

theorem upgrade_never (p : Platform) (fs : Fs) (hforeign : Foreign fs) :
    ¬ Upgraded p (boot p .none (mounted fs)) := by
  intro h
  obtain ⟨hoff, -, -⟩ := upgrade_delayed p hforeign
  exact Bool.noConfusion (hoff.symm.trans h.useFs)

def oldStore : Fs := storeOf [(.version, [2]), (.bmcHostname, sampleName.bytes)]

theorem upgrade_never_old : Foreign oldStore ∧ ¬ Upgraded samplePlatform (boot samplePlatform .none (mounted oldStore)) :=
  ⟨by decide, upgrade_never samplePlatform oldStore (by decide)⟩

theorem upgrade_without_storage :
    ¬ ∀ fs, Foreign fs → Upgraded samplePlatform (boot samplePlatform .none (mounted fs)) := by
  intro h
  have huse := (h oldStore (by decide)).useFs
  exact absurd huse (by decide +kernel)

end WallaBMC.Config
