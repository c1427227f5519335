import WallaBMC.Settings.Shown
import WallaBMC.System.Commands

/-! What the BMC remembers over its life: the settings it works with and those that the next boot will find. Its
purpose here is stated without a flash: an assignment lasts until it is overwritten, a reset to the defaults is one. -/

namespace WallaBMC.System

open Library.Bytes Library.Runs Redfish Storage Config Documents Settings Time
open Settings.Payloads (Bmc Environment Means Prior Request garbage handle means_handle sampleEnvironment)

/-- `inUse` while what is assigned is saved as well. -/
structure Memory where
  live : Shown
  saved : ConfigId → List UInt8
  inUse : Bool

inductive Op
  | assign (c : SetterCall)
  | shutdown
  | factory
  | boot (mounted : Bool)

section

variable (p : Platform)

def factoryDefault (id : ConfigId) : List UInt8 := (defaultValue p p.net id).take id.limit

/-- An empty value does not outlast a boot. -/
def kept (id : ConfigId) (value : List UInt8) : List UInt8 := if value = [] then factoryDefault p id else value

def Memory.assign (a : Memory) (c : SetterCall) : Memory where
  live := a.live.assign p c
  saved := match taken p c with
    | none => a.saved
    | some value =>
      if a.inUse then Function.update a.saved c.id (kept p c.id (value.take c.id.limit)) else a.saved
  inUse := a.inUse

def Memory.boot (a : Memory) (mounted : Bool) : Memory :=
  let value := if mounted then a.saved else factoryDefault p
  ⟨⟨value, value .bmcHostname⟩, a.saved, mounted⟩

def Memory.apply (a : Memory) : Op → Memory
  | .assign c => a.assign p c
  | .shutdown => { a with inUse := false }
  | .factory => { a with saved := factoryDefault p, inUse := false }
  | .boot mounted => a.boot p mounted

def recalled (fs : Fs) : Memory :=
  ⟨⟨factoryDefault p, p.net.hostname.bytes⟩, fun id => loadedValue id (defaultValue p p.net id) (fs.entry id.key), false⟩

end

def BootEnv.mounts (env : BootEnv) : Bool := env.deviceReady && env.pageInfo.isNone && env.mount.isNone

def namedBy (req : Request) : List SetterCall := ((patchOf req).map Patch.named).getD []

def Event.ops : Event → List Op
  | .request _ _ req => (namedBy req).map .assign
  | .command _ cmd arg => (cmd.named arg).map .assign
  | .power _ => []
  | .clear _ => [.factory]
  | .resetWork val _ => if val = 1 then [.factory] else []
  | .reboot => [.shutdown]
  | .reset env => [.boot env.mounts]

/-- Writes that fail are retried with success. -/
def Reliable (faults : Faults) : Prop := ∀ id, Outlasted flashWriteRetryCount (faults.field id).write

/-- The network takes the name of the configuration at boot, and nothing fails while it is loaded. -/
structure BootEnv.Sound (env : BootEnv) : Prop where
  faults : env.faults = .none
  hostname_set : env.netFaults.hostname = none
  app_hostname : ∀ net, (env.app.run net).2.hostname = net.hostname

/-- Whatever names settings is answered with success, and the store is cleared when it is asked to be. -/
def Allowed (p : Platform) (cal : Calendar) (m : Machine) (e : Event) : Prop :=
  match e with
  | .request env prior req =>
    Reliable env.faults ∧ req.Clean prior ∧ (namedBy req ≠ [] → (lifeStep p cal m e).2 = some 0)
  | .command faults cmd arg => Reliable faults ∧ (cmd.named arg ≠ [] → (lifeStep p cal m e).2 = some 0)
  | .power _ | .reboot => True
  | .clear _ => (lifeStep p cal m e).2 = none
  | .resetWork val _ => val = 1 → (lifeStep p cal m e).2 = none
  | .reset env => env.Sound

/-- The same but for the version of the layout, which is no setting. -/
structure Shown.Alike (a b : Shown) : Prop where
  value : ∀ id, id ≠ .version → a.value id = b.value id
  hostname : a.hostname = b.hostname

def Saves (p : Platform) (s : State) (a : Memory) : Prop :=
  ∀ id, id ≠ .version → loadedValue id (defaultValue p p.net id) (s.entry id) = a.saved id

structure Holds (s : State) (a : Memory) : Prop where
  live : Shown.Alike (shown s) a.live
  inUse : if a.inUse then InUse s else s.usable = false
  scalars : a.inUse = true → ∀ id, id.isStr = false → id ≠ .version → a.saved id = a.live.value id

structure Remembers (p : Platform) (m : Machine) (a : Memory) : Prop where
  native : ¬ Foreign m.config.fs
  saves : Saves p m.config a
  holds : m.loaded = true → Holds m.config a
  serving : m.serving = true → m.loaded = true
  finished : m.bootFinished = true → m.loaded = true

variable {p : Platform} {cal : Calendar} {faults : Faults} {s t : State} {a b : Memory} {c : SetterCall} {rc : ℤ}
  {value : List UInt8} {m : Machine}

section Assign

lemma taken_requested (h : taken p c = some value) : c.requested p = some value := by
  cases c with
  | password str =>
    rw [taken] at h
    split_ifs at h
    exact h
  | _ => exact h

lemma accepted_taken (h : c.Accepted p faults s) : ∃ value, taken p c = some value := by
  obtain ⟨value, hreq⟩ := accepted_requested h
  cases c with
  | password str => exact ⟨_, if_pos h⟩
  | _ => exact ⟨value, hreq⟩

lemma taken_accepted (h : Effect p faults s c rc t) (hanswered : Answered c rc) (htaken : taken p c = some value) :
    c.Idle s ∨ c.Accepted p faults s := by
  rcases hanswered with hrc | hflag | ⟨str, rfl⟩
  · exact (h.zero_iff.mp hrc).imp_right And.left
  · obtain ⟨use, huse⟩ := Option.isSome_iff_exists.mp hflag
    exact .inr (flag_accepted huse)
  · right
    rw [taken] at htaken
    split_ifs at htaken with hfits
    exact hfits

lemma passed_fs (h : Effect p faults s c rc t) (htaken : taken p c = none) : t.fs = s.fs := by
  cases h with
  | idle => rfl
  | refused _ _ _ _ _ _ hfs | unsaved _ _ _ _ _ _ _ _ hfs => exact hfs
  | saved _ _ haccepted =>
    obtain ⟨value, hsome⟩ := accepted_taken haccepted
    rw [htaken] at hsome
    cases hsome

lemma unusable_fs (h : Effect p faults s c rc t) (hoff : s.usable = false) : t.fs = s.fs := by
  cases h with
  | idle => rfl
  | refused _ _ _ _ _ _ hfs | unsaved _ _ _ _ _ _ _ _ hfs => exact hfs
  | saved _ _ _ hwritable =>
    rw [(writable_iff.mp hwritable).1] at hoff
    cases hoff

lemma taken_entry (h : Effect p faults s c rc t) (hanswered : Answered c rc) (hwritable : s.Writable faults c.id)
    (htaken : taken p c = some value) :
    c.Idle s ∧ t.entry c.id = s.entry c.id ∨ t.entry c.id = value.take c.id.limit := by
  have haccepts := taken_accepted h hanswered htaken
  cases h with
  | idle hidle => exact .inl ⟨hidle, rfl⟩
  | refused _ _ hrc haccepted _ _ hfs =>
    have hidle := haccepts.resolve_right haccepted
    exact .inl ⟨hidle, congrArg (fun fs : Fs => fs.entry c.id.key) hfs⟩
  | unsaved _ _ _ _ _ hnot => exact absurd hwritable hnot
  | saved _ _ _ _ _ _ hfs => exact .inr ((entry_saved hfs).trans (image_written (taken_requested htaken) s.data))

lemma saved_of_ne {id : ConfigId} (hid : id ≠ c.id) : (a.assign p c).saved id = a.saved id := by
  rw [Memory.assign]
  cases taken p c with
  | none => rfl
  | some value =>
    dsimp only
    split_ifs
    · exact Function.update_of_ne hid _ _
    · rfl

lemma saved_of_none (htaken : taken p c = none) : (a.assign p c).saved = a.saved := by
  rw [Memory.assign, htaken]

lemma saved_of_off (hoff : a.inUse = false) : (a.assign p c).saved = a.saved := by
  rw [Memory.assign, hoff]
  cases taken p c <;> rfl

lemma saved_self (hon : a.inUse = true) (htaken : taken p c = some value) :
    (a.assign p c).saved c.id = kept p c.id (value.take c.id.limit) := by
  rw [Memory.assign, htaken, hon]
  exact Function.update_self _ _ _

lemma Holds.writable (h : Holds s a) (hon : a.inUse = true) {id : ConfigId}
    (hreliable : Outlasted flashWriteRetryCount (faults.field id).write) : s.Writable faults id := by
  have hinUse := h.inUse
  rw [hon] at hinUse
  exact ⟨hinUse.useFs, hinUse.up, hreliable⟩

lemma Holds.unusable (h : Holds s a) (hoff : a.inUse = false) : s.usable = false := by
  have hinUse := h.inUse
  rw [hoff] at hinUse
  exact hinUse

lemma idle_saved (hidle : c.Idle s) (htaken : taken p c = some value) (hholds : Holds s a) (hon : a.inUse = true) :
    a.saved c.id = kept p c.id (value.take c.id.limit) := by
  obtain ⟨use, hflag, hram⟩ := hidle
  obtain ⟨hreq, hstr, hlimit⟩ := flag_requested (p := p) hflag
  have hvalue : value = flagBytes use := Option.some.inj ((taken_requested htaken).symm.trans hreq)
  have hkept : kept p c.id (value.take c.id.limit) = flagBytes use := by
    rw [hvalue, hlimit]
    exact if_neg (List.cons_ne_nil _ _)
  have hlive : a.live.value c.id = s.data.image c.id := (hholds.live.value c.id (id_ne_version c)).symm
  rw [hkept, hholds.scalars hon c.id hstr (id_ne_version c), hlive, ConfigData.image_scalar hstr, hram]

lemma saves_assign (h : Effect p faults s c rc t) (hanswered : Answered c rc)
    (hreliable : Outlasted flashWriteRetryCount (faults.field c.id).write) (hsaves : Saves p s a)
    (hholds : Holds s a) : Saves p t (a.assign p c) := by
  intro id hid
  by_cases hc : id = c.id
  · subst hc
    cases htaken : taken p c with
    | none =>
      rw [saved_of_none htaken, State.entry, passed_fs h htaken]
      exact hsaves _ hid
    | some value =>
      cases hon : a.inUse with
      | false =>
        rw [saved_of_off hon, State.entry, unusable_fs h (hholds.unusable hon)]
        exact hsaves _ hid
      | true =>
        rw [saved_self hon htaken]
        rcases taken_entry h hanswered (hholds.writable hon hreliable) htaken with ⟨hidle, hentry⟩ | hentry
        · rw [hentry, hsaves _ hid]
          exact idle_saved hidle htaken hholds hon
        · rw [hentry, loadedValue_value (isValue_requested (taken_requested htaken))]
          rfl
  · have hentry : t.entry id = s.entry id := congrArg Cell.entry (h.cell hc)
    rw [saved_of_ne hc, hentry]
    exact hsaves id hid

lemma alike_assign {live live' : Shown} (h : Shown.Alike live live') (c : SetterCall) :
    Shown.Alike (live.assign p c) (live'.assign p c) := by
  rw [Shown.assign, Shown.assign]
  cases taken p c with
  | none => exact h
  | some value =>
    constructor
    · intro id hid
      dsimp only
      by_cases hc : id = c.id
      · subst hc
        rw [Function.update_self, Function.update_self]
      · rw [Function.update_of_ne hc, Function.update_of_ne hc, h.value id hid]
    · dsimp only
      rw [h.hostname]

lemma live_of_ne {id : ConfigId} {live : Shown} (hid : id ≠ c.id) : (live.assign p c).value id = live.value id := by
  rw [Shown.assign]
  cases taken p c with
  | none => rfl
  | some value => exact Function.update_of_ne hid _ _

lemma live_self {live : Shown} (htaken : taken p c = some value) :
    (live.assign p c).value c.id = value.take c.id.limit := by
  rw [Shown.assign, htaken]
  exact Function.update_self _ _ _

lemma scalars_assign (hholds : Holds s a) (hon : a.inUse = true) {id : ConfigId} (hstr : id.isStr = false)
    (hid : id ≠ .version) : (a.assign p c).saved id = (a.assign p c).live.value id := by
  have hold := hholds.scalars hon id hstr hid
  have hlive : (a.assign p c).live = a.live.assign p c := rfl
  rw [hlive]
  by_cases hc : id = c.id
  · subst hc
    cases htaken : taken p c with
    | none =>
      rw [saved_of_none htaken, Shown.assign, htaken]
      exact hold
    | some value =>
      have hfull : (value.take c.id.limit).length = c.id.size :=
        (isValue_requested (taken_requested htaken)).full hstr
      rw [saved_self hon htaken, live_self htaken]
      exact if_neg fun hnil => c.id.size_pos.ne (by rw [← hfull, hnil]; rfl)
  · rw [saved_of_ne hc, live_of_ne hc]
    exact hold

lemma holds_assign (hanswered : Answered c (c.run p faults s).1) (hholds : Holds s a) :
    Holds (c.run p faults s).2 (a.assign p c) := by
  have heffect := setter_effect p faults s c
  have hinUse := hholds.inUse
  constructor
  · rw [setter_shown hanswered]
    exact alike_assign hholds.live c
  · have husable : (c.run p faults s).2.usable = s.usable := by
      rw [State.usable, State.usable, heffect.useFs, heffect.up]
    cases hon : a.inUse with
    | false =>
      rw [Memory.assign, hon]
      exact husable.trans (hholds.unusable hon)
    | true =>
      rw [hon] at hinUse
      rw [Memory.assign, hon]
      exact heffect.inUse hinUse
  · exact fun hon _ hstr hid => scalars_assign hholds hon hstr hid

lemma native_assign (hnative : ¬ Foreign s.fs) (h : Effect p faults s c rc t) : ¬ Foreign t.fs := by
  have hentry : t.entry .version = s.entry .version := congrArg Cell.entry (h.cell (id_ne_version c).symm)
  rw [Foreign] at hnative ⊢
  change ¬ ((t.entry .version).length = 1 ∧ t.entry .version ≠ [cfgCurrentVersion])
  rw [hentry]
  exact hnative

structure Runs (p : Platform) (s : State) (a : Memory) : Prop where
  native : ¬ Foreign s.fs
  saves : Saves p s a
  holds : Holds s a

lemma runs_assign (hanswered : Answered c (c.run p faults s).1) (hreliable : Reliable faults) (h : Runs p s a) :
    Runs p (c.run p faults s).2 (a.assign p c) := by
  have heffect := setter_effect p faults s c
  constructor
  · exact native_assign h.native heffect
  · exact saves_assign heffect hanswered (hreliable c.id) h.saves h.holds
  · exact holds_assign hanswered h.holds

lemma runs_patch {patch : Patch} (hreliable : Reliable faults) (hrun : patch.run p faults s = some (0, t))
    (h : Runs p s a) : Runs p t (patch.named.foldl (Memory.assign p) a) :=
  patch_rule (fun _ _ _ hanswered h => runs_assign hanswered hreliable h) hrun h

lemma unnamed_patch {patch : Patch} (hnamed : patch.named = []) (hrun : patch.run p faults s = some (rc, t)) :
    t = s := by
  rw [Patch.named] at hnamed
  rw [patch_run] at hrun
  generalize patch.plan = plan at hnamed hrun
  cases plan with
  | reject =>
    cases hrun
    rfl
  | nullPointer => cases hrun
  | steps list =>
    obtain rfl := List.map_eq_nil_iff.mp hnamed
    cases hrun
    rfl

end Assign

section Boot

variable {env : BootEnv} {fs : Fs}

lemma netInit_keeps (app : NetConfigInitApp) (netFaults stopFaults : NetFaults) (s : State) :
    (netInit app netFaults stopFaults s).2.data = s.data ∧ (netInit app netFaults stopFaults s).2.useFs = s.useFs ∧
      (netInit app netFaults stopFaults s).2.fs = s.fs := by
  have haddress : ∀ s : State, (netInitAddress netFaults s).data = s.data ∧
      (netInitAddress netFaults s).useFs = s.useFs ∧ (netInitAddress netFaults s).fs = s.fs := by
    intro s
    rw [netInitAddress]
    split_ifs <;> exact ⟨rfl, rfl, rfl⟩
  have hdhcp : ∀ s : State, (netInitDhcp4 stopFaults s).data = s.data ∧
      (netInitDhcp4 stopFaults s).useFs = s.useFs ∧ (netInitDhcp4 stopFaults s).fs = s.fs := by
    intro s
    rw [netInitDhcp4]
    split_ifs <;> exact ⟨rfl, rfl, rfl⟩
  obtain ⟨hdata, huse, hfs⟩ := haddress s
  rw [netInit]
  dsimp only
  split_ifs
  · exact ⟨hdata, huse, hfs⟩
  · obtain ⟨hdata', huse', hfs'⟩ := hdhcp { netInitAddress netFaults s with net := (app.run (netInitAddress netFaults s).net).2 }
    exact ⟨hdata'.trans hdata, huse'.trans huse, hfs'.trans hfs⟩

lemma boot_disabled (p : Platform) (faults : Faults) (hoff : fs.enabled = false) :
    (boot p faults fs).usable = false ∧ (∀ id, (boot p faults fs).entry id = fs.entry id.key) ∧
      ∀ id, id ≠ .version → (boot p faults fs).data.image id = factoryDefault p id := by
  have hcheck : checkVersion faults (⟨.zero, false, fs, p.net⟩ : State) = ⟨.zero, false, fs, p.net⟩ := by
    have hdisabled : ¬ fs.enabled = true := fun hon => Bool.noConfusion (hoff.symm.trans hon)
    exact if_neg hdisabled
  obtain ⟨huse, -, -, hversion, hcell⟩ := configInit_spec p faults ⟨.zero, false, fs, p.net⟩
  have hloaded : ∀ id, id ≠ .version → (boot p faults fs).cell id =
      ⟨overwrite (blank id) (id.layout ((defaultValue p p.net id).take id.limit)), fs.entry id.key⟩ := by
    intro id hid
    refine (hcell id hid).trans ?_
    change loadCell (checkVersion faults (⟨.zero, false, fs, p.net⟩ : State)).usable id _ _ _ = _
    rw [hcheck]
    exact loadCell_off _ _
  refine ⟨?_, fun id => ?_, fun id hid => ?_⟩
  · have hused : (boot p faults fs).useFs = false := huse.trans (congrArg State.useFs hcheck)
    rw [State.usable, hused, Bool.false_and]
  · by_cases hid : id = .version
    · rw [hid]
      exact (congrArg Cell.entry hversion).trans (congrArg (fun s : State => s.entry .version) hcheck)
    · exact congrArg Cell.entry (hloaded id hid)
  · refine (congrArg (fun cell : Cell => id.image cell.mem) (hloaded id hid)).trans ?_
    exact image_value (isValue_default p p.net id) (length_blank id)

lemma fsInit_mounts (fs : Fs) :
    (fsInit fs env.deviceReady env.pageInfo env.mount).2 = if env.mounts then mounted fs else fs := by
  rw [fsInit, BootEnv.mounts]
  cases env.deviceReady <;> cases env.pageInfo <;> cases env.mount <;> rfl

lemma boot_runs (hnative : ¬ Foreign fs) (hup : fs.up = true)
    (hsaves : ∀ id, id ≠ .version → loadedValue id (defaultValue p p.net id) (fs.entry id.key) = a.saved id) :
    InUse (boot p .none fs) ∧ Saves p (boot p .none fs) a ∧
      ∀ id, id ≠ .version → (boot p .none fs).data.image id = a.saved id := by
  refine ⟨boot_inUse (boot_native p hup hnative), fun id hid => ?_, fun id hid => ?_⟩
  · have hentry : (boot p .none fs).entry id = _ := congrArg Cell.entry (boot_native_cell p hup hnative hid)
    rw [hentry, ← hsaves id hid]
    exact loadedValue_again (isValue_default p p.net id)
  · have himage := congrArg (fun cell : Cell => id.image cell.mem) (boot_native_cell p hup hnative hid)
    rw [← hsaves id hid]
    exact himage.trans (loadCell_image (isValue_default p p.net id))

lemma foreign_entry {fs' : Fs} (h : fs'.entry ConfigId.version.key = fs.entry ConfigId.version.key) :
    Foreign fs' ↔ Foreign fs := by
  rw [Foreign, Foreign, h]

lemma native_inUse (h : InUse s) : ¬ Foreign s.fs := fun hforeign => hforeign.2 h.version

lemma netInit_runs {value : ConfigId → List UInt8} (hsound : env.Sound) (hnative : ¬ Foreign s.fs) (hsaves : Saves p s a)
    (hinUse : if a.inUse then InUse s else s.usable = false)
    (himage : ∀ id, id ≠ .version → s.data.image id = value id) (hscalars : a.inUse = true → a.saved = value)
    (hlive : a.live = ⟨value, value .bmcHostname⟩) :
    Runs p (netInit env.app env.netFaults env.stopFaults s).2 a := by
  obtain ⟨hdata, huse, hfs⟩ := netInit_keeps env.app env.netFaults env.stopFaults s
  have hname : (netInit env.app env.netFaults env.stopFaults s).2.net.hostname = s.data.bmcHostname :=
    hostname_netInit hsound.app_hostname hsound.hostname_set s
  generalize (netInit env.app env.netFaults env.stopFaults s).2 = t at hdata huse hfs hname ⊢
  have hentry : ∀ id, t.entry id = s.entry id := fun id => congrArg (fun fs : Fs => fs.entry id.key) hfs
  constructor
  · rwa [hfs]
  · intro id hid
    rw [hentry]
    exact hsaves id hid
  · constructor
    · rw [hlive]
      constructor
      · intro id hid
        exact (congrArg (fun data : ConfigData => data.image id) hdata).trans (himage id hid)
      · exact (congrArg CString.bytes hname).trans (himage .bmcHostname ConfigId.noConfusion)
    · cases hon : a.inUse with
      | false =>
        rw [hon] at hinUse
        change t.usable = false
        rw [State.usable, huse, hfs]
        exact hinUse
      | true =>
        rw [hon] at hinUse
        have hs : InUse s := hinUse
        exact ⟨huse.trans hs.useFs, (congrArg Fs.up hfs).trans hs.up, (hentry .version).trans hs.version⟩
    · intro hon id _ _
      rw [hlive, hscalars hon]

lemma bootNet_runs (hsound : env.Sound) (hdown : fs.enabled = false) (hnative : ¬ Foreign fs)
    (hsaves : ∀ id, id ≠ .version → loadedValue id (defaultValue p p.net id) (fs.entry id.key) = a.saved id) :
    Runs p (bootNet p env ⟨.zero, false, fs, p.net⟩).2 (a.boot p env.mounts) := by
  have hboot : (bootNet p env ⟨.zero, false, fs, p.net⟩).2 = (netInit env.app env.netFaults env.stopFaults
      (boot p .none (if env.mounts then mounted fs else fs))).2 := by
    rw [bootNet, hsound.faults]
    dsimp only
    rw [fsInit_mounts]
    rfl
  rw [hboot]
  cases hmounts : env.mounts with
  | false =>
    obtain ⟨husable, hentry, himage⟩ := boot_disabled p .none hdown
    apply netInit_runs (a := a.boot p false) hsound _ _ husable himage Bool.noConfusion rfl
    · exact fun hforeign => hnative ((foreign_entry (hentry .version)).mp hforeign)
    · intro id hid
      rw [hentry]
      exact hsaves id hid
  | true =>
    have hmounted : ¬ Foreign (mounted fs) := fun h => hnative ((foreign_entry rfl).mp h)
    obtain ⟨hinUse, hagain, himage⟩ := boot_runs hmounted (up_mounted fs) hsaves
    exact netInit_runs hsound (native_inUse hinUse) hagain hinUse himage (fun _ => rfl) rfl

end Boot

section Steps

variable {env : BootEnv}

lemma Remembers.runs (h : Remembers p m a) (hloaded : m.loaded = true) : Runs p m.config a :=
  ⟨h.native, h.saves, h.holds hloaded⟩

lemma remembers_config (h : Remembers p m a) (hruns : m.loaded = true → Runs p s b)
    (hloaded : m.loaded = true) : Remembers p { m with config := s } b where
  native := (hruns hloaded).native
  saves := (hruns hloaded).saves
  holds := fun _ => (hruns hloaded).holds
  serving := h.serving
  finished := h.finished

lemma remembers_beside {m' : Machine} (h : Remembers p m a) (hconfig : m'.config = m.config)
    (hloaded : m'.loaded = m.loaded) (hserving : m'.serving = m.serving) (hfinished : m'.bootFinished = m.bootFinished) :
    Remembers p m' a := by
  obtain ⟨config, clock, host, loaded, serving, finished⟩ := m'
  cases hconfig
  cases hloaded
  cases hserving
  cases hfinished
  exact ⟨h.native, h.saves, h.holds, h.serving, h.finished⟩

lemma foldl_assign (list : List SetterCall) (a : Memory) :
    (list.map .assign).foldl (Memory.apply p) a = list.foldl (Memory.assign p) a := by
  rw [List.foldl_map]
  rfl

lemma remembers_reset (hsound : env.Sound) (h : Remembers p m a) :
    Remembers p (restart p cal env m) (a.boot p env.mounts) := by
  have hbooted := restart_booted p cal env m
  have hfs : ¬ Foreign (m.reset p).config.fs := fun hforeign => h.native ((foreign_entry rfl).mp hforeign)
  generalize restart p cal env m = t at hbooted ⊢
  cases hbooted with
  | stopped hloaded hserving hfinished hconfig =>
    constructor
    · rwa [hconfig]
    · rw [hconfig]
      exact h.saves
    · exact fun hon => Bool.noConfusion (hloaded.symm.trans hon)
    · exact fun hon => Bool.noConfusion (hserving.symm.trans hon)
    · exact fun hon => Bool.noConfusion (hfinished.symm.trans hon)
  | loaded hloaded hconfig =>
    have hruns : Runs p (bootNet p env (m.reset p).config).2 (a.boot p env.mounts) :=
      bootNet_runs hsound rfl hfs h.saves
    rw [← hconfig] at hruns
    exact ⟨hruns.native, hruns.saves, fun _ => hruns.holds, fun _ => hloaded, fun _ => hloaded⟩

lemma remembers_reboot (h : Remembers p m a) : Remembers p (bmcReboot m) { a with inUse := false } where
  native := fun hforeign => h.native ((foreign_entry rfl).mp hforeign)
  saves := h.saves
  holds hloaded := by
    have hholds := h.holds hloaded
    refine ⟨hholds.live, ?_, Bool.noConfusion⟩
    exact Bool.and_false _
  serving := h.serving
  finished := h.finished

lemma again_clear_erased {retries : ℕ} {clearFaults : List ClearFault} {nvs : Nvs}
    (h : (again (fun fault nvs => nvs.clear fault) retries clearFaults nvs).1 = 0) :
    (again (fun fault nvs => nvs.clear fault) retries clearFaults nvs).2.entries = fun _ => [] := by
  have hattempt : ∀ (nvs : Nvs) fault, (nvs.clear fault).1 = 0 → (nvs.clear fault).2.entries = fun _ => [] := by
    rintro ⟨entries, ready⟩ fault hzero
    cases ready with
    | false => exact absurd hzero (errno_neg eacces).ne
    | true =>
      cases fault with
      | none => rfl
      | some fault => exact absurd hzero (errno_neg fault.errno).ne
  induction retries generalizing nvs clearFaults with
  | zero => exact hattempt nvs _ h
  | succ retries ih =>
    rw [again] at h ⊢
    dsimp only at h ⊢
    split_ifs at h ⊢
    · exact ih h
    · exact hattempt nvs _ h

lemma fsClear_erased {fs : Fs} {clearFaults : List ClearFault} (h : (fsClear clearFaults fs).1 = 0) (key : UInt16) :
    (fsClear clearFaults fs).2.entry key = [] := by
  rw [fsClear] at h ⊢
  cases henabled : fs.enabled with
  | false =>
    rw [henabled] at h
    exact absurd h (errno_neg enodev).ne
  | true =>
    rw [henabled] at h
    change (again (fun fault nvs => nvs.clear fault) flashWriteRetryCount clearFaults fs.nvs).1 = 0 at h
    exact congrFun (again_clear_erased h) key

lemma remembers_clear (h : Remembers p m a) (hcleared : (clearAndReboot faults m).1 = none) :
    Remembers p (clearAndReboot faults m).2 { a with saved := factoryDefault p, inUse := false } := by
  by_cases hrc : (fsClear faults.clear m.config.fs).1 = 0
  · have hout : (clearAndReboot faults m).2 =
        bmcReboot { m with config := { m.config with fs := (fsClear faults.clear m.config.fs).2 } } := by
      rw [clearAndReboot, configClear]
      dsimp only
      rw [if_neg (not_not.mpr hrc)]
    have hentry : ∀ key, (clearAndReboot faults m).2.config.fs.entry key = [] := by
      rw [hout]
      exact fsClear_erased hrc
    constructor
    · rintro ⟨hlength, -⟩
      rw [hentry] at hlength
      cases hlength
    · intro id _
      rw [State.entry, hentry]
      exact if_neg fun hfits => hfits.1 rfl
    · intro hloaded
      rw [hout] at hloaded ⊢
      refine ⟨(h.holds hloaded).live, ?_, Bool.noConfusion⟩
      exact Bool.and_false _
    · rw [hout]
      exact h.serving
    · rw [hout]
      exact h.finished
  · rw [clearAndReboot, configClear] at hcleared
    dsimp only at hcleared
    rw [if_pos hrc] at hcleared
    cases hcleared

lemma remembers_command {cmd : ConfigCommand} {arg : CString} (hreliable : Reliable faults)
    (hzero : cmd.named arg ≠ [] → (cmd.run p faults arg m).1 = 0) (h : Remembers p m a) :
    Remembers p (cmd.run p faults arg m).2 ((cmd.named arg).foldl (Memory.assign p) a) := by
  cases hfinished : m.bootFinished with
  | false =>
    rw [command_refused cmd arg hfinished] at hzero ⊢
    have hnil : cmd.named arg = [] := by
      by_contra hne
      exact absurd (hzero hne) (errno_neg eagain).ne
    rw [hnil]
    exact h
  | true =>
    have hcommanded : Commanded p faults m (cmd.named arg) (cmd.run p faults arg m) :=
      command_commanded cmd arg hfinished
    generalize cmd.run p faults arg m = out at hzero hcommanded ⊢
    generalize cmd.named arg = named at hzero hcommanded ⊢
    cases hcommanded with
    | idle rc => exact h
    | set c rc hrc =>
      have hrc' := hrc (hzero (List.cons_ne_nil _ _))
      have hanswered : Answered c (c.run p faults m.config).1 := hrc'.imp_right .inl
      exact remembers_config h (fun hloaded => runs_assign hanswered hreliable (h.runs hloaded)) (h.finished hfinished)

lemma meant_patch {environment : Environment} {bmc : Bmc} {req : Request} {patch : Patch}
    (h : patchOf req = some patch) : req.meant environment bmc =
      (patch.run environment.platform environment.faults bmc.config).map (Prod.map id bmc.withConfig) := by
  cases req <;> cases h <;> rfl

lemma meant_beside {environment : Environment} {bmc : Bmc} {req : Request} {r : ℤ × Bmc} (h : patchOf req = none)
    (hmeant : req.meant environment bmc = some r) : r.2.config = bmc.config := by
  cases req with
  | account | ethernet | networkProtocol | system => cases h
  | manager parsed =>
    rcases parsed with _ | ⟨_ | str⟩ <;> cases hmeant <;> rfl
  | reset parsed =>
    rcases parsed with _ | ⟨_ | str⟩ <;> cases hmeant <;> rfl

lemma served_eq {environment : Environment} {prior : Prior} {req : Request} {r : ℤ × Bmc}
    (hserving : m.serving = true) (hresult : (handle { environment with platform := p, calendar := cal } prior m.bmc
      req).result = some r) : served p cal environment prior req m = (m.setBmc r.2, some r.1) := by
  rw [served, hserving, hresult]
  rfl

lemma remembers_request {environment : Environment} {prior : Prior} {req : Request}
    (hreliable : Reliable environment.faults) (hclean : req.Clean prior)
    (hzero : namedBy req ≠ [] → (served p cal environment prior req m).2 = some 0) (h : Remembers p m a) :
    Remembers p (served p cal environment prior req m).1 ((namedBy req).foldl (Memory.assign p) a) := by
  cases hserving : m.serving with
  | false =>
    have hnone : served p cal environment prior req m = (m, none) := if_pos hserving
    rw [hnone] at hzero ⊢
    have hnil : namedBy req = [] := by
      by_contra hne
      cases hzero hne
    rw [hnil]
    exact h
  | true =>
    have hruns := h.runs (h.serving hserving)
    obtain ⟨⟨rc, bmc⟩, hmeant, hmeans⟩ : ∃ r,
        req.meant { environment with platform := p, calendar := cal } m.bmc = some r ∧
          Means (handle { environment with platform := p, calendar := cal } prior m.bmc req) r := means_handle hclean
    rw [served_eq hserving hmeans.result] at hzero ⊢
    cases hpatch : patchOf req with
    | none =>
      have hnil : namedBy req = [] := by rw [namedBy, hpatch]; rfl
      have hconfig : bmc.config = m.config := meant_beside hpatch hmeant
      rw [hnil]
      exact remembers_beside h hconfig rfl rfl rfl
    | some patch =>
      have hnamed : namedBy req = patch.named := by rw [namedBy, hpatch]; rfl
      rw [meant_patch hpatch] at hmeant
      obtain ⟨⟨rc', t⟩, hrun, heq⟩ := Option.map_eq_some_iff.mp hmeant
      obtain ⟨rfl, rfl⟩ : rc' = rc ∧ m.bmc.withConfig t = bmc := Prod.mk.inj heq
      rw [hnamed] at hzero ⊢
      have hset : m.setBmc (m.bmc.withConfig t) = { m with config := t } := rfl
      rw [hset] at hzero ⊢
      by_cases hnil : patch.named = []
      · rw [hnil, unnamed_patch hnil hrun]
        exact h
      · obtain rfl : rc' = 0 := Option.some.inj (hzero hnil)
        exact remembers_config h (fun _ => runs_patch hreliable hrun hruns) (h.serving hserving)

theorem remembers_step (h : Remembers p m a) (e : Event) (hallowed : Allowed p cal m e) :
    Remembers p (lifeStep p cal m e).1 (e.ops.foldl (Memory.apply p) a) := by
  cases e with
  | request environment prior req =>
    obtain ⟨hreliable, hclean, hzero⟩ := hallowed
    rw [Event.ops, foldl_assign]
    exact remembers_request hreliable hclean hzero h
  | command faults cmd arg =>
    obtain ⟨hreliable, hzero⟩ := hallowed
    rw [Event.ops, foldl_assign]
    exact remembers_command hreliable (fun hne => Option.some.inj (hzero hne)) h
  | power call => exact remembers_beside h rfl rfl rfl rfl
  | clear faults =>
    have hcleared : (cmdConfigClear faults m).1 = none := hallowed
    have hfinished : ¬ m.bootFinished = false := by
      intro hnot
      rw [cmdConfigClear, if_pos hnot] at hcleared
      cases hcleared
    have hstep : (lifeStep p cal m (.clear faults)).1 = (clearAndReboot faults m).2 :=
      congrArg Prod.snd (if_neg hfinished)
    rw [hstep]
    exact remembers_clear h ((congrArg Prod.fst (if_neg hfinished)).symm.trans hcleared)
  | resetWork val faults =>
    rw [Event.ops]
    by_cases hval : val = 1
    · have hcleared : (resetWorkFn val faults m).1 = none := hallowed hval
      have hheld : ¬ val ≠ 1 := not_not.mpr hval
      have hstep : (lifeStep p cal m (.resetWork val faults)).1 = (clearAndReboot faults m).2 :=
        congrArg Prod.snd (if_neg hheld)
      rw [hstep, if_pos hval]
      exact remembers_clear h ((congrArg Prod.fst (if_neg hheld)).symm.trans hcleared)
    · have hstep : (lifeStep p cal m (.resetWork val faults)).1 = m := congrArg Prod.snd (if_pos hval)
      rw [hstep, if_neg hval]
      exact h
  | reboot => exact remembers_reboot h
  | reset env => exact remembers_reset hallowed h

end Steps

section Life

structure Cold (m : Machine) : Prop where
  loaded : m.loaded = false
  serving : m.serving = false
  finished : m.bootFinished = false

lemma remembers_cold (hcold : Cold m) (hnative : ¬ Foreign m.config.fs) : Remembers p m (recalled p m.config.fs) where
  native := hnative
  saves := fun _ _ => rfl
  holds := fun hon => Bool.noConfusion (hcold.loaded.symm.trans hon)
  serving := fun hon => Bool.noConfusion (hcold.serving.symm.trans hon)
  finished := fun hon => Bool.noConfusion (hcold.finished.symm.trans hon)

lemma remembers_run (es : List Event) (h : Remembers p m a) (hallowed : Along (lifeStep p cal) (Allowed p cal) m es) :
    Remembers p (exec (lifeStep p cal) m es) ((es.flatMap Event.ops).foldl (Memory.apply p) a) := by
  induction es generalizing m a with
  | nil => exact h
  | cons e es ih =>
    rw [List.flatMap_cons, List.foldl_append]
    exact ih (remembers_step h e hallowed.1) hallowed.2

lemma alike_flag {live live' : Shown} (h : Shown.Alike live live') {id : ConfigId} (hid : id ≠ .version) :
    live.flag id = live'.flag id := by
  rw [Shown.flag, Shown.flag, h.value id hid]

lemma alike_ethernet {live live' : Shown} (h : Shown.Alike live live') (addresses : Option RedfishIpv4Addr) :
    live.ethernet addresses = live'.ethernet addresses := by
  rw [Shown.ethernet, Shown.ethernet, h.hostname, alike_flag h ConfigId.noConfusion, Shown.ipv4StaticAddresses,
    Shown.ipv4StaticAddresses, h.value .bmcDefaultIp4 ConfigId.noConfusion,
    h.value .bmcDefaultIp4Nm ConfigId.noConfusion, h.value .bmcDefaultIp4Gw ConfigId.noConfusion]

/-- Over any life whose writes are acknowledged, with any number of boots, resets to the defaults and losses of power
between two events: what the documents show, and what the next boot will load. -/
theorem settings_remembered (p : Platform) (cal : Calendar) (m : Machine) (es : List Event) (hcold : Cold m)
    (hnative : ¬ Foreign m.config.fs) (hallowed : Along (lifeStep p cal) (Allowed p cal) m es) :
    let t := exec (lifeStep p cal) m es
    let a := (es.flatMap Event.ops).foldl (Memory.apply p) (recalled p m.config.fs)
    (t.loaded = true →
      (∀ unicast, ethernetInterface t.config unicast = a.live.ethernet (ipv4Addresses t.config.net.iface unicast)) ∧
        networkProtocol t.config.data = a.live.networkProtocol ∧
        Documents.powerRestorePolicy t.config.data = a.live.powerRestorePolicy ∧
        t.config.data.bmcAdminPassword.bytes = a.live.value .bmcAdminPassword) ∧
      Saves p t.config a := by
  intro t a
  have hlife : Remembers p t a := remembers_run es (remembers_cold hcold hnative) hallowed
  refine ⟨fun hloaded => ?_, hlife.saves⟩
  have halike := (hlife.holds hloaded).live
  refine ⟨fun unicast => ?_, ?_, ?_, ?_⟩
  · rw [ethernetInterface_shown]
    exact alike_ethernet halike _
  · rw [networkProtocol_shown, Shown.networkProtocol, alike_flag halike ConfigId.noConfusion,
      halike.value .bmcNtpServer ConfigId.noConfusion]
    rfl
  · rw [powerRestorePolicy_shown, Shown.powerRestorePolicy, alike_flag halike ConfigId.noConfusion]
    rfl
  · exact halike.value .bmcAdminPassword ConfigId.noConfusion

def quietBoot : BootEnv where
  rtc := rtcWorking
  deviceReady := true
  pageInfo := none
  mount := none
  faults := .none
  app := sampleApp
  netFaults := sampleNoFaults
  stopFaults := sampleNoFaults
  gpioIsReady _ := true
  configure _ := 0
  ret _ := 0
  resetGpio := ⟨true, true, 0, 0⟩
  peripherals := ⟨0, 0, 0, 0, 0, 0, 0, 0⟩

lemma quietBoot_sound : quietBoot.Sound := ⟨rfl, rfl, sampleRestart.app_hostname⟩

def delivered : Machine where
  config := ⟨.zero, false, emptyStore, quadPlatform.net⟩
  clock := ⟨none, ⟨0, 0⟩⟩
  host := ⟨Power.reset [false, false], []⟩
  loaded := false
  serving := false
  bootFinished := false

lemma allowed_clear (h : (lifeStep p cal m (.clear faults)).2 = none) : Allowed p cal m (.clear faults) := h

def policySet : List Event :=
  [.reset quietBoot, .request sampleEnvironment garbage (.system (some ⟨some alwaysOn⟩))]

def policyCleared : List Event := policySet ++ [.clear .none, .reset quietBoot]

theorem settings_remembered_cleared : Documents.powerRestorePolicy
    (exec (lifeStep quadPlatform gregorian) delivered policyCleared).config.data = "AlwaysOff" :=
  ((settings_remembered quadPlatform gregorian delivered policyCleared ⟨rfl, rfl, rfl⟩ (by decide +kernel)
    ⟨quietBoot_sound, ⟨fun _ => outlasted_nil _, trivial, fun _ => by decide +kernel⟩, allowed_clear (by decide +kernel),
      quietBoot_sound, trivial⟩).1 (by decide +kernel)).2.2.1.trans (by decide +kernel)

/-- A boot that finishes leaves the host as the remembered policy says. -/
theorem power_policy_restored (p : Platform) (cal : Calendar) (m : Machine) (es : List Event) (env : BootEnv)
    (hcold : Cold m) (hnative : ¬ Foreign m.config.fs)
    (hallowed : Along (lifeStep p cal) (Allowed p cal) m (es ++ [Event.reset env]))
    (hfinished : (exec (lifeStep p cal) m (es ++ [Event.reset env])).bootFinished = true) :
    let t := exec (lifeStep p cal) m (es ++ [Event.reset env])
    let a := ((es ++ [Event.reset env]).flatMap Event.ops).foldl (Memory.apply p) (recalled p m.config.fs)
    Power.powerGetState t.host.power = a.live.flag .hostAutoPoweron ∧
      ∀ g ∈ t.host.power.gpios, g = a.live.flag .hostAutoPoweron := by
  intro t a
  have hlife : Remembers p t a := remembers_run _ (remembers_cold hcold hnative) hallowed
  have hlast : t = restart p cal env (exec (lifeStep p cal) m es) := exec_concat
  have hbooted := restart_booted p cal env (exec (lifeStep p cal) m es)
  rw [← hlast] at hbooted
  have hflag : (shown t.config).flag .hostAutoPoweron = a.live.flag .hostAutoPoweron :=
    alike_flag (hlife.holds (hlife.finished hfinished)).live ConfigId.noConfusion
  have hpolicy : Documents.hostAutoPoweron t.config.data = a.live.flag .hostAutoPoweron := hflag
  change t.bootFinished = true at hfinished
  rw [← hpolicy]
  clear_value t
  cases hbooted with
  | stopped _ _ hunfinished => exact absurd (hunfinished.symm.trans hfinished) Bool.noConfusion
  | loaded _ _ hpower =>
    obtain ⟨hhost, hdone⟩ := hpower hfinished
    rw [hhost]
    exact powerInit_done hdone

lemma policySet_allowed :
    Along (lifeStep quadPlatform gregorian) (Allowed quadPlatform gregorian) delivered (policySet ++ [Event.reset quietBoot]) :=
  ⟨quietBoot_sound, ⟨fun _ => outlasted_nil _, trivial, fun _ => by decide +kernel⟩, quietBoot_sound, trivial⟩

theorem power_policy_restored_on :
    Power.powerGetState (exec (lifeStep quadPlatform gregorian) delivered
      (policySet ++ [Event.reset quietBoot])).host.power = true :=
  (power_policy_restored quadPlatform gregorian delivered policySet quietBoot ⟨rfl, rfl, rfl⟩ (by decide +kernel)
    policySet_allowed (by decide +kernel)).1.trans (by decide +kernel)

end Life

end WallaBMC.System
