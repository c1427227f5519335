import WallaBMC.Config.Loading
import WallaBMC.Library.Runs

/-! Runs of setter calls after `config_init`. A call touches the cell of its own field only, and storage
stays in use, with the current version, once `config_init` has decided so. -/

namespace WallaBMC.Config

open Redfish Storage Library.Bytes Library.Runs

structure Call where
  setter : SetterCall
  faults : Faults

def callStep (p : Platform) (s : State) (call : Call) : State × ℤ :=
  let (rc, s) := call.setter.run p call.faults s
  (s, rc)

structure InUse (s : State) : Prop where
  useFs : s.useFs = true
  up : s.fs.up = true
  version : s.entry .version = [cfgCurrentVersion]

variable {p : Platform} {faults : Faults} {s t : State} {c : SetterCall} {rc : ℤ}

theorem boot_inUse {fs : Fs} (hon : (boot p faults fs).useFs = true) : InUse (boot p faults fs) := by
  obtain ⟨hup, hversion, -⟩ := configInit_inUse rfl hon
  exact ⟨hon, hup, hversion⟩

lemma id_ne_version (c : SetterCall) : c.id ≠ .version := by
  cases c <;> exact ConfigId.noConfusion

lemma mem_cell_written {id : ConfigId} (hid : id ≠ c.id) (hdata : t.data = c.written p s.data) :
    (t.cell id).mem = (s.cell id).mem := by
  rw [State.mem_cell, State.mem_cell, hdata, bytes_written_of_ne hid]

lemma Effect.useFs (h : Effect p faults s c rc t) : t.useFs = s.useFs := by
  cases h with
  | idle => rfl
  | refused _ _ _ _ hbeside | unsaved _ _ _ _ _ _ hbeside | saved _ _ _ _ hbeside => exact hbeside.useFs

lemma Effect.up (h : Effect p faults s c rc t) : t.fs.up = s.fs.up := by
  cases h with
  | idle => rfl
  | refused _ _ _ _ _ _ hfs | unsaved _ _ _ _ _ _ _ _ hfs => rw [hfs]
  | saved _ _ _ _ _ _ hfs => rw [hfs, Fs.up_put]

lemma Effect.cell (h : Effect p faults s c rc t) {id : ConfigId} (hid : id ≠ c.id) :
    t.cell id = s.cell id := by
  apply Cell.ext
  · cases h with
    | idle => rfl
    | refused _ _ _ _ _ hdata =>
      rcases hdata with hdata | hdata
      · rw [State.mem_cell, State.mem_cell, hdata]
      · exact mem_cell_written hid hdata
    | unsaved _ _ _ _ _ _ _ hdata | saved _ _ _ _ _ hdata => exact mem_cell_written hid hdata
  · cases h with
    | idle => rfl
    | refused _ _ _ _ _ _ hfs | unsaved _ _ _ _ _ _ _ _ hfs =>
      rw [State.entry_cell, State.entry_cell, hfs]
    | saved _ _ _ _ _ _ hfs =>
      rw [State.entry_cell, State.entry_cell, hfs, Fs.entry_put, if_neg (by rwa [ConfigId.key_inj])]

lemma Effect.inUse (h : Effect p faults s c rc t) (hs : InUse s) : InUse t where
  useFs := h.useFs.trans hs.useFs
  up := h.up.trans hs.up
  version := (congrArg Cell.entry (h.cell (id_ne_version c).symm)).trans hs.version

lemma callStep_inUse (s : State) (call : Call) (hs : InUse s) : InUse (callStep p s call).1 :=
  (setter_effect p call.faults s call.setter).inUse hs

theorem exec_inUse (hs : InUse s) (calls : List Call) : InUse (exec (callStep p) s calls) :=
  exec_invariant (fun s call hs _ => callStep_inUse s call hs) hs (along_true s calls)

lemma flag_requested {use : Bool} (h : c.flag? = some use) :
    c.requested p = some (flagBytes use) ∧ c.id.isStr = false ∧ c.id.limit = 1 := by
  cases c <;> first | cases h; exact ⟨rfl, rfl, rfl⟩ | cases h

lemma flag_accepted {use : Bool} (h : c.flag? = some use) : c.Accepted p faults s := by
  cases c <;> first | exact trivial | cases h

def ConfigData.Terminated (data : ConfigData) : Prop := ∀ id, id.isStr = true → 0 ∈ data.bytes id

lemma boot_terminated (p : Platform) (faults : Faults) (fs : Fs) : (boot p faults fs).data.Terminated :=
  fun _ hstr => configInit_terminated p faults _ hstr

lemma written_terminated {data : ConfigData} (h : data.Terminated) : (c.written p data).Terminated := by
  intro id hstr
  by_cases hid : id = c.id
  · subst hid
    cases hreq : c.requested p with
    | none =>
      rw [written_of_none hreq]
      exact h _ hstr
    | some value =>
      have hbytes : (c.written p data).bytes c.id =
          overwrite (data.bytes c.id) (c.id.layout (value.take c.id.limit)) := by
        rw [SetterCall.written, hreq]
        exact ConfigData.bytes_write_self
      rw [hbytes]
      exact terminated_layout hstr (data.length_bytes _) (length_take_limit value)
  · rw [bytes_written_of_ne hid]
    exact h id hstr

lemma Effect.terminated (h : Effect p faults s c rc t) (hs : s.data.Terminated) : t.data.Terminated := by
  cases h with
  | idle => exact hs
  | refused _ _ _ _ _ hdata =>
    rcases hdata with hdata | hdata
    · rwa [hdata]
    · rw [hdata]
      exact written_terminated hs
  | unsaved _ _ _ _ _ _ _ hdata | saved _ _ _ _ _ hdata =>
    rw [hdata]
    exact written_terminated hs

lemma Effect.iface (h : Effect p faults s c rc t) : t.net.iface.isSome = s.net.iface.isSome := by
  cases h with
  | idle => rfl
  | refused _ _ _ _ hbeside | unsaved _ _ _ _ _ _ hbeside | saved _ _ _ _ hbeside => exact hbeside.iface

lemma idle_written (h : c.Idle s) : c.written p s.data = s.data := by
  obtain ⟨use, hflag, hram⟩ := h
  obtain ⟨hreq, hstr, -⟩ := flag_requested (p := p) hflag
  rw [written_scalar hreq hstr]
  apply ConfigData.ext
  funext id
  by_cases hid : id = c.id
  · subst hid
    rw [ConfigData.bytes_write_full (requested_scalar hreq hstr), hram]
  · rw [ConfigData.bytes_write_of_ne hid]

lemma accepted_requested (h : c.Accepted p faults s) : ∃ value, c.requested p = some value := by
  cases c with
  | ip4 | ip4Nm | ip4Gw => exact Option.ne_none_iff_exists'.mp h.1
  | _ => exact ⟨_, rfl⟩

lemma isValue_requested {value : List UInt8} (hreq : c.requested p = some value) : IsValue c.id (value.take c.id.limit) :=
  isValue_take (requested_str hreq) (requested_scalar hreq)

lemma entry_saved (hfs : t.fs = s.fs.put c.id.key ((c.written p s.data).image c.id)) :
    t.entry c.id = (c.written p s.data).image c.id := by
  rw [State.entry, hfs, Fs.entry_put, if_pos rfl]

theorem Effect.zero_iff (h : Effect p faults s c rc t) :
    rc = 0 ↔ c.Idle s ∨ c.Accepted p faults s ∧ s.Writable faults c.id := by
  cases h with
  | idle hidle => exact iff_of_true rfl (.inl hidle)
  | refused _ _ hrc haccepted =>
    have hidle : ¬ c.Idle s := by
      rintro ⟨use, hflag, -⟩
      exact haccepted (flag_accepted hflag)
    exact iff_of_false hrc (fun h => h.elim hidle (fun h => haccepted h.1))
  | unsaved _ _ hrc hidle _ hwritable =>
    exact iff_of_false hrc (fun h => h.elim hidle (fun h => hwritable h.2))
  | saved _ _ haccepted hwritable => exact iff_of_true rfl (.inr ⟨haccepted, hwritable⟩)

theorem Effect.zero_data (h : Effect p faults s c 0 t) : t.data = c.written p s.data := by
  generalize hrc : (0 : ℤ) = rc at h
  cases h with
  | idle hidle => exact (idle_written hidle).symm
  | refused _ _ hne | unsaved _ _ hne => exact absurd hrc.symm hne
  | saved _ _ _ _ _ hdata => exact hdata

lemma Effect.flag_data (h : Effect p faults s c rc t) (hflag : c.flag?.isSome = true) :
    t.data = c.written p s.data := by
  obtain ⟨use, hflag⟩ := Option.isSome_iff_exists.mp hflag
  cases h with
  | idle hidle => exact (idle_written hidle).symm
  | refused _ _ _ haccepted => exact absurd (flag_accepted hflag) haccepted
  | unsaved _ _ _ _ _ _ _ hdata | saved _ _ _ _ _ hdata => exact hdata

/-- The store holds what `config_data` holds, as far as loading can tell. -/
def Agrees (p : Platform) (s : State) (id : ConfigId) : Prop :=
  loadedValue id (defaultValue p p.net id) (s.entry id) = s.data.image id

theorem InUse.reboot_agrees (hs : InUse s) {id : ConfigId} (hid : id ≠ .version) :
    (boot p .none (mounted s.fs)).data.image id = s.data.image id ↔ Agrees p s id := by
  rw [mounted_of_up hs.up, reboot_inUse p hs.up hs.version hid]
  rfl

end WallaBMC.Config
