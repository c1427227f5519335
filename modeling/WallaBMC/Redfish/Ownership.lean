import WallaBMC.Redfish.BufferRefinement

/-! Over any sequence of callbacks every resource either holds one live heap block or none, every live
block belongs to one resource, and no block is lost, freed twice or written outside its bounds. -/

namespace WallaBMC.Redfish

open Library.Runs

variable {ρ σ : Type*}

structure Implements (s : Server ρ σ) (b : Buffers ρ σ) : Prop where
  app_eq : s.app = b.app
  heapOk : s.heap.Ok
  holds : ∀ r, Holds (s.slot r) (b.buffer r)
  owned : ∀ id, s.heap.live id ≠ none → ∃ r, (s.userData r).dataBuffer = some id
  distinct : ∀ r r' id, (s.userData r).dataBuffer = some id →
    (s.userData r').dataBuffer = some id → r = r'

structure BufferOwnership (s : Server ρ σ) : Prop where
  started_iff : ∀ r, (s.userData r).started = true ↔ ∃ id block,
    (s.userData r).dataBuffer = some id ∧ s.heap.live id = some block ∧
      block.size = (s.userData r).size
  one_owner : ∀ id, s.heap.live id ≠ none → ∃! r, (s.userData r).dataBuffer = some id
  idle : ∀ r, (s.userData r).started = false →
    (s.userData r).size = 0 ∧ (s.userData r).dataLen = 0 ∧ (s.userData r).dataBuffer = none
  fits : ∀ r, (s.userData r).dataLen ≤ (s.userData r).size
  no_fault : s.heap.faults = []

section

variable {slot : Slot} {buffer : Option Buffer}

lemma Holds.started_iff (h : Holds slot buffer) :
    slot.userData.started = true ↔ ∃ id block, slot.userData.dataBuffer = some id ∧
      slot.heap.live id = some block ∧ block.size = slot.userData.size := by
  cases h with
  | idle heap => simp [UserData.zero]
  | busy heap id mem buffer hlive hsize hmem => exact ⟨fun _ => ⟨id, _, rfl, hlive, rfl⟩, fun _ => rfl⟩

lemma Holds.idle_zero (h : Holds slot buffer) (hidle : slot.userData.started = false) :
    slot.userData = .zero := by
  cases h with
  | idle heap => rfl
  | busy heap id mem buffer hlive hsize hmem => cases hidle

lemma Holds.fits (h : Holds slot buffer) : slot.userData.dataLen ≤ slot.userData.size := by
  cases h with
  | idle heap => exact le_rfl
  | busy heap id mem buffer hlive hsize hmem => exact buffer.fits

lemma Holds.live (h : Holds slot buffer) {id : ℕ} (hid : slot.userData.dataBuffer = some id) :
    slot.heap.live id ≠ none := by
  cases h with
  | idle heap => cases hid
  | busy heap id' mem buffer hlive hsize hmem =>
    cases hid
    rw [hlive]
    exact Option.some_ne_none _

lemma Holds.of_live_eq (h : Holds slot buffer) {heap : Heap}
    (hlive : ∀ id, slot.userData.dataBuffer = some id → heap.live id = slot.heap.live id) :
    Holds ⟨heap, slot.userData⟩ buffer := by
  cases h with
  | idle heap' => exact .idle heap
  | busy heap' id mem buffer hl hsize hmem =>
    exact .busy heap id mem buffer ((hlive id rfl).trans hl) hsize hmem

lemma Slot.others_of_ne {id : ℕ} (h : slot.userData.dataBuffer ≠ some id) :
    slot.others id = slot.heap.live id := if_neg h

lemma Slot.others_self {id : ℕ} (h : slot.userData.dataBuffer = some id) : slot.others id = none :=
  if_pos h

end

section

variable {s : Server ρ σ} {b : Buffers ρ σ}

lemma Implements.ownership (h : Implements s b) : BufferOwnership s where
  started_iff r := (h.holds r).started_iff
  one_owner id hlive := by
    obtain ⟨r, hr⟩ := h.owned id hlive
    exact ⟨r, hr, fun r' hr' => h.distinct r' r id hr' hr⟩
  idle r hidle := by
    have hzero : s.userData r = .zero := (h.holds r).idle_zero hidle
    rw [hzero]
    exact ⟨rfl, rfl, rfl⟩
  fits r := (h.holds r).fits
  no_fault := h.heapOk.faults

lemma Implements.init (garbage : ℕ → ℕ → UInt8) (app : σ) :
    Implements (Server.init garbage app : Server ρ σ) (Buffers.init app) where
  app_eq := rfl
  heapOk := ⟨rfl, fun _ _ => rfl⟩
  holds r := .idle _
  owned id hlive := absurd rfl hlive
  distinct r r' id hr hr' := by cases hr

lemma Implements.outcome (h : Implements s b) (auth : Auth σ) (table : ρ → Resource σ) (r : ρ)
    (cb : Callback) :
    OutcomeRel (Represents (s.slot r).others) (redfishHandler auth (table r) cb (s.slot r) s.app)
      (redfishHandler auth (table r) cb (b.buffer r) b.app) := by
  rw [← h.app_eq]
  exact (represents_storeHom _).redfishHandler_rel ⟨h.heapOk, h.holds r, rfl⟩ auth (table r) cb s.app

/-- What `redfish_handler` does to one resource leaves the buffers of the others alone. -/
lemma Implements.frame (h : Implements s b) {r r' : ρ} {slot : Slot} {buffer : Option Buffer}
    (hslot : Represents (s.slot r).others slot buffer) (hr : r' ≠ r) {id : ℕ}
    (hid : (s.userData r').dataBuffer = some id) :
    slot.userData.dataBuffer ≠ some id ∧ slot.heap.live id = s.heap.live id := by
  have hne : (s.slot r).userData.dataBuffer ≠ some id := fun he => hr (h.distinct r' r id hid he)
  have hothers : slot.others id = s.heap.live id := by
    rw [hslot.others_eq]
    exact Slot.others_of_ne hne
  have hown : slot.userData.dataBuffer ≠ some id := by
    intro he
    rw [Slot.others_self he] at hothers
    exact (h.holds r').live hid hothers.symm
  exact ⟨hown, (Slot.others_of_ne hown).symm.trans hothers⟩

variable [DecidableEq ρ]

lemma Implements.update (h : Implements s b) {r : ρ} {slot : Slot} {buffer : Option Buffer}
    (hslot : Represents (s.slot r).others slot buffer) (app : σ) :
    Implements ⟨slot.heap, Function.update s.userData r slot.userData, app⟩
      ⟨Function.update b.buffer r buffer, app⟩ := by
  constructor
  · rfl
  · exact hslot.heapOk
  · intro r'
    by_cases hr : r' = r
    · subst hr
      simpa [Server.slot] using hslot.holds
    · simpa [Server.slot, hr] using (h.holds r').of_live_eq fun id hid => (h.frame hslot hr hid).2
  · intro id hid
    by_cases hown : slot.userData.dataBuffer = some id
    · exact ⟨r, by simpa using hown⟩
    · have hothers : (s.slot r).others id ≠ none := by
        rw [← hslot.others_eq, Slot.others_of_ne hown]
        exact hid
      have hne : (s.slot r).userData.dataBuffer ≠ some id := fun he => hothers (Slot.others_self he)
      rw [Slot.others_of_ne hne] at hothers
      obtain ⟨r', hr'⟩ := h.owned id hothers
      have hrr : r' ≠ r := fun he => hne (he ▸ hr')
      exact ⟨r', by simpa [hrr] using hr'⟩
  · intro r₁ r₂ id h₁ h₂
    by_cases hr₁ : r₁ = r <;> by_cases hr₂ : r₂ = r
    · rw [hr₁, hr₂]
    · subst hr₁
      simp only [Function.update_self, Function.update_of_ne hr₂] at h₁ h₂
      exact absurd h₁ (h.frame hslot hr₂ h₂).1
    · subst hr₂
      simp only [Function.update_self, Function.update_of_ne hr₁] at h₁ h₂
      exact absurd h₂ (h.frame hslot hr₁ h₁).1
    · simp only [Function.update_of_ne hr₁, Function.update_of_ne hr₂] at h₁ h₂
      exact h.distinct r₁ r₂ id h₁ h₂

def bufferSimulation (auth : Auth σ) (table : ρ → Resource σ) (ok : σ → Event ρ σ → Prop) :
    Simulation (Server.step auth table) (fun s e => ok s.app e) (Buffers.step auth table)
      (fun b e => ok b.app e) where
  rel := Implements
  event _ e := e
  output out := out
  allows h he := h.app_eq ▸ he
  keeps := by
    intro s b e h _
    cases e with
    | callback r cb =>
      have hout := h.outcome auth table r cb
      have hupd := h.update hout.store (redfishHandler auth (table r) cb (s.slot r) s.app).app
      simp only [Server.step, Buffers.step, ← hout.app]
      exact hupd
    | outside change => exact ⟨congrArg change h.app_eq, h.heapOk, h.holds, h.owned, h.distinct⟩
  answers := by
    intro s b e h _
    cases e with
    | callback r cb => exact congrArg some (h.outcome auth table r cb).reply.symm
    | outside change => rfl

lemma bufferSimulation_run (auth : Auth σ) (table : ρ → Resource σ) (ok : σ → Event ρ σ → Prop)
    (s : Server ρ σ) (es : List (Event ρ σ)) : (bufferSimulation auth table ok).run s es = es :=
  trace_events

lemma freeUserData_started (slot : Slot) : (freeUserData slot).userData.started = false := by
  cases hs : slot.userData.started <;> simp [freeUserData, hs]

lemma freeStarted_started (slot : Slot) : (freeStarted slot).userData.started = false := by
  cases hs : slot.userData.started <;>
    simp [freeStarted, BufferStore.started, BufferStore.free, hs, freeUserData_started]

lemma ends_started (auth : Auth σ) (res : Resource σ) {cb : Callback} (hends : cb.status.ends = true)
    (slot : Slot) (app : σ) :
    (redfishHandler auth res cb slot app).store.userData.started = false := by
  have hout := redfishHandler_handled auth res cb slot app
  generalize redfishHandler auth res cb slot app = out at hout ⊢
  cases hout with
  | ended store' _ hstore =>
    rcases hstore with rfl | rfl
    · exact freeUserData_started slot
    · exact freeStarted_started slot
  | refused _ hdata | get _ _ hdata | body _ _ hdata => simp [hends] at hdata

theorem request_buffer_ownership (auth : Auth σ) (table : ρ → Resource σ) (garbage : ℕ → ℕ → UInt8)
    (app : σ) (es : List (Event ρ σ)) :
    BufferOwnership (exec (Server.step auth table) (Server.init garbage app) es) ∧
      ∀ r cb, cb.status.ends = true →
        ((exec (Server.step auth table) (Server.init garbage app)
          (es ++ [.callback r cb])).userData r).started = false := by
  constructor
  · have hrun := (bufferSimulation auth table fun _ _ => True).exec_run
      (Implements.init garbage app) (along_true _ es)
    exact hrun.ownership
  · intro r cb hends
    rw [exec_concat]
    simpa [Server.step] using ends_started auth (table r) hends _ _

end

end WallaBMC.Redfish
