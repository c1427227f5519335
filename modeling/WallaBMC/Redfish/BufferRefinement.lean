import WallaBMC.Redfish.Server

/-! The request buffers on the shared heap behave as buffers of their own. `Represents foreign slot b`
says that the resource's `http_resource_user_data` holds the buffer `b` and that the heap has, besides the
block it points to, exactly the `foreign` blocks: those are the `others` of the slot. -/

namespace WallaBMC.Redfish

open BufferStore Library.Runs

def BufferSize (n : ℕ) : Prop := n = userDataBufferGetSize ∨ n = userDataBufferPostSize

lemma BufferSize.small {n : ℕ} (h : BufferSize n) : n < 2 ^ 31 := by
  rcases h with rfl | rfl <;> decide

structure StoreHom {α β : Type*} [BufferStore α] [BufferStore β] (R : α → β → Prop) : Prop where
  started_eq : ∀ {a b}, R a b → started a = started b
  size_eq : ∀ {a b}, R a b → size a = size b
  data_eq : ∀ {a b}, R a b → data a = data b
  alloc_rel : ∀ {a b n}, R a b → started a = false → BufferSize n → R (alloc n a) (alloc n b)
  free_rel : ∀ {a b}, R a b → R (free a) (free b) ∧ started (free a) = false
  append_rel : ∀ {a b} src, R a b →
    (append src a).1 = (append src b).1 ∧ R (append src a).2 (append src b).2

structure OutcomeRel {α β σ : Type*} (R : α → β → Prop) (x : Outcome α σ) (y : Outcome β σ) :
    Prop where
  store : R x.store y.store
  app : x.app = y.app
  reply : x.reply = y.reply

namespace StoreHom

variable {α β σ : Type*} [BufferStore α] [BufferStore β] {R : α → β → Prop} {a : α} {b : β}
  {fn : Handler σ} {cb : Callback} {response : ResponseCtx} {app : σ}

lemma run_rel (h : StoreHom R) (hab : R a b) (prog : HandlerProg σ) :
    (prog.run a).1 = (prog.run b).1 ∧ (prog.run a).2.1 = (prog.run b).2.1 ∧
      R (prog.run a).2.2 (prog.run b).2.2 := by
  induction prog generalizing a b with
  | done ret app => exact ⟨rfl, rfl, hab⟩
  | jsonAppend src next ih =>
    obtain ⟨hret, hR⟩ := h.append_rel src hab
    have hrest := ih (userDataJsonAppend src b).1 hR
    simpa only [HandlerProg.run, userDataJsonAppend, hret] using hrest

lemma startBody_rel (h : StoreHom R) (hab : R a b) :
    R (startBody a).1 (startBody b).1 ∧
      (startBody a).2 = (startBody b).2 := by
  have hs := h.started_eq hab
  cases ha : started a with
  | true =>
    have hb : started b = true := hs.symm.trans ha
    simp only [startBody, ha, hb, if_true]
    exact ⟨hab, trivial⟩
  | false =>
    have hb : started b = false := hs.symm.trans ha
    simp only [startBody, ha, hb, h.size_eq hab]
    exact ⟨h.alloc_rel hab ha (.inr rfl), rfl⟩

lemma accumulate_rel (h : StoreHom R) (hab : R a b) (src : Chunk) :
    (accumulate src a).1 = (accumulate src b).1 ∧
      R (accumulate src a).2 (accumulate src b).2 := by
  unfold accumulate
  split
  · exact h.append_rel src hab
  · exact ⟨rfl, hab⟩

lemma bodyRequest_rel (h : StoreHom R) (hab : R a b) (fn : Handler σ) (cb : Callback)
    (response : ResponseCtx) (app : σ) :
    OutcomeRel R (bodyRequest fn cb response a app)
      (bodyRequest fn cb response b app) := by
  obtain ⟨hopen, hallocs⟩ := h.startBody_rel hab
  obtain ⟨hfits, hacc⟩ := h.accumulate_rel hopen cb.data
  obtain ⟨hret, happ, hrun⟩ := h.run_rel hacc (fn app (data (accumulate cb.data (startBody b).1).2))
  simp only [bodyRequest, hfits, hallocs, h.data_eq hacc, hret]
  split
  · exact ⟨(h.free_rel hacc).1, rfl, rfl⟩
  · split
    · exact ⟨hacc, rfl, rfl⟩
    · exact ⟨(h.free_rel hrun).1, happ, rfl⟩

lemma freeStarted_rel (h : StoreHom R) (hab : R a b) :
    R (freeStarted a) (freeStarted b) ∧ started (freeStarted a) = false := by
  unfold freeStarted
  rw [← h.started_eq hab]
  cases ha : started a with
  | true => exact h.free_rel hab
  | false => exact ⟨hab, ha⟩

lemma getRequest_rel (h : StoreHom R) (hab : R a b) (fn : Handler σ) (cb : Callback)
    (response : ResponseCtx) (app : σ) :
    OutcomeRel R (getRequest fn cb response a app) (getRequest fn cb response b app) := by
  obtain ⟨hR, hidle⟩ := h.freeStarted_rel hab
  have halloc := h.alloc_rel hR hidle (.inl rfl)
  obtain ⟨hret, happ, hrun⟩ :=
    h.run_rel halloc (fn app (data (alloc userDataBufferGetSize (freeStarted b))))
  simp only [getRequest, h.size_eq hR, h.data_eq halloc, hret, h.data_eq hrun]
  split
  · exact ⟨hR, rfl, rfl⟩
  · exact ⟨hrun, happ, rfl⟩

theorem redfishHandler_rel (h : StoreHom R) (hab : R a b) (auth : Auth σ) (res : Resource σ)
    (cb : Callback) (app : σ) :
    OutcomeRel R (redfishHandler auth res cb a app)
      (redfishHandler auth res cb b app) := by
  have hfree := (h.free_rel hab).1
  unfold redfishHandler
  split
  · split
    · exact ⟨hfree, rfl, rfl⟩
    · exact ⟨(h.freeStarted_rel hab).1, rfl, rfl⟩
  · exact ⟨hfree, rfl, rfl⟩
  all_goals
    dsimp only
    split_ifs
    · exact ⟨hab, rfl, rfl⟩
    · exact ⟨hab, rfl, rfl⟩
    · split
      · exact h.bodyRequest_rel hab _ _ _ _
      · exact h.bodyRequest_rel hab _ _ _ _
      · exact h.getRequest_rel hab _ _ _ _
      · exact ⟨hab, rfl, rfl⟩

end StoreHom

structure Heap.Ok (heap : Heap) : Prop where
  faults : heap.faults = []
  fresh : ∀ id, heap.next ≤ id → heap.live id = none

def Slot.others (slot : Slot) : ℕ → Option Block :=
  fun id => if slot.userData.dataBuffer = some id then none else slot.heap.live id

inductive Holds : Slot → Option Buffer → Prop
  | idle (heap : Heap) : Holds ⟨heap, .zero⟩ none
  | busy (heap : Heap) (id : ℕ) (mem : ℕ → UInt8) (buffer : Buffer)
      (hlive : heap.live id = some ⟨buffer.size, mem⟩) (hsize : BufferSize buffer.size)
      (hmem : (List.range buffer.data.length).map mem = buffer.data) :
      Holds ⟨heap, ⟨true, buffer.size, buffer.data.length, some id⟩⟩ (some buffer)

structure Represents (foreign : ℕ → Option Block) (slot : Slot) (buffer : Option Buffer) : Prop where
  heapOk : slot.heap.Ok
  holds : Holds slot buffer
  others_eq : slot.others = foreign

lemma Holds.started_eq {slot : Slot} {buffer : Option Buffer} (h : Holds slot buffer) :
    slot.userData.started = buffer.isSome := by
  cases h <;> rfl

lemma Holds.size_eq {slot : Slot} {buffer : Option Buffer} (h : Holds slot buffer) :
    slot.userData.size = buffer.elim 0 Buffer.size := by
  cases h <;> rfl

lemma Heap.fill_range (mem : ℕ → UInt8) (n : ℕ) (src : List UInt8) :
    (List.range (n + src.length)).map (fill mem n src) = (List.range n).map mem ++ src := by
  rw [List.range_add, List.map_append, List.map_map]
  congr 1
  · apply List.map_congr_left
    intro i hi
    rw [fill, if_neg (by simpa using hi)]
  · apply List.ext_getElem (by simp)
    intro i hi hi'
    simp [fill, hi']

lemma Heap.Ok.lt_next {heap : Heap} (h : heap.Ok) {id : ℕ} {block : Block}
    (hlive : heap.live id = some block) : id < heap.next := by
  by_contra hge
  rw [h.fresh id (by omega)] at hlive
  cases hlive

section

variable {foreign : ℕ → Option Block} {slot : Slot} {buffer : Option Buffer}

lemma Represents.alloc (h : Represents foreign slot none) {n : ℕ} (hn : BufferSize n) :
    Represents foreign (allocUserData n slot) (some (Buffer.empty n)) := by
  obtain ⟨hok, hholds, hothers⟩ := h
  cases hholds with
  | idle heap =>
    have hnext : heap.live heap.next = none := hok.fresh _ le_rfl
    refine ⟨⟨hok.faults, fun id hid => ?_⟩, ?_, ?_⟩
    · have hlt : heap.next < id := hid
      exact (Function.update_of_ne hlt.ne' ..).trans (hok.fresh id hlt.le)
    · exact .busy _ heap.next (heap.garbage heap.next) (Buffer.empty n) (Function.update_self ..) hn rfl
    · rw [← hothers]
      funext id
      by_cases hid : id = heap.next
      · simp [Slot.others, allocUserData, Heap.alloc, UserData.zero, hid, hnext]
      · simp [Slot.others, allocUserData, Heap.alloc, UserData.zero, hid, Ne.symm hid]

lemma Represents.free (h : Represents foreign slot buffer) :
    Represents foreign (freeUserData slot) none := by
  obtain ⟨hok, hholds, hothers⟩ := h
  cases hholds with
  | idle heap => exact ⟨hok, .idle heap, hothers⟩
  | busy heap id mem buffer hlive hsize hmem =>
    have hfree : freeUserData ⟨heap, ⟨true, buffer.size, buffer.data.length, some id⟩⟩ =
        ⟨{ heap with live := Function.update heap.live id none }, .zero⟩ := by
      simp [freeUserData, Heap.free, hlive, UserData.zero]
    rw [hfree]
    refine ⟨⟨hok.faults, fun i hi => ?_⟩, .idle _, ?_⟩
    · have hlt : id < heap.next := hok.lt_next hlive
      have hne : i ≠ id := (hlt.trans_le hi).ne'
      exact (Function.update_of_ne hne ..).trans (hok.fresh i hi)
    · rw [← hothers]
      funext i
      by_cases hi : i = id
      · simp [Slot.others, UserData.zero, hi]
      · simp [Slot.others, UserData.zero, hi, Ne.symm hi]

lemma Heap.write_live {heap : Heap} {id off : ℕ} {block : Block} {src : List UInt8}
    (hlive : heap.live id = some block) (hfits : off + src.length ≤ block.size) :
    heap.write (some id) off src = { heap with
      live := Function.update heap.live id (some { block with mem := fill block.mem off src }) } := by
  simp [Heap.write, hlive, hfits]

lemma appendUserData_small {slot : Slot} {src : Chunk}
    (h : slot.userData.dataLen + src.bytes.length < 2 ^ 32) :
    appendUserData src slot =
      if slot.userData.dataLen + src.bytes.length > slot.userData.size then (false, slot)
      else (true, ⟨slot.heap.write slot.userData.dataBuffer slot.userData.dataLen src.bytes,
        { slot.userData with dataLen := slot.userData.dataLen + src.bytes.length }⟩) := by
  simp only [appendUserData, Nat.mod_eq_of_lt h]

lemma Represents.append_idle {heap : Heap} (h : Represents foreign ⟨heap, .zero⟩ none) (src : Chunk) :
    (append src (⟨heap, .zero⟩ : Slot)).1 = (append src (none : Option Buffer)).1 ∧
      Represents foreign (append src (⟨heap, .zero⟩ : Slot)).2 none := by
  have hsrc := src.small
  change (appendUserData src ⟨heap, .zero⟩).1 = src.bytes.isEmpty ∧
    Represents foreign (appendUserData src ⟨heap, .zero⟩).2 none
  cases hb : src.bytes with
  | nil =>
    have happ : appendUserData src ⟨heap, .zero⟩ = (true, ⟨heap, .zero⟩) := by
      simp [appendUserData, UserData.zero, Heap.write, hb]
    rw [happ]
    exact ⟨rfl, h⟩
  | cons x xs =>
    rw [hb] at hsrc
    have happ : appendUserData src ⟨heap, .zero⟩ = (false, ⟨heap, .zero⟩) := by
      rw [appendUserData, if_pos]
      rw [hb, UserData.zero, Nat.zero_add, Nat.mod_eq_of_lt (by omega), List.length_cons]
      exact Nat.succ_pos _
    rw [happ]
    exact ⟨rfl, h⟩

lemma Represents.append_busy {heap : Heap} {id : ℕ} {mem : ℕ → UInt8} {buffer : Buffer}
    (hok : heap.Ok) (hlive : heap.live id = some ⟨buffer.size, mem⟩) (hsize : BufferSize buffer.size)
    (hmem : (List.range buffer.data.length).map mem = buffer.data) (src : Chunk) :
    let slot : Slot := ⟨heap, ⟨true, buffer.size, buffer.data.length, some id⟩⟩
    (append src slot).1 = (append src (some buffer)).1 ∧
      Represents slot.others (append src slot).2 (append src (some buffer)).2 := by
  intro slot
  have hsrc := src.small
  have hsmall := hsize.small
  have hdata := buffer.fits
  change (appendUserData src slot).1 = _ ∧ Represents slot.others (appendUserData src slot).2 _
  have hsum : buffer.data.length + src.bytes.length < 2 ^ 32 := by omega
  have happ : appendUserData src slot = _ := appendUserData_small hsum
  by_cases hfits : buffer.data.length + src.bytes.length ≤ buffer.size
  · let buffer' : Buffer := ⟨buffer.size, buffer.data ++ src.bytes, by simpa using hfits⟩
    have habs : append src (some buffer) = (true, some buffer') := by
      simp [append, Buffer.append, hfits, buffer']
    let mem' := Heap.fill mem buffer.data.length src.bytes
    let heap' : Heap := ⟨heap.next, Function.update heap.live id (some ⟨buffer.size, mem'⟩),
      heap.faults, heap.garbage⟩
    have hconc : appendUserData src slot =
        (true, ⟨heap', ⟨true, buffer'.size, buffer'.data.length, some id⟩⟩) := by
      rw [happ, if_neg (not_lt.mpr hfits)]
      simp [slot, Heap.write_live hlive hfits, buffer', heap', mem']
    rw [habs, hconc]
    refine ⟨rfl, ⟨hok.faults, fun i hi => ?_⟩, ?_, ?_⟩
    · have hlt : id < heap.next := hok.lt_next hlive
      exact (Function.update_of_ne (hlt.trans_le hi).ne' ..).trans (hok.fresh i hi)
    · apply Holds.busy heap' id mem' buffer' (Function.update_self ..) hsize
      rw [List.length_append, Heap.fill_range, hmem]
    · funext i
      by_cases hi : i = id
      · simp [Slot.others, slot, hi]
      · simp [Slot.others, slot, heap', hi, Ne.symm hi]
  · have habs : append src (some buffer) = (false, some buffer) := by
      simp [append, Buffer.append, hfits]
    have hconc : appendUserData src slot = (false, slot) := by
      rw [happ, if_pos (not_le.mp hfits)]
    rw [habs, hconc]
    exact ⟨rfl, hok, .busy heap id mem buffer hlive hsize hmem, rfl⟩

theorem represents_storeHom (foreign : ℕ → Option Block) :
    StoreHom (Represents foreign : Slot → Option Buffer → Prop) where
  started_eq h := h.holds.started_eq
  size_eq h := h.holds.size_eq
  data_eq h := by
    cases h.holds with
    | idle heap => rfl
    | busy heap id mem buffer hlive hsize hmem =>
      simp [data, Heap.read, hlive, hmem]
  alloc_rel h hidle hn := by
    cases hb : h.holds with
    | idle heap => exact h.alloc hn
    | busy heap id mem buffer hlive hsize hmem => cases hidle
  free_rel h := ⟨h.free, h.free.holds.started_eq⟩
  append_rel src h := by
    obtain ⟨hok, hholds, rfl⟩ := h
    cases hholds with
    | idle heap => exact Represents.append_idle ⟨hok, .idle heap, rfl⟩ src
    | busy heap id mem buffer hlive hsize hmem =>
      exact Represents.append_busy hok hlive hsize hmem src

end

end WallaBMC.Redfish
