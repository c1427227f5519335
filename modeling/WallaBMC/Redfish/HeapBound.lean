import WallaBMC.Redfish.Accumulation
import WallaBMC.Redfish.Resources

/-! The request heap is enough for four units of 512 bytes. What a resource holds of it can be told from
its callbacks: two units from an answered GET until the request ends, one while a body is collected.
`Tracks` says that the buffers of the code are the ones told so. -/

namespace WallaBMC.Redfish

open Library.Runs

inductive Use
  | idle
  | answered
  | collecting (n : ℕ)
  deriving DecidableEq

namespace Use

def units : Use → ℕ
  | idle => 0
  | answered => 2
  | collecting _ => 1

def collected : Use → ℕ
  | collecting n => n
  | _ => 0

def next {σ : Type*} (res : Resource σ) (use : Use) (cb : Callback) : Use :=
  if cb.status.ends then idle
  else if (res.fn cb.client.method).isNone then use
  else if cb.client.method = .get then
    if cb.status = .requestDataFinal then answered else idle
  else if cb.status = .requestDataFinal ∨
      userDataBufferPostSize < use.collected + cb.data.bytes.length then idle
  else collecting (use.collected + cb.data.bytes.length)

/-- The units that a callback needs on top of what its resource holds. -/
def asks {σ : Type*} (res : Resource σ) (use : Use) (cb : Callback) : ℕ :=
  if cb.status.ends ∨ (res.fn cb.client.method).isNone then 0
  else if cb.client.method = .get then if cb.status = .requestDataFinal then 2 else 0
  else if use = idle then 1 else 0

end Use

section

variable {ρ σ : Type*} [DecidableEq ρ]

def Usage.step (table : ρ → Resource σ) (u : ρ → Use) : Event ρ σ → (ρ → Use) × Unit
  | .callback r cb => (Function.update u r ((u r).next (table r) cb), ())
  | .outside _ => (u, ())

def Usage.Serial (u : ρ → Use) (e : Event ρ σ) : Prop :=
  ∀ r cb, e.callbackAt r = some cb → u r = .answered → cb.status.ends = true

variable [Fintype ρ]

def RoomLeft (table : ρ → Resource σ) (u : ρ → Use) : Event ρ σ → Prop
  | .callback r cb => 0 < (u r).asks (table r) cb →
    ∑ r' ∈ Finset.univ.erase r, (u r').units + (u r).asks (table r) cb ≤ 4
  | .outside _ => True

/-- Every call of `alloc_user_data` finds its block free: the thread does not block. -/
def AllocFits (auth : Auth σ) (table : ρ → Resource σ) (s : Server ρ σ) : Event ρ σ → Prop
  | .callback r cb => ∀ a ∈ (redfishHandler auth (table r) cb (s.slot r) s.app).reply.allocs,
    ∑ r' ∈ Finset.univ.erase r, (s.userData r').size + a.held + a.size ≤ userDataHeapSize
  | .outside _ => True

instance (table : ρ → Resource σ) (u : ρ → Use) :
    (e : Event ρ σ) → Decidable (RoomLeft table u e)
  | .callback _ _ => inferInstanceAs (Decidable (_ → _))
  | .outside _ => isTrue trivial

instance (auth : Auth σ) (table : ρ → Resource σ) (s : Server ρ σ) :
    (e : Event ρ σ) → Decidable (AllocFits auth table s e)
  | .callback _ _ => inferInstanceAs (Decidable (∀ a ∈ _, _))
  | .outside _ => isTrue trivial

end

inductive Uses : Option Buffer → Use → Prop
  | idle : Uses none .idle
  | answered (b : Buffer) (hsize : b.size = userDataBufferGetSize) : Uses (some b) .answered
  | collecting (b : Buffer) (hsize : b.size = userDataBufferPostSize) :
    Uses (some b) (.collecting b.data.length)

section

variable {σ β : Type*} {auth : Auth σ} {res : Resource σ} {cb : Callback} {app : σ}
  {buffer : Option Buffer} {use : Use}

lemma Uses.size_eq (h : Uses buffer use) :
    buffer.elim 0 Buffer.size = userDataBufferPostSize * use.units := by
  cases h with
  | idle => rfl
  | answered b hsize => exact hsize
  | collecting b hsize => exact hsize

lemma Uses.gathered (h : Uses buffer use) (hserial : use ≠ .answered) :
    ∃ d, Gathered buffer d ∧ d.length = use.collected := by
  cases h with
  | idle => exact ⟨[], gathered_none, rfl⟩
  | answered => exact absurd rfl hserial
  | collecting b hsize => exact ⟨b.data, ⟨hsize, rfl⟩, rfl⟩

lemma run_size (prog : HandlerProg σ) (b : Buffer) :
    ∃ b', (prog.run (some b)).2.2 = some b' ∧ b'.size = b.size := by
  induction prog generalizing b with
  | done ret app => exact ⟨b, rfl, rfl⟩
  | jsonAppend src next ih =>
    cases happ : b.append src.bytes with
    | none =>
      have hstore : userDataJsonAppend src (some b) = (-enospc, some b) := by
        simp [userDataJsonAppend, BufferStore.append, happ]
      simpa only [HandlerProg.run, hstore] using ih _ b
    | some b' =>
      have hstore : userDataJsonAppend src (some b) = (0, some b') := by
        simp [userDataJsonAppend, BufferStore.append, happ]
      have hsize : b'.size = b.size := by
        simp only [Buffer.append] at happ
        split at happ
        · cases happ
          rfl
        · cases happ
      obtain ⟨c, hrun, hc⟩ := ih 0 b'
      exact ⟨c, by simpa only [HandlerProg.run, hstore] using hrun, hc.trans hsize⟩

lemma freeStarted_abstract (buffer : Option Buffer) : freeStarted buffer = none := by
  cases buffer <;> rfl

lemma bodyRequest_allocs (fn : Handler σ) (response : ResponseCtx) (buffer : Option Buffer) :
    (bodyRequest fn cb response buffer app).reply.allocs = (startBody buffer).2 := by
  rw [bodyRequest]
  dsimp only
  split
  · rfl
  · split <;> rfl

lemma uses_bodyStep (h : Uses buffer use) (hserial : use ≠ .answered)
    (hdata : cb.status.ends = false) (hmethod : cb.client.method ≠ .get)
    (hfn : (res.fn cb.client.method).isNone = false) :
    Uses (bodyStep buffer cb).1 (use.next res cb) := by
  obtain ⟨d, hd, hlen⟩ := h.gathered hserial
  have hnext : use.next res cb =
      if cb.status = .requestDataFinal ∨
        userDataBufferPostSize < d.length + cb.data.bytes.length then .idle
      else .collecting (d.length + cb.data.bytes.length) := by
    simp [Use.next, hdata, hfn, hmethod, hlen]
  rw [hnext]
  rcases hd.append cb.data.bytes with ⟨hfits, b, hb, hsize, hbytes⟩ | ⟨hfits, hb⟩
  · by_cases hfinal : cb.status = .requestDataFinal
    · rw [if_pos (.inl hfinal)]
      simpa [bodyStep, TransactionStatus.ends, hb, hfinal] using Uses.idle
    · have hcollected : b.data.length = d.length + cb.data.bytes.length := by
        rw [hbytes, List.length_append]
      rw [if_neg (not_or.mpr ⟨hfinal, not_lt.mpr hfits⟩), ← hcollected]
      simpa [bodyStep, hdata, hb, hfinal] using Uses.collecting b hsize
  · rw [if_pos (.inr (not_le.mp hfits))]
    simpa [bodyStep, hdata, hb] using Uses.idle

lemma uses_getRequest (fn : Handler σ) (response : ResponseCtx) (buffer : Option Buffer) (use : Use)
    (hdata : cb.status.ends = false) (hmethod : cb.client.method = .get) (hfn : res.fn .get = some fn) :
    Uses (getRequest fn cb response buffer app).store (use.next res cb) ∧
      (getRequest fn cb response buffer app).reply.allocs =
        if use.asks res cb = 0 then [] else [⟨0, userDataBufferPostSize * use.asks res cb⟩] := by
  by_cases hfinal : cb.status = .requestDataFinal
  · obtain ⟨b, hrun, hsize⟩ := run_size (fn app []) (Buffer.empty userDataBufferGetSize)
    have hnext : use.next res cb = .answered := by
      simp [Use.next, TransactionStatus.ends, hmethod, hfn, hfinal]
    have hasks : use.asks res cb = 2 := by
      simp [Use.asks, TransactionStatus.ends, hmethod, hfn, hfinal]
    have hstore : (getRequest fn cb response buffer app).store =
        ((fn app []).run (some (Buffer.empty userDataBufferGetSize))).2.2 := by
      simp [getRequest, hfinal, BufferStore.alloc, BufferStore.data, Buffer.empty]
    have hallocs : (getRequest fn cb response buffer app).reply.allocs =
        [⟨0, userDataBufferGetSize⟩] := by
      simp [getRequest, hfinal, freeStarted_abstract, BufferStore.size]
    rw [hnext, hasks, hstore, hallocs, hrun]
    exact ⟨.answered b hsize, rfl⟩
  · have hnext : use.next res cb = .idle := by simp [Use.next, hdata, hmethod, hfn, hfinal]
    have hasks : use.asks res cb = 0 := by simp [Use.asks, hmethod, hfinal]
    rw [hnext, hasks]
    simp only [getRequest, freeStarted_abstract, hfinal, ne_eq, not_false_eq_true, if_true, silent]
    exact ⟨.idle, trivial⟩

lemma uses_bodyRequest (h : Uses buffer use) (hserial : use ≠ .answered) (fn : Handler σ)
    (response : ResponseCtx) (hdata : cb.status.ends = false) (hmethod : cb.client.method ≠ .get)
    (hfn : (res.fn cb.client.method).isNone = false) :
    Uses (bodyRequest fn cb response buffer app).store (use.next res cb) ∧
      (bodyRequest fn cb response buffer app).reply.allocs =
        if use.asks res cb = 0 then [] else [⟨0, userDataBufferPostSize * use.asks res cb⟩] := by
  constructor
  · rw [(bodyRequest_bodyStep fn response hdata).1]
    exact uses_bodyStep h hserial hdata hmethod hfn
  · have hasks : use.asks res cb = if use = .idle then 1 else 0 := by
      simp [Use.asks, hdata, hfn, hmethod]
    rw [bodyRequest_allocs, hasks]
    cases h with
    | idle => rfl
    | answered => exact absurd rfl hserial
    | collecting b hsize => rfl

lemma Uses.step (h : Uses buffer use)
    (hadmitted : cb.status.ends = false → res.requireAuth = true → 0 ≤ validateAuth auth app cb.client)
    (hserial : use = .answered → cb.status.ends = true) :
    Uses (redfishHandler auth res cb buffer app).store (use.next res cb) ∧
      (redfishHandler auth res cb buffer app).reply.allocs =
        if use.asks res cb = 0 then [] else [⟨0, userDataBufferPostSize * use.asks res cb⟩] := by
  have hout := redfishHandler_handled auth res cb buffer app
  generalize redfishHandler auth res cb buffer app = out at hout ⊢
  cases hout with
  | ended store' hends hstore =>
    have hnone : store' = none := by
      rcases hstore with rfl | rfl
      · rfl
      · exact freeStarted_abstract buffer
    simp only [silent, hnone, Use.next, Use.asks, hends, if_true, true_or]
    exact ⟨.idle, trivial⟩
  | refused response hdata hreason =>
    rcases hreason with hfn | ⟨hauth, hfails⟩
    · simp only [silent, Use.next, Use.asks, hdata, hfn, Option.isNone_none, or_true, if_true]
      exact ⟨h, trivial⟩
    · exact absurd (hadmitted hdata hauth) (not_le.mpr hfails)
  | get fn response hdata hmethod hfn =>
    exact uses_getRequest fn response buffer use hdata hmethod (hmethod ▸ hfn)
  | body fn response hdata hmethod hfn =>
    have hget : cb.client.method ≠ .get := by
      rcases hmethod with hm | hm <;> rw [hm] <;> decide
    have hanswered : use ≠ .answered := fun hu => by simp [hserial hu] at hdata
    exact uses_bodyRequest h hanswered fn response hdata hget (by rw [hfn]; rfl)

end

section

variable {ρ σ : Type*} [DecidableEq ρ] {auth : Auth σ} {table : ρ → Resource σ}
  {s : Server ρ σ} {u : ρ → Use} {e : Event ρ σ} {es : List (Event ρ σ)}

lemma Use.next_answered {res : Resource σ} {use : Use} {cb : Callback}
    (h : use.next res cb = .answered) :
    cb.status = .requestDataFinal ∨ (use = .answered ∧ cb.status.ends = false) := by
  rw [Use.next] at h
  split_ifs at h with hends hfn hmethod hfinal hcollected
  · exact .inr ⟨h, Bool.eq_false_iff.mpr hends⟩
  · exact .inl hfinal

lemma usage_step_other {r : ρ} (h : e.callbackAt r = none) :
    (Usage.step table u e).1 r = u r := by
  cases e with
  | outside change => rfl
  | callback r' cb =>
    exact Function.update_of_ne (ne_of_callbackAt h) ..

lemma usage_step_self {r : ρ} {cb : Callback} (h : e.callbackAt r = some cb) :
    (Usage.step table u e).1 r = (u r).next (table r) cb := by
  rw [eq_callback h]
  exact Function.update_self ..

lemma Serialised.answered {r : ρ} (hserial : Serialised es)
    (h : exec (Usage.step table) (fun _ => .idle) es r = .answered) :
    ∃ cb, (callbacksAt r es).getLast? = some cb ∧ cb.status = .requestDataFinal := by
  induction es using List.reverseRecOn with
  | nil => cases h
  | append_singleton es e ih =>
    rw [exec_concat] at h
    cases he : e.callbackAt r with
    | none =>
      rw [usage_step_other he] at h
      rw [callbacksAt_append, callbacksAt_cons_none he]
      simpa [callbacksAt] using ih hserial.left h
    | some cb =>
      rw [usage_step_self he] at h
      rw [callbacksAt_append, callbacksAt_cons_some he]
      refine ⟨cb, by simp [callbacksAt], ?_⟩
      rcases Use.next_answered h with hfinal | ⟨hanswered, hdata⟩
      · exact hfinal
      · -- A callback after the answer ends the request.
        obtain ⟨last, hlast, hfinal⟩ := ih hserial.left hanswered
        rcases hserial.follows hlast he with hends | hends | ⟨hmore, -⟩
        · simp [hfinal, TransactionStatus.ends] at hends
        · simp [hdata] at hends
        · simp [hfinal] at hmore

lemma Serialised.serial (h : Serialised es) :
    Along (Usage.step table) Usage.Serial (fun _ => .idle) es := by
  induction es using List.reverseRecOn with
  | nil => trivial
  | append_singleton es e ih =>
    refine along_append.mpr ⟨ih h.left, ?_, trivial⟩
    intro r cb he hanswered
    obtain ⟨last, hlast, hfinal⟩ := h.left.answered hanswered
    rcases h.follows hlast he with hends | hends | ⟨hmore, -⟩
    · simp [hfinal, TransactionStatus.ends] at hends
    · exact hends
    · simp [hfinal] at hmore

def Tracks (s : Server ρ σ) (u : ρ → Use) : Prop :=
  ∃ b, Implements s b ∧ ∀ r, Uses (b.buffer r) (u r)

section

omit [DecidableEq ρ]

lemma Tracks.size_eq (h : Tracks s u) (r : ρ) :
    (s.userData r).size = userDataBufferPostSize * (u r).units := by
  obtain ⟨b, himpl, huses⟩ := h
  exact (himpl.holds r).size_eq.trans (huses r).size_eq

lemma tracks_init (garbage : ℕ → ℕ → UInt8) (app : σ) :
    Tracks (Server.init garbage app : Server ρ σ) (fun _ => .idle) :=
  ⟨_, Implements.init garbage app, fun _ => .idle⟩

end

lemma Tracks.step (h : Tracks s u) (hadmitted : ∀ r, Admitted auth table r s.app e)
    (hserial : Usage.Serial u e) :
    Tracks (Server.step auth table s e).1 (Usage.step table u e).1 := by
  obtain ⟨b, himpl, huses⟩ := h
  have hkeeps : Implements (Server.step auth table s e).1 (Buffers.step auth table b e).1 :=
    (bufferSimulation auth table fun _ _ => True).keeps himpl trivial
  refine ⟨_, hkeeps, fun r => ?_⟩
  cases he : e.callbackAt r with
  | none =>
    rw [usage_step_other he, step_buffer_other he]
    exact huses r
  | some cb =>
    have hcb := eq_callback he
    rw [usage_step_self he]
    subst hcb
    have hadm : cb.status.ends = false → (table r).requireAuth = true →
        0 ≤ validateAuth auth b.app cb.client := himpl.app_eq ▸ hadmitted r rfl
    simpa [Buffers.step] using ((huses r).step hadm (hserial r cb he)).1

lemma Tracks.allocs (h : Tracks s u) {r : ρ} {cb : Callback}
    (hadmitted : Admitted auth table r s.app (.callback r cb))
    (hserial : Usage.Serial u (.callback r cb : Event ρ σ)) :
    (redfishHandler auth (table r) cb (s.slot r) s.app).reply.allocs =
      if (u r).asks (table r) cb = 0 then []
      else [⟨0, userDataBufferPostSize * (u r).asks (table r) cb⟩] := by
  obtain ⟨b, himpl, huses⟩ := h
  have hadm : cb.status.ends = false → (table r).requireAuth = true →
      0 ≤ validateAuth auth b.app cb.client := himpl.app_eq ▸ hadmitted rfl
  rw [(himpl.outcome auth table r cb).reply]
  exact ((huses r).step hadm (hserial r cb (if_pos rfl))).2

variable [Fintype ρ]

lemma Tracks.room_iff (h : Tracks s u) (r : ρ) (n : ℕ) :
    (∀ a ∈ (if n = 0 then [] else [⟨0, userDataBufferPostSize * n⟩] : List AllocCall),
      ∑ r' ∈ Finset.univ.erase r, (s.userData r').size + a.held + a.size ≤ userDataHeapSize) ↔
      (0 < n → ∑ r' ∈ Finset.univ.erase r, (u r').units + n ≤ 4) := by
  have hsum : ∑ r' ∈ Finset.univ.erase r, (s.userData r').size =
      userDataBufferPostSize * ∑ r' ∈ Finset.univ.erase r, (u r').units := by
    rw [Finset.mul_sum]
    exact Finset.sum_congr rfl fun r' _ => h.size_eq r'
  rw [hsum]
  by_cases hn : n = 0
  · simp [hn]
  · simp only [hn, if_false, List.mem_singleton, forall_eq, userDataHeapSize, userDataBufferPostSize]
    omega

lemma Tracks.allocFits_iff (h : Tracks s u) (hadmitted : ∀ r, Admitted auth table r s.app e)
    (hserial : Usage.Serial u e) : AllocFits auth table s e ↔ RoomLeft table u e := by
  cases e with
  | outside change => exact Iff.rfl
  | callback r cb =>
    rw [AllocFits, h.allocs (hadmitted r) hserial]
    exact h.room_iff r _

theorem alloc_fits_iff (auth : Auth σ) (table : ρ → Resource σ) (garbage : ℕ → ℕ → UInt8) (app : σ)
    (es : List (Event ρ σ)) (hserial : Serialised es)
    (hadmitted : Along (Server.step auth table) (fun s e => ∀ r, Admitted auth table r s.app e)
      (Server.init garbage app) es) :
    Along (Server.step auth table) (AllocFits auth table) (Server.init garbage app) es ↔
      Along (Usage.step table) (RoomLeft table) (fun _ => .idle) es :=
  along_iff_along
    (fun _ _ _ h hadm hser => ⟨Tracks.step h hadm hser, Tracks.allocFits_iff h hadm hser⟩)
    (tracks_init garbage app) hadmitted hserial.serial

end

def openGets (rs : List RedfishResource) : List (Event RedfishResource Unit) :=
  rs.map (fun r => .callback r (adminCallback .get .requestDataFinal noData))

theorem alloc_fits_iff_twoGets :
    Along (Server.step authPw (resources (idleFns Unit))) (AllocFits authPw (resources (idleFns Unit)))
      (Server.init (fun _ _ => 0) ()) (openGets [.managersCollection, .systemsCollection]) ↔
      Along (Usage.step (resources (idleFns Unit))) (RoomLeft (resources (idleFns Unit)))
        (fun _ => .idle) (openGets [.managersCollection, .systemsCollection]) :=
  alloc_fits_iff authPw (resources (idleFns Unit)) (fun _ _ => 0) () _ (by decide +kernel)
    (by decide +kernel)

theorem third_get_blocks :
    ¬ ∀ (auth : Auth Unit) (fns : ResourceFns Unit) (garbage : ℕ → ℕ → UInt8) (app : Unit)
      (es : List (Event RedfishResource Unit)), Serialised es →
      Along (Server.step auth (resources fns))
        (fun s e => ∀ r, Admitted auth (resources fns) r s.app e) (Server.init garbage app) es →
      Along (Server.step auth (resources fns)) (AllocFits auth (resources fns))
        (Server.init garbage app) es := by
  intro h
  have hfits := h authPw (idleFns Unit) (fun _ _ => 0) ()
    (openGets [.managersCollection, .systemsCollection, .chassisCollection]) (by decide +kernel)
    (by decide +kernel)
  have hblocks : ¬ Along (Server.step authPw (resources (idleFns Unit)))
      (AllocFits authPw (resources (idleFns Unit))) (Server.init (fun _ _ => 0) ())
      (openGets [.managersCollection, .systemsCollection, .chassisCollection]) := by
    decide +kernel
  exact hblocks hfits

end WallaBMC.Redfish
