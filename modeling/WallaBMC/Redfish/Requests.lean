import WallaBMC.Redfish.Ownership

/-! One resource's view of a run: its callbacks in order and their replies. The server serialises the
requests of a resource, so a request starts when the run before it is `Settled`. -/

namespace WallaBMC.Redfish

open Library.Runs

variable {ρ σ : Type*} [DecidableEq ρ]

def Event.callbackAt (r : ρ) : Event ρ σ → Option Callback
  | .callback r' cb => if r' = r then some cb else none
  | .outside _ => none

def callbacksAt (r : ρ) (es : List (Event ρ σ)) : List Callback := es.filterMap (Event.callbackAt r)

def repliesAt {s : Type*} (r : ρ) (tr : List (Visit s (Event ρ σ) (Option Reply))) : List Reply :=
  tr.filterMap (fun v => if (v.event.callbackAt r).isSome then v.output else none)

/-- The last request of the resource, if it has had any, is complete or aborted. -/
def Settled (r : ρ) (es : List (Event ρ σ)) : Prop :=
  ∀ cb ∈ (callbacksAt r es).getLast?, cb.status.ends = true

/-- What may follow within a request: data of the same method up to the final chunk, or its end. -/
def Callback.Follows (cb cb' : Callback) : Prop :=
  cb.status.ends = true ∨ cb'.status.ends = true ∨
    (cb.status = .requestDataMore ∧ cb'.client.method = cb.client.method)

instance (cb cb' : Callback) : Decidable (cb.Follows cb') :=
  inferInstanceAs (Decidable (_ ∨ _ ∨ _))

def Serialised (es : List (Event ρ σ)) : Prop :=
  ∀ r, (callbacksAt r es).IsChain Callback.Follows

instance [Fintype ρ] (es : List (Event ρ σ)) : Decidable (Serialised es) :=
  inferInstanceAs (Decidable (∀ r, (callbacksAt r es).IsChain Callback.Follows))

/-- A callback at `r` passes authentication where the resource asks for it. -/
def Admitted (auth : Auth σ) (table : ρ → Resource σ) (r : ρ) (app : σ) : Event ρ σ → Prop
  | .callback r' cb => r' = r → cb.status.ends = false → (table r).requireAuth = true →
    0 ≤ validateAuth auth app cb.client
  | .outside _ => True

instance (auth : Auth σ) (table : ρ → Resource σ) (r : ρ) (app : σ) :
    (e : Event ρ σ) → Decidable (Admitted auth table r app e)
  | .callback _ _ => inferInstanceAs (Decidable (_ → _))
  | .outside _ => isTrue trivial

/-- A PATCH or POST request: chunks, the final one if it gets that far, and its end. -/
structure BodyRequest where
  method : HttpMethod
  more : List Callback
  final : Option Callback
  ending : List Callback
  body : method = .patch ∨ method = .post
  more_status : ∀ cb ∈ more, cb.status = .requestDataMore
  final_status : ∀ cb ∈ final, cb.status = .requestDataFinal
  ending_status : ∀ cb ∈ ending, cb.status.ends = true
  same_method : ∀ cb ∈ more ++ final.toList, cb.client.method = method

namespace BodyRequest

def callbacks (req : BodyRequest) : List Callback := req.more ++ req.final.toList ++ req.ending

def bytes (req : BodyRequest) : List UInt8 :=
  ((req.more ++ req.final.toList).map (fun cb => cb.data.bytes)).flatten

lemma method_of_mem (req : BodyRequest) {cb : Callback} (h : cb ∈ req.callbacks)
    (hdata : cb.status.ends = false) : cb.client.method = req.method := by
  rcases List.mem_append.mp h with h | h
  · exact req.same_method cb h
  · rw [req.ending_status cb h] at hdata
    cases hdata

end BodyRequest

section

variable {auth : Auth σ} {table : ρ → Resource σ} {r : ρ} {b : Buffers ρ σ} {s : Server ρ σ}
  {es : List (Event ρ σ)}

lemma callbacksAt_cons_none {e : Event ρ σ} (h : e.callbackAt r = none) :
    callbacksAt r (e :: es) = callbacksAt r es := List.filterMap_cons_none h

lemma callbacksAt_cons_some {e : Event ρ σ} {cb : Callback} (h : e.callbackAt r = some cb) :
    callbacksAt r (e :: es) = cb :: callbacksAt r es := List.filterMap_cons_some h

lemma callbacksAt_map (r : ρ) (cbs : List Callback) :
    callbacksAt r (cbs.map (Event.callback r : Callback → Event ρ σ)) = cbs := by
  induction cbs with
  | nil => rfl
  | cons cb cbs ih =>
    have h : (Event.callback r cb : Event ρ σ).callbackAt r = some cb := if_pos rfl
    rw [List.map_cons, callbacksAt_cons_some h, ih]

lemma settled_nil (r : ρ) : Settled r ([] : List (Event ρ σ)) := by
  intro cb hcb
  cases hcb

lemma eq_callback {e : Event ρ σ} {cb : Callback} (h : e.callbackAt r = some cb) :
    e = .callback r cb := by
  cases e with
  | outside change => cases h
  | callback r' cb' =>
    by_cases hr : r' = r
    · subst hr
      simp only [Event.callbackAt, if_true, Option.some.injEq] at h
      rw [h]
    · simp [Event.callbackAt, hr] at h

lemma ne_of_callbackAt {r' : ρ} {cb : Callback}
    (h : (Event.callback r' cb : Event ρ σ).callbackAt r = none) : r ≠ r' := by
  intro hr
  simp [Event.callbackAt, hr] at h

lemma step_buffer_other {e : Event ρ σ} (h : e.callbackAt r = none) :
    (Buffers.step auth table b e).1.buffer r = b.buffer r := by
  cases e with
  | outside change => rfl
  | callback r' cb =>
    have hr : r ≠ r' := ne_of_callbackAt h
    simp [Buffers.step, hr]

lemma step_userData_other {e : Event ρ σ} (h : e.callbackAt r = none) :
    (Server.step auth table s e).1.userData r = s.userData r := by
  cases e with
  | outside change => rfl
  | callback r' cb =>
    have hr : r ≠ r' := ne_of_callbackAt h
    simp [Server.step, hr]

lemma Settled.not_started (h : Settled r es) (auth : Auth σ) (table : ρ → Resource σ)
    (s : Server ρ σ) (hs : (s.userData r).started = false) :
    ((exec (Server.step auth table) s es).userData r).started = false := by
  induction es using List.reverseRecOn with
  | nil => exact hs
  | append_singleton es e ih =>
    rw [exec_concat]
    cases he : e.callbackAt r with
    | none =>
      have hsettled : Settled r es := by
        simpa [Settled, callbacksAt, List.filterMap_append, he] using h
      simpa [step_userData_other he] using ih hsettled
    | some cb =>
      rw [eq_callback he]
      have hends : cb.status.ends = true := by
        apply h
        simp [callbacksAt, List.filterMap_append, he]
      simpa [Server.step] using ends_started auth (table r) hends _ _

lemma repliesAt_eq {s t : Type*} {tr : List (Visit s (Event ρ σ) (Option Reply))}
    {tr' : List (Visit t (Event ρ σ) (Option Reply))}
    (h : List.Forall₂ (fun v v' => v'.event = v.event ∧ v'.output = v.output) tr tr') :
    repliesAt r tr' = repliesAt r tr := by
  induction h with
  | nil => rfl
  | cons hv _ ih => simp only [repliesAt, List.filterMap_cons, hv.1, hv.2] at ih ⊢; rw [ih]

lemma callbacksAt_append (fs : List (Event ρ σ)) :
    callbacksAt r (es ++ fs) = callbacksAt r es ++ callbacksAt r fs := List.filterMap_append ..

lemma Serialised.left {fs : List (Event ρ σ)} (h : Serialised (es ++ fs)) : Serialised es := by
  intro r
  have hr := h r
  rw [callbacksAt_append] at hr
  exact hr.left_of_append

lemma Serialised.follows {e : Event ρ σ} {cb cb' : Callback} (h : Serialised (es ++ [e]))
    (hlast : (callbacksAt r es).getLast? = some cb) (he : e.callbackAt r = some cb') :
    cb.Follows cb' := by
  have hr := h r
  have hnil : callbacksAt r ([] : List (Event ρ σ)) = [] := rfl
  rw [callbacksAt_append, callbacksAt_cons_some he, hnil, List.isChain_append] at hr
  exact hr.2.2 cb hlast cb' rfl

lemma mem_callbacksAt {e : Event ρ σ} {cb : Callback} (he : e ∈ es) (h : e.callbackAt r = some cb) :
    cb ∈ callbacksAt r es := List.mem_filterMap.mpr ⟨e, he, h⟩

lemma settled_start (auth : Auth σ) (table : ρ → Resource σ) (garbage : ℕ → ℕ → UInt8) (app : σ)
    {before : List (Event ρ σ)} (h : Settled r before) :
    ∃ b, Implements (exec (Server.step auth table) (Server.init garbage app) before) b ∧
      b.buffer r = none := by
  have hrun := (bufferSimulation auth table fun _ _ => True).exec_run
    (Implements.init garbage app) (along_true _ before)
  refine ⟨_, hrun, ?_⟩
  have hidle := h.not_started auth table (Server.init garbage app) rfl
  exact Option.not_isSome_iff_eq_none.mp (Bool.eq_false_iff.mp ((hrun.holds r).started_eq ▸ hidle))

end

end WallaBMC.Redfish
