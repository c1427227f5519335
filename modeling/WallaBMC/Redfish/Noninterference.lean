import WallaBMC.Redfish.Requests
import WallaBMC.Redfish.Resources

/-! A request that never authenticates may be left out of a run: its callbacks find no buffer, take none
and call nothing, so every other callback meets the state it would have met anyway. -/

namespace WallaBMC.Redfish

open Library.Runs

section

variable {ρ σ : Type*} [DecidableEq ρ]

def notAt (r : ρ) (e : Event ρ σ) : Bool := (e.callbackAt r).isNone

/-- `validate_auth` fails in the callback, if it is one with request data for `r`. -/
def Rejected (auth : Auth σ) (r : ρ) (app : σ) : Event ρ σ → Prop
  | .callback r' cb => r' = r → cb.status.ends = false → validateAuth auth app cb.client < 0
  | .outside _ => True

instance (auth : Auth σ) (r : ρ) (app : σ) : (e : Event ρ σ) → Decidable (Rejected auth r app e)
  | .callback _ _ => inferInstanceAs (Decidable (_ → _))
  | .outside _ => isTrue trivial

end

section

variable {ρ σ : Type*}

def calls (output : Option Reply) : List Invocation := output.elim [] Reply.invoked

def invocations (tr : List (Visit (Server ρ σ) (Event ρ σ) (Option Reply))) :
    List (Event ρ σ × Invocation) :=
  tr.flatMap (fun v => (calls v.output).map (fun call => (v.event, call)))

lemma invocations_append (tr tr' : List (Visit (Server ρ σ) (Event ρ σ) (Option Reply))) :
    invocations (tr ++ tr') = invocations tr ++ invocations tr' := List.flatMap_append

lemma invocations_filter {tr : List (Visit (Server ρ σ) (Event ρ σ) (Option Reply))}
    {keep : Event ρ σ → Bool} (h : ∀ v ∈ tr, keep v.event = false → calls v.output = []) :
    invocations (tr.filter (fun v => keep v.event)) = invocations tr := by
  induction tr with
  | nil => rfl
  | cons v tr ih =>
    have hrest := ih fun x hx => h x (List.mem_cons_of_mem _ hx)
    cases hk : keep v.event with
    | true => simpa [invocations, hk] using hrest
    | false =>
      have hnone : calls v.output = [] := h v List.mem_cons_self hk
      simpa [invocations, hk, hnone] using hrest

end

section

variable {ρ σ : Type*} [DecidableEq ρ] {auth : Auth σ} {table : ρ → Resource σ} {r : ρ}
  {s : Server ρ σ} {e : Event ρ σ}

lemma free_idle {slot : Slot} (h : slot.userData.started = false) : freeUserData slot = slot := by
  simp [freeUserData, h]

lemma freeStarted_idle {slot : Slot} (h : slot.userData.started = false) : freeStarted slot = slot := by
  simp [freeStarted, BufferStore.started, h]

lemma redfishHandler_rejected {res : Resource σ} {cb : Callback} {slot : Slot} {app : σ}
    (hauth : res.requireAuth = true) (hidle : slot.userData.started = false)
    (hrejected : cb.status.ends = false → validateAuth auth app cb.client < 0) :
    ∃ response, redfishHandler auth res cb slot app = silent slot app response := by
  have hout := redfishHandler_handled auth res cb slot app
  generalize redfishHandler auth res cb slot app = out at hout ⊢
  cases hout with
  | ended store' _ hstore =>
    have hsame : store' = slot := by
      rcases hstore with rfl | rfl
      · exact free_idle hidle
      · exact freeStarted_idle hidle
    exact ⟨cb.response, by rw [hsame]⟩
  | refused response => exact ⟨response, rfl⟩
  | get fn response hdata _ _ hadmitted | body fn response hdata _ _ hadmitted =>
    exact absurd (hadmitted hauth) (not_le.mpr (hrejected hdata))

lemma rejected_step (hauth : (table r).requireAuth = true) (hidle : (s.userData r).started = false)
    (hrejected : Rejected auth r s.app e) (he : notAt r e = false) :
    (Server.step auth table s e).1 = s ∧ calls (Server.step auth table s e).2 = [] := by
  obtain ⟨cb, hcb⟩ : ∃ cb, e.callbackAt r = some cb := by
    apply Option.isSome_iff_exists.mp
    simpa [notAt] using he
  have heq := eq_callback hcb
  subst heq
  have hslot : (s.slot r).userData.started = false := hidle
  obtain ⟨response, hout⟩ := redfishHandler_rejected hauth hslot (hrejected rfl)
  simp only [Server.step, hout, silent, calls]
  exact ⟨by simp [Server.slot], rfl⟩

lemma rejected_idle (hauth : (table r).requireAuth = true) (hidle : (s.userData r).started = false)
    (hrejected : Rejected auth r s.app e) :
    ((Server.step auth table s e).1.userData r).started = false := by
  cases he : notAt r e with
  | true =>
    rw [step_userData_other (Option.isNone_iff_eq_none.mp he)]
    exact hidle
  | false =>
    rw [(rejected_step hauth hidle hrejected he).1]
    exact hidle

end

section

variable {ρ σ : Type*} [DecidableEq ρ] (auth : Auth σ) (table : ρ → Resource σ)
  (garbage : ℕ → ℕ → UInt8) (app : σ) (before during after : List (Event ρ σ)) (r : ρ)

theorem unauthenticated_request_inert (hauth : (table r).requireAuth = true)
    (hsettled : Settled r before)
    (hrejected : Along (Server.step auth table) (fun s e => Rejected auth r s.app e)
      (exec (Server.step auth table) (Server.init garbage app) before) during) :
    exec (Server.step auth table) (Server.init garbage app)
        (before ++ during.filter (notAt r) ++ after) =
      exec (Server.step auth table) (Server.init garbage app) (before ++ during ++ after) ∧
    trace (Server.step auth table) (Server.init garbage app)
        (before ++ during.filter (notAt r) ++ after) =
      trace (Server.step auth table) (Server.init garbage app) before ++
        (trace (Server.step auth table)
          (exec (Server.step auth table) (Server.init garbage app) before) during).filter
          (fun v => notAt r v.event) ++
        trace (Server.step auth table)
          (exec (Server.step auth table) (Server.init garbage app) (before ++ during)) after ∧
    invocations (trace (Server.step auth table) (Server.init garbage app)
        (before ++ during.filter (notAt r) ++ after)) =
      invocations (trace (Server.step auth table) (Server.init garbage app)
        (before ++ during ++ after)) := by
  have hidle := hsettled.not_started auth table (Server.init garbage app) rfl
  have hinert : Along (Server.step auth table) (fun s e => notAt r e = false →
      (Server.step auth table s e).1 = s ∧ calls (Server.step auth table s e).2 = [])
      (exec (Server.step auth table) (Server.init garbage app) before) during :=
    along_invariant (fun _ _ hi hr => rejected_idle hauth hi hr)
      (fun _ _ hi hr => rejected_step hauth hi hr) hidle hrejected
  have hsame := hinert.mono fun s e h he => (h he).1
  have hexec := exec_filter hsame
  have htrace := trace_filter hsame
  refine ⟨?_, ?_, ?_⟩
  · rw [exec_append, exec_append, exec_append, exec_append, hexec]
  · rw [trace_append, trace_append, exec_append, exec_append, hexec, htrace]
  · have hcalls : ∀ v ∈ trace (Server.step auth table)
        (exec (Server.step auth table) (Server.init garbage app) before) during,
        notAt r v.event = false → calls v.output = [] := by
      intro v hv he
      rw [trace_output v hv]
      exact (along_iff_trace.mp hinert v hv he).2
    rw [trace_append, trace_append, trace_append, trace_append, exec_append, exec_append, hexec,
      htrace, invocations_append, invocations_append, invocations_filter hcalls, invocations_append,
      invocations_append]

end

def anonymousPatch : List (Event RedfishResource Unit) :=
  [.callback .account ⟨⟨.patch, []⟩, .requestDataMore, chunk256, ⟨0, [], [], false⟩⟩,
    .callback .manager (adminCallback .get .requestDataFinal noData),
    .callback .account ⟨⟨.patch, []⟩, .requestDataFinal, chunk4, ⟨0, [], [], false⟩⟩,
    .callback .account ⟨⟨.patch, []⟩, .complete, noData, ⟨0, [], [], false⟩⟩]

theorem unauthenticated_request_inert_account :
    exec (Server.step authPw (resources (idleFns Unit))) (Server.init (fun _ _ => 0) ())
        ([] ++ anonymousPatch.filter (notAt .account) ++ []) =
      exec (Server.step authPw (resources (idleFns Unit))) (Server.init (fun _ _ => 0) ())
        ([] ++ anonymousPatch ++ []) :=
  (unauthenticated_request_inert authPw (resources (idleFns Unit)) (fun _ _ => 0) () []
    anonymousPatch [] .account rfl (settled_nil _) (by decide +kernel)).1

end WallaBMC.Redfish
