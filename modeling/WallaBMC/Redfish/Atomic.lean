import WallaBMC.Redfish.Accumulation
import WallaBMC.Redfish.Resources

/-! The server of whole requests, which has no chunks, no heap and no buffers: a request is one step, taken at
its last chunk. A run of callbacks whose requests come in order and fit the buffer is a run of this server, however
they are cut and interleaved. -/

namespace WallaBMC.Redfish

open Library.Runs

structure WholeRequest (ρ : Type*) where
  resource : ρ
  client : ClientCtx
  response : ResponseCtx
  body : List UInt8

inductive Act (ρ σ : Type*)
  | request (req : WholeRequest ρ)
  | outside (change : σ → σ)

section

variable {ρ σ : Type*}

def serveBody (fn : Handler σ) (response : ResponseCtx) (body : List UInt8) (app : σ) : σ × ResponseCtx :=
  match (Buffer.empty userDataBufferPostSize).append body with
  | none => (app, { response with status := 400, finalChunk := true })
  | some buffer =>
    let (ret, app, _) := (fn app buffer.data).run (some buffer)
    (app, { response with status := if ret ≠ 0 then ret else 204, finalChunk := true })

def serveGet (fn : Handler σ) (response : ResponseCtx) (app : σ) : σ × ResponseCtx :=
  let (ret, app, buffer) := (fn app []).run (some (Buffer.empty userDataBufferGetSize))
  let response := if ret ≠ 0 then { response with status := ret } else
    { response with body := BufferStore.data buffer, status := 200 }
  (app, { response with finalChunk := true })

def serve (auth : Auth σ) (res : Resource σ) (req : WholeRequest ρ) (app : σ) : σ × ResponseCtx :=
  let (valid, response) := validateAndSetHeaders req.client req.response res.allowMethods
  if valid < 0 then (app, response)
  else if res.requireAuth && validateAuth auth app req.client < 0 then (app, setUnauthResponse req.client response)
  else
    match req.client.method, res.fn req.client.method with
    | .patch, some fn | .post, some fn => serveBody fn response req.body app
    | .get, some fn => serveGet fn response app
    | _, _ => (app, { response with status := 500, finalChunk := true })

def Act.step (auth : Auth σ) (table : ρ → Resource σ) (app : σ) : Act ρ σ → σ × Option ResponseCtx
  | .request req => ((serve auth (table req.resource) req app).1, some (serve auth (table req.resource) req app).2)
  | .outside change => (change app, none)

def received (d : List UInt8) (cb : Callback) : List UInt8 :=
  if cb.status = .requestDataMore then d ++ cb.data.bytes else []

def collect [DecidableEq ρ] (pending : ρ → List UInt8) : Event ρ σ → (ρ → List UInt8) × Option (Act ρ σ)
  | .callback r cb =>
    (Function.update pending r (received (pending r) cb),
      if cb.status = .requestDataFinal then
        some (.request ⟨r, cb.client, cb.response, pending r ++ cb.data.bytes⟩)
      else none)
  | .outside change => (pending, some (.outside change))

def acts [DecidableEq ρ] (es : List (Event ρ σ)) : List (Act ρ σ) :=
  (outputs collect (fun _ => []) es).filterMap id

def Event.isFinal : Event ρ σ → Bool
  | .callback _ cb => cb.status = .requestDataFinal
  | .outside _ => false

def answers {s : Type*} (tr : List (Visit s (Event ρ σ) (Option Reply))) : List ResponseCtx :=
  tr.filterMap (fun v => if v.event.isFinal then v.output.map Reply.response else none)

def Roomy (pending : ρ → List UInt8) : Event ρ σ → Prop
  | .callback r cb => cb.status = .requestDataFinal → (pending r).length ≤ userDataBufferPostSize
  | .outside _ => True

instance (pending : ρ → List UInt8) : (e : Event ρ σ) → Decidable (Roomy pending e)
  | .callback _ _ => inferInstanceAs (Decidable (_ → _))
  | .outside _ => isTrue trivial

/-- What came for a request before its last chunk is not longer than the buffer. -/
def Fits [DecidableEq ρ] (es : List (Event ρ σ)) : Prop := Along collect Roomy (fun _ => []) es

instance [DecidableEq ρ] (es : List (Event ρ σ)) : Decidable (Fits es) :=
  inferInstanceAs (Decidable (Along collect Roomy (fun _ => []) es))

/-- The last chunk of a request is followed by its end, and within a request a chunk is accepted only if the one
before it was. -/
def Continues (auth : Auth σ) (res : Resource σ) (x x' : σ × Callback) : Prop :=
  x.2.status.ends = true ∨ x'.2.status.ends = true ∨
    (x.2.status = .requestDataMore ∧ (Accepted auth res x'.1 x'.2 → Accepted auth res x.1 x.2))

instance (auth : Auth σ) (res : Resource σ) (app : σ) (cb : Callback) : Decidable (Accepted auth res app cb) :=
  decidable_of_iff ((cb.client.method = .patch ∨ cb.client.method = .post) ∧ (res.fn cb.client.method).isSome ∧
      (res.requireAuth = true → 0 ≤ validateAuth auth app cb.client))
    ⟨fun h => ⟨h.1, h.2.1, h.2.2⟩, fun h => ⟨h.body, h.supported, h.admitted⟩⟩

instance (auth : Auth σ) (res : Resource σ) (x x' : σ × Callback) : Decidable (Continues auth res x x') :=
  inferInstanceAs (Decidable (_ ∨ _ ∨ _))

def callbacksSeen [DecidableEq ρ] (r : ρ) (tr : List (Visit (Server ρ σ) (Event ρ σ) (Option Reply))) :
    List (σ × Callback) :=
  tr.filterMap (fun v => (v.event.callbackAt r).map (fun cb => (v.state.app, cb)))

def Orderly [DecidableEq ρ] (auth : Auth σ) (table : ρ → Resource σ)
    (tr : List (Visit (Server ρ σ) (Event ρ σ) (Option Reply))) : Prop :=
  ∀ r, (callbacksSeen r tr).IsChain (Continues auth (table r))

instance [DecidableEq ρ] [Fintype ρ] (auth : Auth σ) (table : ρ → Resource σ)
    (tr : List (Visit (Server ρ σ) (Event ρ σ) (Option Reply))) : Decidable (Orderly auth table tr) :=
  inferInstanceAs (Decidable (∀ r, (callbacksSeen r tr).IsChain (Continues auth (table r))))

end

section

variable {ρ σ : Type*} {auth : Auth σ} {res : Resource σ} {app : σ} {cb : Callback} {buffer : Option Buffer}
  {d : List UInt8} {fn : Handler σ}

lemma Gathered.append_eq (h : Gathered buffer d) (src : List UInt8) :
    (Buffer.empty userDataBufferPostSize).append (d ++ src) =
      (buffer.getD (Buffer.empty userDataBufferPostSize)).append src := by
  obtain ⟨hsize, hdata⟩ := h
  generalize buffer.getD (Buffer.empty userDataBufferPostSize) = b at hsize hdata ⊢
  obtain ⟨size, data, hfits⟩ := b
  subst hsize hdata
  have hfirst : (Buffer.empty userDataBufferPostSize).append data = some ⟨userDataBufferPostSize, data, hfits⟩ := by
    simp [Buffer.append, Buffer.empty, hfits]
  rw [Buffer.append_append, hfirst, Option.bind_some]

lemma bodyRequest_serve (response : ResponseCtx) (hfinal : cb.status = .requestDataFinal) (h : Gathered buffer d) :
    ((bodyRequest fn cb response buffer app).app, (bodyRequest fn cb response buffer app).reply.response) =
      serveBody fn response (d ++ cb.data.bytes) app := by
  have hacc := accumulate_some cb.data (buffer.getD (Buffer.empty userDataBufferPostSize))
  simp only [bodyRequest, serveBody, startBody_abstract, hacc, h.append_eq]
  cases happ : (buffer.getD (Buffer.empty userDataBufferPostSize)).append cb.data.bytes with
  | none => rfl
  | some b =>
    simp only [hfinal, ne_eq, not_true_eq_false, if_false]
    rfl

lemma getRequest_serve (response : ResponseCtx) (hfinal : cb.status = .requestDataFinal) :
    ((getRequest fn cb response buffer app).app, (getRequest fn cb response buffer app).reply.response) =
      serveGet fn response app := by
  simp only [getRequest, serveGet, hfinal, ne_eq, not_true_eq_false, if_false]
  rfl

lemma redfishHandler_serve {ρ : Type*} (r : ρ) (hfinal : cb.status = .requestDataFinal)
    (h : Accepted auth res app cb → Gathered buffer d) :
    ((redfishHandler auth res cb buffer app).app, (redfishHandler auth res cb buffer app).reply.response) =
      serve auth res ⟨r, cb.client, cb.response, d ++ cb.data.bytes⟩ app := by
  simp only [redfishHandler, serve, hfinal]
  split_ifs with hvalid hauth
  · rfl
  · rfl
  · have hadmitted : res.requireAuth = true → 0 ≤ validateAuth auth app cb.client := by
      simpa only [Bool.and_eq_true, decide_eq_true_eq, not_and, not_lt] using hauth
    cases hm : cb.client.method with
    | other => rfl
    | get =>
      cases hfn : res.fn .get with
      | none => rfl
      | some fn => exact getRequest_serve _ hfinal
    | patch =>
      cases hfn : res.fn .patch with
      | none => rfl
      | some fn => exact bodyRequest_serve _ hfinal (h ⟨.inl hm, by rw [hm, hfn]; rfl, hadmitted⟩)
    | post =>
      cases hfn : res.fn .post with
      | none => rfl
      | some fn => exact bodyRequest_serve _ hfinal (h ⟨.inr hm, by rw [hm, hfn]; rfl, hadmitted⟩)

end

lemma answers_concat {ρ σ s : Type*} {tr : List (Visit s (Event ρ σ) (Option Reply))}
    {v : Visit s (Event ρ σ) (Option Reply)} : answers (tr ++ [v]) =
    answers tr ++ (if v.event.isFinal then v.output.map Reply.response else none).toList := by
  rw [answers, List.filterMap_append]
  cases h : (if v.event.isFinal then v.output.map Reply.response else none) <;> simp [answers, h]

/-- What a resource holds after the callbacks `seen`, when `d` came for its request. -/
structure Receiving {σ : Type*} (auth : Auth σ) (res : Resource σ) (seen : List (σ × Callback)) (d : List UInt8)
    (buffer : Option Buffer) : Prop where
  idle : (∀ x ∈ seen.getLast?, x.2.status.ends = true) → buffer = none ∧ d = []
  taking : ∀ x ∈ seen.getLast?, x.2.status = .requestDataMore → Accepted auth res x.1 x.2 →
    d.length ≤ userDataBufferPostSize → Gathered buffer d

namespace Receiving

variable {σ : Type*} {auth : Auth σ} {res : Resource σ} {seen : List (σ × Callback)} {x : σ × Callback}
  {d : List UInt8} {buffer : Option Buffer}

lemma start : Receiving auth res [] [] none where
  idle _ := ⟨rfl, rfl⟩
  taking x hx := by cases hx

lemma gathered (h : Receiving auth res seen d buffer) (hchain : (seen ++ [x]).IsChain (Continues auth res))
    (hdata : x.2.status.ends = false) (haccepted : Accepted auth res x.1 x.2)
    (hd : d.length ≤ userDataBufferPostSize) : Gathered buffer d := by
  by_cases hidle : ∀ y ∈ seen.getLast?, y.2.status.ends = true
  · obtain ⟨rfl, rfl⟩ := h.idle hidle
    exact gathered_none
  · push Not at hidle
    obtain ⟨y, hy, hopen⟩ := hidle
    rcases (List.isChain_append.mp hchain).2.2 y hy x rfl with hends | hends | ⟨hmore, hcontinues⟩
    · exact absurd hends hopen
    · rw [hdata] at hends
      cases hends
    · exact h.taking y hy hmore (hcontinues haccepted) hd

lemma next (h : Receiving auth res seen d buffer) (hchain : (seen ++ [x]).IsChain (Continues auth res)) :
    Receiving auth res (seen ++ [x]) (received d x.2) (redfishHandler auth res x.2 buffer x.1).store where
  idle hends := by
    have hlast : x.2.status.ends = true := hends x (by simp)
    have hmore : x.2.status ≠ .requestDataMore := by
      intro hmore
      rw [hmore] at hlast
      cases hlast
    exact ⟨(redfishHandler_ends hlast).1, if_neg hmore⟩
  taking y hy hmore haccepted hd := by
    have hxy : x = y := by simpa using hy
    subst hxy
    rw [received, if_pos hmore] at hd ⊢
    have hfits := hd
    rw [List.length_append] at hfits
    have hgathered := h.gathered hchain (by rw [hmore]; rfl) haccepted (by omega)
    have hstep := (bodyStep_more hgathered hmore).1
    rw [gather, if_pos hfits] at hstep
    rwa [(redfishHandler_bodyStep buffer fun _ => haccepted).1]

end Receiving

section

variable {ρ σ : Type*} [DecidableEq ρ] {auth : Auth σ} {table : ρ → Resource σ} {r : ρ} {es : List (Event ρ σ)}
  {e : Event ρ σ} {tr : List (Visit (Server ρ σ) (Event ρ σ) (Option Reply))}
  {v : Visit (Server ρ σ) (Event ρ σ) (Option Reply)}

lemma acts_concat : acts (es ++ [e]) = acts es ++ (collect (exec collect (fun _ => []) es) e).2.toList := by
  rw [acts, outputs_append, List.filterMap_append]
  cases h : (collect (exec collect (fun _ => []) es) e).2 <;> simp [acts, h]

lemma Orderly.left (h : Orderly auth table (tr ++ [v])) : Orderly auth table tr := by
  intro r
  have hr := h r
  rw [callbacksSeen, List.filterMap_append] at hr
  exact hr.left_of_append

lemma callbacksSeen_other (h : v.event.callbackAt r = none) : callbacksSeen r (tr ++ [v]) = callbacksSeen r tr := by
  simp [callbacksSeen, List.filterMap_append, h]

lemma callbacksSeen_self {cb : Callback} (h : v.event.callbackAt r = some cb) :
    callbacksSeen r (tr ++ [v]) = callbacksSeen r tr ++ [(v.state.app, cb)] := by
  simp [callbacksSeen, List.filterMap_append, h]

structure Linear (auth : Auth σ) (table : ρ → Resource σ) (garbage : ℕ → ℕ → UInt8) (app : σ) (es : List (Event ρ σ))
    (b : Buffers ρ σ) : Prop where
  heap : Implements (exec (Server.step auth table) (Server.init garbage app) es) b
  receiving : ∀ r, Receiving auth (table r)
    (callbacksSeen r (trace (Server.step auth table) (Server.init garbage app) es))
    (exec collect (fun _ => []) es r) (b.buffer r)
  app_eq : b.app = exec (Act.step auth table) app (acts es)
  answers_eq : answers (trace (Server.step auth table) (Server.init garbage app) es) =
    (outputs (Act.step auth table) app (acts es)).filterMap id

variable {garbage : ℕ → ℕ → UInt8} {app : σ} {b : Buffers ρ σ}

lemma linear_nil : Linear auth table garbage app [] (Buffers.init app : Buffers ρ σ) where
  heap := Implements.init garbage app
  receiving _ := Receiving.start
  app_eq := rfl
  answers_eq := rfl

lemma linear_act (h : Linear auth table garbage app es b) {act : Option (Act ρ σ)}
    (hact : (collect (exec collect (fun _ => []) es) e).2 = act) :
    exec (Act.step auth table) app (acts (es ++ [e])) = exec (Act.step auth table) b.app act.toList ∧
      (outputs (Act.step auth table) app (acts (es ++ [e]))).filterMap id =
        (outputs (Act.step auth table) app (acts es)).filterMap id ++
          (outputs (Act.step auth table) b.app act.toList).filterMap id := by
  rw [acts_concat, hact, exec_append, outputs_append, List.filterMap_append, ← h.app_eq]
  exact ⟨rfl, rfl⟩

lemma Linear.receiving_next (h : Linear auth table garbage app es b)
    (horderly : Orderly auth table (trace (Server.step auth table) (Server.init garbage app) (es ++ [e]))) (r : ρ) :
    Receiving auth (table r) (callbacksSeen r (trace (Server.step auth table) (Server.init garbage app) (es ++ [e])))
      (exec collect (fun _ => []) (es ++ [e]) r) ((Buffers.step auth table b e).1.buffer r) := by
  have hr := horderly r
  rw [trace_append, trace_cons, trace_nil] at hr ⊢
  rw [exec_concat]
  cases he : e.callbackAt r with
  | none =>
    have hpending : (collect (exec collect (fun _ => []) es) e).1 r = exec collect (fun _ => []) es r := by
      cases e with
      | outside change => rfl
      | callback r' cb => exact Function.update_of_ne (ne_of_callbackAt he) ..
    rw [callbacksSeen_other he, step_buffer_other he, hpending]
    exact h.receiving r
  | some cb =>
    obtain rfl := eq_callback he
    rw [callbacksSeen_self he] at hr ⊢
    have hnext := (h.receiving r).next hr
    rw [h.heap.app_eq] at hnext ⊢
    simpa only [collect, Buffers.step, Function.update_self] using hnext

/-- Before the last chunk of a request and after it nothing happens. -/
lemma redfishHandler_idle {res : Resource σ} {cb : Callback} (buffer : Option Buffer) (app : σ)
    (h : cb.status ≠ .requestDataFinal) : (redfishHandler auth res cb buffer app).app = app := by
  have hout := redfishHandler_handled auth res cb buffer app
  generalize redfishHandler auth res cb buffer app = out at hout ⊢
  cases hout with
  | ended | refused => rfl
  | get fn response => simp only [getRequest, if_pos h, silent]
  | body fn response =>
    simp only [bodyRequest, if_pos h]
    split <;> rfl

lemma Linear.gathered (h : Linear auth table garbage app es b) {cb : Callback}
    (horderly : Orderly auth table
      (trace (Server.step auth table) (Server.init garbage app) (es ++ [.callback r cb])))
    (hfits : Fits (es ++ [.callback r cb])) (hfinal : cb.status = .requestDataFinal)
    (haccepted : Accepted auth (table r) b.app cb) : Gathered (b.buffer r) (exec collect (fun _ => []) es r) := by
  have hpending : (exec collect (fun _ => []) es r).length ≤ userDataBufferPostSize :=
    (along_append.mp hfits).2.1 hfinal
  have hself : (Event.callback r cb : Event ρ σ).callbackAt r = some cb := if_pos rfl
  have hr := horderly r
  rw [trace_append, trace_cons, trace_nil, callbacksSeen_self hself, h.heap.app_eq] at hr
  exact (h.receiving r).gathered hr (by rw [hfinal]; rfl) haccepted hpending

/-- The callback does to the application what the whole server does, if anything, and answers the same. -/
lemma Linear.act (h : Linear auth table garbage app es b)
    (horderly : Orderly auth table (trace (Server.step auth table) (Server.init garbage app) (es ++ [e])))
    (hfits : Fits (es ++ [e])) :
    (Buffers.step auth table b e).1.app =
        exec (Act.step auth table) b.app (collect (exec collect (fun _ => []) es) e).2.toList ∧
      (if e.isFinal then (Buffers.step auth table b e).2.map Reply.response else none).toList =
        (outputs (Act.step auth table) b.app (collect (exec collect (fun _ => []) es) e).2.toList).filterMap id := by
  cases e with
  | outside change => exact ⟨rfl, rfl⟩
  | callback r cb =>
    by_cases hfinal : cb.status = .requestDataFinal
    · have hserve := redfishHandler_serve r hfinal (h.gathered horderly hfits hfinal)
      simp only [collect, Event.isFinal, hfinal, decide_true, if_true, Option.toList_some, exec_cons, exec_nil,
        outputs_cons, outputs_nil, Act.step, ← hserve]
      exact ⟨rfl, rfl⟩
    · simp only [collect, Event.isFinal, hfinal, decide_false, if_false, Option.toList_none, exec_nil, outputs_nil]
      exact ⟨redfishHandler_idle _ _ hfinal, rfl⟩

lemma Linear.step (h : Linear auth table garbage app es b)
    (horderly : Orderly auth table (trace (Server.step auth table) (Server.init garbage app) (es ++ [e])))
    (hfits : Fits (es ++ [e])) : Linear auth table garbage app (es ++ [e]) (Buffers.step auth table b e).1 := by
  obtain ⟨hexec, houtputs⟩ := linear_act h (e := e) rfl
  obtain ⟨happ, hanswer⟩ := h.act horderly hfits
  have hreply : (Buffers.step auth table b e).2 =
      (Server.step auth table (exec (Server.step auth table) (Server.init garbage app) es) e).2 :=
    (bufferSimulation auth table fun _ _ => True).answers h.heap trivial
  constructor
  · rw [exec_concat]
    exact (bufferSimulation auth table fun _ _ => True).keeps h.heap trivial
  · exact h.receiving_next horderly
  · exact happ.trans hexec.symm
  · rw [trace_append, trace_cons, trace_nil, answers_concat, h.answers_eq, houtputs, ← hreply, hanswer]

lemma linear_run (horderly : Orderly auth table (trace (Server.step auth table) (Server.init garbage app) es))
    (hfits : Fits es) : Linear auth table garbage app es (exec (Buffers.step auth table) (Buffers.init app) es) := by
  induction es using List.reverseRecOn with
  | nil => exact linear_nil
  | append_singleton es e ih =>
    have hleft := horderly
    rw [trace_append, trace_cons, trace_nil] at hleft
    rw [exec_concat]
    exact (ih hleft.left (along_append.mp hfits).1).step horderly hfits

end

/-- Requests take effect one at a time, each at its last chunk and with its whole body, and nothing else does. -/
theorem requests_linearise {ρ σ : Type*} [DecidableEq ρ] (auth : Auth σ) (table : ρ → Resource σ)
    (garbage : ℕ → ℕ → UInt8) (app : σ) (es : List (Event ρ σ))
    (horderly : Orderly auth table (trace (Server.step auth table) (Server.init garbage app) es)) (hfits : Fits es) :
    (exec (Server.step auth table) (Server.init garbage app) es).app = exec (Act.step auth table) app (acts es) ∧
      answers (trace (Server.step auth table) (Server.init garbage app) es) =
        (outputs (Act.step auth table) app (acts es)).filterMap id := by
  have hlinear := linear_run horderly hfits
  exact ⟨hlinear.heap.app_eq.trans hlinear.app_eq, hlinear.answers_eq⟩

def betweenChunks : List (Event RedfishResource Unit) :=
  [.callback .account (adminCallback .patch .requestDataMore chunk4),
    .callback .system (adminCallback .get .requestDataFinal noData), .outside id,
    .callback .account (adminCallback .patch .requestDataFinal chunk4),
    .callback .system (adminCallback .get .complete noData),
    .callback .account (adminCallback .patch .complete noData)]

theorem requests_linearise_between :
    (exec (Server.step authPw (resources (idleFns Unit))) (Server.init (fun _ _ => 0) ()) betweenChunks).app =
        exec (Act.step authPw (resources (idleFns Unit))) () (acts betweenChunks) ∧
      answers (trace (Server.step authPw (resources (idleFns Unit))) (Server.init (fun _ _ => 0) ()) betweenChunks) =
        (outputs (Act.step authPw (resources (idleFns Unit))) () (acts betweenChunks)).filterMap id :=
  requests_linearise authPw (resources (idleFns Unit)) (fun _ _ => 0) () betweenChunks
    (by decide +kernel) (by decide +kernel)

end WallaBMC.Redfish
