import WallaBMC.Redfish.Requests

/-! The body of a PATCH or POST request. `gather` is what the chunks so far leave in the buffer: a chunk
that does not fit empties it, and the chunks after it are collected anew. So a body within the buffer
size reaches its function whole, and of a longer one the tail may reach it. -/

namespace WallaBMC.Redfish

open Library.Runs

def gather (d : List UInt8) (cb : Callback) : List UInt8 :=
  if d.length + cb.data.bytes.length ≤ userDataBufferPostSize then d ++ cb.data.bytes else []

/-- The number of bytes since the last chunk that did not fit. -/
def residue (n : ℕ) (cb : Callback) : ℕ :=
  if n + cb.data.bytes.length ≤ userDataBufferPostSize then n + cb.data.bytes.length else 0

/-- `redfish_handler` on an accepted body callback: the buffer it leaves and the functions it calls. -/
def bodyStep (buffer : Option Buffer) (cb : Callback) : Option Buffer × List Invocation :=
  if cb.status.ends then (none, [])
  else
    match (buffer.getD (Buffer.empty userDataBufferPostSize)).append cb.data.bytes with
    | none => (none, [])
    | some b =>
      if cb.status = .requestDataFinal then (none, [⟨cb.client.method, b.data⟩]) else (some b, [])

structure Accepted {σ : Type*} (auth : Auth σ) (res : Resource σ) (app : σ) (cb : Callback) :
    Prop where
  body : cb.client.method = .patch ∨ cb.client.method = .post
  supported : (res.fn cb.client.method).isSome
  admitted : res.requireAuth = true → 0 ≤ validateAuth auth app cb.client

section

variable {σ : Type*} {auth : Auth σ} {res : Resource σ} {app : σ} {cb : Callback}
  {buffer : Option Buffer}

lemma Buffer.append_nil (b : Buffer) : b.append [] = some b := by
  simp [Buffer.append, b.fits]

lemma Buffer.append_append (b : Buffer) (xs ys : List UInt8) :
    b.append (xs ++ ys) = (b.append xs).bind (fun b => b.append ys) := by
  by_cases hfirst : b.data.length + xs.length ≤ b.size
  · have hxs : b.append xs = some ⟨b.size, b.data ++ xs, by simpa using hfirst⟩ := dif_pos hfirst
    rw [hxs, Option.bind_some]
    simp only [Buffer.append, List.length_append, List.append_assoc, Nat.add_assoc]
  · have hxs : b.append xs = none := dif_neg hfirst
    have hboth : ¬ b.data.length + (xs ++ ys).length ≤ b.size := by
      rw [List.length_append]
      omega
    rw [hxs, Option.bind_none]
    exact dif_neg hboth

lemma accumulate_some (src : Chunk) (b : Buffer) :
    accumulate src (some b) = match b.append src.bytes with
      | none => (false, some b)
      | some b' => (true, some b') := by
  by_cases h : src.bytes.length > 0
  · rw [accumulate, if_pos h]
    rfl
  · have hnil : src.bytes = [] := List.eq_nil_of_length_eq_zero (by omega)
    rw [accumulate, if_neg h, hnil, b.append_nil]

lemma startBody_abstract (buffer : Option Buffer) :
    (startBody buffer).1 = some (buffer.getD (Buffer.empty userDataBufferPostSize)) := by
  cases buffer <;> rfl

lemma redfishHandler_ends (hends : cb.status.ends = true) :
    (redfishHandler auth res cb buffer app).store = none ∧
      (redfishHandler auth res cb buffer app).reply.invoked = [] := by
  have hout := redfishHandler_handled auth res cb buffer app
  generalize redfishHandler auth res cb buffer app = out at hout ⊢
  cases hout with
  | ended store' _ hstore =>
    rcases hstore with rfl | rfl
    · exact ⟨rfl, rfl⟩
    · cases buffer <;> exact ⟨rfl, rfl⟩
  | refused _ hdata | get _ _ hdata | body _ _ hdata => simp [hends] at hdata

lemma redfishHandler_accepted (h : Accepted auth res app cb) (hdata : cb.status.ends = false)
    (store : Option Buffer) :
    ∃ fn response, redfishHandler auth res cb store app = bodyRequest fn cb response store app := by
  obtain ⟨hbody, hsupported, hadmitted⟩ := h
  have hout := redfishHandler_handled auth res cb store app
  generalize redfishHandler auth res cb store app = out at hout ⊢
  cases hout with
  | ended _ hends => simp [hdata] at hends
  | refused _ _ hreason =>
    rcases hreason with hfn | ⟨hauth, hfails⟩
    · simp [hfn] at hsupported
    · exact absurd (hadmitted hauth) (not_le.mpr hfails)
  | get _ _ _ hmethod => simp [hmethod] at hbody
  | body fn response => exact ⟨fn, response, rfl⟩

lemma bodyRequest_bodyStep (fn : Handler σ) (response : ResponseCtx) (hdata : cb.status.ends = false) :
    (bodyRequest fn cb response buffer app).store = (bodyStep buffer cb).1 ∧
      (bodyRequest fn cb response buffer app).reply.invoked = (bodyStep buffer cb).2 := by
  have hacc := accumulate_some cb.data (buffer.getD (Buffer.empty userDataBufferPostSize))
  simp only [bodyRequest, bodyStep, startBody_abstract, hacc, hdata]
  cases happ : (buffer.getD (Buffer.empty userDataBufferPostSize)).append cb.data.bytes with
  | none => exact ⟨rfl, rfl⟩
  | some b =>
    by_cases hfinal : cb.status = .requestDataFinal
    · simp [hfinal, BufferStore.free, BufferStore.data]
    · simp [hfinal]

theorem redfishHandler_bodyStep (buffer : Option Buffer)
    (h : cb.status.ends = false → Accepted auth res app cb) :
    (redfishHandler auth res cb buffer app).store = (bodyStep buffer cb).1 ∧
      (redfishHandler auth res cb buffer app).reply.invoked = (bodyStep buffer cb).2 := by
  cases hends : cb.status.ends with
  | true =>
    rw [bodyStep, if_pos hends]
    exact redfishHandler_ends hends
  | false =>
    obtain ⟨fn, response, heq⟩ := redfishHandler_accepted (h hends) hends buffer
    rw [heq]
    exact bodyRequest_bodyStep fn response hends

end

section

variable {buffer : Option Buffer} {d : List UInt8} {cb : Callback} {cbs : List Callback}

def Gathered (buffer : Option Buffer) (d : List UInt8) : Prop :=
  (buffer.getD (Buffer.empty userDataBufferPostSize)).size = userDataBufferPostSize ∧
    (buffer.getD (Buffer.empty userDataBufferPostSize)).data = d

lemma gathered_none : Gathered none [] := ⟨rfl, rfl⟩

lemma Gathered.append (h : Gathered buffer d) (src : List UInt8) :
    (d.length + src.length ≤ userDataBufferPostSize ∧
      ∃ b, (buffer.getD (Buffer.empty userDataBufferPostSize)).append src = some b ∧
        b.size = userDataBufferPostSize ∧ b.data = d ++ src) ∨
    (¬ d.length + src.length ≤ userDataBufferPostSize ∧
      (buffer.getD (Buffer.empty userDataBufferPostSize)).append src = none) := by
  obtain ⟨hsize, hdata⟩ := h
  by_cases hfits : d.length + src.length ≤ userDataBufferPostSize
  · have hroom : (buffer.getD (Buffer.empty userDataBufferPostSize)).data.length + src.length ≤
        (buffer.getD (Buffer.empty userDataBufferPostSize)).size := by rwa [hsize, hdata]
    exact .inl ⟨hfits, _, dif_pos hroom, hsize, congrArg (· ++ src) hdata⟩
  · refine .inr ⟨hfits, dif_neg ?_⟩
    rwa [hsize, hdata]

lemma bodyStep_more (h : Gathered buffer d) (hmore : cb.status = .requestDataMore) :
    Gathered (bodyStep buffer cb).1 (gather d cb) ∧ (bodyStep buffer cb).2 = [] := by
  have hdata : cb.status.ends = false := by rw [hmore]; rfl
  rcases h.append cb.data.bytes with ⟨hfits, b, hb, hsize, hbytes⟩ | ⟨hfits, hb⟩
  · simp only [bodyStep, hb, gather, if_pos hfits, hmore]
    exact ⟨⟨hsize, hbytes⟩, rfl⟩
  · simp only [bodyStep, hdata, hb, gather, if_neg hfits]
    exact ⟨gathered_none, rfl⟩

lemma bodyStep_final (h : Gathered buffer d) (hfinal : cb.status = .requestDataFinal) :
    (bodyStep buffer cb).2 = if d.length + cb.data.bytes.length ≤ userDataBufferPostSize then
      [⟨cb.client.method, d ++ cb.data.bytes⟩] else [] := by
  have hdata : cb.status.ends = false := by rw [hfinal]; rfl
  rcases h.append cb.data.bytes with ⟨hfits, b, hb, -, hbytes⟩ | ⟨hfits, hb⟩
  · simp only [bodyStep, hb, if_pos hfits, hfinal, hbytes]
    rfl
  · simp only [bodyStep, hdata, hb, if_neg hfits]
    rfl

lemma trace_more (h : Gathered buffer d) (hmore : ∀ cb ∈ cbs, cb.status = .requestDataMore) :
    Gathered (exec bodyStep buffer cbs) (cbs.foldl gather d) ∧
      (trace bodyStep buffer cbs).map (fun v => v.output) = cbs.map (fun _ => []) := by
  induction cbs generalizing buffer d with
  | nil => exact ⟨h, rfl⟩
  | cons cb cbs ih =>
    obtain ⟨hstep, hout⟩ := bodyStep_more h (hmore cb List.mem_cons_self)
    obtain ⟨hrest, houts⟩ := ih hstep fun x hx => hmore x (List.mem_cons_of_mem _ hx)
    exact ⟨hrest, by rw [trace_cons, List.map_cons, houts, hout, List.map_cons]⟩

lemma trace_ending (hends : ∀ cb ∈ cbs, cb.status.ends = true) :
    (trace bodyStep buffer cbs).map (fun v => v.output) = cbs.map (fun _ => []) := by
  induction cbs generalizing buffer with
  | nil => rfl
  | cons cb cbs ih =>
    have hout : (bodyStep buffer cb).2 = [] := by
      rw [bodyStep, if_pos (hends cb List.mem_cons_self)]
    rw [trace_cons, List.map_cons, ih fun x hx => hends x (List.mem_cons_of_mem _ hx), hout,
      List.map_cons]

lemma foldl_gather (h : d.length + (cbs.map (fun cb => cb.data.bytes)).flatten.length ≤
    userDataBufferPostSize) : cbs.foldl gather d = d ++ (cbs.map (fun cb => cb.data.bytes)).flatten := by
  induction cbs generalizing d with
  | nil => simp
  | cons cb cbs ih =>
    rw [List.map_cons, List.flatten_cons, List.length_append] at h
    have hfits : d.length + cb.data.bytes.length ≤ userDataBufferPostSize := by omega
    rw [List.foldl_cons, gather, if_pos hfits, ih (by rw [List.length_append]; omega), List.map_cons,
      List.flatten_cons, List.append_assoc]

lemma length_foldl_gather (d : List UInt8) (cbs : List Callback) :
    (cbs.foldl gather d).length = cbs.foldl residue d.length := by
  induction cbs generalizing d with
  | nil => rfl
  | cons cb cbs ih =>
    have hstep : (gather d cb).length = residue d.length cb := by
      rw [gather, residue]
      split <;> simp
    rw [List.foldl_cons, List.foldl_cons, ih, hstep]

end

section

variable {ρ σ : Type*} [DecidableEq ρ] {auth : Auth σ} {table : ρ → Resource σ} {r : ρ}

lemma body_run {b : Buffers ρ σ} {es : List (Event ρ σ)}
    (hes : Along (Buffers.step auth table) (fun b e => ∀ cb, e.callbackAt r = some cb →
      cb.status.ends = false → Accepted auth (table r) b.app cb) b es) :
    (repliesAt r (trace (Buffers.step auth table) b es)).map Reply.invoked =
      (trace bodyStep (b.buffer r) (callbacksAt r es)).map (fun v => v.output) := by
  induction es generalizing b with
  | nil => rfl
  | cons e es ih =>
    have hrest := ih hes.2
    cases he : e.callbackAt r with
    | none =>
      rw [step_buffer_other he] at hrest
      rw [callbacksAt_cons_none he, ← hrest]
      simp [repliesAt, he]
    | some cb =>
      obtain ⟨hstore, hinvoked⟩ := redfishHandler_bodyStep (b.buffer r) (hes.1 cb he)
      have hcb := eq_callback he
      rw [callbacksAt_cons_some he, trace_cons, trace_cons, List.map_cons, ← hinvoked, ← hstore]
      subst hcb
      have hbuf : (Buffers.step auth table b (.callback r cb)).1.buffer r =
          (redfishHandler auth (table r) cb (b.buffer r) b.app).store := Function.update_self ..
      rw [hbuf] at hrest
      rw [← hrest]
      simp [repliesAt, he, Buffers.step]

lemma request_run (req : BodyRequest) :
    (trace bodyStep none req.callbacks).map (fun v => v.output) =
      req.more.map (fun _ => []) ++ (req.final.toList.map fun cb =>
        if (req.more.foldl residue 0) + cb.data.bytes.length ≤ userDataBufferPostSize then
          [⟨req.method, req.more.foldl gather [] ++ cb.data.bytes⟩] else []) ++
      req.ending.map (fun _ => []) := by
  obtain ⟨hgathered, hmore⟩ := trace_more gathered_none req.more_status
  have hlen := length_foldl_gather [] req.more
  have hfinal : (trace bodyStep (exec bodyStep none req.more) req.final.toList).map
      (fun v => v.output) = req.final.toList.map fun cb =>
        if (req.more.foldl residue 0) + cb.data.bytes.length ≤ userDataBufferPostSize then
          [⟨req.method, req.more.foldl gather [] ++ cb.data.bytes⟩] else [] := by
    cases hf : req.final with
    | none => rfl
    | some cb =>
      have hmethod : cb.client.method = req.method := req.same_method cb (by simp [hf])
      have hout := bodyStep_final hgathered (req.final_status cb (by simp [hf]))
      rw [hlen, hmethod] at hout
      simp only [Option.toList_some, trace_cons, trace_nil, List.map_cons, List.map_nil, hout]
      rfl
  rw [BodyRequest.callbacks, trace_append, trace_append, List.map_append, List.map_append, hmore,
    hfinal, trace_ending req.ending_status]

theorem body_request_run (garbage : ℕ → ℕ → UInt8) (app : σ) (before during : List (Event ρ σ))
    (req : BodyRequest) (hsettled : Settled r before) (hreq : callbacksAt r during = req.callbacks)
    (hfn : ((table r).fn req.method).isSome)
    (hadmitted : Along (Server.step auth table) (fun s e => Admitted auth table r s.app e)
      (exec (Server.step auth table) (Server.init garbage app) before) during) :
    (repliesAt r (trace (Server.step auth table)
      (exec (Server.step auth table) (Server.init garbage app) before) during)).map Reply.invoked =
      req.more.map (fun _ => []) ++ (req.final.toList.map fun cb =>
        if (req.more.foldl residue 0) + cb.data.bytes.length ≤ userDataBufferPostSize then
          [⟨req.method, req.more.foldl gather [] ++ cb.data.bytes⟩] else []) ++
      req.ending.map (fun _ => []) := by
  set s := exec (Server.step auth table) (Server.init garbage app) before
  obtain ⟨b, himpl, hidle⟩ := settled_start auth table garbage app hsettled
  let sim := bufferSimulation auth table fun app e => Admitted auth table r app e
  have hadm := sim.along himpl hadmitted
  have htrace := sim.trace_run himpl hadmitted
  rw [bufferSimulation_run] at hadm htrace
  have haccepted : Along (Buffers.step auth table) (fun b e => ∀ cb, e.callbackAt r = some cb →
      cb.status.ends = false → Accepted auth (table r) b.app cb) b during := by
    rw [along_iff_trace] at hadm ⊢
    intro v hv cb hcb hdata
    have hmem := mem_callbacksAt (event_mem hv) hcb
    rw [hreq] at hmem
    have hmethod := req.method_of_mem hmem hdata
    have hauth := hadm v hv
    rw [eq_callback hcb] at hauth
    exact ⟨hmethod ▸ req.body, hmethod ▸ hfn, hauth rfl hdata⟩
  have hreplies : repliesAt r (trace (Buffers.step auth table) b during) =
      repliesAt r (trace (Server.step auth table) s during) :=
    repliesAt_eq (htrace.imp fun v v' hv => ⟨hv.event, hv.output⟩)
  rw [← hreplies, body_run haccepted, hidle, hreq, request_run]

end

end WallaBMC.Redfish
