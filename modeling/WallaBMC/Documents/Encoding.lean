import WallaBMC.Documents.Handlers
import WallaBMC.Redfish.Accumulation

/-! GET answered: the handler encodes its document piece by piece into the buffer of the resource, and the
answer carries the whole text or is an error without one, whatever the resource and the heap went through. -/

namespace WallaBMC.Documents

open Library Library.Runs Redfish
open Settings (internalServerError)

/-- `json_obj_encode` passes the text in pieces. -/
structure JsonLibrary where
  pieces : Json → List Chunk
  flatten_pieces : ∀ value, ((pieces value).map Chunk.bytes).flatten = value.text

variable {σ : Type*}

/-- It stops at the first piece that `append_bytes` refuses. -/
def jsonObjEncode (next : ℤ → HandlerProg σ) : List Chunk → HandlerProg σ
  | [] => next 0
  | piece :: pieces =>
    .jsonAppend piece (fun ret => if ret < 0 then next ret else jsonObjEncode next pieces)

def getHandler (json : JsonLibrary) (doc : σ → Json) : Handler σ := fun app _ =>
  jsonObjEncode (fun ret => .done (if ret < 0 then internalServerError else 0) app) (json.pieces (doc app))

/-- The resources with the documents of `redfish.c`; what PATCH and POST do is left to `fns`. -/
def withDocuments (json : JsonLibrary) (sources : σ → Sources) (fns : ResourceFns σ) : ResourceFns σ :=
  { fns with
    redfishVersionGetHandler := getHandler json (fun _ => redfishVersion)
    serviceRootGetHandler := getHandler json (fun _ => serviceRoot)
    sessionServiceGetHandler := getHandler json (fun _ => sessionService)
    sessionsCollectionGetHandler := getHandler json (fun _ => sessionsCollection)
    odataGetHandler := getHandler json (fun _ => odata)
    accountServiceGetHandler := getHandler json (fun _ => accountService)
    accountsCollectionGetHandler := getHandler json (fun _ => accountsCollection)
    accountGetHandler := getHandler json (fun _ => account)
    managersCollectionGetHandler := getHandler json (fun _ => managersCollection)
    managerGetHandler := getHandler json (fun app => manager (sources app))
    ethernetCollectionGetHandler := getHandler json (fun _ => ethernetCollection)
    ethernetGetHandler := getHandler json
      (fun app => (ethernetInterface (sources app).bmc.config (sources app).unicast).json)
    networkProtocolGetHandler := getHandler json (fun app => (networkProtocol (sources app).bmc.config.data).json)
    systemsCollectionGetHandler := getHandler json (fun _ => systemsCollection)
    systemGetHandler := getHandler json (fun app => computerSystem (sources app))
    chassisCollectionGetHandler := getHandler json (fun _ => chassisCollection)
    chassisGetHandler := getHandler json (fun app => chassis (sources app))
    sensorsCollectionGetHandler := getHandler json (fun _ => sensorsCollection)
    sensorTempBmcGetHandler := getHandler json (fun app => sensorTempBmc (sources app)) }

def table (json : JsonLibrary) (sources : σ → Sources) (fns : ResourceFns σ) (r : RedfishResource) : Resource σ :=
  resources (withDocuments json sources fns) r

def jsonHeaders : List (String × String) := [("content-type", "application/json"), ("cache-control", "no-cache")]

/-- The answer to GET for a document: its text, or an error if there is no room for it. -/
def answer (doc : Json) (response : ResponseCtx) : ResponseCtx :=
  if doc.text.length ≤ userDataBufferGetSize then ⟨200, jsonHeaders, doc.text, true⟩
  else ⟨internalServerError, jsonHeaders, response.body, true⟩

variable {json : JsonLibrary} {sources : σ → Sources} {fns : ResourceFns σ} {auth : Auth σ} {app : σ}
  {r : RedfishResource} {cb : Callback} {doc : Json} {b b' : Buffer} {pieces : List Chunk}
  {next : ℤ → HandlerProg σ}

lemma jsonObjEncode_fits (h : b.append (pieces.map Chunk.bytes).flatten = some b') :
    (jsonObjEncode next pieces).run (some b) = (next 0).run (some b') := by
  induction pieces generalizing b with
  | nil =>
    rw [List.map_nil, List.flatten_nil, b.append_nil] at h
    cases h
    rfl
  | cons piece pieces ih =>
    rw [List.map_cons, List.flatten_cons, Buffer.append_append] at h
    obtain ⟨first, hfirst, hrest⟩ := Option.bind_eq_some_iff.mp h
    simp only [jsonObjEncode, HandlerProg.run, userDataJsonAppend, BufferStore.append, hfirst, if_true,
      lt_self_iff_false, if_false]
    exact ih hrest

lemma jsonObjEncode_full (h : b.append (pieces.map Chunk.bytes).flatten = none) :
    ∃ rest, (jsonObjEncode next pieces).run (some b) = (next (-enospc)).run (some rest) := by
  induction pieces generalizing b with
  | nil =>
    rw [List.map_nil, List.flatten_nil, b.append_nil] at h
    cases h
  | cons piece pieces ih =>
    rw [List.map_cons, List.flatten_cons, Buffer.append_append] at h
    cases hfirst : b.append piece.bytes with
    | none =>
      refine ⟨b, ?_⟩
      simp only [jsonObjEncode, HandlerProg.run, userDataJsonAppend, BufferStore.append, hfirst]
      rfl
    | some first =>
      rw [hfirst, Option.bind_some] at h
      obtain ⟨rest, hrest⟩ := ih h
      refine ⟨rest, ?_⟩
      simpa only [jsonObjEncode, HandlerProg.run, userDataJsonAppend, BufferStore.append, hfirst, if_true,
        lt_self_iff_false, if_false] using hrest

lemma getHandler_run (json : JsonLibrary) (doc : σ → Json) (app : σ) (body : List UInt8) :
    ∃ ret rest, (getHandler json doc app body).run (some (Buffer.empty userDataBufferGetSize)) =
        (ret, app, some rest) ∧
      (ret = 0 ∧ rest.data = (doc app).text ∧ (doc app).text.length ≤ userDataBufferGetSize ∨
        ret = internalServerError ∧ ¬ (doc app).text.length ≤ userDataBufferGetSize) := by
  have htext := json.flatten_pieces (doc app)
  by_cases hfits : (doc app).text.length ≤ userDataBufferGetSize
  · have happend : (Buffer.empty userDataBufferGetSize).append ((json.pieces (doc app)).map Chunk.bytes).flatten =
        some ⟨userDataBufferGetSize, (doc app).text, hfits⟩ := by
      rw [htext]
      simp [Buffer.append, Buffer.empty, hfits]
    exact ⟨0, _, jsonObjEncode_fits happend, .inl ⟨rfl, rfl, hfits⟩⟩
  · have happend : (Buffer.empty userDataBufferGetSize).append ((json.pieces (doc app)).map Chunk.bytes).flatten =
        none := by
      rw [htext]
      simp [Buffer.append, Buffer.empty, hfits]
    obtain ⟨rest, hrun⟩ := jsonObjEncode_full happend
    exact ⟨internalServerError, rest, hrun, .inr ⟨rfl, hfits⟩⟩

lemma getFn_table (json : JsonLibrary) (fns : ResourceFns σ) (h : document (sources app) r = some doc) :
    ∃ docs : σ → Json, (table json sources fns r).getFn = some (getHandler json docs) ∧ docs app = doc := by
  cases r
  case systemReset => cases h
  all_goals exact ⟨_, rfl, Option.some.inj h⟩

lemma redfishHandler_get {β : Type*} [BufferStore β] {res : Resource σ} {fn : Handler σ} (store : β)
    (hfn : res.getFn = some fn) (hget : cb.client.method = .get) (hdata : cb.status.ends = false)
    (hadmitted : res.requireAuth = true → 0 ≤ validateAuth auth app cb.client) :
    redfishHandler auth res cb store app =
      getRequest fn cb { cb.response with headers := jsonHeaders } store app := by
  have hauth : (res.requireAuth && decide (validateAuth auth app cb.client < 0)) = false := by
    cases hrequire : res.requireAuth with
    | false => rfl
    | true => simp [(hadmitted hrequire).not_gt]
  have hsupports : res.allowMethods.supports cb.client.method = true := by
    rw [supports_allowMethods, hget, Resource.fn, hfn]
    rfl
  have hheaders : validateAndSetHeaders cb.client cb.response res.allowMethods =
      (0, { cb.response with headers := jsonHeaders }) := by
    rw [validateAndSetHeaders, hsupports, hget]
    rfl
  have hmethod : res.fn .get = some fn := hfn
  cases hs : cb.status <;> first | simp [hs, TransactionStatus.ends] at hdata; done |
    simp only [redfishHandler, hs, hheaders, hauth, hmethod, lt_self_iff_false, if_false, hget,
      Bool.false_eq_true]

lemma getRequest_answer {doc : σ → Json} (hfinal : cb.status = .requestDataFinal) (response : ResponseCtx)
    (buffer : Option Buffer) :
    (getRequest (getHandler json doc) cb { response with headers := jsonHeaders } buffer app).app = app ∧
      (getRequest (getHandler json doc) cb { response with headers := jsonHeaders } buffer app).reply.response =
        answer (doc app) response := by
  obtain ⟨ret, rest, hrun, hret⟩ := getHandler_run json doc app []
  have halloc : BufferStore.alloc userDataBufferGetSize (freeStarted buffer) =
      some (Buffer.empty userDataBufferGetSize) := by
    cases buffer <;> rfl
  have hbody : BufferStore.data (some (Buffer.empty userDataBufferGetSize)) = [] := rfl
  simp only [getRequest, hfinal, halloc, hbody, hrun, ne_eq, not_true_eq_false, if_false]
  rcases hret with ⟨rfl, hdata, hfits⟩ | ⟨rfl, hlong⟩
  · have hanswer : answer (doc app) response = ⟨200, jsonHeaders, (doc app).text, true⟩ := if_pos hfits
    simp [hanswer, hdata, BufferStore.data]
  · have hanswer : answer (doc app) response = ⟨internalServerError, jsonHeaders, response.body, true⟩ :=
      if_neg hlong
    have herror : internalServerError ≠ 0 := by decide
    simp only [hanswer, herror, not_false_eq_true, if_true, and_self]

lemma redfishHandler_answer (json : JsonLibrary) (fns : ResourceFns σ)
    (hdoc : document (sources app) r = some doc) (hget : cb.client.method = .get)
    (hfinal : cb.status = .requestDataFinal)
    (hadmitted : (table json sources fns r).requireAuth = true → 0 ≤ validateAuth auth app cb.client)
    (buffer : Option Buffer) :
    (redfishHandler auth (table json sources fns r) cb buffer app).app = app ∧
      (redfishHandler auth (table json sources fns r) cb buffer app).reply.response = answer doc cb.response := by
  obtain ⟨docs, hfn, rfl⟩ := getFn_table json fns hdoc
  have hdata : cb.status.ends = false := by
    rw [hfinal]
    rfl
  rw [redfishHandler_get buffer hfn hget hdata hadmitted]
  exact getRequest_answer hfinal cb.response buffer

/-- A GET that is admitted, for a resource with a document. -/
structure Gets (auth : Auth σ) (sources : σ → Sources) (app : σ) (r : RedfishResource) (cb : Callback) (doc : Json) :
    Prop where
  get : cb.client.method = .get
  final : cb.status = .requestDataFinal
  doc : document (sources app) r = some doc
  admitted : (resources (idleFns Unit) r).requireAuth = true → 0 ≤ validateAuth auth app cb.client

lemma table_requireAuth (json : JsonLibrary) (sources : σ → Sources) (fns : ResourceFns σ) (r : RedfishResource) :
    (table json sources fns r).requireAuth = (resources (idleFns Unit) r).requireAuth := by
  cases r <;> rfl

lemma step_answer {s : Server RedfishResource σ} {abstract : Buffers RedfishResource σ} (hs : Implements s abstract)
    (h : Gets auth sources s.app r cb doc) :
    (Server.step auth (table json sources fns) s (.callback r cb)).1.app = s.app ∧
      (Server.step auth (table json sources fns) s (.callback r cb)).2.map Reply.response =
        some (answer doc cb.response) := by
  have hout := hs.outcome auth (table json sources fns) r cb
  have hdoc := h.doc
  have hadmitted := h.admitted
  rw [hs.app_eq] at hdoc
  rw [← table_requireAuth json sources fns r, hs.app_eq] at hadmitted
  obtain ⟨happ, hresponse⟩ := redfishHandler_answer json fns hdoc h.get h.final hadmitted (abstract.buffer r)
  constructor
  · exact (hout.app.trans happ).trans hs.app_eq.symm
  · exact congrArg some ((congrArg Reply.response hout.reply).trans hresponse)

/-- The callbacks of a run each find a server that implements one without a heap. -/
lemma along_implements (auth : Auth σ) (table : RedfishResource → Resource σ) (garbage : ℕ → ℕ → UInt8) (app : σ)
    (es : List (Event RedfishResource σ)) {good : Server RedfishResource σ → Event RedfishResource σ → Prop}
    (hgood : ∀ s e b, Implements s b → good s e) :
    Along (Server.step auth table) good (Server.init garbage app) es := by
  apply along_invariant (I := fun s => ∃ b, Implements s b) _ _ ⟨_, Implements.init garbage app⟩ (along_true _ es)
  · rintro s e ⟨b, hb⟩ -
    exact ⟨_, (bufferSimulation auth table fun _ _ => True).keeps hb trivial⟩
  · rintro s e ⟨b, hb⟩ -
    exact hgood s e b hb

end WallaBMC.Documents
