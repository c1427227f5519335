import WallaBMC.Documents.Size

/-! What a client gets that does not authenticate: a function of the resource and of its own callback, the same
in every state after every run. So nothing of the configuration, of the host or of other requests leaks. -/

namespace WallaBMC.Documents

open Library Library.Runs Redfish

/-- The registration of the resource, without what its functions do. -/
def registered (r : RedfishResource) : Resource Unit := resources (idleFns Unit) r

def publicDocument : RedfishResource → Json
  | .redfishVersion => redfishVersion
  | .serviceRoot => serviceRoot
  | .sessionService => sessionService
  | .odata => odata
  | _ => accountService

def publicResponse (r : RedfishResource) (cb : Callback) : ResponseCtx :=
  if cb.status.ends then cb.response
  else if (registered r).allowMethods.supports cb.client.method = false then
    ⟨405, allowHeaders (registered r).allowMethods cb.response.headers, [], true⟩
  else if (registered r).requireAuth then
    setUnauthResponse cb.client (validateAndSetHeaders cb.client cb.response (registered r).allowMethods).2
  else if cb.status = .requestDataFinal then ⟨200, jsonHeaders, (publicDocument r).text, true⟩
  else ⟨400, jsonHeaders, cb.response.body, true⟩

variable {σ : Type*}

/-- `validate_auth` fails in the callback, where the resource asks for it. -/
def Unauthenticated (auth : Auth σ) (app : σ) (r : RedfishResource) (cb : Callback) : Prop :=
  (registered r).requireAuth = true → cb.status.ends = false → validateAuth auth app cb.client < 0

instance (auth : Auth σ) (app : σ) (r : RedfishResource) (cb : Callback) : Decidable (Unauthenticated auth app r cb) :=
  inferInstanceAs (Decidable (_ → _ → _))

variable {json : JsonLibrary} {sources : σ → Sources} {fns : ResourceFns σ} {auth : Auth σ} {app : σ}
  {r : RedfishResource} {cb : Callback}

lemma table_registered (json : JsonLibrary) (sources : σ → Sources) (fns : ResourceFns σ) (r : RedfishResource) :
    (table json sources fns r).allowMethods = (registered r).allowMethods ∧
      (table json sources fns r).requireAuth = (registered r).requireAuth := by
  cases r <;> exact ⟨rfl, rfl⟩

lemma public_cases (h : (registered r).requireAuth = false) :
    r = .redfishVersion ∨ r = .serviceRoot ∨ r = .sessionService ∨ r = .odata ∨ r = .accountService := by
  revert h
  cases r <;> decide

structure Public (r : RedfishResource) : Prop where
  getOnly : (registered r).allowMethods = ⟨true, false, false⟩
  document : ∀ src, document src r = some (publicDocument r)
  fits : (publicDocument r).text.length ≤ userDataBufferGetSize

lemma public_spec (h : (registered r).requireAuth = false) : Public r := by
  rcases public_cases h with rfl | rfl | rfl | rfl | rfl <;>
    exact ⟨rfl, fun _ => rfl, by decide +kernel⟩

lemma redfishHandler_unsupported {β : Type*} [BufferStore β] {res : Resource σ} (store : β)
    (hdata : cb.status.ends = false) (h : res.allowMethods.supports cb.client.method = false) :
    (redfishHandler auth res cb store app).reply.response =
      ⟨405, allowHeaders res.allowMethods cb.response.headers, [], true⟩ := by
  have hheaders : validateAndSetHeaders cb.client cb.response res.allowMethods =
      (-1, ⟨405, allowHeaders res.allowMethods cb.response.headers, [], true⟩) := by
    rw [validateAndSetHeaders, h]
    rfl
  rw [redfishHandler, hheaders]
  cases hs : cb.status <;> first | rfl | simp [hs, TransactionStatus.ends] at hdata

lemma redfishHandler_unauthenticated {β : Type*} [BufferStore β] {res : Resource σ} (store : β)
    (hdata : cb.status.ends = false) (h : res.allowMethods.supports cb.client.method = true)
    (hauth : res.requireAuth = true) (hrejected : validateAuth auth app cb.client < 0) :
    (redfishHandler auth res cb store app).reply.response =
      setUnauthResponse cb.client (validateAndSetHeaders cb.client cb.response res.allowMethods).2 := by
  have hvalid : ¬ (validateAndSetHeaders cb.client cb.response res.allowMethods).1 < 0 := by
    rw [validateAndSetHeaders_neg, h]
    exact Bool.noConfusion
  have hfails : (res.requireAuth && decide (validateAuth auth app cb.client < 0)) = true := by
    rw [hauth, decide_eq_true hrejected]
    rfl
  rw [redfishHandler]
  simp only [if_neg hvalid, hfails, if_true]
  cases hs : cb.status <;> first | rfl | simp [hs, TransactionStatus.ends] at hdata

lemma redfishHandler_ended {β : Type*} [BufferStore β] {res : Resource σ} (store : β)
    (hends : cb.status.ends = true) : (redfishHandler auth res cb store app).reply.response = cb.response := by
  have hout := redfishHandler_handled auth res cb store app
  generalize redfishHandler auth res cb store app = out at hout ⊢
  cases hout with
  | ended => rfl
  | refused _ hdata | get _ _ hdata | body _ _ hdata => simp [hends] at hdata

lemma getRequest_more {β : Type*} [BufferStore β] (fn : Handler σ) (store : β) (response : ResponseCtx)
    (h : cb.status ≠ .requestDataFinal) :
    (getRequest fn cb response store app).reply.response = { response with status := 400, finalChunk := true } := by
  simp only [getRequest, if_pos h, silent]

lemma redfishHandler_public (json : JsonLibrary) (sources : σ → Sources) (fns : ResourceFns σ)
    (hrejected : Unauthenticated auth app r cb) (buffer : Option Buffer) :
    (redfishHandler auth (table json sources fns r) cb buffer app).reply.response = publicResponse r cb := by
  obtain ⟨hallow, hrequire⟩ := table_registered json sources fns r
  rw [publicResponse]
  cases hends : cb.status.ends with
  | true => exact redfishHandler_ended buffer hends
  | false =>
    rw [if_neg Bool.false_ne_true]
    by_cases hsupports : (registered r).allowMethods.supports cb.client.method = false
    · rw [if_pos hsupports, redfishHandler_unsupported buffer hends (hallow ▸ hsupports), hallow]
    · rw [if_neg hsupports]
      cases hauth : (registered r).requireAuth with
      | true =>
        have hmethod := Bool.of_not_eq_false hsupports
        rw [if_pos rfl, redfishHandler_unauthenticated buffer hends (hallow ▸ hmethod) (hrequire.trans hauth)
          (hrejected hauth hends), hallow]
      | false =>
        have hpublic := public_spec hauth
        have hget : cb.client.method = .get := by
          rw [hpublic.getOnly] at hsupports
          cases hmethod : cb.client.method <;> simp [hmethod, AllowMethods.supports] at hsupports ⊢
        have hadmitted : (table json sources fns r).requireAuth = true → 0 ≤ validateAuth auth app cb.client := by
          rw [hrequire, hauth]
          exact fun h => Bool.noConfusion h
        rw [if_neg Bool.false_ne_true]
        split_ifs with hfinal
        · obtain ⟨-, hresponse⟩ := redfishHandler_answer json fns
            (hpublic.document (sources app)) hget hfinal hadmitted buffer
          rw [hresponse, answer, if_pos hpublic.fits]
        · obtain ⟨docs, hfn, -⟩ := getFn_table json fns (hpublic.document (sources app))
          rw [redfishHandler_get buffer hfn hget hends hadmitted, getRequest_more _ _ _ hfinal]

def anonymousGet : Callback := ⟨⟨.get, []⟩, .requestDataFinal, noData, ⟨0, [], [], false⟩⟩

lemma anonymousGet_unauthenticated : Unauthenticated adminAuth blank .system anonymousGet := by
  decide

end WallaBMC.Documents
