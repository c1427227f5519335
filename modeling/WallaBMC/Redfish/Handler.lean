import WallaBMC.Redfish.Http
import WallaBMC.Redfish.UserData

/-! `redfish_handler`, over any store of request buffers. A `get_fn`, `patch_fn` or `post_fn` reads the
application state and the buffer, appends to the buffer with `user_data_json_append` only, and returns an
`int`. The outcome also records the calls of `alloc_user_data` and of these functions. -/

namespace WallaBMC.Redfish

open BufferStore

def enospc : ℤ := 28

inductive HandlerProg (σ : Type*)
  | done (ret : ℤ) (app : σ)
  | jsonAppend (src : Chunk) (next : ℤ → HandlerProg σ)

def Handler (σ : Type*) := σ → List UInt8 → HandlerProg σ

structure Resource (σ : Type*) where
  requireAuth : Bool
  getFn : Option (Handler σ)
  patchFn : Option (Handler σ)
  postFn : Option (Handler σ)

structure Callback where
  client : ClientCtx
  status : TransactionStatus
  data : Chunk
  response : ResponseCtx

/-- A call of `alloc_user_data`: the size the resource holds already and the one it asks for. -/
structure AllocCall where
  held : ℕ
  size : ℕ

structure Invocation where
  method : HttpMethod
  data : List UInt8
  deriving DecidableEq

structure Reply where
  response : ResponseCtx
  allocs : List AllocCall
  invoked : List Invocation

structure Outcome (β σ : Type*) where
  store : β
  app : σ
  reply : Reply

def TransactionStatus.ends : TransactionStatus → Bool
  | .complete | .aborted => true
  | .requestDataMore | .requestDataFinal => false

def Resource.allowMethods {σ : Type*} (res : Resource σ) : AllowMethods :=
  ⟨res.getFn.isSome, res.patchFn.isSome, res.postFn.isSome⟩

def Resource.fn {σ : Type*} (res : Resource σ) : HttpMethod → Option (Handler σ)
  | .get => res.getFn
  | .patch => res.patchFn
  | .post => res.postFn
  | .other => none

section

variable {σ β : Type*} [BufferStore β]

def userDataJsonAppend (src : Chunk) (store : β) : ℤ × β :=
  let (fits, store) := append src store
  (if fits then 0 else -enospc, store)

def HandlerProg.run : HandlerProg σ → β → ℤ × σ × β
  | .done ret app, store => (ret, app, store)
  | .jsonAppend src next, store =>
    let (ret, store) := userDataJsonAppend src store
    (next ret).run store

def silent (store : β) (app : σ) (response : ResponseCtx) : Outcome β σ :=
  ⟨store, app, ⟨response, [], []⟩⟩

def startBody (store : β) : β × List AllocCall :=
  if started store then (store, [])
  else (alloc userDataBufferPostSize store, [⟨size store, userDataBufferPostSize⟩])

def accumulate (src : Chunk) (store : β) : Bool × β :=
  if src.bytes.length > 0 then append src store else (true, store)

/-- The branch of `redfish_handler` for PATCH and POST. -/
def bodyRequest (fn : Handler σ) (cb : Callback) (response : ResponseCtx) (store : β) (app : σ) :
    Outcome β σ :=
  let (store, allocs) := startBody store
  let (fits, store) := accumulate cb.data store
  if !fits then
    ⟨free store, app, ⟨{ response with status := 400, finalChunk := true }, allocs, []⟩⟩
  else if cb.status ≠ .requestDataFinal then ⟨store, app, ⟨response, allocs, []⟩⟩
  else
    let body := data store
    let (ret, app, store) := (fn app body).run store
    ⟨free store, app, ⟨{ response with status := if ret ≠ 0 then ret else 204, finalChunk := true },
      allocs, [⟨cb.client.method, body⟩]⟩⟩

def freeStarted (store : β) : β := if started store then free store else store

/-- The branch of `redfish_handler` for GET. -/
def getRequest (fn : Handler σ) (cb : Callback) (response : ResponseCtx) (store : β) (app : σ) :
    Outcome β σ :=
  let store := freeStarted store
  if cb.status ≠ .requestDataFinal then
    silent store app { response with status := 400, finalChunk := true }
  else
    let allocs := [⟨size store, userDataBufferGetSize⟩]
    let store := alloc userDataBufferGetSize store
    let body := data store
    let (ret, app, store) := (fn app body).run store
    let response := if ret ≠ 0 then { response with status := ret } else
      { response with body := data store, status := 200 }
    ⟨store, app, ⟨{ response with finalChunk := true }, allocs, [⟨.get, body⟩]⟩⟩

def redfishHandler (auth : Auth σ) (res : Resource σ) (cb : Callback) (store : β) (app : σ) :
    Outcome β σ :=
  match cb.status with
  | .complete =>
    if cb.client.method = .get then silent (free store) app cb.response
    else silent (freeStarted store) app cb.response
  | .aborted => silent (free store) app cb.response
  | .requestDataMore | .requestDataFinal =>
    let (valid, response) := validateAndSetHeaders cb.client cb.response res.allowMethods
    if valid < 0 then silent store app response
    else if res.requireAuth && validateAuth auth app cb.client < 0 then
      silent store app (setUnauthResponse cb.client response)
    else
      match cb.client.method, res.fn cb.client.method with
      | .patch, some fn | .post, some fn => bodyRequest fn cb response store app
      | .get, some fn => getRequest fn cb response store app
      | _, _ => silent store app { response with status := 500, finalChunk := true }

end

lemma supports_allowMethods {σ : Type*} (res : Resource σ) (method : HttpMethod) :
    res.allowMethods.supports method = (res.fn method).isSome := by
  cases method <;> rfl

section

variable {σ β : Type*} [BufferStore β] (auth : Auth σ) (res : Resource σ) (cb : Callback) (store : β)
  (app : σ)

inductive Handled : Outcome β σ → Prop
  | ended (store' : β) (hends : cb.status.ends = true)
      (hstore : store' = free store ∨ store' = freeStarted store) :
      Handled (silent store' app cb.response)
  | refused (response : ResponseCtx) (hdata : cb.status.ends = false)
      (hreason : res.fn cb.client.method = none ∨
        res.requireAuth = true ∧ validateAuth auth app cb.client < 0) :
      Handled (silent store app response)
  | get (fn : Handler σ) (response : ResponseCtx) (hdata : cb.status.ends = false)
      (hmethod : cb.client.method = .get) (hfn : res.fn cb.client.method = some fn)
      (hadmitted : res.requireAuth = true → 0 ≤ validateAuth auth app cb.client) :
      Handled (getRequest fn cb response store app)
  | body (fn : Handler σ) (response : ResponseCtx) (hdata : cb.status.ends = false)
      (hmethod : cb.client.method = .patch ∨ cb.client.method = .post)
      (hfn : res.fn cb.client.method = some fn)
      (hadmitted : res.requireAuth = true → 0 ≤ validateAuth auth app cb.client) :
      Handled (bodyRequest fn cb response store app)

theorem redfishHandler_handled :
    Handled auth res cb store app (redfishHandler auth res cb store app) := by
  rw [redfishHandler]
  cases hs : cb.status with
  | complete =>
    have hends : cb.status.ends = true := by rw [hs]; rfl
    dsimp only
    split
    · exact .ended _ hends (.inl rfl)
    · exact .ended _ hends (.inr rfl)
  | aborted => exact .ended _ (by rw [hs]; rfl) (.inl rfl)
  | requestDataMore | requestDataFinal =>
    have hdata : cb.status.ends = false := by rw [hs]; rfl
    dsimp only
    cases hfn : res.fn cb.client.method with
    | none =>
      rw [if_pos (validateAndSetHeaders_neg.mpr (by rw [supports_allowMethods, hfn]; rfl))]
      exact .refused _ hdata (.inl hfn)
    | some fn =>
      have hvalid : ¬ (validateAndSetHeaders cb.client cb.response res.allowMethods).1 < 0 := by
        rw [validateAndSetHeaders_neg, supports_allowMethods, hfn]
        exact Bool.noConfusion
      rw [if_neg hvalid]
      split_ifs with hauth
      · simp only [Bool.and_eq_true, decide_eq_true_eq] at hauth
        exact .refused _ hdata (.inr hauth)
      · simp only [Bool.and_eq_true, decide_eq_true_eq, not_and, not_lt] at hauth
        cases hm : cb.client.method with
        | get => exact .get fn _ hdata hm hfn hauth
        | patch => exact .body fn _ hdata (.inl hm) hfn hauth
        | post => exact .body fn _ hdata (.inr hm) hfn hauth
        | other => rw [hm] at hfn; cases hfn

end

end WallaBMC.Redfish
