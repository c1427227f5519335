import Mathlib.Tactic

/-! What `redfish.c` sees of an HTTP transaction: the client with its captured headers, Basic
authentication, and the headers of the responses. `Base64.decode` is `base64_decode` with room for
`dlen` bytes; it returns its result and the bytes written. -/

namespace WallaBMC.Redfish

structure CString where
  bytes : List UInt8
  noNul : 0 ∉ bytes
  deriving DecidableEq

def ascii (s : String) : List UInt8 := s.toList.map (fun c => UInt8.ofNat c.toNat)

lemma zero_notMem_authorization : 0 ∉ ascii "authorization" := by decide

structure HttpHeader where
  name : CString
  value : CString

inductive HttpMethod
  | get
  | patch
  | post
  | other
  deriving DecidableEq

inductive TransactionStatus
  | aborted
  | requestDataMore
  | requestDataFinal
  | complete
  deriving DecidableEq

structure ClientCtx where
  method : HttpMethod
  headers : List HttpHeader

structure ResponseCtx where
  status : ℤ
  headers : List (String × String)
  body : List UInt8
  finalChunk : Bool

structure Base64 where
  decode : ℕ → List UInt8 → ℤ × List UInt8
  bounded : ∀ dlen src, (decode dlen src).2.length ≤ dlen

def credentialsMaxLen : ℕ := 64

/-- `σ` is the state outside the HTTP layer; `password` is `config_bmc_admin_password`. -/
structure Auth (σ : Type*) where
  base64 : Base64
  password : σ → CString

variable {σ : Type*}

def Auth.expected (auth : Auth σ) (app : σ) : List UInt8 :=
  (ascii "admin:" ++ (auth.password app).bytes).take (credentialsMaxLen - 1)

def authHeader (client : ClientCtx) : Option CString :=
  (client.headers.find? (fun h => h.name.bytes = ascii "authorization" ∨
    h.name.bytes = ascii "Authorization")).map HttpHeader.value

def validateAuth (auth : Auth σ) (app : σ) (client : ClientCtx) : ℤ :=
  match authHeader client with
  | none => -1
  | some value =>
    if value.bytes.take (ascii "Basic ").length ≠ ascii "Basic " then -1
    else
      let token := value.bytes.drop (ascii "Basic ").length
      let (ret, decoded) := auth.base64.decode (credentialsMaxLen - 1) token
      if ret < 0 then ret
      else if decoded.takeWhile (· ≠ 0) = auth.expected app then 0 else -1

structure AllowMethods where
  get : Bool
  patch : Bool
  post : Bool
  deriving DecidableEq

def AllowMethods.supports (allow : AllowMethods) : HttpMethod → Bool
  | .get => allow.get
  | .patch => allow.patch
  | .post => allow.post
  | .other => false

def allowHeaders (allow : AllowMethods) (headers : List (String × String)) : List (String × String) :=
  if allow = ⟨true, false, false⟩ then [("allow", "GET")]
  else if allow = ⟨false, false, true⟩ then [("allow", "POST")]
  else if allow = ⟨true, true, false⟩ then [("allow", "GET, PATCH")]
  else headers

def validateAndSetHeaders (client : ClientCtx) (response : ResponseCtx) (allow : AllowMethods) :
    ℤ × ResponseCtx :=
  if !allow.supports client.method then
    (-1, ⟨405, allowHeaders allow response.headers, [], true⟩)
  else if client.method = .get then
    (0, { response with
      headers := [("content-type", "application/json"), ("cache-control", "no-cache")] })
  else (0, response)

def isWebui (client : ClientCtx) : Bool :=
  client.headers.any (fun h => h.name.bytes = ascii "x-auth-code" ∧ h.value.bytes = ascii "webui")

def setUnauthResponse (client : ClientCtx) (response : ResponseCtx) : ResponseCtx :=
  { status := 401
    headers := if isWebui client then response.headers else
      [("www-authenticate", "Basic realm=\"BMC\"")]
    body := []
    finalChunk := true }

lemma validateAndSetHeaders_neg {client : ClientCtx} {response : ResponseCtx} {allow : AllowMethods} :
    (validateAndSetHeaders client response allow).1 < 0 ↔ allow.supports client.method = false := by
  rw [validateAndSetHeaders]
  cases allow.supports client.method <;> simp
  split <;> simp

end WallaBMC.Redfish
