import WallaBMC.Library.Base64
import WallaBMC.Library.Text
import WallaBMC.Settings.Done

/-! Changing the password in the web interface. It travels to `account_patch_handler` as a JSON string in UTF-8;
`authenticate` then sends it as Basic credentials, with a byte for each code point, and as a websocket
message in UTF-8. `Stack` is what Zephyr supplies. -/

namespace WallaBMC.Web

open Redfish Storage Config Settings Library Library.Bytes Library.Text

def eperm : Errno := 1

def enomem : Errno := 12

structure Stack where
  base64 : Redfish.Base64
  websocketRecvMsg : List UInt8 → ℕ → ℤ × List UInt8
  jsonObjParse : List UInt8 → Option AccountPayload

section Browser

def base64Text (bytes : List UInt8) : CString :=
  ⟨Library.Base64.encode bytes, Library.Base64.zero_notMem_encode bytes⟩

def btoa (text : List Char) : Option CString :=
  if text.all (fun c => c.toNat < 256) then some (base64Text (latin1 text)) else none

structure Credentials where
  basicAuthHeader : CString
  wsAuthMsg : List UInt8

def basicPrefix (token : CString) : CString where
  bytes := ascii "Basic " ++ token.bytes
  noNul h := by
    rcases List.mem_append.mp h with h | h
    · exact absurd h (by decide)
    · exact token.noNul h

/-- No result where `btoa` throws. -/
def authenticate (pass : List Char) : Option Credentials :=
  (btoa ("admin:".toList ++ pass)).map
    (fun token => ⟨basicPrefix token, utf8 ("Auth:admin_".toList ++ pass)⟩)

def redfishCall (method : HttpMethod) (basicAuthHeader : CString) : ClientCtx where
  method := method
  headers := [⟨⟨ascii "authorization", zero_notMem_authorization⟩, basicAuthHeader⟩,
    ⟨⟨ascii "x-auth-code", by decide⟩, ⟨ascii "webui", by decide⟩⟩]

def passwordText (pass : List Char) : CString := ⟨stringText pass, zero_notMem_stringText pass⟩

/-- `JSON.stringify` of the new password. -/
def passwordBody (pass : List Char) : List UInt8 :=
  ascii "\x7b\"Password\":\"" ++ stringText pass ++ ascii "\"\x7d"

end Browser

def wsValidateAuth (recv : ℕ → ℤ × List UInt8) (password : CString) : ℤ :=
  let (rc, rx) := recv ((ascii "Auth:").length + credentialsMaxLen)
  if rc ≤ 0 then -eio
  else if rx.take (ascii "Auth:").length ≠ ascii "Auth:" then -einval
  else if cstr (rx.drop (ascii "Auth:").length) ≠
      (ascii "admin_" ++ password.bytes).take (credentialsMaxLen - 1) then -eperm
  else 0

namespace Stack

variable (stack : Stack)

def auth : Auth State := ⟨stack.base64, fun s => s.data.bmcAdminPassword⟩

structure Documented : Prop where
  decodes : ∀ dlen bytes, bytes.length ≤ dlen →
    stack.base64.decode dlen (Library.Base64.encode bytes) = (0, bytes)
  tooLong : ∀ dlen bytes, dlen < bytes.length →
    (stack.base64.decode dlen (Library.Base64.encode bytes)).1 < 0
  receives : ∀ message size, message ≠ [] →
    stack.websocketRecvMsg message size = (((message.take size).length : ℤ), message.take size)
  parses : ∀ pass payload, stack.jsonObjParse (passwordBody pass) = some payload →
    payload.password = some (passwordText pass)

/-- Both ways of logging in with `pass` work. -/
def Accepts (s : State) (pass : List Char) : Prop :=
  ∃ credentials, authenticate pass = some credentials ∧
    validateAuth stack.auth s (redfishCall .get credentials.basicAuthHeader) = 0 ∧
    wsValidateAuth (stack.websocketRecvMsg credentials.wsAuthMsg) s.data.bmcAdminPassword = 0

end Stack

/-- Every character is one byte of UTF-8 that JSON does not escape. -/
def Typable (pass : List Char) : Prop := ∀ c ∈ pass, Verbatim c ∧ c.toNat < 128

/-- The JSON text is too long to be stored, and `pass` is the password already. -/
def Kept (s : State) (pass : List Char) : Prop :=
  maxPwLen < (stringText pass).length ∧ pass.length ≤ 57 ∧ (∀ c ∈ pass, c.toNat < 256) ∧
    (∀ c ∈ upToNul pass, c.toNat < 128) ∧ latin1 (upToNul pass) = s.data.bmcAdminPassword.bytes

variable {stack : Stack} {faults : Faults} {s t : State} {pass : List Char}

lemma password_length (s : State) : s.data.bmcAdminPassword.bytes.length ≤ maxPwLen + 1 := by
  have hlen := length_cstr_le (s.data.bytes .bmcAdminPassword)
  rwa [s.data.length_bytes] at hlen

section Validators

variable {σ : Type*} {auth : Auth σ} {app : σ} {client : ClientCtx} {password : CString} {prompt : List UInt8}

lemma zero_notMem_login (hprompt : 0 ∉ prompt) : 0 ∉ prompt ++ password.bytes := by
  intro h
  rcases List.mem_append.mp h with hbefore | hpassword
  · exact hprompt hbefore
  · exact password.noNul hpassword

/-- `snprintf` into the expected text cuts nothing off. -/
lemma take_login (hprompt : prompt.length = 6) (hlen : password.bytes.length ≤ maxPwLen + 1) :
    (prompt ++ password.bytes).take (credentialsMaxLen - 1) = prompt ++ password.bytes := by
  apply List.take_of_length_le
  have hmax : credentialsMaxLen - 1 = 63 := rfl
  have hpw : maxPwLen + 1 = 21 := rfl
  rw [List.length_append]
  omega

lemma validateAuth_basic {value : CString} {token : List UInt8} (hlen : (auth.password app).bytes.length ≤ maxPwLen + 1)
    (hheader : authHeader client = some value) (hvalue : value.bytes = ascii "Basic " ++ token) :
    validateAuth auth app client =
      if (auth.base64.decode (credentialsMaxLen - 1) token).1 < 0 then
        (auth.base64.decode (credentialsMaxLen - 1) token).1
      else if cstr (auth.base64.decode (credentialsMaxLen - 1) token).2 =
          ascii "admin:" ++ (auth.password app).bytes then 0
      else -1 := by
  have htake : value.bytes.take (ascii "Basic ").length = ascii "Basic " := by
    rw [hvalue, List.take_left]
  have hdrop : value.bytes.drop (ascii "Basic ").length = token := by rw [hvalue, List.drop_left]
  have hexpected : auth.expected app = ascii "admin:" ++ (auth.password app).bytes := take_login rfl hlen
  simp only [validateAuth, hheader, htake, hdrop, hexpected, ne_eq, not_true_eq_false, if_false, cstr]
  rfl

lemma wsValidateAuth_iff {recv : ℕ → ℤ × List UInt8} {rx : List UInt8} (hlen : password.bytes.length ≤ maxPwLen + 1)
    (hrecv : recv ((ascii "Auth:").length + credentialsMaxLen) = ((rx.length : ℤ), rx)) :
    wsValidateAuth recv password = 0 ↔ cstr rx = ascii "Auth:" ++ (ascii "admin_" ++ password.bytes) := by
  have hexpected : (ascii "admin_" ++ password.bytes).take (credentialsMaxLen - 1) =
      ascii "admin_" ++ password.bytes := take_login rfl hlen
  simp only [wsValidateAuth, hrecv, hexpected]
  by_cases hstart : rx.take (ascii "Auth:").length = ascii "Auth:"
  · have hsplit := List.take_append_drop (ascii "Auth:").length rx
    rw [hstart] at hsplit
    have hpos : ¬ (rx.length : ℤ) ≤ 0 := by
      have hlength : rx.length = 5 + (rx.drop (ascii "Auth:").length).length := by
        conv_lhs => rw [← hsplit, List.length_append]
        rfl
      omega
    have hcstr : cstr rx = ascii "Auth:" ++ cstr (rx.drop (ascii "Auth:").length) := by
      conv_lhs => rw [← hsplit]
      exact cstr_append (by decide)
    rw [hcstr, List.append_cancel_left_eq, if_neg hpos, if_neg (not_not.mpr hstart)]
    split_ifs with hpassword
    · exact iff_of_false (errno_neg eperm).ne hpassword
    · exact iff_of_true rfl (not_not.mp hpassword)
  · refine iff_of_false ?_ ?_
    · rw [if_pos hstart]
      split_ifs
      · exact (errno_neg eio).ne
      · exact (errno_neg einval).ne
    · intro hcstr
      apply hstart
      rcases cstr_split rx with hall | ⟨junk, hjunk⟩
      · rw [hall, hcstr, List.take_left]
      · rw [hjunk, hcstr, List.append_assoc, List.take_left]

end Validators

lemma validateAuth_zero (hstack : stack.Documented) (s : State) (bytes : List UInt8) :
    validateAuth stack.auth s (redfishCall .get (basicPrefix (base64Text bytes))) = 0 ↔
      bytes.length ≤ 63 ∧ cstr bytes = ascii "admin:" ++ s.data.bmcAdminPassword.bytes := by
  obtain ⟨token, htoken⟩ : ∃ token, token = base64Text bytes := ⟨_, rfl⟩
  rw [← htoken]
  replace htoken : token.bytes = Library.Base64.encode bytes := congrArg CString.bytes htoken
  have hheader : authHeader (redfishCall .get (basicPrefix token)) = some (basicPrefix token) := rfl
  have hvalidate := validateAuth_basic (show (stack.auth.password s).bytes.length ≤ maxPwLen + 1 from password_length s)
    hheader rfl
  rw [hvalidate, htoken]
  by_cases hfits : bytes.length ≤ 63
  · have hdecode : stack.auth.base64.decode (credentialsMaxLen - 1) (Library.Base64.encode bytes) = (0, bytes) :=
      hstack.decodes 63 bytes hfits
    rw [hdecode, if_neg (lt_irrefl _)]
    split_ifs with hlogin
    · exact iff_of_true rfl ⟨hfits, hlogin⟩
    · exact iff_of_false (by norm_num) (fun h => hlogin h.2)
  · have hneg : (stack.auth.base64.decode (credentialsMaxLen - 1) (Library.Base64.encode bytes)).1 < 0 :=
      hstack.tooLong 63 bytes (not_le.mp hfits)
    rw [if_pos hneg]
    exact iff_of_false hneg.ne (fun h => hfits h.1)

lemma wsValidateAuth_zero (hstack : stack.Documented) (pass : List Char) (s : State) :
    wsValidateAuth (stack.websocketRecvMsg (utf8 ("Auth:admin_".toList ++ pass))) s.data.bmcAdminPassword = 0 ↔
      cstr (utf8 pass) = s.data.bmcAdminPassword.bytes := by
  have hlen := password_length s
  generalize s.data.bmcAdminPassword = password at hlen
  have hmessage : utf8 ("Auth:admin_".toList ++ pass) = ascii "Auth:" ++ (ascii "admin_" ++ utf8 pass) := by
    rw [utf8, List.flatMap_append, ← List.append_assoc]
    rfl
  have hrecv := hstack.receives (utf8 ("Auth:admin_".toList ++ pass)) ((ascii "Auth:").length + credentialsMaxLen)
    (by rw [hmessage]; exact List.cons_ne_nil _ _)
  have hfits : (ascii "Auth:" ++ (ascii "admin_" ++ password.bytes)).length <
      (ascii "Auth:").length + credentialsMaxLen := by
    have hadmin : (ascii "admin_").length = 6 := rfl
    have hmax : credentialsMaxLen = 64 := rfl
    have hpw : maxPwLen + 1 = 21 := rfl
    rw [List.length_append, List.length_append]
    omega
  rw [wsValidateAuth_iff hlen hrecv, cstr_take_eq_iff hfits, hmessage, cstr_append (by decide),
    cstr_append (by decide), List.append_cancel_left_eq, List.append_cancel_left_eq]

/-- A password that is too long is dropped without a word. -/
lemma password_patched (hstack : stack.Documented)
    (h204 : accountPatchHandler faults (stack.jsonObjParse (passwordBody pass)) s = (0, t)) :
    t.data.bmcAdminPassword.bytes =
      if maxPwLen < (stringText pass).length then s.data.bmcAdminPassword.bytes else stringText pass := by
  cases hparse : stack.jsonObjParse (passwordBody pass) with
  | none =>
    rw [hparse] at h204
    cases h204
  | some payload =>
    have hset : t = (configBmcPasswordSet faults (passwordText pass) s).2 := by
      rw [hparse, accountPatchHandler, hstack.parses pass payload hparse] at h204
      exact (congrArg Prod.snd h204).symm
    have hlen : (passwordText pass).bytes.length = (stringText pass).length := rfl
    rw [hset, configBmcPasswordSet, hlen]
    split_ifs with hlong
    · rfl
    · have hdata := configSave_data faults
        { s with data := s.data.strlcpy .bmcAdminPassword (passwordText pass) } .bmcAdminPassword
      have hshort : (stringText pass).length < ConfigId.bmcAdminPassword.size := by
        have hsize : ConfigId.bmcAdminPassword.size = maxPwLen + 1 := rfl
        omega
      have htake : (stringText pass).take (ConfigId.limit .bmcAdminPassword) = stringText pass := by
        apply List.take_of_length_le
        exact not_lt.mp hlong
      have himage : (s.data.write .bmcAdminPassword (stringText pass ++ [0])).image .bmcAdminPassword =
          cstr (stringText pass) := ConfigData.image_write_str s.data rfl hshort
      rw [cstr_of_notMem (zero_notMem_stringText pass)] at himage
      rw [ConfigData.bmcAdminPassword, hdata, ConfigData.strlcpy_eq s.data rfl, ConfigData.assign,
        passwordText, htake]
      exact himage

lemma accepts_iff (hstack : stack.Documented) (s : State) (pass : List Char) :
    stack.Accepts s pass ↔ (∀ c ∈ pass, c.toNat < 256) ∧ pass.length ≤ 57 ∧
      cstr (latin1 pass) = s.data.bmcAdminPassword.bytes ∧ cstr (utf8 pass) = s.data.bmcAdminPassword.bytes := by
  have hadmin : latin1 ("admin:".toList ++ pass) = ascii "admin:" ++ latin1 pass := List.map_append ..
  have hlen : (ascii "admin:" ++ latin1 pass).length = 6 + pass.length := by
    rw [List.length_append, length_latin1]
    rfl
  by_cases hlatin1 : ("admin:".toList ++ pass).all (fun c => c.toNat < 256) = true
  · have hall : ∀ c ∈ pass, c.toNat < 256 := fun c hc => by
      have h := List.all_eq_true.mp hlatin1 c (List.mem_append_right _ hc)
      exact of_decide_eq_true h
    have hcstr : cstr (ascii "admin:" ++ latin1 pass) = ascii "admin:" ++ cstr (latin1 pass) :=
      cstr_append (by decide)
    simp only [Stack.Accepts, authenticate, btoa, if_pos hlatin1, Option.map_some, Option.some.injEq,
      exists_eq_left', validateAuth_zero hstack, wsValidateAuth_zero hstack, hadmin, hlen, hcstr,
      List.append_cancel_left_eq]
    constructor
    · rintro ⟨⟨hfits, hbasic⟩, hws⟩
      exact ⟨hall, by omega, hbasic, hws⟩
    · rintro ⟨-, hfits, hbasic, hws⟩
      exact ⟨⟨by omega, hbasic⟩, hws⟩
  · simp only [Stack.Accepts, authenticate, btoa, if_neg hlatin1]
    refine iff_of_false (by simp) ?_
    rintro ⟨hall, -⟩
    apply hlatin1
    rw [List.all_append, Bool.and_eq_true]
    exact ⟨by decide, List.all_eq_true.mpr (fun c hc => decide_eq_true (hall c hc))⟩

lemma stored_iff (hshort : (stringText pass).length ≤ maxPwLen) :
    ((∀ c ∈ pass, c.toNat < 256) ∧ pass.length ≤ 57 ∧ cstr (latin1 pass) = stringText pass ∧
      cstr (utf8 pass) = stringText pass) ↔ Typable pass := by
  have hutf8 := length_utf8_le pass
  have hchars := length_le_utf8 pass
  have hmax : maxPwLen = 20 := rfl
  constructor
  · rintro ⟨-, -, hbasic, hws⟩
    have hle := length_cstr_le (utf8 pass)
    rw [hws] at hle
    have hverbatim := verbatim_of_length hle
    have hle' := length_cstr_le (latin1 pass)
    rw [hbasic, length_latin1] at hle'
    have hascii := ascii_of_utf8_length (hutf8.trans hle')
    exact fun c hc => ⟨hverbatim c hc, hascii c hc⟩
  · intro h
    have htext := stringText_verbatim (fun c hc => (h c hc).1)
    have hbytes := utf8_ascii (fun c hc => (h c hc).2)
    have hzero := cstr_of_notMem (zero_notMem_stringText pass)
    rw [htext] at hzero ⊢
    rw [← hbytes, hzero]
    exact ⟨fun c hc => (h c hc).2.trans (by decide), by omega, rfl, rfl⟩

lemma kept_iff (hlong : maxPwLen < (stringText pass).length) :
    ((∀ c ∈ pass, c.toNat < 256) ∧ pass.length ≤ 57 ∧ cstr (latin1 pass) = s.data.bmcAdminPassword.bytes ∧
      cstr (utf8 pass) = s.data.bmcAdminPassword.bytes) ↔ Kept s pass := by
  constructor
  · rintro ⟨hall, hlen, hbasic, hws⟩
    rw [cstr_latin1 hall] at hbasic
    rw [cstr_utf8, ← hbasic] at hws
    refine ⟨hlong, hlen, hall, ascii_of_utf8_length ?_, hbasic⟩
    rw [hws, length_latin1]
  · rintro ⟨-, hlen, hall, hascii, hold⟩
    rw [cstr_latin1 hall, cstr_utf8, utf8_ascii hascii]
    exact ⟨hall, hlen, hold, hold⟩

theorem password_roundtrip_iff (stack : Stack) (hstack : stack.Documented) (faults : Faults) (s t : State)
    (pass : List Char) (h204 : accountPatchHandler faults (stack.jsonObjParse (passwordBody pass)) s = (0, t)) :
    stack.Accepts t pass ↔ Typable pass ∧ pass.length ≤ maxPwLen ∨ Kept s pass := by
  have hpassword := password_patched hstack h204
  rw [accepts_iff hstack, hpassword]
  by_cases hlong : maxPwLen < (stringText pass).length
  · rw [if_pos hlong, kept_iff hlong]
    refine ⟨Or.inr, fun h => h.resolve_left ?_⟩
    rintro ⟨htypable, hlen⟩
    rw [stringText_verbatim (fun c hc => (htypable c hc).1), utf8_ascii (fun c hc => (htypable c hc).2),
      length_latin1] at hlong
    exact hlong.not_ge hlen
  · have hshort := not_lt.mp hlong
    rw [if_neg hlong, stored_iff hshort]
    constructor
    · intro h
      exact .inl ⟨h, ((length_le_utf8 pass).trans (length_utf8_le pass)).trans hshort⟩
    · rintro (h | h)
      · exact h.1
      · exact absurd h.1 hlong

def sampleBase64 : Redfish.Base64 where
  decode dlen src :=
    match Library.Base64.decode src with
    | some bytes => if bytes.length ≤ dlen then (0, bytes) else (-enomem, [])
    | none => (-einval, [])
  bounded dlen src := by
    split
    · split_ifs with hfits
      · exact hfits
      · exact Nat.zero_le dlen
    · exact Nat.zero_le dlen

/-- Right for a body with nothing but the password. -/
def sampleParse (body : List UInt8) : Option AccountPayload :=
  let text := (body.drop 13).take (body.length - 15)
  if h : 0 ∉ text then some ⟨some ⟨text, h⟩⟩ else none

def sampleStack : Stack where
  base64 := sampleBase64
  websocketRecvMsg message size := ((message.take size).length, message.take size)
  jsonObjParse := sampleParse

lemma sampleParse_text (pass : List Char) :
    ((passwordBody pass).drop 13).take ((passwordBody pass).length - 15) = stringText pass := by
  have hdrop : (passwordBody pass).drop 13 = stringText pass ++ ascii "\"\x7d" := by
    rw [passwordBody, List.append_assoc]
    exact List.drop_left' rfl
  have hlen : (passwordBody pass).length - 15 = (stringText pass).length := by
    have hbody := congrArg List.length hdrop
    have hend : (ascii "\"\x7d").length = 2 := rfl
    rw [List.length_drop, List.length_append] at hbody
    omega
  rw [hdrop, hlen, List.take_left]

lemma sampleStack_documented : sampleStack.Documented where
  decodes dlen bytes hfits := by
    simp only [sampleStack, sampleBase64, Library.Base64.decode_encode, if_pos hfits]
  tooLong dlen bytes hlong := by
    simp only [sampleStack, sampleBase64, Library.Base64.decode_encode, if_neg hlong.not_ge]
    exact errno_neg enomem
  receives message size hne := rfl
  parses pass payload hparse := by
    have htext : 0 ∉ ((passwordBody pass).drop 13).take ((passwordBody pass).length - 15) := by
      rw [sampleParse_text]
      exact zero_notMem_stringText pass
    have hsome : sampleParse (passwordBody pass) = some payload := hparse
    rw [sampleParse] at hsome
    simp only [dif_pos htext, Option.some.injEq] at hsome
    rw [← hsome]
    simp only [sampleParse_text, passwordText]

def newPassword : List Char := "wall-E.2026".toList

def newPasswordSet : State :=
  (accountPatchHandler .none (sampleStack.jsonObjParse (passwordBody newPassword)) sampleState).2

theorem password_roundtrip_new :
    accountPatchHandler .none (sampleStack.jsonObjParse (passwordBody newPassword)) sampleState =
      (0, newPasswordSet) ∧ sampleStack.Accepts newPasswordSet newPassword := by
  have h204 : accountPatchHandler .none (sampleStack.jsonObjParse (passwordBody newPassword)) sampleState =
      (0, newPasswordSet) := Prod.ext (by decide +kernel) rfl
  have htypable : ∀ c ∈ newPassword, Verbatim c ∧ c.toNat < 128 :=
    List.forall_iff_forall_mem.mp (by decide)
  refine ⟨h204, ?_⟩
  apply (password_roundtrip_iff sampleStack sampleStack_documented .none sampleState newPasswordSet newPassword
    h204).mpr
  exact .inl ⟨htypable, by decide⟩

def quotedPassword : List Char := "a\"b".toList

theorem quoted_password_locked_out :
    ¬ ∀ pass t, pass ≠ [] →
      accountPatchHandler .none (sampleStack.jsonObjParse (passwordBody pass)) sampleState = (0, t) →
        sampleStack.Accepts t pass := by
  intro h
  have h204 : accountPatchHandler .none (sampleStack.jsonObjParse (passwordBody quotedPassword)) sampleState =
      (0, (accountPatchHandler .none (sampleStack.jsonObjParse (passwordBody quotedPassword)) sampleState).2) :=
    Prod.ext (by decide +kernel) rfl
  have haccepts := h quotedPassword _ (by decide) h204
  rw [accepts_iff sampleStack_documented, password_patched sampleStack_documented h204] at haccepts
  exact absurd haccepts.2.2.1 (by decide)

end WallaBMC.Web
