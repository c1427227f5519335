import WallaBMC.Web.Password

/-! What the two validators compare. Both end the bytes they received with a zero and compare C strings, so a
zero byte in a message hides the rest of it. -/

namespace WallaBMC.Web

open Redfish Storage Config Library Library.Bytes

/-- `decoding` is the meaning of a base64 text. -/
structure Decodes (base64 : Redfish.Base64) (decoding : List UInt8 → Option (List UInt8)) : Prop where
  fits : ∀ dlen token bytes, decoding token = some bytes → bytes.length ≤ dlen →
    base64.decode dlen token = (0, bytes)
  tooLong : ∀ dlen token bytes, decoding token = some bytes → dlen < bytes.length →
    (base64.decode dlen token).1 < 0
  malformed : ∀ dlen token, decoding token = none → (base64.decode dlen token).1 < 0

/-- What does not fit is counted in `remaining`. -/
def websocketRecvMsg (message : List UInt8) (size : ℕ) : ℤ × List UInt8 :=
  ((message.take size).length, message.take size)

/-- The first authorization header is Basic, with a token that decodes to `bytes`. -/
def Presents (decoding : List UInt8 → Option (List UInt8)) (client : ClientCtx) (bytes : List UInt8) : Prop :=
  ∃ value token, authHeader client = some value ∧ value.bytes = ascii "Basic " ++ token ∧
    decoding token = some bytes

def basicSecret (password : CString) : List UInt8 := ascii "admin:" ++ password.bytes

def wsSecret (password : CString) : List UInt8 := ascii "Auth:admin_" ++ password.bytes

/-- The token goes on behind the right text and a zero byte, as far as the buffer reaches. -/
def BasicContinued (decoding : List UInt8 → Option (List UInt8)) (client : ClientCtx) (password : CString) :
    Prop :=
  ∃ junk, Presents decoding client (basicSecret password ++ 0 :: junk) ∧
    (basicSecret password ++ 0 :: junk).length < credentialsMaxLen

def WsContinued (message : List UInt8) (password : CString) : Prop :=
  ∃ junk, message = wsSecret password ++ 0 :: junk

variable {σ : Type*} {auth : Auth σ} {app : σ} {decoding : List UInt8 → Option (List UInt8)} {client : ClientCtx}
  {message bytes bytes' : List UInt8} {password : CString}

lemma zero_notMem_basicSecret (password : CString) : 0 ∉ basicSecret password := zero_notMem_login (by decide)

lemma Presents.unique (h : Presents decoding client bytes) (h' : Presents decoding client bytes') :
    bytes = bytes' := by
  obtain ⟨value, token, hheader, hvalue, hdecoding⟩ := h
  obtain ⟨value', token', hheader', hvalue', hdecoding'⟩ := h'
  obtain rfl : value = value' := Option.some_inj.mp (hheader.symm.trans hheader')
  obtain rfl : token = token' := List.append_cancel_left (hvalue.symm.trans hvalue')
  exact Option.some_inj.mp (hdecoding.symm.trans hdecoding')

lemma validateAuth_other
    (h : ∀ value token, authHeader client = some value → value.bytes ≠ ascii "Basic " ++ token) :
    validateAuth auth app client = -1 := by
  rw [validateAuth]
  cases hheader : authHeader client with
  | none => rfl
  | some value =>
    apply if_pos
    intro htake
    have hsplit := List.take_append_drop (ascii "Basic ").length value.bytes
    rw [htake] at hsplit
    exact h value _ hheader hsplit.symm

lemma validateAuth_iff (hbase : Decodes auth.base64 decoding)
    (hlen : (auth.password app).bytes.length ≤ maxPwLen) :
    validateAuth auth app client = 0 ↔ ∃ bytes, Presents decoding client bytes ∧
      bytes.length < credentialsMaxLen ∧ cstr bytes = basicSecret (auth.password app) := by
  by_cases hbasic : ∃ value token, authHeader client = some value ∧ value.bytes = ascii "Basic " ++ token
  · obtain ⟨value, token, hheader, hvalue⟩ := hbasic
    have htoken : ∀ bytes, Presents decoding client bytes ↔ decoding token = some bytes := by
      intro bytes
      constructor
      · rintro ⟨value', token', hheader', hvalue', hdecoding⟩
        obtain rfl : value = value' := Option.some_inj.mp (hheader.symm.trans hheader')
        obtain rfl : token = token' := List.append_cancel_left (hvalue.symm.trans hvalue')
        exact hdecoding
      · exact fun hdecoding => ⟨value, token, hheader, hvalue, hdecoding⟩
    rw [validateAuth_basic (hlen.trans (Nat.le_succ _)) hheader hvalue, ← basicSecret]
    simp only [htoken]
    cases hdecoding : decoding token with
    | none =>
      have hneg := hbase.malformed (credentialsMaxLen - 1) token hdecoding
      rw [if_pos hneg]
      exact iff_of_false hneg.ne (by simp)
    | some bytes =>
      by_cases hfits : bytes.length ≤ credentialsMaxLen - 1
      · have hlt : bytes.length < credentialsMaxLen := Nat.lt_succ_of_le hfits
        simp only [hbase.fits _ token bytes hdecoding hfits, lt_self_iff_false, if_false,
          Option.some.injEq, exists_eq_left', hlt, true_and]
        simp
      · have hneg := hbase.tooLong (credentialsMaxLen - 1) token bytes hdecoding (not_le.mp hfits)
        have hlong : ¬ bytes.length < credentialsMaxLen := fun hlt => hfits (Nat.le_pred_of_lt hlt)
        rw [if_pos hneg]
        simp only [Option.some.injEq, exists_eq_left', hlong, false_and, iff_false]
        exact hneg.ne
  · rw [validateAuth_other (fun value token hheader hvalue => hbasic ⟨value, token, hheader, hvalue⟩)]
    refine iff_of_false (by norm_num) ?_
    rintro ⟨bytes, ⟨value, token, hheader, hvalue, -⟩, -⟩
    exact hbasic ⟨value, token, hheader, hvalue⟩

lemma basicSecret_length (hlen : password.bytes.length ≤ maxPwLen) :
    (basicSecret password).length < credentialsMaxLen := by
  have hadmin : (ascii "admin:").length = 6 := rfl
  have hmax : credentialsMaxLen = 64 := rfl
  have hpw : maxPwLen = 20 := rfl
  rw [basicSecret, List.length_append]
  omega

lemma validateAuth_accepts (hbase : Decodes auth.base64 decoding)
    (hlen : (auth.password app).bytes.length ≤ maxPwLen) :
    validateAuth auth app client = 0 ↔ Presents decoding client (basicSecret (auth.password app)) ∨
      BasicContinued decoding client (auth.password app) := by
  rw [validateAuth_iff hbase hlen]
  constructor
  · rintro ⟨bytes, hpresents, hfits, hcstr⟩
    rcases (cstr_eq_iff (zero_notMem_basicSecret _)).mp hcstr with rfl | ⟨junk, rfl⟩
    · exact .inl hpresents
    · exact .inr ⟨junk, hpresents, hfits⟩
  · rintro (hpresents | ⟨junk, hpresents, hfits⟩)
    · exact ⟨_, hpresents, basicSecret_length hlen, cstr_of_notMem (zero_notMem_basicSecret _)⟩
    · refine ⟨_, hpresents, hfits, ?_⟩
      exact (cstr_eq_iff (zero_notMem_basicSecret _)).mpr (.inr ⟨junk, rfl⟩)

lemma wsSecret_eq (password : CString) :
    wsSecret password = ascii "Auth:" ++ (ascii "admin_" ++ password.bytes) := by
  rw [← List.append_assoc]
  rfl

lemma wsValidateAuth_accepts (hlen : password.bytes.length ≤ maxPwLen) :
    wsValidateAuth (websocketRecvMsg message) password = 0 ↔
      message = wsSecret password ∨ WsContinued message password := by
  have hzero : 0 ∉ wsSecret password := zero_notMem_login (by decide)
  have hfits : (wsSecret password).length < (ascii "Auth:").length + credentialsMaxLen := by
    have hauth : (ascii "Auth:admin_").length = 11 := rfl
    have hmax : (ascii "Auth:").length + credentialsMaxLen = 69 := rfl
    have hpw : maxPwLen = 20 := rfl
    rw [wsSecret, List.length_append]
    omega
  rw [wsValidateAuth_iff (hlen.trans (Nat.le_succ _)) rfl, ← wsSecret_eq, cstr_take_eq_iff hfits, cstr_eq_iff hzero,
    WsContinued]

/-- Both directions for each validator: it accepts exactly the right text, unless something follows it behind a
zero byte. -/
theorem credentials_exact_iff (hbase : Decodes auth.base64 decoding)
    (hlen : (auth.password app).bytes.length ≤ maxPwLen) (client : ClientCtx) (message : List UInt8) :
    ((validateAuth auth app client = 0 ↔ Presents decoding client (basicSecret (auth.password app))) ↔
        ¬ BasicContinued decoding client (auth.password app)) ∧
      ((wsValidateAuth (websocketRecvMsg message) (auth.password app) = 0 ↔
          message = wsSecret (auth.password app)) ↔ ¬ WsContinued message (auth.password app)) := by
  rw [validateAuth_accepts hbase hlen, wsValidateAuth_accepts hlen]
  have hapart : ∀ secret junk : List UInt8, secret ≠ secret ++ 0 :: junk := by
    intro secret junk h
    exact List.cons_ne_nil 0 junk (List.append_right_eq_self.mp h.symm)
  constructor
  · have hexclusive : Presents decoding client (basicSecret (auth.password app)) →
        ¬ BasicContinued decoding client (auth.password app) := by
      rintro hpresents ⟨junk, hcontinued, -⟩
      exact hapart _ junk (hpresents.unique hcontinued)
    tauto
  · have hexclusive : message = wsSecret (auth.password app) →
        ¬ WsContinued message (auth.password app) := by
      rintro hmessage ⟨junk, hcontinued⟩
      exact hapart _ junk (hmessage.symm.trans hcontinued)
    tauto

lemma sampleBase64_decodes : Decodes sampleBase64 Library.Base64.decode where
  fits dlen token bytes hdecoding hfits := by simp only [sampleBase64, hdecoding, if_pos hfits]
  tooLong dlen token bytes hdecoding hlong := by
    simp only [sampleBase64, hdecoding, if_neg hlong.not_ge]
    exact errno_neg enomem
  malformed dlen token hdecoding := by
    simp only [sampleBase64, hdecoding]
    exact errno_neg einval

def samplePassword : CString := ⟨ascii "wall-E", by decide⟩

def sampleAuth : Auth CString := ⟨sampleBase64, id⟩

def basicClient (bytes : List UInt8) : ClientCtx := redfishCall .get (basicPrefix (base64Text bytes))

lemma presents_basicClient (bytes : List UInt8) :
    Presents Library.Base64.decode (basicClient bytes) bytes :=
  ⟨basicPrefix (base64Text bytes), Library.Base64.encode bytes, rfl, rfl, Library.Base64.decode_encode bytes⟩

theorem credentials_exact_sample :
    ((validateAuth sampleAuth samplePassword (basicClient (ascii "admin:wall-F")) = 0 ↔
        Presents Library.Base64.decode (basicClient (ascii "admin:wall-F")) (basicSecret samplePassword)) ↔
      ¬ BasicContinued Library.Base64.decode (basicClient (ascii "admin:wall-F")) samplePassword) ∧
    ((wsValidateAuth (websocketRecvMsg (ascii "Auth:admin_wall-E")) samplePassword = 0 ↔
        ascii "Auth:admin_wall-E" = wsSecret samplePassword) ↔
      ¬ WsContinued (ascii "Auth:admin_wall-E") samplePassword) := by
  have hlen : (sampleAuth.password samplePassword).bytes.length ≤ maxPwLen := by decide
  exact credentials_exact_iff sampleBase64_decodes hlen _ _

/-- What follows the zero byte is not compared. -/
theorem zero_byte_accepted :
    ¬ (validateAuth sampleAuth samplePassword (basicClient (ascii "admin:wall-E" ++ [0, 120])) = 0 ↔
        Presents Library.Base64.decode (basicClient (ascii "admin:wall-E" ++ [0, 120]))
          (basicSecret samplePassword)) ∧
      ¬ (wsValidateAuth (websocketRecvMsg (ascii "Auth:admin_wall-E" ++ [0, 120])) samplePassword = 0 ↔
        ascii "Auth:admin_wall-E" ++ [0, 120] = wsSecret samplePassword) := by
  constructor
  · intro hiff
    have haccepted :
        validateAuth sampleAuth samplePassword (basicClient (ascii "admin:wall-E" ++ [0, 120])) = 0 := by
      decide +kernel
    have hsame := (presents_basicClient _).unique (hiff.mp haccepted)
    exact absurd hsame (by decide)
  · decide +kernel

end WallaBMC.Web
