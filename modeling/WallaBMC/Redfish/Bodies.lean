import WallaBMC.Redfish.Accumulation
import WallaBMC.Redfish.Resources

/-! What reaches `patch_fn` and `post_fn`: the whole body once when it fits the buffer, and of a larger
body nothing only if its last chunk does not fit behind what was collected since the last rejection. -/

namespace WallaBMC.Redfish

open Library.Runs

section

variable {ρ σ : Type*} [DecidableEq ρ] (auth : Auth σ) (table : ρ → Resource σ)
  (garbage : ℕ → ℕ → UInt8) (app : σ) (before during : List (Event ρ σ)) (r : ρ) (req : BodyRequest)

theorem body_delivered_once (final : Callback) (hsettled : Settled r before)
    (hreq : callbacksAt r during = req.callbacks) (hfinal : req.final = some final)
    (hfn : ((table r).fn req.method).isSome)
    (hadmitted : Along (Server.step auth table) (fun s e => Admitted auth table r s.app e)
      (exec (Server.step auth table) (Server.init garbage app) before) during)
    (hsize : req.bytes.length ≤ userDataBufferPostSize) :
    (repliesAt r (trace (Server.step auth table)
      (exec (Server.step auth table) (Server.init garbage app) before) during)).map Reply.invoked =
      req.more.map (fun _ => []) ++ [[⟨req.method, req.bytes⟩]] ++ req.ending.map (fun _ => []) := by
  have hbytes : req.bytes = (req.more.map (fun cb => cb.data.bytes)).flatten ++ final.data.bytes := by
    simp [BodyRequest.bytes, hfinal]
  rw [hbytes, List.length_append] at hsize
  have hgather : req.more.foldl gather [] = (req.more.map (fun cb => cb.data.bytes)).flatten := by
    rw [foldl_gather (by rw [List.length_nil]; omega), List.nil_append]
  have hresidue : req.more.foldl residue 0 =
      (req.more.map (fun cb => cb.data.bytes)).flatten.length := by
    rw [← hgather, length_foldl_gather, List.length_nil]
  rw [body_request_run garbage app before during req hsettled hreq hfn hadmitted, hfinal, hgather,
    hresidue, hbytes]
  simp only [Option.toList_some, List.map_singleton, if_pos hsize]

end

def adminPatch (more : List Chunk) (final : Chunk) : BodyRequest where
  method := .patch
  more := more.map (adminCallback .patch .requestDataMore)
  final := some (adminCallback .patch .requestDataFinal final)
  ending := [adminCallback .patch .complete noData]
  body := .inl rfl
  more_status := by simp [adminCallback]
  final_status := by simp [adminCallback]
  ending_status := by simp [adminCallback, TransactionStatus.ends]
  same_method := by simp +contextual [adminCallback, or_imp]

def onAccount (req : BodyRequest) : List (Event RedfishResource Unit) :=
  req.callbacks.map (.callback .account)

theorem body_delivered_once_account :
    (repliesAt .account (trace (Server.step authPw (resources (idleFns Unit)))
      (exec (Server.step authPw (resources (idleFns Unit))) (Server.init (fun _ _ => 0) ()) [])
      (onAccount (adminPatch [chunk4] chunk4)))).map Reply.invoked =
      [[], [⟨.patch, (adminPatch [chunk4] chunk4).bytes⟩], []] :=
  body_delivered_once authPw (resources (idleFns Unit)) (fun _ _ => 0) () [] _ .account
    (adminPatch [chunk4] chunk4) _ (settled_nil _) (callbacksAt_map _ _) rfl (by decide)
    (by decide +kernel) (by decide)

section

variable {ρ σ : Type*} [DecidableEq ρ] (auth : Auth σ) (table : ρ → Resource σ)
  (garbage : ℕ → ℕ → UInt8) (app : σ) (before during : List (Event ρ σ)) (r : ρ) (req : BodyRequest)

theorem body_ignored_iff (hsettled : Settled r before) (hreq : callbacksAt r during = req.callbacks)
    (hfn : ((table r).fn req.method).isSome)
    (hadmitted : Along (Server.step auth table) (fun s e => Admitted auth table r s.app e)
      (exec (Server.step auth table) (Server.init garbage app) before) during) :
    (∀ invoked ∈ (repliesAt r (trace (Server.step auth table)
      (exec (Server.step auth table) (Server.init garbage app) before) during)).map Reply.invoked,
      invoked = []) ↔
      ∀ cb ∈ req.final, userDataBufferPostSize < req.more.foldl residue 0 + cb.data.bytes.length := by
  rw [body_request_run garbage app before during req hsettled hreq hfn hadmitted]
  simp only [List.mem_append, List.mem_map, Option.mem_toList, or_imp, forall_and]
  constructor
  · rintro ⟨⟨-, hfinal⟩, -⟩ cb hcb
    have hout := hfinal _ ⟨cb, hcb, rfl⟩
    by_contra hle
    rw [if_pos (not_lt.mp hle)] at hout
    cases hout
  · intro hlong
    refine ⟨⟨?_, ?_⟩, ?_⟩
    · rintro _ ⟨cb, -, rfl⟩
      rfl
    · rintro _ ⟨cb, hcb, rfl⟩
      exact if_neg (not_le.mpr (hlong cb hcb))
    · rintro _ ⟨cb, -, rfl⟩
      rfl

end

theorem body_ignored_iff_account :
    (∀ invoked ∈ (repliesAt .account (trace (Server.step authPw (resources (idleFns Unit)))
      (exec (Server.step authPw (resources (idleFns Unit))) (Server.init (fun _ _ => 0) ()) [])
      (onAccount (adminPatch [chunk256, chunk256] chunk4)))).map Reply.invoked, invoked = []) ↔
      ∀ cb ∈ (adminPatch [chunk256, chunk256] chunk4).final, userDataBufferPostSize <
        (adminPatch [chunk256, chunk256] chunk4).more.foldl residue 0 + cb.data.bytes.length :=
  body_ignored_iff authPw (resources (idleFns Unit)) (fun _ _ => 0) () [] _ .account
    (adminPatch [chunk256, chunk256] chunk4) (settled_nil _) (callbacksAt_map _ _) (by decide)
    (by decide +kernel)

theorem oversized_body_acts :
    ¬ ∀ (auth : Auth Unit) (fns : ResourceFns Unit) (garbage : ℕ → ℕ → UInt8) (app : Unit)
      (before during : List (Event RedfishResource Unit)) (r : RedfishResource) (req : BodyRequest),
      Settled r before → callbacksAt r during = req.callbacks →
      ((resources fns r).fn req.method).isSome →
      Along (Server.step auth (resources fns)) (fun s e => Admitted auth (resources fns) r s.app e)
        (exec (Server.step auth (resources fns)) (Server.init garbage app) before) during →
      userDataBufferPostSize < req.bytes.length →
      ∀ invoked ∈ (repliesAt r (trace (Server.step auth (resources fns))
        (exec (Server.step auth (resources fns)) (Server.init garbage app) before) during)).map
        Reply.invoked, invoked = [] := by
  intro h
  -- The third full chunk is rejected, and the four bytes after it are taken for a body.
  have hnever := h authPw (idleFns Unit) (fun _ _ => 0) () []
    (onAccount (adminPatch [chunk256, chunk256, chunk256] chunk4)) .account
    (adminPatch [chunk256, chunk256, chunk256] chunk4) (settled_nil _) (callbacksAt_map _ _)
    (by decide) (by decide +kernel) (by decide +kernel) [⟨.patch, chunk4.bytes⟩] (by decide +kernel)
  cases hnever

end WallaBMC.Redfish
