import Mathlib.Tactic

/-! Runs of a deterministic machine that answers every event with an output. `Along ok s es` says that
every event of `es` meets `ok` in the state it finds. -/

namespace WallaBMC.Library.Runs

variable {σ ε ω τ : Type*}

structure Visit (σ ε ω : Type*) where
  state : σ
  event : ε
  output : ω

section

variable (step : σ → ε → σ × ω)

def exec (s : σ) : List ε → σ
  | [] => s
  | e :: es => exec (step s e).1 es

def trace (s : σ) : List ε → List (Visit σ ε ω)
  | [] => []
  | e :: es => ⟨s, e, (step s e).2⟩ :: trace (step s e).1 es

def Along (ok : σ → ε → Prop) (s : σ) : List ε → Prop
  | [] => True
  | e :: es => ok s e ∧ Along ok (step s e).1 es

end

instance decidableAlong (step : σ → ε → σ × ω) (ok : σ → ε → Prop)
    [∀ s e, Decidable (ok s e)] : ∀ s es, Decidable (Along step ok s es)
  | _, [] => isTrue trivial
  | s, e :: es =>
    have := decidableAlong step ok (step s e).1 es
    inferInstanceAs (Decidable (_ ∧ _))

variable {step : σ → ε → σ × ω} {ok good : σ → ε → Prop} {s : σ} {e : ε} {es fs : List ε}

@[simp] lemma exec_nil : exec step s [] = s := rfl

@[simp] lemma exec_cons : exec step s (e :: es) = exec step (step s e).1 es := rfl

@[simp] lemma trace_nil : trace step s [] = [] := rfl

@[simp] lemma trace_cons :
    trace step s (e :: es) = ⟨s, e, (step s e).2⟩ :: trace step (step s e).1 es := rfl

@[simp] lemma along_nil : Along step ok s [] := trivial

@[simp] lemma along_cons :
    Along step ok s (e :: es) ↔ ok s e ∧ Along step ok (step s e).1 es := Iff.rfl

lemma exec_append : exec step s (es ++ fs) = exec step (exec step s es) fs := by
  induction es generalizing s with
  | nil => rfl
  | cons e es ih => exact ih

lemma exec_concat : exec step s (es ++ [e]) = (step (exec step s es) e).1 := exec_append

lemma trace_append :
    trace step s (es ++ fs) = trace step s es ++ trace step (exec step s es) fs := by
  induction es generalizing s with
  | nil => rfl
  | cons e es ih => simp only [List.cons_append, trace_cons, exec_cons, ih]

lemma along_append :
    Along step ok s (es ++ fs) ↔ Along step ok s es ∧ Along step ok (exec step s es) fs := by
  induction es generalizing s with
  | nil => simp
  | cons e es ih => simp only [List.cons_append, along_cons, exec_cons, ih, and_assoc]

lemma trace_events : (trace step s es).map (fun v => v.event) = es := by
  induction es generalizing s with
  | nil => rfl
  | cons e es ih => simp [ih]

lemma event_mem {v : Visit σ ε ω} (h : v ∈ trace step s es) : v.event ∈ es := by
  have hmem : v.event ∈ (trace step s es).map (fun v => v.event) := List.mem_map.mpr ⟨v, h, rfl⟩
  rwa [trace_events] at hmem

lemma along_iff_trace : Along step ok s es ↔ ∀ v ∈ trace step s es, ok v.state v.event := by
  induction es generalizing s with
  | nil => simp
  | cons e es ih => simp [ih]

lemma trace_output : ∀ v ∈ trace step s es, v.output = (step v.state v.event).2 := by
  induction es generalizing s with
  | nil => simp
  | cons e es ih => simpa using ih

lemma Along.mono (h : Along step ok s es) (hg : ∀ s e, ok s e → good s e) :
    Along step good s es := by
  rw [along_iff_trace] at h ⊢
  exact fun v hv => hg _ _ (h v hv)

lemma along_and :
    Along step (fun s e => ok s e ∧ good s e) s es ↔ Along step ok s es ∧ Along step good s es := by
  simp only [along_iff_trace, forall_and]

lemma along_true (s : σ) (es : List ε) : Along step (fun _ _ => True) s es := by
  rw [along_iff_trace]
  exact fun _ _ => trivial

section Invariant

variable {I : σ → Prop}

theorem exec_invariant (hstep : ∀ s e, I s → ok s e → I (step s e).1)
    (hs : I s) (h : Along step ok s es) : I (exec step s es) := by
  induction es generalizing s with
  | nil => exact hs
  | cons e es ih => exact ih (hstep s e hs h.1) h.2

theorem along_invariant (hstep : ∀ s e, I s → ok s e → I (step s e).1)
    (hgood : ∀ s e, I s → ok s e → good s e) (hs : I s) (h : Along step ok s es) :
    Along step good s es := by
  induction es generalizing s with
  | nil => trivial
  | cons e es ih => exact ⟨hgood s e hs h.1, ih (hstep s e hs h.1) h.2⟩

theorem along_congr {good' : σ → ε → Prop} (hstep : ∀ s e, I s → good s e → I (step s e).1)
    (hgood : ∀ s e, I s → (good s e ↔ good' s e)) (hs : I s) :
    Along step good s es ↔ Along step good' s es := by
  induction es generalizing s with
  | nil => exact Iff.rfl
  | cons e es ih =>
    rw [along_cons, along_cons, ← hgood s e hs]
    apply and_congr_right
    intro hnow
    exact ih (hstep s e hs hnow)

end Invariant

section Record

def outputs (step : σ → ε → σ × ω) (s : σ) (es : List ε) : List ω :=
  (trace step s es).map (fun v => v.output)

variable {I : σ → List ω → Prop} {done : List ω}

@[simp] lemma outputs_nil : outputs step s [] = [] := rfl

@[simp] lemma outputs_cons :
    outputs step s (e :: es) = (step s e).2 :: outputs step (step s e).1 es := rfl

lemma outputs_append :
    outputs step s (es ++ fs) = outputs step s es ++ outputs step (exec step s es) fs := by
  rw [outputs, trace_append, List.map_append]
  rfl

/-- What holds of a state and of all that was answered up to it. -/
theorem record_invariant (hstep : ∀ s done e, I s done → I (step s e).1 (done ++ [(step s e).2]))
    (hs : I s done) (es : List ε) : I (exec step s es) (done ++ outputs step s es) := by
  induction es generalizing s done with
  | nil => simpa using hs
  | cons e es ih =>
    have hrest := ih (hstep s done e hs)
    rwa [List.append_assoc, List.singleton_append] at hrest

end Record

section Lockstep

variable {τ ω' : Type*} {step' : τ → ε → τ × ω'} {ok' good' : τ → ε → Prop} {t : τ}
  {R : σ → τ → Prop}

theorem along_iff_along
    (hstep : ∀ s t e, R s t → ok s e → ok' t e →
      R (step s e).1 (step' t e).1 ∧ (good s e ↔ good' t e))
    (hR : R s t) (h : Along step ok s es) (h' : Along step' ok' t es) :
    Along step good s es ↔ Along step' good' t es := by
  induction es generalizing s t with
  | nil => exact Iff.rfl
  | cons e es ih =>
    obtain ⟨hnext, hgood⟩ := hstep s t e hR h.1 h'.1
    exact and_congr hgood (ih hnext h.2 h'.2)

/-- Two machines that answer alike as long as they stay related. -/
theorem lockstep {step' : τ → ε → τ × ω}
    (hstep : ∀ s t e, R s t → R (step s e).1 (step' t e).1 ∧ (step s e).2 = (step' t e).2)
    (hR : R s t) (es : List ε) :
    R (exec step s es) (exec step' t es) ∧ outputs step s es = outputs step' t es := by
  induction es generalizing s t with
  | nil => exact ⟨hR, rfl⟩
  | cons e es ih =>
    obtain ⟨hnext, hanswer⟩ := hstep s t e hR
    obtain ⟨hrun, hanswers⟩ := ih hnext
    refine ⟨hrun, ?_⟩
    rw [outputs_cons, outputs_cons, hanswer, hanswers]

end Lockstep

section Idle

variable {keep : ε → Bool}

theorem exec_filter (h : Along step (fun s e => keep e = false → (step s e).1 = s) s es) :
    exec step s (es.filter keep) = exec step s es := by
  induction es generalizing s with
  | nil => rfl
  | cons e es ih =>
    cases hk : keep e with
    | true =>
      rw [List.filter_cons_of_pos hk]
      exact ih h.2
    | false =>
      have hsame : (step s e).1 = s := h.1 hk
      have hrest := ih h.2
      rw [List.filter_cons_of_neg (by simp [hk]), exec_cons]
      rwa [hsame] at hrest ⊢

theorem trace_filter (h : Along step (fun s e => keep e = false → (step s e).1 = s) s es) :
    trace step s (es.filter keep) = (trace step s es).filter (fun v => keep v.event) := by
  induction es generalizing s with
  | nil => rfl
  | cons e es ih =>
    cases hk : keep e with
    | true =>
      rw [List.filter_cons_of_pos hk, trace_cons, trace_cons, ih h.2]
      simp [hk]
    | false =>
      have hsame : (step s e).1 = s := h.1 hk
      have hrest := ih h.2
      rw [hsame] at hrest
      rw [List.filter_cons_of_neg (by simp [hk]), trace_cons, hsame, hrest]
      simp [hk]

end Idle

section Simulation

variable {σ' ε' ω' : Type*} {step' : σ' → ε' → σ' × ω'} {ok' : σ' → ε' → Prop} {t : σ'}

/-- Every allowed step of the first machine is one allowed step of the second, with its output. -/
structure Simulation (step : σ → ε → σ × ω) (ok : σ → ε → Prop) (step' : σ' → ε' → σ' × ω')
    (ok' : σ' → ε' → Prop) where
  rel : σ → σ' → Prop
  event : σ → ε → ε'
  output : ω → ω'
  allows : ∀ {s t e}, rel s t → ok s e → ok' t (event s e)
  keeps : ∀ {s t e}, rel s t → ok s e → rel (step s e).1 (step' t (event s e)).1
  answers : ∀ {s t e}, rel s t → ok s e → (step' t (event s e)).2 = output (step s e).2

namespace Simulation

variable (sim : Simulation step ok step' ok')

def run (s : σ) (es : List ε) : List ε' :=
  (trace step s es).map (fun v => sim.event v.state v.event)

structure Matches (v : Visit σ ε ω) (v' : Visit σ' ε' ω') : Prop where
  state : sim.rel v.state v'.state
  event : v'.event = sim.event v.state v.event
  output : v'.output = sim.output v.output

lemma along (hs : sim.rel s t) (h : Along step ok s es) : Along step' ok' t (sim.run s es) := by
  induction es generalizing s t with
  | nil => trivial
  | cons e es ih => exact ⟨sim.allows hs h.1, ih (sim.keeps hs h.1) h.2⟩

lemma exec_run (hs : sim.rel s t) (h : Along step ok s es) :
    sim.rel (exec step s es) (exec step' t (sim.run s es)) := by
  induction es generalizing s t with
  | nil => exact hs
  | cons e es ih => exact ih (sim.keeps hs h.1) h.2

lemma trace_run (hs : sim.rel s t) (h : Along step ok s es) :
    List.Forall₂ sim.Matches (trace step s es) (trace step' t (sim.run s es)) := by
  induction es generalizing s t with
  | nil => exact .nil
  | cons e es ih => exact .cons ⟨hs, rfl, sim.answers hs h.1⟩ (ih (sim.keeps hs h.1) h.2)

end Simulation

end Simulation

end WallaBMC.Library.Runs
