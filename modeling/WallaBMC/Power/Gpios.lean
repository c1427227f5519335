import WallaBMC.Library.Runs

/-! Host power in `power.c`: the outputs in `power_gpios`, switched one after the other, and the flag
that is reported. A pin that could not be set keeps its level; `ret i` is what the driver returns for
output `i`. -/

namespace WallaBMC.Power

open Library.Runs

structure State where
  gpios : List Bool
  systemPowerState : Bool
  deriving DecidableEq

def powerGetState (p : State) : Bool := p.systemPowerState

def setGpios (ret : ℕ → ℤ) (value : Bool) : ℕ → List Bool → List Bool × Bool
  | _, [] => ([], true)
  | i, g :: gs =>
    if ret i < 0 then (g :: gs, false)
    else (value :: (setGpios ret value (i + 1) gs).1, (setGpios ret value (i + 1) gs).2)

def switch (value : Bool) (ret : ℕ → ℤ) (p : State) : State × ℤ :=
  match setGpios ret value 0 p.gpios with
  | (gpios, false) => ({ p with gpios := gpios }, -1)
  | (gpios, true) => (⟨gpios, value⟩, 0)

def powerOn (ret : ℕ → ℤ) (p : State) : State × ℤ := switch true ret p

def powerOff (ret : ℕ → ℤ) (p : State) : State × ℤ := switch false ret p

def powerSetState (on : Bool) (ret : ℕ → ℤ) (p : State) : State :=
  if on then (powerOn ret p).1 else (powerOff ret p).1

/-- What `power_init` finds: the devices, the results of configuring and setting each output, and the
setting it reads. -/
structure Boot where
  gpioIsReady : ℕ → Bool
  configure : ℕ → ℤ
  ret : ℕ → ℤ
  hostAutoPoweron : Bool

def configureGpios (b : Boot) : ℕ → List Bool → List Bool × Bool
  | _, [] => ([], true)
  | i, g :: gs =>
    if b.gpioIsReady i = false then (g :: gs, false)
    else if b.configure i < 0 then (g :: gs, false)
    else (false :: (configureGpios b (i + 1) gs).1, (configureGpios b (i + 1) gs).2)

def powerInit (b : Boot) (p : State) : State × ℤ :=
  match configureGpios b 0 p.gpios with
  | (gpios, false) => ({ p with gpios := gpios }, -1)
  | (gpios, true) =>
    if b.hostAutoPoweron then powerOn b.ret { p with gpios := gpios }
    else ({ p with gpios := gpios }, 0)

/-- `levels` is what the reset output has been set to so far. -/
def powerReset (okay : Bool) (ret : ℕ → ℤ) (levels : List Bool) : ℤ × List Bool :=
  if okay = false then (-1, levels)
  else if ret 0 < 0 then (-1, levels)
  else if ret 1 < 0 then (-1, levels ++ [true])
  else (0, levels ++ [true, false])

/-- The flag is statically false when the firmware starts. -/
def reset (gpios : List Bool) : State := ⟨gpios, false⟩

inductive Call
  | cmdPowerOn (ret : ℕ → ℤ)
  | cmdPowerOff (ret : ℕ → ℤ)
  | powerSetState (on : Bool) (ret : ℕ → ℤ)

def Call.value : Call → Bool
  | .cmdPowerOn _ => true
  | .cmdPowerOff _ => false
  | .powerSetState on _ => on

def Call.ret : Call → ℕ → ℤ
  | .cmdPowerOn ret => ret
  | .cmdPowerOff ret => ret
  | .powerSetState _ ret => ret

/-- `power_set_state` returns nothing. -/
def step (p : State) : Call → State × Option ℤ
  | .cmdPowerOn ret => ((powerOn ret p).1, some (powerOn ret p).2)
  | .cmdPowerOff ret => ((powerOff ret p).1, some (powerOff ret p).2)
  | .powerSetState on ret => (powerSetState on ret p, none)

/-- The reported state is that of every output. -/
def Real (p : State) : Prop :=
  (powerGetState p = true → ∀ g ∈ p.gpios, g = true) ∧
    (powerGetState p = false → ∀ g ∈ p.gpios, g = false)

instance (p : State) : Decidable (Real p) := inferInstanceAs (Decidable (_ ∧ _))

def Configures (b : Boot) (n : ℕ) : Prop := ∀ i < n, b.gpioIsReady i = true ∧ 0 ≤ b.configure i

instance (b : Boot) (n : ℕ) : Decidable (Configures b n) :=
  inferInstanceAs (Decidable (∀ i < n, _))

/-- Towards what is already reported, or failing before the first output changes, or not at all. -/
def Harmless (value : Bool) (ret : ℕ → ℤ) (p : State) : Prop :=
  value = p.systemPowerState ∨ ret 0 < 0 ∨ ∀ i < p.gpios.length, 0 ≤ ret i

instance (value : Bool) (ret : ℕ → ℤ) (p : State) : Decidable (Harmless value ret p) :=
  inferInstanceAs (Decidable (_ ∨ _ ∨ ∀ i < _, _))

variable {ret : ℕ → ℤ} {value : Bool} {b : Boot} {p : State} {gs : List Bool} {i : ℕ}

lemma real_iff : Real p ↔ ∀ g ∈ p.gpios, g = p.systemPowerState := by
  obtain ⟨gpios, flag⟩ := p
  cases flag <;> simp [Real, powerGetState]

lemma setGpios_done :
    (setGpios ret value i gs).2 = true ↔ ∀ j < gs.length, 0 ≤ ret (i + j) := by
  induction gs generalizing i with
  | nil => simp [setGpios]
  | cons g gs ih =>
    by_cases hfail : ret i < 0
    · simp only [setGpios, if_pos hfail, Bool.false_eq_true, false_iff]
      intro hall
      have hzero : 0 ≤ ret (i + 0) := hall 0 (Nat.succ_pos _)
      exact absurd hzero (not_le.mpr hfail)
    · simp only [setGpios, if_neg hfail, ih, List.length_cons]
      constructor
      · intro hrest j hj
        cases j with
        | zero => exact not_lt.mp hfail
        | succ j =>
          have hnext : 0 ≤ ret (i + 1 + j) := hrest j (Nat.lt_of_succ_lt_succ hj)
          rwa [show i + (j + 1) = i + 1 + j by omega]
      · intro hall j hj
        have hnext := hall (j + 1) (Nat.succ_lt_succ hj)
        rwa [show i + 1 + j = i + (j + 1) by omega]

lemma setGpios_value (h : (setGpios ret value i gs).2 = true) :
    ∀ g ∈ (setGpios ret value i gs).1, g = value := by
  induction gs generalizing i with
  | nil => simp [setGpios]
  | cons g gs ih =>
    by_cases hfail : ret i < 0
    · simp [setGpios, hfail] at h
    · simp only [setGpios, if_neg hfail] at h ⊢
      exact List.forall_mem_cons.mpr ⟨rfl, ih h⟩

lemma setGpios_mem : ∀ g ∈ (setGpios ret value i gs).1, g = value ∨ g ∈ gs := by
  induction gs generalizing i with
  | nil => simp [setGpios]
  | cons g gs ih =>
    by_cases hfail : ret i < 0
    · simp only [setGpios, if_pos hfail]
      exact fun g hg => .inr hg
    · simp only [setGpios, if_neg hfail]
      refine List.forall_mem_cons.mpr ⟨.inl rfl, fun g hg => ?_⟩
      exact (ih g hg).imp_right (List.mem_cons_of_mem _)

/-- A failure leaves the outputs before it switched. -/
lemma real_failed_iff (hreal : Real p) (hfail : (setGpios ret value 0 p.gpios).2 = false) :
    Real { p with gpios := (setGpios ret value 0 p.gpios).1 } ↔
      value = p.systemPowerState ∨ ret 0 < 0 := by
  rw [real_iff] at hreal ⊢
  constructor
  · intro hall
    cases hgpios : p.gpios with
    | nil => simp [hgpios, setGpios] at hfail
    | cons g gs =>
      by_cases hfirst : ret 0 < 0
      · exact .inr hfirst
      · simp only [hgpios, setGpios, if_neg hfirst] at hall
        exact .inl (hall value (List.mem_cons_self ..))
  · rintro (hsame | hfirst) g hg
    · rcases setGpios_mem g hg with hvalue | hold
      · exact hvalue.trans hsame
      · exact hreal g hold
    · cases hgpios : p.gpios with
      | nil => simp [hgpios, setGpios] at hfail
      | cons g' gs =>
        simp only [hgpios, setGpios, if_pos hfirst] at hg
        exact hreal g (hgpios ▸ hg)

lemma real_switch_iff (hreal : Real p) :
    Real (switch value ret p).1 ↔ Harmless value ret p := by
  rw [switch]
  cases hloop : setGpios ret value 0 p.gpios with
  | mk gpios ok =>
    cases ok with
    | false =>
      have hfail : (setGpios ret value 0 p.gpios).2 = false := by rw [hloop]
      have hiff := real_failed_iff hreal hfail
      have hnot : ¬ ∀ i < p.gpios.length, 0 ≤ ret i := by
        intro hall
        have hdone : (setGpios ret value 0 p.gpios).2 = true :=
          setGpios_done.mpr (fun j hj => by rw [zero_add]; exact hall j hj)
        simp [hdone] at hfail
      rw [hloop] at hiff
      simpa only [Harmless, hnot, or_false] using hiff
    | true =>
      have hdone : (setGpios ret value 0 p.gpios).2 = true := by rw [hloop]
      have hvalue := setGpios_value hdone
      have hall := setGpios_done.mp hdone
      rw [hloop] at hvalue
      refine iff_of_true (real_iff.mpr hvalue) (.inr (.inr fun i hi => ?_))
      rw [← zero_add i]
      exact hall i hi

lemma step_fst (p : State) (c : Call) : (step p c).1 = (switch c.value c.ret p).1 := by
  cases c with
  | cmdPowerOn ret => rfl
  | cmdPowerOff ret => rfl
  | powerSetState on ret => cases on <;> rfl

lemma configureGpios_eq (h : ∀ j < gs.length, b.gpioIsReady (i + j) = true ∧ 0 ≤ b.configure (i + j)) :
    configureGpios b i gs = (List.replicate gs.length false, true) := by
  induction gs generalizing i with
  | nil => rfl
  | cons g gs ih =>
    obtain ⟨hready, hconfigure⟩ := h 0 (Nat.succ_pos _)
    rw [add_zero] at hready hconfigure
    have hrest := ih (i := i + 1) (fun j hj => by
      rw [show i + 1 + j = i + (j + 1) by omega]
      exact h (j + 1) (Nat.succ_lt_succ hj))
    simp [configureGpios, hready, not_lt.mpr hconfigure, hrest, List.replicate_succ]

lemma powerInit_eq (h : Configures b gs.length) :
    powerInit b (reset gs) =
      if b.hostAutoPoweron then powerOn b.ret (reset (List.replicate gs.length false))
      else (reset (List.replicate gs.length false), 0) := by
  have hconf : configureGpios b 0 gs = (List.replicate gs.length false, true) :=
    configureGpios_eq (fun j hj => by rw [zero_add]; exact h j hj)
  simp only [powerInit, reset, hconf]

lemma real_reset (n : ℕ) : Real (reset (List.replicate n false)) := by
  refine real_iff.mpr (fun g hg => ?_)
  exact List.eq_of_mem_replicate hg

lemma real_powerInit_iff (h : Configures b gs.length) :
    Real (powerInit b (reset gs)).1 ↔
      (b.hostAutoPoweron = true → Harmless true b.ret (reset (List.replicate gs.length false))) := by
  rw [powerInit_eq h]
  cases b.hostAutoPoweron with
  | false => simpa using real_reset gs.length
  | true =>
    have hon : Real (powerOn b.ret (reset (List.replicate gs.length false))).1 ↔ _ :=
      real_switch_iff (real_reset gs.length)
    simpa using hon

theorem power_state_real_iff (h : Configures b gs.length) (calls : List Call) :
    (Real (powerInit b (reset gs)).1 ∧
        Along step (fun p c => Real (step p c).1) (powerInit b (reset gs)).1 calls) ↔
      ((b.hostAutoPoweron = true → Harmless true b.ret (reset (List.replicate gs.length false))) ∧
        Along step (fun p c => Harmless c.value c.ret p) (powerInit b (reset gs)).1 calls) := by
  rw [real_powerInit_iff h]
  refine and_congr_right (fun hinit => ?_)
  apply along_congr (I := Real) (fun s c _ hgood => hgood) (fun s c hs => ?_)
  · exact (real_powerInit_iff h).mpr hinit
  · rw [step_fst]
    exact real_switch_iff hs

def cleanBoot (auto : Bool) : Boot := ⟨fun _ => true, fun _ => 0, fun _ => 0, auto⟩

def failsSecond (i : ℕ) : ℤ := if i = 1 then -5 else 0

theorem power_state_real_restarted :
    Real (powerInit (cleanBoot true) (reset [true, false])).1 ∧
      Along step (fun p c => Real (step p c).1) (powerInit (cleanBoot true) (reset [true, false])).1
        [.cmdPowerOn failsSecond, .powerSetState false (fun _ => 0), .cmdPowerOff failsSecond] := by
  have hconf : Configures (cleanBoot true) [true, false].length := by decide
  exact (power_state_real_iff hconf _).mpr ⟨by decide, by decide⟩

theorem half_switched_reported_off :
    Configures (cleanBoot false) 2 ∧
      step (powerInit (cleanBoot false) (reset [false, false])).1 (.powerSetState true failsSecond) =
        (⟨[true, false], false⟩, none) ∧
      ¬ Real (step (powerInit (cleanBoot false) (reset [false, false])).1
        (.powerSetState true failsSecond)).1 := by
  decide

end WallaBMC.Power
