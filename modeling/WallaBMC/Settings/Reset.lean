import WallaBMC.Settings.Payloads

/-! The reset action and the answer to it. `power_set_state` returns nothing and the result of `power_reset`
is not looked at, so a known `ResetType` is answered with success whatever the outputs do. -/

namespace WallaBMC.Settings.Payloads

open Redfish Power

/-- Every output can be set, or is at its level already from the first on that cannot. -/
def Switches (value : Bool) (ret : ℕ → ℤ) (p : Power.State) : Prop :=
  (∀ i < p.gpios.length, 0 ≤ ret i) ∨
    p.systemPowerState = value ∧ ∀ j < p.gpios.length, (∃ i ≤ j, ret i < 0) → p.gpios[j]? = some value

/-- What the `ResetType` promises of the outputs. -/
def TookEffect (host host' : Host) (resetType : CString) : Prop :=
  (resetType.bytes = ascii "On" →
      (∀ g ∈ host'.power.gpios, g = true) ∧ powerGetState host'.power = true) ∧
    (resetType.bytes = ascii "ForceOff" →
      (∀ g ∈ host'.power.gpios, g = false) ∧ powerGetState host'.power = false) ∧
    (resetType.bytes = ascii "PowerCycle" → host'.reset = host.reset ++ [true, false])

def Known (resetType : CString) : Prop :=
  resetType.bytes = ascii "On" ∨ resetType.bytes = ascii "ForceOff" ∨ resetType.bytes = ascii "PowerCycle"

structure Truthful (host : Host) (resetType : CString) (rc : ℤ) (host' : Host) : Prop where
  unknown : ¬ Known resetType → rc = badRequest ∧ host' = host
  done : rc = 0 → TookEffect host host' resetType

def HostFaults.Allow (faults : HostFaults) (host : Host) (resetType : CString) : Prop :=
  (resetType.bytes = ascii "On" → Switches true faults.power host.power) ∧
    (resetType.bytes = ascii "ForceOff" → Switches false faults.power host.power) ∧
    (resetType.bytes = ascii "PowerCycle" → faults.resetOkay = true ∧ 0 ≤ faults.reset 0 ∧ 0 ≤ faults.reset 1)

section

variable {value : Bool} {ret : ℕ → ℤ} {p : Power.State} {gs : List Bool} {i : ℕ} {faults : HostFaults}
  {host host' : Host} {resetType : CString}

lemma setGpios_level_iff :
    (∀ g ∈ (setGpios ret value i gs).1, g = value) ↔
      ∀ j < gs.length, (∃ k ≤ j, ret (i + k) < 0) → gs[j]? = some value := by
  induction gs generalizing i with
  | nil => simp [setGpios]
  | cons g gs ih =>
    by_cases hfail : ret i < 0
    · simp only [setGpios, if_pos hfail]
      constructor
      · intro hall j hj _
        rw [List.getElem?_eq_getElem hj, hall _ (List.getElem_mem hj)]
      · intro hall g' hg'
        obtain ⟨j, hj, rfl⟩ := List.getElem_of_mem hg'
        have hlevel := hall j hj ⟨0, Nat.zero_le _, hfail⟩
        rw [List.getElem?_eq_getElem hj] at hlevel
        exact Option.some.inj hlevel
    · simp only [setGpios, if_neg hfail, List.forall_mem_cons, true_and, ih]
      constructor
      · intro hall j hj hfails
        obtain ⟨k, hk, hlt⟩ := hfails
        cases k with
        | zero => exact absurd hlt hfail
        | succ k =>
          cases j with
          | zero => exact absurd hk (Nat.not_succ_le_zero k)
          | succ j =>
            rw [show i + (k + 1) = i + 1 + k by omega] at hlt
            exact hall j (Nat.lt_of_succ_lt_succ hj) ⟨k, Nat.le_of_succ_le_succ hk, hlt⟩
      · intro hall j hj hfails
        obtain ⟨k, hk, hlt⟩ := hfails
        rw [show i + 1 + k = i + (k + 1) by omega] at hlt
        exact hall (j + 1) (Nat.succ_lt_succ hj) ⟨k + 1, Nat.succ_le_succ hk, hlt⟩

/-- The flag follows only when every output could be set. -/
lemma switch_level_iff :
    (∀ g ∈ (switch value ret p).1.gpios, g = value) ∧ (switch value ret p).1.systemPowerState = value ↔
      Switches value ret p := by
  have hlevel : (∀ g ∈ (setGpios ret value 0 p.gpios).1, g = value) ↔ _ := setGpios_level_iff
  have hdone : (setGpios ret value 0 p.gpios).2 = true ↔ _ := setGpios_done
  simp only [zero_add] at hlevel hdone
  rw [switch, Switches, ← hlevel, ← hdone]
  cases hloop : setGpios ret value 0 p.gpios with
  | mk gpios ok =>
    cases ok with
    | false => simp only [Bool.false_eq_true, false_or, and_comm]
    | true =>
      have hvalue := setGpios_value (by rw [hloop])
      rw [hloop] at hvalue
      exact iff_of_true ⟨hvalue, rfl⟩ (.inl rfl)

lemma powerSetState_level_iff :
    (∀ g ∈ (powerSetState value ret p).gpios, g = value) ∧ powerGetState (powerSetState value ret p) = value ↔
      Switches value ret p := by
  cases value
  · exact switch_level_iff
  · exact switch_level_iff

lemma powerReset_levels_iff {okay : Bool} {levels : List Bool} :
    (powerReset okay ret levels).2 = levels ++ [true, false] ↔ okay = true ∧ 0 ≤ ret 0 ∧ 0 ≤ ret 1 := by
  rw [powerReset]
  split_ifs with hokay hassert hrelease
  · simp [hokay]
  · simp [hassert.not_ge]
  · simp [hrelease.not_ge]
  · simp [not_lt.mp hassert, not_lt.mp hrelease, Bool.of_not_eq_false hokay]

lemma resetAction_on (h : resetType.bytes = ascii "On") :
    resetAction faults host resetType = (0, { host with power := powerSetState true faults.power host.power }) :=
  if_pos h

lemma resetAction_forceOff (h : resetType.bytes = ascii "ForceOff") :
    resetAction faults host resetType = (0, { host with power := powerSetState false faults.power host.power }) := by
  rw [resetAction, h, if_neg (by decide), if_pos rfl]

lemma resetAction_powerCycle (h : resetType.bytes = ascii "PowerCycle") :
    resetAction faults host resetType =
      (0, { host with reset := (powerReset faults.resetOkay faults.reset host.reset).2 }) := by
  rw [resetAction, h, if_neg (by decide), if_neg (by decide), if_pos rfl]

lemma resetAction_unknown (h : ¬ Known resetType) : resetAction faults host resetType = (badRequest, host) := by
  rw [Known, not_or, not_or] at h
  rw [resetAction, if_neg h.1, if_neg h.2.1, if_neg h.2.2]

lemma resetAction_known (h : Known resetType) : (resetAction faults host resetType).1 = 0 := by
  rcases h with hon | hoff | hcycle
  · rw [resetAction_on hon]
  · rw [resetAction_forceOff hoff]
  · rw [resetAction_powerCycle hcycle]

lemma tookEffect_iff :
    TookEffect host (resetAction faults host resetType).2 resetType ↔ faults.Allow host resetType := by
  refine and_congr (imp_congr_right fun hon => ?_)
    (and_congr (imp_congr_right fun hoff => ?_) (imp_congr_right fun hcycle => ?_))
  · rw [resetAction_on hon]
    exact powerSetState_level_iff
  · rw [resetAction_forceOff hoff]
    exact powerSetState_level_iff
  · rw [resetAction_powerCycle hcycle]
    exact powerReset_levels_iff

lemma truthful_iff :
    Truthful host resetType (resetAction faults host resetType).1 (resetAction faults host resetType).2 ↔
      faults.Allow host resetType := by
  constructor
  · intro h
    by_cases hknown : Known resetType
    · exact tookEffect_iff.mp (h.done (resetAction_known hknown))
    · refine ⟨fun hon => absurd (.inl hon) hknown, fun hoff => absurd (.inr (.inl hoff)) hknown, ?_⟩
      exact fun hcycle => absurd (.inr (.inr hcycle)) hknown
  · intro h
    constructor
    · intro hunknown
      rw [resetAction_unknown hunknown]
      exact ⟨rfl, rfl⟩
    · exact fun _ => tookEffect_iff.mpr h

end

/-- The answer is true exactly when no output on the way fails that would have had to change. -/
theorem reset_truthful_iff (faults : HostFaults) (payload : ResetMem) (resetType : CString) (host : Host) :
    (∃ rc host', (systemResetPostHandler faults payload (some ⟨some resetType⟩) host).result = some (rc, host') ∧
        Truthful host resetType rc host') ↔ faults.Allow host resetType := by
  rw [← truthful_iff]
  constructor
  · rintro ⟨rc, host', hresult, htruthful⟩
    obtain ⟨rfl, rfl⟩ := Prod.mk.inj (Option.some.inj hresult)
    exact htruthful
  · intro htruthful
    exact ⟨_, _, rfl, htruthful⟩

def resetOn : CString := ⟨ascii "On", by decide⟩

def hostOff : Host := ⟨⟨[false, false], false⟩, []⟩

/-- 204 for a host that is still off: the first output cannot be set. -/
theorem reset_on_unreported :
    (systemResetPostHandler ⟨fun _ => -5, true, fun _ => 0⟩ ⟨.null⟩ (some ⟨some resetOn⟩) hostOff).result =
        some (0, hostOff) ∧
      ¬ TookEffect hostOff hostOff resetOn := by
  refine ⟨rfl, ?_⟩
  intro h
  exact absurd (h.1 rfl).2 (by decide)

end WallaBMC.Settings.Payloads
