import WallaBMC.Library.Runs

/-! The reset button: an interrupt on every edge, a work item that samples the level a millisecond later, and one that
runs when the button was held for a second. Time is counted in milliseconds; a work item is the time it is due, and
scheduling one that is pending changes nothing. `val` is the level that a work item reads, `rc` what `config_clear`
returns. -/

namespace WallaBMC.System

open Library.Runs

def resetHoldTimeMs : ℕ := 1000

def debounceTimeMs : ℕ := 1

def kWorkSchedule (now delay : ℕ) (work : Option ℕ) : Option ℕ := some (work.getD (now + delay))

def IsDue (now : ℕ) (work : Option ℕ) : Prop := ∃ due ∈ work, due ≤ now

instance (now : ℕ) (work : Option ℕ) : Decidable (IsDue now work) := inferInstanceAs (Decidable (∃ due ∈ work, due ≤ now))

structure Button where
  now : ℕ
  pin : ℤ
  buttonWork : Option ℕ
  resetWork : Option ℕ

inductive ButtonEvent
  | edge (level : ℤ)
  | tick
  | buttonWork (val : ℤ)
  | resetWork (val rc : ℤ)
  deriving DecidableEq

inductive Reset
  | rebooted
  | notCleared (rc : ℤ)
  deriving DecidableEq

def buttonInit (pin : ℤ) : Button := ⟨0, pin, none, none⟩

def buttonPressed (s : Button) : Button := { s with buttonWork := kWorkSchedule s.now debounceTimeMs s.buttonWork }

def buttonWorkFn (val : ℤ) (s : Button) : Button :=
  if val = 1 then { s with resetWork := kWorkSchedule s.now resetHoldTimeMs s.resetWork }
  else if val = 0 then { s with resetWork := none }
  else s

def Button.resetWorkFn (val rc : ℤ) : Option Reset :=
  if val ≠ 1 then none
  else if rc ≠ 0 then some (.notCleared rc)
  else some .rebooted

def buttonStep (s : Button) : ButtonEvent → Button × Option Reset
  | .edge level => (buttonPressed { s with pin := level }, none)
  | .tick => ({ s with now := s.now + 1 }, none)
  | .buttonWork val => (buttonWorkFn val { s with buttonWork := none }, none)
  | .resetWork val rc => ({ s with resetWork := none }, Button.resetWorkFn val rc)

/-- Work runs when it is due, before time goes on, and reads the level of the pin. -/
def Timely (s : Button) : ButtonEvent → Prop
  | .edge _ => True
  | .tick => ¬ IsDue s.now s.buttonWork ∧ ¬ IsDue s.now s.resetWork
  | .buttonWork val => IsDue s.now s.buttonWork ∧ val = s.pin
  | .resetWork val _ => IsDue s.now s.resetWork ∧ val = s.pin

instance (s : Button) : (e : ButtonEvent) → Decidable (Timely s e)
  | .edge _ => isTrue trivial
  | .tick => inferInstanceAs (Decidable (_ ∧ _))
  | .buttonWork _ => inferInstanceAs (Decidable (_ ∧ _))
  | .resetWork _ _ => inferInstanceAs (Decidable (_ ∧ _))

def ticks (es : List ButtonEvent) : ℕ := es.count .tick

def Steady (es : List ButtonEvent) : Prop := ∀ level, ButtonEvent.edge level ∉ es

structure Punctual (s : Button) : Prop where
  buttonWork : ∀ due, s.buttonWork = some due → s.now ≤ due ∧ due ≤ s.now + debounceTimeMs
  resetWork : ∀ due, s.resetWork = some due → s.now ≤ due ∧ due ≤ s.now + resetHoldTimeMs

variable {s : Button} {e : ButtonEvent} {es : List ButtonEvent} {now delay due : ℕ} {work : Option ℕ} {pin : ℤ}

lemma kWorkSchedule_bounds (h : ∀ due, work = some due → now ≤ due ∧ due ≤ now + delay)
    (hdue : kWorkSchedule now delay work = some due) : now ≤ due ∧ due ≤ now + delay := by
  cases work with
  | none =>
    obtain rfl := Option.some.inj hdue
    exact ⟨Nat.le_add_right _ _, le_rfl⟩
  | some other =>
    obtain rfl := Option.some.inj hdue
    exact h other rfl

lemma tick_bounds (hpending : ¬ IsDue now work) (h : ∀ due, work = some due → now ≤ due ∧ due ≤ now + delay)
    (due : ℕ) (hdue : work = some due) : now + 1 ≤ due ∧ due ≤ now + 1 + delay := by
  have hlater : ¬ due ≤ now := fun hle => hpending ⟨due, hdue, hle⟩
  have hbounds := h due hdue
  omega

lemma punctual_step (hs : Punctual s) (hok : Timely s e) : Punctual (buttonStep s e).1 := by
  cases e with
  | edge level => exact ⟨fun due hdue => kWorkSchedule_bounds hs.buttonWork hdue, hs.resetWork⟩
  | tick => exact ⟨tick_bounds hok.1 hs.buttonWork, tick_bounds hok.2 hs.resetWork⟩
  | buttonWork val =>
    rw [buttonStep, buttonWorkFn]
    split_ifs
    · exact ⟨nofun, fun due hdue => kWorkSchedule_bounds hs.resetWork hdue⟩
    · exact ⟨nofun, nofun⟩
    · exact ⟨nofun, hs.resetWork⟩
  | resetWork val rc => exact ⟨hs.buttonWork, nofun⟩

lemma now_step (s : Button) (e : ButtonEvent) : (buttonStep s e).1.now = s.now + ticks [e] := by
  cases e with
  | edge level => rfl
  | tick => rfl
  | resetWork val rc => rfl
  | buttonWork val =>
    rw [buttonStep, buttonWorkFn]
    split_ifs <;> rfl

lemma ticks_append (es fs : List ButtonEvent) : ticks (es ++ fs) = ticks es + ticks fs := List.count_append

lemma now_exec (s : Button) (es : List ButtonEvent) : (exec buttonStep s es).now = s.now + ticks es := by
  induction es generalizing s with
  | nil => rfl
  | cons e es ih =>
    have hsplit : ticks (e :: es) = ticks [e] + ticks es := ticks_append [e] es
    rw [exec_cons, ih, now_step, hsplit, Nat.add_assoc]

lemma punctual_exec (hs : Punctual s) (h : Along buttonStep Timely s es) : Punctual (exec buttonStep s es) :=
  exec_invariant (fun _ _ hs hok => punctual_step hs hok) hs h

lemma punctual_init (pin : ℤ) : Punctual (buttonInit pin) := ⟨nofun, nofun⟩

section Held

lemma along_of_forall {ok : ButtonEvent → Prop} (h : Along buttonStep Timely s es) (hall : ∀ e ∈ es, ok e) :
    Along buttonStep (fun s e => Timely s e ∧ ok e) s es :=
  along_and.mpr ⟨h, along_iff_trace.mpr fun _ hv => hall _ (event_mem hv)⟩

def ButtonEvent.IsReset (e : ButtonEvent) : Prop := ∃ rc, e = .resetWork 1 rc

lemma step_pin (h : ∀ level, e ≠ .edge level) : (buttonStep s e).1.pin = s.pin := by
  cases e with
  | edge level => exact absurd rfl (h level)
  | tick => rfl
  | resetWork val rc => rfl
  | buttonWork val =>
    rw [buttonStep, buttonWorkFn]
    split_ifs <;> rfl

lemma buttonWork_step (h : ∀ level, e ≠ .edge level) (hok : Timely s e) (hne : e ≠ .buttonWork s.pin) :
    (buttonStep s e).1.buttonWork = s.buttonWork := by
  cases e with
  | edge level => exact absurd rfl (h level)
  | tick => rfl
  | resetWork val rc => rfl
  | buttonWork val => exact absurd (congrArg ButtonEvent.buttonWork hok.2) hne

lemma resetWork_step (hruns : ∀ val rc, e ≠ .resetWork val rc) (hreleased : e ≠ .buttonWork 0)
    (hwork : s.resetWork = some due) : (buttonStep s e).1.resetWork = some due := by
  cases e with
  | edge level => exact hwork
  | tick => exact hwork
  | resetWork val rc => exact absurd rfl (hruns val rc)
  | buttonWork val =>
    rw [buttonStep, buttonWorkFn]
    split_ifs with hpressed hzero
    · exact congrArg (kWorkSchedule s.now resetHoldTimeMs) hwork
    · exact absurd (congrArg ButtonEvent.buttonWork hzero) hreleased
    · exact hwork

lemma counted (hs : Punctual s) (hpending : ∃ due, s.resetWork = some due) (h : Along buttonStep Timely s es)
    (hreleased : .buttonWork 0 ∉ es) (hlong : resetHoldTimeMs < ticks es) : ∃ val rc, .resetWork val rc ∈ es := by
  by_contra! hnever
  obtain ⟨due, hdue⟩ := hpending
  have hquiet : Along buttonStep
      (fun s e => Timely s e ∧ (∀ val rc, e ≠ .resetWork val rc) ∧ e ≠ .buttonWork 0) s es :=
    along_of_forall h fun e he => ⟨fun val rc heq => hnever val rc (heq ▸ he), fun heq => hreleased (heq ▸ he)⟩
  have hkept : (exec buttonStep s es).resetWork = some due :=
    exec_invariant (I := fun t => t.resetWork = some due)
      (fun _ _ hwork ho => resetWork_step ho.2.1 ho.2.2 hwork) hdue hquiet
  have hend := ((punctual_exec hs h).resetWork due hkept).1
  have hstart := (hs.resetWork due hdue).2
  rw [now_exec] at hend
  omega

lemma sampled (hs : Punctual s) (hpending : ∃ due, s.buttonWork = some due) (h : Along buttonStep Timely s es)
    (hsteady : Steady es) (hlong : debounceTimeMs < ticks es) : ButtonEvent.buttonWork s.pin ∈ es := by
  by_contra hnever
  obtain ⟨due, hdue⟩ := hpending
  have hquiet : Along buttonStep
      (fun t e => Timely t e ∧ (∀ level, e ≠ .edge level) ∧ e ≠ .buttonWork s.pin) s es :=
    along_of_forall h fun e he => ⟨fun level hlevel => hsteady level (hlevel ▸ he), fun heq => hnever (heq ▸ he)⟩
  have hkept : (exec buttonStep s es).buttonWork = some due ∧ (exec buttonStep s es).pin = s.pin := by
    apply exec_invariant (I := fun t => t.buttonWork = some due ∧ t.pin = s.pin) _ ⟨hdue, rfl⟩ hquiet
    rintro t e ⟨hwork, hpin⟩ ⟨hok, hedge, hne⟩
    refine ⟨?_, (step_pin hedge).trans hpin⟩
    rw [buttonWork_step hedge hok (hpin ▸ hne), hwork]
  have hend := ((punctual_exec hs h).buttonWork due hkept.1).1
  have hstart := (hs.buttonWork due hdue).2
  rw [now_exec] at hend
  omega

def Arming (T : ℕ) (s : Button) : Prop :=
  (∃ due, s.buttonWork = some due ∧ due ≤ T + debounceTimeMs) ∨
    ∃ due, s.resetWork = some due ∧ due ≤ T + debounceTimeMs + resetHoldTimeMs

lemma arming_step {T : ℕ} (hs : Punctual s) (hpin : s.pin = 1) (h : Arming T s) (hedge : ∀ level, e ≠ .edge level)
    (hok : Timely s e) (hne : ¬ e.IsReset) : Arming T (buttonStep s e).1 := by
  rcases h with ⟨due, hdue, hsoon⟩ | ⟨due, hdue, hsoon⟩
  · by_cases hsample : e = .buttonWork 1
    · right
      subst hsample
      have hnow : s.now ≤ due := (hs.buttonWork due hdue).1
      rw [buttonStep, buttonWorkFn, if_pos rfl]
      refine ⟨_, rfl, ?_⟩
      have hbound := (kWorkSchedule_bounds hs.resetWork rfl).2
      exact hbound.trans (by omega)
    · left
      exact ⟨due, (buttonWork_step hedge hok (hpin ▸ hsample)).trans hdue, hsoon⟩
  · refine .inr ⟨due, resetWork_step ?_ ?_ hdue, hsoon⟩
    · rintro val rc rfl
      exact hne ⟨rc, by rw [hok.2, hpin]⟩
    · rintro rfl
      have hzero : (0 : ℤ) = 1 := hok.2.trans hpin
      cases hzero

lemma held (hs : Punctual s) (hpin : s.pin = 1) (hpending : ∃ due, s.buttonWork = some due)
    (h : Along buttonStep Timely s es) (hsteady : Steady es) (hlong : debounceTimeMs + resetHoldTimeMs < ticks es) :
    ∃ e ∈ es, e.IsReset := by
  by_contra! hnever
  obtain ⟨due, hdue⟩ := hpending
  have hquiet : Along buttonStep (fun s e => Timely s e ∧ (∀ level, e ≠ .edge level) ∧ ¬ e.IsReset) s es :=
    along_of_forall h fun e he => ⟨fun level hlevel => hsteady level (hlevel ▸ he), hnever e he⟩
  have harming : Punctual (exec buttonStep s es) ∧ (exec buttonStep s es).pin = 1 ∧
      Arming s.now (exec buttonStep s es) := by
    apply exec_invariant (I := fun t => Punctual t ∧ t.pin = 1 ∧ Arming s.now t) _
      ⟨hs, hpin, .inl ⟨due, hdue, (hs.buttonWork due hdue).2⟩⟩ hquiet
    rintro t e ⟨ht, hpin, harming⟩ ⟨hok, hedge, hne⟩
    exact ⟨punctual_step ht hok, (step_pin hedge).trans hpin, arming_step ht hpin harming hedge hok hne⟩
  obtain ⟨hend, -, harming⟩ := harming
  rcases harming with ⟨due, hdue, hsoon⟩ | ⟨due, hdue, hsoon⟩
  · have hnow := (hend.buttonWork due hdue).1
    rw [now_exec] at hnow
    omega
  · have hnow := (hend.resetWork due hdue).1
    rw [now_exec] at hnow
    omega

end Held

section Armed

lemma armed (hs : s.resetWork = none) (hdue : (exec buttonStep s es).resetWork = some due) :
    ∃ before mid, es = before ++ .buttonWork 1 :: mid ∧ ButtonEvent.buttonWork 0 ∉ mid ∧
      due = (exec buttonStep s before).now + resetHoldTimeMs := by
  induction es using List.reverseRecOn with
  | nil =>
    rw [exec_nil, hs] at hdue
    cases hdue
  | append_singleton es e ih =>
    have hlater : (exec buttonStep s es).resetWork = some due → e ≠ .buttonWork 0 →
        ∃ before mid, es ++ [e] = before ++ .buttonWork 1 :: mid ∧ ButtonEvent.buttonWork 0 ∉ mid ∧
          due = (exec buttonStep s before).now + resetHoldTimeMs := by
      intro hold hne
      obtain ⟨before, mid, hsplit, hnot, htime⟩ := ih hold
      refine ⟨before, mid ++ [e], ?_, ?_, htime⟩
      · rw [hsplit, List.append_assoc, List.cons_append]
      · rw [List.mem_append, List.mem_singleton]
        rintro (hmem | rfl)
        · exact hnot hmem
        · exact hne rfl
    rw [exec_concat] at hdue
    cases e with
    | edge level => exact hlater hdue ButtonEvent.noConfusion
    | tick => exact hlater hdue ButtonEvent.noConfusion
    | resetWork val rc => cases hdue
    | buttonWork val =>
      rw [buttonStep, buttonWorkFn] at hdue
      split_ifs at hdue with hpressed hreleased
      · cases hold : (exec buttonStep s es).resetWork with
        | some other =>
          rw [hold] at hdue
          obtain rfl : other = due := Option.some.inj hdue
          exact hlater hold (by rw [hpressed]; decide)
        | none =>
          rw [hold] at hdue
          refine ⟨es, [], by rw [hpressed], List.not_mem_nil, (Option.some.inj hdue).symm⟩
      · exact hlater hdue fun heq => hreleased (ButtonEvent.buttonWork.inj heq)

/-- Sampled as pressed a second before, and not released since for longer than the debounce time. -/
structure HeldDown (pre before mid : List ButtonEvent) : Prop where
  split : pre = before ++ .buttonWork 1 :: mid
  hold : resetHoldTimeMs ≤ ticks mid
  bounces : ∀ first released rest, mid = first ++ .edge 0 :: (released ++ rest) → Steady released →
    ticks released ≤ debounceTimeMs

lemma edge_pending (s : Button) (level : ℤ) : ∃ due, (buttonStep s (.edge level)).1.buttonWork = some due := ⟨_, rfl⟩

lemma punctual_edge {before : List ButtonEvent} (level : ℤ) (h : Along buttonStep Timely (buttonInit pin) before) :
    Punctual (buttonStep (exec buttonStep (buttonInit pin) before) (.edge level)).1 :=
  punctual_step (punctual_exec (punctual_init pin) h) trivial

lemma bounce_short {before released rest : List ButtonEvent}
    (h : Along buttonStep Timely (buttonInit pin) (before ++ .edge 0 :: (released ++ rest)))
    (hnot : ButtonEvent.buttonWork 0 ∉ released) (hsteady : Steady released) : ticks released ≤ debounceTimeMs := by
  obtain ⟨hbefore, -, hafter⟩ := along_append.mp h
  obtain ⟨hreleased, -⟩ := along_append.mp hafter
  by_contra hlong
  exact hnot (sampled (punctual_edge 0 hbefore) (edge_pending _ 0) hreleased hsteady (not_le.mp hlong))

lemma reset_heldDown {pre post : List ButtonEvent} {rc : ℤ}
    (h : Along buttonStep Timely (buttonInit pin) (pre ++ .resetWork 1 rc :: post)) :
    ∃ before mid, HeldDown pre before mid := by
  obtain ⟨hpre, ⟨⟨due, hdue, hle⟩, -⟩, -⟩ := along_append.mp h
  obtain ⟨before, mid, hsplit, hnot, htime⟩ := armed rfl hdue
  refine ⟨before, mid, hsplit, ?_, ?_⟩
  · have hsample : ticks (.buttonWork 1 :: mid) = ticks mid := List.count_cons_of_ne ButtonEvent.noConfusion
    rw [htime, hsplit, now_exec, now_exec, ticks_append, hsample] at hle
    omega
  · rintro first released rest hmid hsteady
    have hreleased : ButtonEvent.buttonWork 0 ∉ released := by
      intro hmem
      rw [hmid, List.mem_append, List.mem_cons, List.mem_append] at hnot
      exact hnot (.inr (.inr (.inl hmem)))
    rw [hsplit, hmid, ← List.cons_append, ← List.append_assoc] at hpre
    exact bounce_short hpre hreleased hsteady

lemma idle_run (h : Along buttonStep Timely (buttonInit pin) es) (hsteady : Steady es) (val rc : ℤ) :
    ButtonEvent.resetWork val rc ∉ es := by
  have hquiet : Along buttonStep (fun s e => Timely s e ∧ ∀ level, e ≠ .edge level) (buttonInit pin) es :=
    along_of_forall h fun e he level hlevel => hsteady level (hlevel ▸ he)
  have hnever : Along buttonStep (fun _ e => e ≠ .resetWork val rc) (buttonInit pin) es := by
    apply along_invariant (I := fun s => s.buttonWork = none ∧ s.resetWork = none) _ _ ⟨rfl, rfl⟩ hquiet
    · rintro s e ⟨hbutton, hreset⟩ ⟨hok, hedge⟩
      cases e with
      | edge level => exact absurd rfl (hedge level)
      | tick => exact ⟨hbutton, hreset⟩
      | resetWork val rc => exact ⟨hbutton, rfl⟩
      | buttonWork val =>
        obtain ⟨⟨due, hdue, -⟩, -⟩ := hok
        rw [hbutton] at hdue
        cases hdue
    · rintro s e ⟨-, hreset⟩ ⟨hok, -⟩ rfl
      obtain ⟨⟨due, hdue, -⟩, -⟩ := hok
      rw [hreset] at hdue
      cases hdue
  intro hmem
  obtain ⟨before, after, rfl⟩ := List.append_of_mem hmem
  exact (along_append.mp hnever).2.1 rfl

lemma reset_event {reset : Reset} (h : (buttonStep s e).2 = some reset) :
    ∃ rc, e = .resetWork 1 rc ∧ reset = if rc = 0 then .rebooted else .notCleared rc := by
  cases e with
  | edge level | tick | buttonWork val => cases h
  | resetWork val rc =>
    rw [buttonStep, Button.resetWorkFn] at h
    split_ifs at h with hval hrc
    · obtain rfl := not_not.mp hval
      exact ⟨rc, rfl, by rw [if_neg hrc]; exact (Option.some.inj h).symm⟩
    · obtain rfl := not_not.mp hval
      exact ⟨rc, rfl, by rw [if_pos (not_not.mp hrc)]; exact (Option.some.inj h).symm⟩

lemma reset_decided (s : Button) (rc : ℤ) :
    (buttonStep s (.resetWork 1 rc)).2 = some (if rc = 0 then .rebooted else .notCleared rc) := by
  rw [buttonStep, Button.resetWorkFn]
  by_cases hrc : rc = 0 <;> simp [hrc]

lemma exists_visit {e : ButtonEvent} (he : e ∈ es) :
    ∃ v ∈ trace buttonStep s es, v.event = e ∧ v.output = (buttonStep v.state e).2 := by
  have hevents : (trace buttonStep s es).map (fun v => v.event) = es := trace_events
  rw [← hevents] at he
  obtain ⟨v, hv, rfl⟩ := List.mem_map.mp he
  exact ⟨v, hv, rfl, trace_output v hv⟩

def afterEdge (pin : ℤ) (before : List ButtonEvent) : Button := exec buttonStep (buttonInit pin) (before ++ [.edge 1])

/-- A reset comes of a press that was sampled a second before and of no longer release since. A press that is sampled
comes to the reset unless it is sampled as released, and a level of 1 without an edge for the two delays resets: it
reboots, unless the configuration cannot be cleared. Without an edge there is no reset. -/
theorem button_resets (pin : ℤ) (es : List ButtonEvent) (h : Along buttonStep Timely (buttonInit pin) es) :
    (∀ pre e post reset, es = pre ++ e :: post → (buttonStep (exec buttonStep (buttonInit pin) pre) e).2 = some reset →
      ∃ before mid, HeldDown pre before mid) ∧
      (∀ before mid rest, es = before ++ .buttonWork 1 :: (mid ++ rest) → ButtonEvent.buttonWork 0 ∉ mid →
        resetHoldTimeMs < ticks mid → ∃ val rc, .resetWork val rc ∈ mid) ∧
      (∀ before hold rest, es = before ++ .edge 1 :: (hold ++ rest) → Steady hold →
        debounceTimeMs + resetHoldTimeMs < ticks hold → ∃ v ∈ trace buttonStep (afterEdge pin before) hold, ∃ rc,
          v.event = .resetWork 1 rc ∧ v.output = some (if rc = 0 then .rebooted else .notCleared rc)) ∧
      (Steady es → ∀ v ∈ trace buttonStep (buttonInit pin) es, v.output = none) := by
  refine ⟨?_, ?_, ?_, ?_⟩
  · rintro pre e post reset rfl hreset
    obtain ⟨rc, rfl, -⟩ := reset_event hreset
    exact reset_heldDown h
  · rintro before mid rest rfl hreleased hlong
    obtain ⟨hbefore, hsample, hafter⟩ := along_append.mp h
    obtain ⟨hmid, -⟩ := along_append.mp hafter
    have hpunctual := punctual_step (punctual_exec (punctual_init pin) hbefore) hsample
    refine counted hpunctual ?_ hmid hreleased hlong
    rw [buttonStep, buttonWorkFn, if_pos rfl]
    exact ⟨_, rfl⟩
  · rintro before hold rest rfl hsteady hlong
    obtain ⟨hbefore, -, hafter⟩ := along_append.mp h
    obtain ⟨hhold, -⟩ := along_append.mp hafter
    obtain ⟨e, he, rc, rfl⟩ := held (punctual_edge 1 hbefore) rfl (edge_pending _ 1) hhold hsteady hlong
    obtain ⟨v, hv, hevent, houtput⟩ := exists_visit he
    rw [reset_decided] at houtput
    rw [afterEdge, exec_concat]
    exact ⟨v, hv, rc, hevent, houtput⟩
  · intro hsteady v hv
    rw [trace_output v hv, Option.eq_none_iff_forall_not_mem]
    intro reset hreset
    obtain ⟨rc, hevent, -⟩ := reset_event hreset
    exact idle_run h hsteady 1 rc (hevent ▸ event_mem hv)

lemma along_ticks (n : ℕ) (s : Button) (hbutton : s.buttonWork = none) (hreset : s.resetWork = some (s.now + n)) :
    Along buttonStep Timely s (List.replicate n .tick) := by
  induction n generalizing s with
  | zero => trivial
  | succ n ih =>
    refine ⟨⟨?_, ?_⟩, ih _ hbutton (hreset.trans (by rw [buttonStep, Nat.add_assoc, Nat.add_comm 1]))⟩
    · rintro ⟨due, hdue, -⟩
      rw [hbutton] at hdue
      cases hdue
    · rintro ⟨due, hdue, hle⟩
      rw [hreset] at hdue
      obtain rfl := Option.some.inj hdue
      omega

lemma exec_ticks (n : ℕ) (s : Button) : exec buttonStep s (List.replicate n .tick) = { s with now := s.now + n } := by
  induction n generalizing s with
  | zero => rfl
  | succ n ih =>
    rw [List.replicate_succ, exec_cons, ih, buttonStep, Nat.add_assoc, Nat.add_comm 1]

def bounced : List ButtonEvent := [.edge 1, .edge 0, .edge 1, .tick, .buttonWork 1]

lemma bounced_reset : Along buttonStep Timely (buttonInit 0)
    ((bounced ++ List.replicate 1000 .tick) ++ [ButtonEvent.resetWork 1 0]) := by
  refine along_append.mpr ⟨along_append.mpr ⟨by decide, along_ticks 1000 _ rfl rfl⟩, ?_, trivial⟩
  rw [exec_append, exec_ticks]
  exact ⟨⟨_, rfl, le_rfl⟩, rfl⟩

theorem button_resets_bounced : ∃ before mid, HeldDown (bounced ++ List.replicate 1000 .tick) before mid :=
  (button_resets 0 _ bounced_reset).1 _ _ [] .rebooted rfl rfl

end Armed

end WallaBMC.System
