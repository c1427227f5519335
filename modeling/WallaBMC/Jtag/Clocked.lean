import WallaBMC.Jtag.Bitbang

/-! What the target clocks in. It takes TMS and TDI at each rising edge of TCK, as they were before the edge; the
client asks for a bit with each command that raises TCK. -/

namespace WallaBMC.Jtag

open Library.Runs

/-- The levels last seen, and TMS and TDI at the rising edges so far. -/
structure Observed where
  pins : Levels
  taken : List (Option Bool × Option Bool)

def Observed.next (o : Observed) (pins : Levels) : Observed :=
  ⟨pins, if o.pins .tck = some false ∧ pins .tck = some true then o.taken ++ [(o.pins .tms, o.pins .tdi)]
    else o.taken⟩

def observed (levels : List Levels) : Observed := levels.foldl Observed.next ⟨Port.released.pins, []⟩

/-- The client's side: TCK as it was last asked for, and the bits that were asked for. -/
structure Client where
  connected : Bool
  tck : Bool
  bits : List (Bool × Bool)

namespace Client

def init : Client := ⟨false, false, []⟩

def command (ret : ℤ) (c : Client) : Command → Client
  | .write tck tms tdi => { c with tck := tck, bits := if !c.tck && tck then c.bits ++ [(tms, tdi)] else c.bits }
  | .read => { c with connected := !decide (ret ≤ 0) }
  | .quit => { c with connected := false }
  | .other => c

def step (c : Client) : Event → Client
  | .accept => if c.connected then c else { c with connected := true, tck := false }
  | .recv cmdBuf ret => if c.connected then c.command ret (.ofByte cmdBuf) else c
  | .recvEnd => { c with connected := false }

end Client

section

variable {port : Port} {p : Pin} {level : Option Bool} {taken : List (Option Bool × Option Bool)}
  {t : Plain} {c : Client} {target : Target}

lemma observed_append (levels : List Levels) (pins : Levels) :
    observed (levels ++ [pins]) = (observed levels).next pins := by
  rw [observed, List.foldl_append]
  rfl

/-- A pin that is driven is seen at once; only TCK takes a bit over. -/
lemma observed_drive (h : observed port.levels = ⟨port.pins, taken⟩) :
    observed (port.drive p level).levels = ⟨(port.drive p level).pins,
      if p = .tck ∧ port.pins .tck = some false ∧ level = some true then
        taken ++ [(port.pins .tms, port.pins .tdi)] else taken⟩ := by
  rw [Port.drive]
  split_ifs with hsame hrises hrises
  · obtain ⟨rfl, hlow, hhigh⟩ := hrises
    rw [hlow, hhigh] at hsame
    cases hsame
  · exact h
  · obtain ⟨rfl, hlow, rfl⟩ := hrises
    rw [observed_append, h, Observed.next]
    simp only [Function.update_self, hlow, and_self, if_true]
  · rw [observed_append, h, Observed.next]
    refine congrArg _ (if_neg ?_)
    rintro ⟨hlow, hhigh⟩
    by_cases hp : p = .tck
    · subst hp
      rw [Function.update_self] at hhigh
      exact hrises ⟨rfl, hlow, hhigh⟩
    · rw [Function.update_of_ne (Ne.symm hp)] at hhigh
      exact absurd (hlow.symm.trans hhigh) (by decide)

/-- The target has taken the bits that were asked for, and TCK is as it was asked for. -/
structure Clocked (t : Plain) (c : Client) : Prop where
  connected : t.connected = c.connected
  observed : observed t.port.levels = ⟨t.port.pins, c.bits.map (Prod.map some some)⟩
  tck : c.connected = true → t.port.pins .tck = some c.tck

lemma observed_configured (h : observed port.levels = ⟨port.pins, taken⟩) (hp : ¬ (p = .tck ∧ level = some true)) :
    observed (port.drive p level).levels = ⟨(port.drive p level).pins, taken⟩ := by
  rw [observed_drive h]
  exact congrArg _ (if_neg fun hrises => hp ⟨hrises.1, hrises.2.2⟩)

/-- Neither enabling nor disabling the pins clocks a bit in. -/
lemma observed_pinsEnable (h : observed port.levels = ⟨port.pins, taken⟩) :
    observed port.pinsEnable.levels = ⟨port.pinsEnable.pins, taken⟩ := by
  apply observed_configured _ (fun hp => by cases hp.1)
  apply observed_configured _ (fun hp => by cases hp.1)
  exact observed_configured h fun hp => by cases hp.2

lemma observed_pinsDisable (h : observed port.levels = ⟨port.pins, taken⟩) :
    observed port.pinsDisable.levels = ⟨port.pinsDisable.pins, taken⟩ := by
  apply observed_configured _ (fun hp => by cases hp.1)
  apply observed_configured _ (fun hp => by cases hp.1)
  exact observed_configured h fun hp => by cases hp.2

lemma observed_write (tck tms tdi : Bool) (h : observed port.levels = ⟨port.pins, taken⟩) :
    observed (Plain.write tck tms tdi port).levels = ⟨(Plain.write tck tms tdi port).pins,
      if port.pins .tck = some false ∧ tck = true then taken ++ [(some tms, some tdi)] else taken⟩ := by
  have htms : observed (port.drive .tms (some tms)).levels = ⟨(port.drive .tms (some tms)).pins, taken⟩ :=
    observed_configured h fun hp => by cases hp.1
  have htdi : observed ((port.drive .tms (some tms)).drive .tdi (some tdi)).levels =
      ⟨((port.drive .tms (some tms)).drive .tdi (some tdi)).pins, taken⟩ :=
    observed_configured htms fun hp => by cases hp.1
  have htck : ((port.drive .tms (some tms)).drive .tdi (some tdi)).pins .tck = port.pins .tck := by
    rw [drive_of_ne (by decide), drive_of_ne (by decide)]
  have hset : ((port.drive .tms (some tms)).drive .tdi (some tdi)).pins .tms = some tms := by
    rw [drive_of_ne (by decide), drive_self]
  rw [Plain.write, observed_drive htdi, htck, hset, drive_self]
  simp only [true_and, Option.some.injEq]

lemma clocked_finish (h : Clocked t c) : Clocked t.finish { c with connected := false } where
  connected := rfl
  observed := observed_pinsDisable h.observed
  tck hconnected := by cases hconnected

lemma clocked_command (h : Clocked t c) (hconnected : c.connected = true) (ret : ℤ) (cmd : Command) :
    Clocked (t.command target ret cmd).1 (c.command ret cmd) := by
  cases cmd with
  | write tck tms tdi =>
    refine ⟨h.connected, ?_, fun _ => drive_self⟩
    have htaken := observed_write tck tms tdi h.observed
    rw [h.tck hconnected] at htaken
    apply htaken.trans
    refine congrArg _ ?_
    cases hlow : c.tck with
    | false =>
      cases tck with
      | false => rw [Client.command, hlow]; rfl
      | true =>
        rw [Client.command, hlow, if_pos ⟨rfl, rfl⟩]
        have happend : (c.bits ++ [(tms, tdi)]).map (Prod.map some some) =
            c.bits.map (Prod.map some some) ++ [(some tms, some tdi)] := List.map_append
        exact happend.symm
    | true => rw [Client.command, hlow]; rfl
  | read =>
    rw [Plain.command, Client.command]
    by_cases hret : ret ≤ 0
    · simp only [if_pos hret, decide_eq_true hret, Bool.not_true]
      exact clocked_finish h
    · simp only [if_neg hret, decide_eq_false hret, Bool.not_false, ← hconnected]
      exact h
  | quit => exact clocked_finish h
  | other => exact h

lemma clocked_accept (h : Clocked t c) :
    Clocked ⟨t.port.pinsEnable, true⟩ { c with connected := true, tck := false } where
  connected := rfl
  observed := observed_pinsEnable h.observed
  tck _ := by simp [Port.pinsEnable, Port.gpioPinConfigure, Flags.level, drive_of_ne]

lemma clocked_step (h : Clocked t c) (e : Event) : Clocked (t.step target e).1 (c.step e) := by
  cases e with
  | accept =>
    rw [Plain.step, Client.step, h.connected]
    split_ifs
    · exact h
    · exact clocked_accept h
  | recv cmdBuf ret =>
    rw [Plain.step, Client.step, h.connected]
    split_ifs with hconnected
    · exact clocked_command h hconnected ret _
    · exact h
  | recvEnd =>
    rw [Plain.step, Client.step, h.connected]
    split_ifs with hconnected
    · exact clocked_finish h
    · rw [Bool.not_eq_true] at hconnected
      rw [← hconnected]
      exact h

lemma clocked_init : Clocked .init .init := ⟨rfl, rfl, Bool.noConfusion⟩

lemma clocked_run {s : Server} (hagrees : s.Agrees t) (h : Clocked t c) (es : List Event) :
    (observed (exec (Server.step target) s es).port.levels).taken =
      (es.foldl Client.step c).bits.map (Prod.map some some) := by
  induction es generalizing s t c with
  | nil =>
    rw [exec_nil, hagrees.port, h.observed]
    rfl
  | cons e es ih => exact ih (Server.agrees_step s t e hagrees).1 (clocked_step h e)

/-- Over all sessions the target clocks in the bits that the clients asked for, in their order, each with TMS and TDI
set up before the edge; and none besides. -/
theorem bits_clocked_in (target : Target) (es : List Event) :
    (observed (exec (Server.step target) .init es).port.levels).taken =
      (es.foldl Client.step .init).bits.map (Prod.map some some) :=
  clocked_run Server.agrees_init clocked_init es

end

end WallaBMC.Jtag
