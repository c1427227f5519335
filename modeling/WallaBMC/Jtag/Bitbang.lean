import WallaBMC.Library.Runs

/-! The JTAG server in `jtag.c`. `handle_client` remembers what it last wrote to each pin and leaves out a
write that repeats it; the plain interpreter of the protocol writes every time. `levels` is what the
target has seen: the levels of the output pins after each change. -/

namespace WallaBMC.Jtag

open Library.Runs

inductive Pin
  | tck
  | tms
  | tdi
  deriving DecidableEq

/-- A pin that is not driven has no level. -/
abbrev Levels := Pin → Option Bool

structure Port where
  pins : Levels
  levels : List Levels

inductive Flags
  | input
  | outputInactive
  | outputActive

def Flags.level : Flags → Option Bool
  | .input => none
  | .outputInactive => some false
  | .outputActive => some true

namespace Port

def drive (p : Pin) (level : Option Bool) (port : Port) : Port :=
  if port.pins p = level then port
  else ⟨Function.update port.pins p level, port.levels ++ [Function.update port.pins p level]⟩

def gpioPinConfigure (p : Pin) (flags : Flags) (port : Port) : Port := port.drive p flags.level

/-- Any value but 0 is active. An input is not driven. -/
def gpioPinSet (p : Pin) (value : ℤ) (port : Port) : Port :=
  match port.pins p with
  | none => port
  | some _ => port.drive p (some (value ≠ 0))

def pinsDisable (port : Port) : Port :=
  ((port.gpioPinConfigure .tck .input).gpioPinConfigure .tms .input).gpioPinConfigure .tdi .input

def pinsEnable (port : Port) : Port :=
  ((port.gpioPinConfigure .tck .outputInactive).gpioPinConfigure .tms .outputActive).gpioPinConfigure
    .tdi .outputInactive

/-- After `jtag_pins_init`. -/
def released : Port := ⟨fun _ => none, []⟩

end Port

/-- `target` is the level of TDO after what the target has seen. -/
abbrev Target := List Levels → Bool

/-- A client connects, and `recv` returns: a byte, with the result of a `send` that it may lead to, or
nothing more. -/
inductive Event
  | accept
  | recv (cmdBuf : UInt8) (ret : ℤ)
  | recvEnd

structure Server where
  port : Port
  prev : Pin → ℤ
  connected : Bool

namespace Server

def init : Server := ⟨.released, fun _ => -1, false⟩

def setPin (p : Pin) (state : ℤ) (s : Server) : Server :=
  if s.prev p ≠ state then
    { s with port := s.port.gpioPinSet p state, prev := Function.update s.prev p state }
  else s

def setTck (state : ℤ) (s : Server) : Server := s.setPin .tck state

def setTms (state : ℤ) (s : Server) : Server := s.setPin .tms state

def setTdi (state : ℤ) (s : Server) : Server := s.setPin .tdi state

def getTdo (target : Target) (s : Server) : ℤ := if target s.port.levels then 1 else 0

def jtagPinsDisable (s : Server) : Server := { s with port := s.port.pinsDisable }

def jtagPinsEnable (s : Server) : Server := { s with port := s.port.pinsEnable, prev := fun _ => -1 }

def finish (s : Server) : Server := { s.jtagPinsDisable with connected := false }

/-- `cmd_buf` is one of the characters from 0 to 7. -/
def isWrite (cmdBuf : UInt8) : Bool := '0'.toUInt8 ≤ cmdBuf ∧ cmdBuf ≤ '7'.toUInt8

def write (cmdBuf : UInt8) (s : Server) : Server :=
  ((s.setTms (cmdBuf &&& 2).toNat).setTdi (cmdBuf &&& 1).toNat).setTck (cmdBuf &&& 4).toNat

/-- One round of the loop; the output is what is passed to `send`. -/
def command (target : Target) (cmdBuf : UInt8) (ret : ℤ) (s : Server) : Server × Option Char :=
  if isWrite cmdBuf then (s.write cmdBuf, none)
  else if cmdBuf = 'R'.toUInt8 then
    (if ret ≤ 0 then s.finish else s, some (if s.getTdo target ≠ 0 then '1' else '0'))
  else if cmdBuf = 'Q'.toUInt8 then (s.finish, none)
  else (s, none)

/-- `handle_client`, called for one client after the other. -/
def step (target : Target) (s : Server) : Event → Server × Option Char
  | .accept => if s.connected then (s, none) else ({ s.jtagPinsEnable with connected := true }, none)
  | .recv cmdBuf ret => if s.connected then s.command target cmdBuf ret else (s, none)
  | .recvEnd => if s.connected then (s.finish, none) else (s, none)

end Server

/-- The protocol: what a byte asks for. -/
inductive Command
  | write (tck tms tdi : Bool)
  | read
  | quit
  | other

def Command.ofByte (c : UInt8) : Command :=
  if '0'.toUInt8 ≤ c ∧ c ≤ '7'.toUInt8 then
    .write ((c.toNat - '0'.toNat).testBit 2) ((c.toNat - '0'.toNat).testBit 1)
      ((c.toNat - '0'.toNat).testBit 0)
  else if c = 'R'.toUInt8 then .read
  else if c = 'Q'.toUInt8 then .quit
  else .other

structure Plain where
  port : Port
  connected : Bool

namespace Plain

def init : Plain := ⟨.released, false⟩

def finish (s : Plain) : Plain := ⟨s.port.pinsDisable, false⟩

/-- TCK is written last. -/
def write (tck tms tdi : Bool) (port : Port) : Port :=
  ((port.drive .tms (some tms)).drive .tdi (some tdi)).drive .tck (some tck)

def command (target : Target) (ret : ℤ) (s : Plain) : Command → Plain × Option Char
  | .write tck tms tdi => ({ s with port := write tck tms tdi s.port }, none)
  | .read => (if ret ≤ 0 then s.finish else s, some (if target s.port.levels then '1' else '0'))
  | .quit => (s.finish, none)
  | .other => (s, none)

def step (target : Target) (s : Plain) : Event → Plain × Option Char
  | .accept => if s.connected then (s, none) else (⟨s.port.pinsEnable, true⟩, none)
  | .recv cmdBuf ret =>
    if s.connected then s.command target ret (.ofByte cmdBuf) else (s, none)
  | .recvEnd => if s.connected then (s.finish, none) else (s, none)

end Plain

section Port

variable {port : Port} {p q : Pin} {level : Option Bool}

@[simp] lemma drive_self : (port.drive p level).pins p = level := by
  rw [Port.drive]
  split_ifs with h
  · exact h
  · exact Function.update_self ..

lemma drive_of_ne (h : q ≠ p) : (port.drive p level).pins q = port.pins q := by
  rw [Port.drive]
  split_ifs
  · rfl
  · exact Function.update_of_ne h ..

lemma drive_same (h : port.pins p = level) : port.drive p level = port := if_pos h

lemma driven_drive {b : Bool} (h : port.pins q ≠ none) : (port.drive p (some b)).pins q ≠ none := by
  by_cases hq : q = p
  · rw [hq, drive_self]
    simp
  · rwa [drive_of_ne hq]

lemma pins_pinsDisable (p : Pin) : port.pinsDisable.pins p = none := by
  cases p <;> simp [Port.pinsDisable, Port.gpioPinConfigure, Flags.level, drive_of_ne]

lemma pins_pinsEnable (p : Pin) : port.pinsEnable.pins p ≠ none := by
  cases p <;> simp [Port.pinsEnable, Port.gpioPinConfigure, Flags.level, drive_of_ne]

lemma gpioPinSet_driven {value : ℤ} (h : port.pins p ≠ none) :
    port.gpioPinSet p value = port.drive p (some (decide (value ≠ 0))) := by
  rw [Port.gpioPinSet]
  cases hp : port.pins p with
  | none => exact absurd hp h
  | some b => rfl

end Port

namespace Server

/-- While a client is served, the pins are driven, and what is remembered of a pin is its level. -/
structure Tracks (s : Server) : Prop where
  driven : ∀ p, s.port.pins p ≠ none
  level : ∀ p, s.prev p ≠ -1 → s.port.pins p = some (decide (s.prev p ≠ 0))

structure Agrees (s : Server) (t : Plain) : Prop where
  port : s.port = t.port
  connected : s.connected = t.connected
  tracks : s.connected = true → s.Tracks
  released : s.connected = false → ∀ p, s.port.pins p = none

variable {s : Server} {t : Plain} {p : Pin} {state : ℤ} {target : Target}

lemma setPin_connected : (s.setPin p state).connected = s.connected := by
  rw [setPin]
  split_ifs <;> rfl

lemma setPin_port (h : s.Tracks) (hstate : 0 ≤ state) :
    (s.setPin p state).port = s.port.drive p (some (decide (state ≠ 0))) := by
  rw [setPin]
  split_ifs with hprev
  · exact gpioPinSet_driven (h.driven p)
  · rw [not_not] at hprev
    have hknown : s.prev p ≠ -1 := by omega
    have hlevel := h.level p hknown
    rw [hprev] at hlevel
    exact (drive_same hlevel).symm

lemma setPin_tracks (h : s.Tracks) (hstate : 0 ≤ state) : (s.setPin p state).Tracks where
  driven q := by
    rw [setPin_port h hstate]
    exact driven_drive (h.driven q)
  level q hq := by
    rw [setPin_port h hstate]
    by_cases hqp : q = p
    · have hprev : (s.setPin p state).prev p = state := by
        rw [setPin]
        split_ifs with hsame
        · exact Function.update_self ..
        · exact not_not.mp hsame
      rw [hqp, drive_self, hprev]
    · have hprev : (s.setPin p state).prev q = s.prev q := by
        rw [setPin]
        split_ifs
        · exact Function.update_of_ne hqp ..
        · rfl
      rw [hprev] at hq ⊢
      rw [drive_of_ne hqp]
      exact h.level q hq

lemma write_tracks (h : s.Tracks) (cmdBuf : UInt8) : (s.write cmdBuf).Tracks :=
  setPin_tracks (setPin_tracks (setPin_tracks h (Int.natCast_nonneg _)) (Int.natCast_nonneg _))
    (Int.natCast_nonneg _)

lemma write_port (h : s.Tracks) (cmdBuf : UInt8) :
    (s.write cmdBuf).port = Plain.write (decide (((cmdBuf &&& 4).toNat : ℤ) ≠ 0))
      (decide (((cmdBuf &&& 2).toNat : ℤ) ≠ 0)) (decide (((cmdBuf &&& 1).toNat : ℤ) ≠ 0)) s.port := by
  have htms := setPin_tracks (p := .tms) h (Int.natCast_nonneg (cmdBuf &&& 2).toNat)
  have htdi := setPin_tracks (p := .tdi) htms (Int.natCast_nonneg (cmdBuf &&& 1).toNat)
  rw [write, setTck, setTdi, setTms, setPin_port htdi (Int.natCast_nonneg _),
    setPin_port htms (Int.natCast_nonneg _), setPin_port h (Int.natCast_nonneg _), Plain.write]

lemma write_connected (cmdBuf : UInt8) : (s.write cmdBuf).connected = s.connected := by
  rw [write, setTck, setTdi, setTms, setPin_connected, setPin_connected, setPin_connected]

lemma ofByte_write {c : UInt8} (h : isWrite c = true) :
    Command.ofByte c = .write (decide (((c &&& 4).toNat : ℤ) ≠ 0))
      (decide (((c &&& 2).toNat : ℤ) ≠ 0)) (decide (((c &&& 1).toNat : ℤ) ≠ 0)) := by
  obtain ⟨hlow, hhigh⟩ := of_decide_eq_true h
  have hfirst : 48 ≤ c.toNat := UInt8.le_iff_toNat_le.mp hlow
  have hlast : c.toNat ≤ 55 := UInt8.le_iff_toNat_le.mp hhigh
  obtain ⟨n, hn⟩ : ∃ n, c.toNat = n := ⟨_, rfl⟩
  rw [hn] at hfirst hlast
  have hc : c = UInt8.ofNat n := by
    apply UInt8.toNat_inj.mp
    rw [hn, UInt8.toNat_ofNat_of_lt' (hlast.trans_lt (by norm_num))]
  rw [hc]
  interval_cases n <;> rfl

lemma agrees_finish (h : s.Agrees t) : s.finish.Agrees t.finish where
  port := congrArg Port.pinsDisable h.port
  connected := rfl
  tracks hconnected := by cases hconnected
  released _ p := pins_pinsDisable p

lemma agrees_accept (h : s.Agrees t) :
    Agrees { s.jtagPinsEnable with connected := true } ⟨t.port.pinsEnable, true⟩ where
  port := congrArg Port.pinsEnable h.port
  connected := rfl
  tracks _ := ⟨pins_pinsEnable, fun p hp => absurd rfl hp⟩
  released hconnected := by cases hconnected

lemma agrees_command (h : s.Agrees t) (hconnected : s.connected = true) (cmdBuf : UInt8) (ret : ℤ) :
    (s.command target cmdBuf ret).1.Agrees (t.command target ret (.ofByte cmdBuf)).1 ∧
      (s.command target cmdBuf ret).2 = (t.command target ret (.ofByte cmdBuf)).2 := by
  have htracks := h.tracks hconnected
  by_cases hwrite : isWrite cmdBuf = true
  · rw [command, if_pos hwrite, ofByte_write hwrite]
    refine ⟨⟨?_, ?_, fun _ => write_tracks htracks cmdBuf, fun hfalse => ?_⟩, rfl⟩
    · rw [write_port htracks, h.port]
      rfl
    · rw [write_connected, h.connected]
      rfl
    · rw [write_connected, hconnected] at hfalse
      cases hfalse
  · have hbyte : ¬ ('0'.toUInt8 ≤ cmdBuf ∧ cmdBuf ≤ '7'.toUInt8) := fun hrange => hwrite (decide_eq_true hrange)
    rw [command, if_neg hwrite, Command.ofByte, if_neg hbyte]
    by_cases hread : cmdBuf = 'R'.toUInt8
    · rw [if_pos hread, if_pos hread, Plain.command, getTdo, h.port]
      constructor
      · by_cases hret : ret ≤ 0
        · simp only [if_pos hret]
          exact agrees_finish h
        · simp only [if_neg hret]
          exact h
      · cases target t.port.levels <;> rfl
    · rw [if_neg hread, if_neg hread]
      by_cases hquit : cmdBuf = 'Q'.toUInt8
      · rw [if_pos hquit, if_pos hquit]
        exact ⟨agrees_finish h, rfl⟩
      · rw [if_neg hquit, if_neg hquit]
        exact ⟨h, rfl⟩

lemma agrees_init : init.Agrees Plain.init where
  port := rfl
  connected := rfl
  tracks hconnected := by cases hconnected
  released _ _ := rfl

lemma agrees_step (s : Server) (t : Plain) (e : Event) (h : s.Agrees t) :
    (s.step target e).1.Agrees (t.step target e).1 ∧ (s.step target e).2 = (t.step target e).2 := by
  cases e with
  | accept =>
    rw [step, Plain.step, ← h.connected]
    split_ifs with hconnected
    · exact ⟨h, rfl⟩
    · exact ⟨agrees_accept h, rfl⟩
  | recv cmdBuf ret =>
    rw [step, Plain.step, ← h.connected]
    split_ifs with hconnected
    · exact agrees_command h hconnected cmdBuf ret
    · exact ⟨h, rfl⟩
  | recvEnd =>
    rw [step, Plain.step, ← h.connected]
    split_ifs with hconnected
    · exact ⟨agrees_finish h, rfl⟩
    · exact ⟨h, rfl⟩

end Server

/-- For every sequence of sessions, ended or not: the same levels, the same answers, and outside a session no
driven pin. -/
theorem bitbang_plain (target : Target) (es : List Event) :
    (exec (Server.step target) .init es).port = (exec (Plain.step target) .init es).port ∧
      outputs (Server.step target) .init es = outputs (Plain.step target) .init es ∧
      ∀ p, (exec (Server.step target) .init es).port.pins p ≠ none →
        (exec (Server.step target) .init es).connected = true := by
  obtain ⟨hagrees, hanswers⟩ := lockstep (fun s t e h => Server.agrees_step s t e h) Server.agrees_init es
  refine ⟨hagrees.port, hanswers, fun p hdriven => ?_⟩
  by_contra hclosed
  exact hdriven (hagrees.released (Bool.of_not_eq_true hclosed) p)

end WallaBMC.Jtag
