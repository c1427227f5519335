import WallaBMC.Config.Strings
import WallaBMC.Documents.Handlers
import WallaBMC.Time.Sync

/-! `main`: the init functions in their order, of which only those of the file system and of the button may fail.
What is modelled elsewhere is called; of the rest of them only the result counts. -/

namespace WallaBMC.System

open Redfish Storage Config Time
open Settings.Payloads (Host Bmc)

/-- The state of the firmware. `loaded` says that `config_init` is done, `serving` that the HTTP server is up. -/
structure Machine where
  config : State
  clock : Clock
  host : Host
  loaded : Bool
  serving : Bool
  bootFinished : Bool

def Machine.bmc (m : Machine) : Bmc := ⟨m.config, m.clock, m.host⟩

def Machine.setBmc (m : Machine) (bmc : Bmc) : Machine :=
  { m with config := bmc.config, clock := bmc.clock, host := bmc.host }

structure Peripherals where
  vpdInit : ℤ
  buttonInit : ℤ
  statusLedInit : ℤ
  jtagInit : ℤ
  appHttpServerInit : ℤ
  consoleLoggerInit : ℤ
  consoleBridgeInit : ℤ
  consoleBridgeWsInit : ℤ

structure ResetGpio where
  okay : Bool
  isReady : Bool
  configure : ℤ
  set : ℤ

/-- All that a boot depends on besides the flash and the RTC. -/
structure BootEnv where
  rtc : RtcFaults
  deviceReady : Bool
  pageInfo : Option Errno
  mount : Option Errno
  faults : Faults
  app : NetConfigInitApp
  netFaults : NetFaults
  stopFaults : NetFaults
  gpioIsReady : ℕ → Bool
  configure : ℕ → ℤ
  ret : ℕ → ℤ
  resetGpio : ResetGpio
  peripherals : Peripherals

def resetInit (gpio : ResetGpio) (levels : List Bool) : ℤ × List Bool :=
  if gpio.okay = false then (0, levels)
  else if gpio.isReady = false then (-1, levels)
  else if gpio.configure < 0 then (-1, levels)
  else if gpio.set < 0 then (-1, levels ++ [true])
  else (0, levels ++ [true, false])

/-- What a reset leaves: flash, RTC and the levels of the outputs; the static variables are as they were linked. -/
def Machine.reset (p : Platform) (m : Machine) : Machine where
  config := ⟨.zero, false, ⟨false, { m.config.fs.nvs with ready := false }⟩, p.net⟩
  clock := m.clock.reset
  host := ⟨Power.reset m.host.power.gpios, []⟩
  loaded := false
  serving := false
  bootFinished := false

structure Stage where
  fatal : Bool
  run : Machine → ℤ × Machine

section

variable (p : Platform) (cal : Calendar) (env : BootEnv)

def rtcStage (m : Machine) : ℤ × Machine :=
  let (ret, clock) := rtcInit cal env.rtc m.clock
  (ret, { m with clock := clock })

def fsStage (m : Machine) : ℤ × Machine :=
  let (ret, fs) := fsInit m.config.fs env.deviceReady env.pageInfo env.mount
  (ret, { m with config := { m.config with fs := fs } })

def configStage (m : Machine) : ℤ × Machine :=
  let (ret, config) := configInit p env.faults m.config
  (ret, { m with config := config, loaded := true })

def netStage (m : Machine) : ℤ × Machine :=
  let (ret, config) := netInit env.app env.netFaults env.stopFaults m.config
  (ret, { m with config := config })

def powerStage (m : Machine) : ℤ × Machine :=
  let (power, ret) := Power.powerInit
    ⟨env.gpioIsReady, env.configure, env.ret, Documents.hostAutoPoweron m.config.data⟩ m.host.power
  (ret, { m with host := { m.host with power := power } })

def resetStage (m : Machine) : ℤ × Machine :=
  let (ret, levels) := resetInit env.resetGpio m.host.reset
  (ret, { m with host := { m.host with reset := levels } })

def serverStage (m : Machine) : ℤ × Machine :=
  (env.peripherals.appHttpServerInit, { m with serving := 0 ≤ env.peripherals.appHttpServerInit })

def quietStage (ret : ℤ) (m : Machine) : ℤ × Machine := (ret, m)

def lateStages : List Stage :=
  [⟨true, resetStage env⟩, ⟨true, quietStage env.peripherals.statusLedInit⟩,
    ⟨true, quietStage env.peripherals.jtagInit⟩, ⟨true, serverStage env⟩,
    ⟨true, quietStage env.peripherals.consoleLoggerInit⟩, ⟨true, quietStage env.peripherals.consoleBridgeInit⟩,
    ⟨true, quietStage env.peripherals.consoleBridgeWsInit⟩]

def stages : List Stage :=
  ⟨true, rtcStage cal env⟩ :: ⟨true, quietStage env.peripherals.vpdInit⟩ :: ⟨false, fsStage env⟩ ::
    ⟨true, configStage p env⟩ :: ⟨false, quietStage env.peripherals.buttonInit⟩ :: ⟨true, netStage env⟩ ::
    ⟨true, powerStage env⟩ :: lateStages env

def runStages : List Stage → Machine → ℤ × Machine
  | [], m => (0, { m with bootFinished := true })
  | stage :: stages, m =>
    let (ret, m) := stage.run m
    if stage.fatal = true ∧ ret < 0 then (-1, m) else runStages stages m

def main (m : Machine) : ℤ × Machine := runStages (stages p cal env) m

def restart (m : Machine) : Machine := (main p cal env (m.reset p)).2

/-- `fs_init`, `config_init` and `net_init`. -/
def bootNet (s : State) : ℤ × State :=
  netInit env.app env.netFaults env.stopFaults (configInit p env.faults
    { s with fs := (fsInit s.fs env.deviceReady env.pageInfo env.mount).2 }).2

def powerBoot (s : State) : Power.Boot :=
  ⟨env.gpioIsReady, env.configure, env.ret, Documents.hostAutoPoweron s.data⟩

end

/-- A boot gives up before `config_init`, or comes through `net_init`; once it is finished, `power_init` succeeded. -/
inductive Booted (p : Platform) (env : BootEnv) (s : State) (power : Power.State) : Machine → Prop
  | stopped (m : Machine) (hloaded : m.loaded = false) (hserving : m.serving = false)
      (hfinished : m.bootFinished = false) (hconfig : m.config = s) : Booted p env s power m
  | loaded (m : Machine) (hloaded : m.loaded = true) (hconfig : m.config = (bootNet p env s).2)
      (hpower : m.bootFinished = true → m.host.power = (Power.powerInit (powerBoot env m.config) power).1 ∧
        0 ≤ (Power.powerInit (powerBoot env m.config) power).2) : Booted p env s power m

variable {p : Platform} {cal : Calendar} {env : BootEnv} {m : Machine} {stage : Stage} {list : List Stage}

section Runs

variable {α : Type*} {f : Machine → α}

lemma runStages_stop (h : stage.fatal = true ∧ (stage.run m).1 < 0) :
    runStages (stage :: list) m = (-1, (stage.run m).2) := if_pos h

lemma runStages_next (h : ¬ (stage.fatal = true ∧ (stage.run m).1 < 0)) :
    runStages (stage :: list) m = runStages list (stage.run m).2 := if_neg h

/-- What no stage of the list changes. -/
lemma runStages_keeps (hf : ∀ m b, f { m with bootFinished := b } = f m)
    (h : ∀ stage ∈ list, ∀ m, f (stage.run m).2 = f m) (m : Machine) : f (runStages list m).2 = f m := by
  induction list generalizing m with
  | nil => exact hf m true
  | cons stage list ih =>
    obtain ⟨hfirst, hrest⟩ := List.forall_mem_cons.mp h
    by_cases hstop : stage.fatal = true ∧ (stage.run m).1 < 0
    · rw [runStages_stop hstop]
      exact hfirst m
    · rw [runStages_next hstop]
      exact (ih hrest _).trans (hfirst m)

end Runs

section Stages

lemma late_keeps (env : BootEnv) : ∀ stage ∈ lateStages env, ∀ m : Machine,
    ((stage.run m).2.config, (stage.run m).2.loaded, (stage.run m).2.host.power) =
      (m.config, m.loaded, m.host.power) := by
  intro stage hstage m
  simp only [lateStages, List.mem_cons, List.not_mem_nil, or_false] at hstage
  rcases hstage with rfl | rfl | rfl | rfl | rfl | rfl | rfl <;> rfl

lemma late_stages (env : BootEnv) (m : Machine) :
    (runStages (lateStages env) m).2.config = m.config ∧ (runStages (lateStages env) m).2.loaded = m.loaded ∧
      (runStages (lateStages env) m).2.host.power = m.host.power := by
  have hkeeps := runStages_keeps (f := fun m => (m.config, m.loaded, m.host.power)) (fun _ _ => rfl) (late_keeps env) m
  simpa only [Prod.mk.injEq] using hkeeps

lemma main_booted (hloaded : m.loaded = false) (hserving : m.serving = false) (hfinished : m.bootFinished = false) :
    Booted p env m.config m.host.power (main p cal env m).2 := by
  rw [main, stages]
  by_cases hrtc : (rtcStage cal env m).1 < 0
  · rw [runStages_stop ⟨rfl, hrtc⟩]
    exact .stopped _ hloaded hserving hfinished rfl
  rw [runStages_next fun h => hrtc h.2]
  by_cases hvpd : env.peripherals.vpdInit < 0
  · rw [runStages_stop ⟨rfl, hvpd⟩]
    exact .stopped _ hloaded hserving hfinished rfl
  -- Neither `fs_init` nor `button_init` stops the boot, and `config_init` always returns zero.
  rw [runStages_next fun h => hvpd h.2, runStages_next fun h => Bool.noConfusion h.1,
    runStages_next fun h => absurd h.2 (lt_irrefl 0), runStages_next fun h => Bool.noConfusion h.1]
  by_cases hnet : (bootNet p env m.config).1 < 0
  · rw [runStages_stop ⟨rfl, hnet⟩]
    exact .loaded _ rfl rfl fun h => Bool.noConfusion (hfinished.symm.trans h)
  rw [runStages_next fun h => hnet h.2]
  by_cases hpower : (Power.powerInit (powerBoot env (bootNet p env m.config).2) m.host.power).2 < 0
  · rw [runStages_stop ⟨rfl, hpower⟩]
    exact .loaded _ rfl rfl fun h => Bool.noConfusion (hfinished.symm.trans h)
  rw [runStages_next fun h => hpower h.2]
  obtain ⟨hconfig, hkept, hhost⟩ := late_stages env _
  refine .loaded _ (hkept.trans rfl) (hconfig.trans rfl) fun _ => ?_
  rw [hconfig]
  exact ⟨hhost, not_lt.mp hpower⟩

lemma restart_booted (p : Platform) (cal : Calendar) (env : BootEnv) (m : Machine) :
    Booted p env (m.reset p).config (m.reset p).host.power (restart p cal env m) := main_booted rfl rfl rfl

end Stages

section Power

open Power

variable {b : Power.Boot} {gpios : List Bool} {ret : ℕ → ℤ} {value : Bool} {power : Power.State}

lemma switch_done (h : 0 ≤ (switch value ret power).2) :
    (switch value ret power).1.systemPowerState = value ∧ ∀ g ∈ (switch value ret power).1.gpios, g = value := by
  rw [switch] at h ⊢
  cases hset : setGpios ret value 0 power.gpios with
  | mk levels ok =>
    rw [hset] at h
    cases ok with
    | false => exact absurd h (by norm_num)
    | true =>
      have hvalue := setGpios_value (congrArg Prod.snd hset)
      rw [hset] at hvalue
      exact ⟨rfl, hvalue⟩

lemma configureGpios_off (i : ℕ) (gs : List Bool) (h : (configureGpios b i gs).2 = true) :
    ∀ g ∈ (configureGpios b i gs).1, g = false := by
  induction gs generalizing i with
  | nil => exact nofun
  | cons g gs ih =>
    rw [configureGpios] at h ⊢
    split_ifs at h ⊢
    · exact List.forall_mem_cons.mpr ⟨rfl, ih (i + 1) h⟩

/-- An initialisation that succeeds leaves every output, and the state that is reported, as the setting says. -/
lemma powerInit_done (h : 0 ≤ (powerInit b (Power.reset gpios)).2) :
    (powerInit b (Power.reset gpios)).1.systemPowerState = b.hostAutoPoweron ∧
      ∀ g ∈ (powerInit b (Power.reset gpios)).1.gpios, g = b.hostAutoPoweron := by
  have hoff := configureGpios_off (b := b) 0 gpios
  have hgpios : (Power.reset gpios).gpios = gpios := rfl
  rw [powerInit, hgpios] at h ⊢
  cases hconf : configureGpios b 0 gpios with
  | mk levels ok =>
    rw [hconf] at h hoff
    cases ok with
    | false => exact absurd h (by norm_num)
    | true =>
      cases hauto : b.hostAutoPoweron with
      | false => exact ⟨rfl, hoff rfl⟩
      | true =>
        simp only [hauto, if_true] at h ⊢
        exact switch_done h

end Power

end WallaBMC.System
