import WallaBMC.System.Boot

/-! The commands of the shell that change something, and the work of the reset button. `bmc_reboot` gives up the file
system and does not return; the reset itself is an event of its own, as power may be lost at any time too. -/

namespace WallaBMC.System

open Redfish Storage Config Time
open Settings (Patch)
open Settings.Payloads (Environment Prior Request Outcome EthernetBody handle)

def eagain : Errno := 11

section

variable (p : Platform) (faults : Faults)

/-- A command whose setter decides on the result. -/
def cmdConfigSet (setter : CString → SetterCall) (arg : CString) (m : Machine) : ℤ × Machine :=
  if m.bootFinished = false then (-eagain, m)
  else
    let (rc, config) := (setter arg).run p faults m.config
    if rc ≠ 0 then (rc, { m with config := config }) else (0, { m with config := config })

/-- A command that does not look at the result of its setter. -/
def cmdConfigSwitch (setter : Bool → SetterCall) (arg : CString) (m : Machine) : ℤ × Machine :=
  if m.bootFinished = false then (-eagain, m)
  else if arg.bytes = ascii "enable" then (0, { m with config := ((setter true).run p faults m.config).2 })
  else if arg.bytes = ascii "disable" then (0, { m with config := ((setter false).run p faults m.config).2 })
  else (-einval, m)

def cmdConfigBmcPassword : CString → Machine → ℤ × Machine := cmdConfigSet p faults .password

def cmdConfigBmcHostname : CString → Machine → ℤ × Machine := cmdConfigSet p faults .hostname

def cmdConfigBmcDefaultIp4 : CString → Machine → ℤ × Machine := cmdConfigSet p faults fun arg => .ip4 (some arg)

def cmdConfigBmcDefaultIp4Nm : CString → Machine → ℤ × Machine := cmdConfigSet p faults fun arg => .ip4Nm (some arg)

def cmdConfigBmcDefaultIp4Gw : CString → Machine → ℤ × Machine := cmdConfigSet p faults fun arg => .ip4Gw (some arg)

def cmdConfigBmcDhcp4 : CString → Machine → ℤ × Machine := cmdConfigSwitch p faults .useDhcp4

def cmdConfigBmcNtp : CString → Machine → ℤ × Machine := cmdConfigSwitch p faults .useNtp

def cmdConfigBmcNtpServer : CString → Machine → ℤ × Machine := cmdConfigSet p faults .ntpServer

def cmdConfigHostAutoPoweron : CString → Machine → ℤ × Machine := cmdConfigSwitch p faults .autoPoweron

end

inductive ConfigCommand
  | password
  | hostname
  | ipv4Address
  | ipv4SubnetMask
  | ipv4Gateway
  | dhcpv4
  | ntp
  | ntpServer
  | autoPoweron

namespace ConfigCommand

def run (p : Platform) (faults : Faults) : ConfigCommand → CString → Machine → ℤ × Machine
  | password => cmdConfigBmcPassword p faults
  | hostname => cmdConfigBmcHostname p faults
  | ipv4Address => cmdConfigBmcDefaultIp4 p faults
  | ipv4SubnetMask => cmdConfigBmcDefaultIp4Nm p faults
  | ipv4Gateway => cmdConfigBmcDefaultIp4Gw p faults
  | dhcpv4 => cmdConfigBmcDhcp4 p faults
  | ntp => cmdConfigBmcNtp p faults
  | ntpServer => cmdConfigBmcNtpServer p faults
  | autoPoweron => cmdConfigHostAutoPoweron p faults

def switched (setter : Bool → SetterCall) (arg : CString) : List SetterCall :=
  if arg.bytes = ascii "enable" then [setter true]
  else if arg.bytes = ascii "disable" then [setter false]
  else []

/-- The setting that a command line names, with the value it asks for. -/
def named (arg : CString) : ConfigCommand → List SetterCall
  | password => [.password arg]
  | hostname => [.hostname arg]
  | ipv4Address => [.ip4 (some arg)]
  | ipv4SubnetMask => [.ip4Nm (some arg)]
  | ipv4Gateway => [.ip4Gw (some arg)]
  | dhcpv4 => switched .useDhcp4 arg
  | ntp => switched .useNtp arg
  | ntpServer => [.ntpServer arg]
  | autoPoweron => switched .autoPoweron arg

end ConfigCommand

def fsExit (fs : Fs) : ℤ × Fs := (0, { fs with enabled := false })

def bmcReboot (m : Machine) : Machine := { m with config := { m.config with fs := (fsExit m.config.fs).2 } }

def clearAndReboot (faults : Faults) (m : Machine) : Option ℤ × Machine :=
  let (rc, config) := configClear faults m.config
  if rc ≠ 0 then (some rc, { m with config := config }) else (none, bmcReboot { m with config := config })

/-- No result where it reboots. -/
def cmdConfigClear (faults : Faults) (m : Machine) : Option ℤ × Machine :=
  if m.bootFinished = false then (some (-eagain), m) else clearAndReboot faults m

/-- `val` is the level of the pin. -/
def resetWorkFn (val : ℤ) (faults : Faults) (m : Machine) : Option ℤ × Machine :=
  if val ≠ 1 then (some 0, m) else clearAndReboot faults m

/-- Requests are answered while the server is up, commands at any time. -/
inductive Event
  | request (env : Environment) (prior : Prior) (req : Request)
  | command (faults : Faults) (command : ConfigCommand) (arg : CString)
  | power (call : Power.Call)
  | clear (faults : Faults)
  | resetWork (val : ℤ) (faults : Faults)
  | reboot
  | reset (env : BootEnv)

def served (p : Platform) (cal : Calendar) (env : Environment) (prior : Prior) (req : Request) (m : Machine) :
    Machine × Option ℤ :=
  if m.serving = false then (m, none)
  else
    match (handle { env with platform := p, calendar := cal } prior m.bmc req).result with
    | some (status, bmc) => (m.setBmc bmc, some status)
    | none => (m, none)

def lifeStep (p : Platform) (cal : Calendar) (m : Machine) : Event → Machine × Option ℤ
  | .request env prior req => served p cal env prior req m
  | .command faults command arg =>
    let (rc, m) := command.run p faults arg m
    (m, some rc)
  | .power call =>
    let (power, rc) := Power.step m.host.power call
    ({ m with host := { m.host with power := power } }, rc)
  | .clear faults =>
    let (rc, m) := cmdConfigClear faults m
    (m, rc)
  | .resetWork val faults =>
    let (rc, m) := resetWorkFn val faults m
    (m, rc)
  | .reboot => (bmcReboot m, none)
  | .reset env => (restart p cal env m, none)

def patchOf : Request → Option Patch
  | .account parsed => some (.account parsed)
  | .ethernet parsed => some (.ethernet (parsed.map EthernetBody.payload))
  | .networkProtocol parsed => some (.networkProtocol parsed)
  | .system parsed => some (.system parsed)
  | .manager _ | .reset _ => none

section

variable {p : Platform} {cal : Calendar} {faults : Faults} {m : Machine} {command : ConfigCommand} {arg : CString}

/-- What a command that named nothing leaves, and one that named a setting. -/
inductive Commanded (p : Platform) (faults : Faults) (m : Machine) : List SetterCall → ℤ × Machine → Prop
  | idle (rc : ℤ) : Commanded p faults m [] (rc, m)
  | set (c : SetterCall) (rc : ℤ)
      (hrc : rc = 0 → (c.run p faults m.config).1 = 0 ∨ c.flag?.isSome = true) :
      Commanded p faults m [c] (rc, { m with config := (c.run p faults m.config).2 })

lemma commanded_set (setter : CString → SetterCall) (hfinished : m.bootFinished = true) :
    Commanded p faults m [setter arg] (cmdConfigSet p faults setter arg m) := by
  have hout : cmdConfigSet p faults setter arg m =
      (((setter arg).run p faults m.config).1, { m with config := ((setter arg).run p faults m.config).2 }) := by
    rw [cmdConfigSet, if_neg (hfinished ▸ Bool.noConfusion)]
    by_cases hrc : ((setter arg).run p faults m.config).1 = 0
    · simp only [hrc, ne_eq, not_true_eq_false, if_false]
    · simp only [ne_eq, hrc, not_false_eq_true, if_true]
  rw [hout]
  exact .set _ _ .inl

lemma commanded_switch (setter : Bool → SetterCall) (hflag : ∀ use, (setter use).flag?.isSome = true)
    (hfinished : m.bootFinished = true) :
    Commanded p faults m (ConfigCommand.switched setter arg) (cmdConfigSwitch p faults setter arg m) := by
  rw [cmdConfigSwitch, if_neg (hfinished ▸ Bool.noConfusion), ConfigCommand.switched]
  by_cases henable : arg.bytes = ascii "enable"
  · rw [if_pos henable, if_pos henable]
    exact .set _ _ fun _ => .inr (hflag true)
  rw [if_neg henable, if_neg henable]
  by_cases hdisable : arg.bytes = ascii "disable"
  · rw [if_pos hdisable, if_pos hdisable]
    exact .set _ _ fun _ => .inr (hflag false)
  · rw [if_neg hdisable, if_neg hdisable]
    exact .idle _

lemma command_commanded (command : ConfigCommand) (arg : CString) (hfinished : m.bootFinished = true) :
    Commanded p faults m (command.named arg) (command.run p faults arg m) := by
  cases command with
  | password | hostname | ntpServer => exact commanded_set _ hfinished
  | ipv4Address => exact commanded_set (fun arg => .ip4 (some arg)) hfinished
  | ipv4SubnetMask => exact commanded_set (fun arg => .ip4Nm (some arg)) hfinished
  | ipv4Gateway => exact commanded_set (fun arg => .ip4Gw (some arg)) hfinished
  | dhcpv4 | ntp | autoPoweron => exact commanded_switch _ (fun _ => rfl) hfinished

lemma command_refused (command : ConfigCommand) (arg : CString) (hfinished : m.bootFinished = false) :
    command.run p faults arg m = (-(eagain : ℤ), m) := by
  cases command <;> exact if_pos hfinished

end

end WallaBMC.System
