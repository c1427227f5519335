import WallaBMC.Redfish.Http
import WallaBMC.Storage.Nvs

/-! What the settings switch in `net.c`, `dhcp.c` and `ntp.c`: the running hostname, the default interface
with its DHCP client, and the NTP work. Addresses are four bytes in network order. -/

namespace WallaBMC.Config

open Redfish Storage

structure Ip4 where
  bytes : List UInt8
  length_bytes : bytes.length = 4
  deriving DecidableEq

def Ip4.any : Ip4 := ⟨[0, 0, 0, 0], rfl⟩

inductive AddrType
  | autoconf
  | dhcp
  | manual
  | overridable
  deriving DecidableEq

structure IfAddr where
  address : Ip4
  netmask : Ip4
  addrType : AddrType
  deriving DecidableEq

structure Iface where
  gw : Ip4
  unicast : List IfAddr
  dhcp : Bool
  deriving DecidableEq

/-- `work` is the delay in seconds of the scheduled work item. -/
structure Ntp where
  started : Bool
  synced : Bool
  intervalSec : ℕ
  work : Option ℕ
  deriving DecidableEq

structure Net where
  hostname : CString
  iface : Option Iface
  ntp : Ntp
  deriving DecidableEq

/-- An address that is in use is not removed. -/
structure NetFaults where
  hostname : Option Errno
  addrRm : Ip4 → Bool
  addrAdd : Bool
  setNetmask : Bool

def netHostnameSet (fault : Option Errno) (hostname : CString) (net : Net) : ℤ × Net :=
  match fault with
  | some errno => (-errno, net)
  | none => (0, { net with hostname := hostname })

def startDhcp4 (net : Net) : ℤ × Net :=
  (0, { net with iface := net.iface.map (fun iface => { iface with dhcp := true }) })

def stopDhcp4 (net : Net) : ℤ × Net :=
  (0, { net with iface := net.iface.map (fun iface =>
    { iface with dhcp := false, unicast := iface.unicast.filter (fun addr => addr.addrType ≠ .dhcp) }) })

def restartDhcp4 (net : Net) : ℤ × Net := startDhcp4 (stopDhcp4 net).2

def netDoSetHostname (useDhcp4 : Bool) (fault : Option Errno) (hostname : CString) (net : Net) : ℤ × Net :=
  let (rc, net) := netHostnameSet fault hostname net
  if rc ≠ 0 then (rc, net)
  else if useDhcp4 then restartDhcp4 net
  else (rc, net)

def Iface.addrAdd (iface : Iface) (address : Ip4) : Iface :=
  if iface.unicast.any (fun addr => addr.address = address) then iface
  else { iface with unicast := iface.unicast ++ [⟨address, .any, .overridable⟩] }

def Iface.setNetmask (iface : Iface) (address netmask : Ip4) : Iface :=
  { iface with unicast := iface.unicast.map (fun addr =>
    if addr.address = address then { addr with netmask := netmask } else addr) }

-- The return value of `net_if_ipv4_addr_rm` is not looked at.
def Iface.removeManual (fails : Ip4 → Bool) (iface : Iface) : Iface :=
  { iface with unicast := iface.unicast.filter (fun addr =>
    (addr.addrType ≠ .manual ∧ addr.addrType ≠ .overridable) ∨ fails addr.address) }

def netDoSetDefaultIp4 (address netmask gateway : Ip4) (faults : NetFaults) (net : Net) : ℤ × Net :=
  match net.iface with
  | none => (-enoent, net)
  | some iface =>
    let iface := Iface.removeManual faults.addrRm { iface with gw := gateway }
    if address = .any then (0, { net with iface := iface })
    else if faults.addrAdd then (-einval, { net with iface := iface })
    else
      let iface := iface.addrAdd address
      if faults.setNetmask then (-einval, { net with iface := iface })
      else (0, { net with iface := iface.setNetmask address netmask })

def netStartDhcp4 (net : Net) : ℤ × Net := startDhcp4 net

def netStopDhcp4 (address netmask gateway : Ip4) (faults : NetFaults) (net : Net) : ℤ × Net :=
  let (rc, net) := stopDhcp4 net
  if rc ≠ 0 then (rc, net)
  else (0, (netDoSetDefaultIp4 address netmask gateway faults net).2)

def startNtp (net : Net) : ℤ × Net :=
  if net.ntp.started then (0, net)
  else (0, { net with ntp := { net.ntp with started := true, work := some net.ntp.intervalSec } })

def stopNtp (net : Net) : ℤ × Net :=
  if !net.ntp.started then (0, net)
  else (0, { net with ntp := { net.ntp with started := false, work := none, intervalSec := 1 } })

/-- `address` can be put on the interface, or there is none to put. -/
def Net.Takes (net : Net) (faults : NetFaults) (address : Ip4) : Prop :=
  net.iface.isSome ∧ (address = .any ∨ faults.addrAdd = false ∧ faults.setNetmask = false)

instance (net : Net) (faults : NetFaults) (address : Ip4) : Decidable (net.Takes faults address) :=
  inferInstanceAs (Decidable (_ ∧ _))

variable {net : Net} {faults : NetFaults} {address netmask gateway : Ip4}

theorem netDoSetDefaultIp4_zero :
    (netDoSetDefaultIp4 address netmask gateway faults net).1 = 0 ↔ net.Takes faults address := by
  unfold netDoSetDefaultIp4 Net.Takes
  cases net.iface with
  | none => simp
  | some iface =>
    by_cases hany : address = .any
    · simp [hany]
    · cases faults.addrAdd <;> cases faults.setNetmask <;> simp [hany]

lemma netDoSetHostname_zero {useDhcp4 : Bool} {fault : Option Errno} {hostname : CString} :
    (netDoSetHostname useDhcp4 fault hostname net).1 = 0 ↔ fault = none := by
  cases fault with
  | none => cases useDhcp4 <;> simp [netDoSetHostname, netHostnameSet, restartDhcp4, startDhcp4]
  | some errno =>
    have hne : -(errno : ℤ) ≠ 0 := (errno_neg errno).ne
    simp [netDoSetHostname, netHostnameSet, hne]

@[simp] lemma startNtp_rc (net : Net) : (startNtp net).1 = 0 := by
  rw [startNtp]
  split_ifs <;> rfl

lemma netDoSetDefaultIp4_iface :
    (netDoSetDefaultIp4 address netmask gateway faults net).2.iface.isSome = net.iface.isSome := by
  unfold netDoSetDefaultIp4
  cases hi : net.iface with
  | none => simp [hi]
  | some iface => split_ifs <;> rfl

@[simp] lemma gw_addrAdd (iface : Iface) (address : Ip4) : (iface.addrAdd address).gw = iface.gw := by
  rw [Iface.addrAdd]
  split_ifs <;> rfl

@[simp] lemma dhcp_addrAdd (iface : Iface) (address : Ip4) : (iface.addrAdd address).dhcp = iface.dhcp := by
  rw [Iface.addrAdd]
  split_ifs <;> rfl

end WallaBMC.Config
