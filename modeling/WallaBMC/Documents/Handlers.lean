import WallaBMC.Library.DottedQuad
import WallaBMC.Library.Json
import WallaBMC.Redfish.Resources
import WallaBMC.Settings.Payloads

/-! What the `get_fn`s of `redfish.c` encode: the structures they fill, as `json_obj_encode` sees them through
their descriptors, with `CONFIG_APP_SENSORS`. A null string is encoded as an empty one. -/

namespace WallaBMC.Documents

open Library Redfish Config Time
open Settings.Payloads (Bmc)

structure Build where
  productName : CString
  manufacturer : CString
  model : CString
  processorModel : CString
  processorCount : ℤ
  memoryGib : ℤ
  projectGitSha : CString
  bannerVersion : CString

/-- An entry of the address table of an interface. -/
structure NetIfAddr where
  isUsed : Bool
  addr : IfAddr
  preferred : Bool

/-- What the handlers read. `isoStr` is the buffer of `get_iso_time`, `dieTemperature` the result of
`read_die_temperature` with the integer part of the value, and `unicast` the table of the default interface. -/
structure Sources where
  build : Build
  calendar : Calendar
  bmcUuid : CString
  isoStr : List Char
  unicast : List NetIfAddr
  dieTemperature : ℤ × ℤ
  bmc : Bmc

def str (s : String) : Json := .str (ascii s)

def object (members : List (String × Json)) : Json := .obj (members.map (fun m => (ascii m.1, m.2)))

def link (odataId : String) : Json := object [("@odata.id", str odataId)]

/-- The `redfish_collection` of the given values; `members_count` is `members_len` in all of them. -/
def collection (odataId odataType name : String) (members : List String) : Json :=
  object [("@odata.id", str odataId), ("@odata.type", str odataType), ("Name", str name),
    ("Members@odata.count", .num members.length), ("Members", .arr (members.map link))]

def redfishVersion : Json := object [("v1", str "/redfish/v1/")]

def serviceRoot : Json :=
  object [("@odata.type", str "#ServiceRoot.v1_16_1.ServiceRoot"), ("@odata.id", str "/redfish/v1/"),
    ("Id", str "RootService"), ("Name", str "Root Service"), ("RedfishVersion", str "1.15.0"),
    ("UUID", str "92384634-2938-2342-8820-489239905423"),
    ("AccountService", link "/redfish/v1/AccountService"),
    ("SessionService", link "/redfish/v1/SessionService"), ("Managers", link "/redfish/v1/Managers"),
    ("Systems", link "/redfish/v1/Systems"), ("Chassis", link "/redfish/v1/Chassis"),
    ("Links", object [("Sessions", link "/redfish/v1/SessionService/Sessions")])]

def sessionService : Json :=
  object [("@odata.id", str "/redfish/v1/SessionService"),
    ("@odata.type", str "#SessionService.v1_1_9.SessionService"), ("Id", str "SessionService"),
    ("Name", str "Session Service"), ("Sessions", link "/redfish/v1/SessionService/Sessions")]

def sessionsCollection : Json :=
  collection "/redfish/v1/SessionService/Sessions" "#SessionCollection.SessionCollection" "Session Collection" []

def odataValue (name url : String) : Json :=
  object [("name", str name), ("kind", str "Singleton"), ("url", str url)]

def odata : Json :=
  object [("@odata.context", str "/redfish/v1/$metadata"),
    ("value", .arr [odataValue "Service" "/redfish/v1/", odataValue "Systems" "/redfish/v1/Systems",
      odataValue "Managers" "/redfish/v1/Managers", odataValue "AccountService" "/redfish/v1/AccountService",
      odataValue "Chassis" "/redfish/v1/Chassis"])]

def accountService : Json :=
  object [("@odata.id", str "/redfish/v1/AccountService"),
    ("@odata.type", str "#AccountService.v1_10_0.AccountService"), ("Id", str "AccountService"),
    ("Name", str "Account Service"), ("Accounts", link "/redfish/v1/AccountService/Accounts")]

def accountsCollection : Json :=
  collection "/redfish/v1/AccountService/Accounts" "#ManagerAccountCollection.ManagerAccountCollection"
    "Accounts Collection" ["/redfish/v1/AccountService/Accounts/1"]

/-- `password` is null here. -/
def account : Json :=
  object [("@odata.id", str "/redfish/v1/AccountService/Accounts/1"),
    ("@odata.type", str "#ManagerAccount.v1_9_0.ManagerAccount"), ("Id", str "1"),
    ("RoleId", str "Administrator"), ("Name", str "Administrator"), ("UserName", str "admin"),
    ("Password", .str []), ("AccountTypes", .arr [str "Redfish"])]

def managersCollection : Json :=
  collection "/redfish/v1/Managers" "#ManagerCollection.ManagerCollection" "Manager Collection"
    ["/redfish/v1/Managers/bmc"]

def ethernetCollection : Json :=
  collection "/redfish/v1/Managers/bmc/EthernetInterfaces"
    "#EthernetInterfaceCollection.EthernetInterfaceCollection" "Ethernet Interface Collection"
    ["/redfish/v1/Managers/bmc/EthernetInterfaces/eth0"]

def systemsCollection : Json :=
  collection "/redfish/v1/Systems" "#ComputerSystemCollection.ComputerSystemCollection"
    "Computer System Collection" ["/redfish/v1/Systems/system"]

def chassisCollection : Json :=
  collection "/redfish/v1/Chassis" "#ChassisCollection.ChassisCollection" "Chassis Collection"
    ["/redfish/v1/Chassis/1"]

def sensorsCollection : Json :=
  collection "/redfish/v1/Chassis/1/Sensors" "#SensorCollection.SensorCollection" "Chassis Sensor Collection"
    ["/redfish/v1/Chassis/1/Sensors/TempBmc"]

/-- `address_origin` is null in a static address. -/
structure RedfishIpv4Addr where
  address : List UInt8
  subnetMask : List UInt8
  gateway : List UInt8
  addressOrigin : Option String
  deriving DecidableEq

def RedfishIpv4Addr.json (addr : RedfishIpv4Addr) : Json :=
  object [("Address", .str addr.address), ("SubnetMask", .str addr.subnetMask),
    ("Gateway", .str addr.gateway), ("AddressOrigin", str (addr.addressOrigin.getD ""))]

/-- The members of `redfish_ethernet_interface` that are not fixed; an array has room for one address. -/
structure RedfishEthernetInterface where
  hostName : List UInt8
  dhcpEnabled : Bool
  ipv4Addresses : Option RedfishIpv4Addr
  ipv4StaticAddresses : Option RedfishIpv4Addr

def RedfishEthernetInterface.json (ethernet : RedfishEthernetInterface) : Json :=
  object [("@odata.id", str "/redfish/v1/Managers/bmc/EthernetInterfaces/eth0"),
    ("@odata.type", str "#EthernetInterface.v1_5_0.EthernetInterface"), ("Id", str "eth0"),
    ("Name", str "BMC Ethernet Interface"), ("HostName", .str ethernet.hostName),
    ("DHCPv4", object [("DHCPEnabled", .bool ethernet.dhcpEnabled)]),
    ("IPv4Addresses", .arr (ethernet.ipv4Addresses.toList.map RedfishIpv4Addr.json)),
    ("IPv4StaticAddresses", .arr (ethernet.ipv4StaticAddresses.toList.map RedfishIpv4Addr.json))]

def netAddrNtop (address : Ip4) : List UInt8 := DottedQuad.text address.bytes

/-- The loop over the address table: the first preferred address, or else the last one in use. -/
def shownAddr : Option IfAddr → List NetIfAddr → Option IfAddr
  | shown, [] => shown
  | shown, slot :: slots =>
    if slot.isUsed then
      if slot.preferred then some slot.addr else shownAddr (some slot.addr) slots
    else shownAddr shown slots

def addressOrigin : AddrType → String
  | .dhcp => "DHCP"
  | .manual | .overridable => "Static"
  | .autoconf => "Unknown"

def ipv4Addresses (iface : Option Iface) (unicast : List NetIfAddr) : Option RedfishIpv4Addr :=
  iface.bind fun iface => (shownAddr none unicast).map fun addr =>
    { address := netAddrNtop addr.address
      subnetMask := netAddrNtop addr.netmask
      gateway := if iface.gw ≠ .any then netAddrNtop iface.gw else ascii "0.0.0.0"
      addressOrigin := some (addressOrigin addr.addrType) }

def ipv4StaticAddresses (data : ConfigData) : Option RedfishIpv4Addr :=
  if data.bmcDefaultIp4 ≠ .any then
    some ⟨netAddrNtop data.bmcDefaultIp4, netAddrNtop data.bmcDefaultIp4Nm, netAddrNtop data.bmcDefaultIp4Gw,
      none⟩
  else none

def ethernetInterface (config : State) (unicast : List NetIfAddr) : RedfishEthernetInterface where
  hostName := config.net.hostname.bytes
  dhcpEnabled := config.data.bmcUseDhcp4
  ipv4Addresses := ipv4Addresses config.net.iface unicast
  ipv4StaticAddresses := ipv4StaticAddresses config.data

structure RedfishNtp where
  protocolEnabled : Bool
  ntpServers : List (List UInt8)
  deriving DecidableEq

def RedfishNtp.json (ntp : RedfishNtp) : Json :=
  object [("@odata.type", str "#ManagerNetworkProtocol.v1_9_0.ManagerNetworkProtocol"),
    ("Id", str "NetworkProtocol"),
    ("NTP", object [("ProtocolEnabled", .bool ntp.protocolEnabled), ("NTPServers", .arr (ntp.ntpServers.map .str))])]

/-- `config_bmc_ntp_server` is never null. -/
def networkProtocol (data : ConfigData) : RedfishNtp := ⟨data.bmcUseNtp, [data.image .bmcNtpServer]⟩

def manager (src : Sources) : Json :=
  object [("@odata.id", str "/redfish/v1/Managers/bmc"), ("@odata.type", str "#Manager.v1_11_0.Manager"),
    ("Id", str "bmc"), ("Name", str "WallaBMC"), ("UUID", .str src.bmcUuid.bytes),
    ("DateTime", .str (Text.latin1 (getIsoTime src.calendar src.isoStr src.bmc.clock.realtime.sec))),
    ("FirmwareVersion", .str src.build.projectGitSha.bytes),
    ("Oem", object [("WallaBMC", object [("@odata.type", str "#WallaBMC.v1_0_0.WallaBMC"),
      ("ZephyrVersion", .str src.build.bannerVersion.bytes)])]),
    ("EthernetInterfaces", link "/redfish/v1/Managers/bmc/EthernetInterfaces")]

def hostAutoPoweron (data : ConfigData) : Bool := data.bytes .hostAutoPoweron ≠ [0]

def powerRestorePolicy (data : ConfigData) : String := if hostAutoPoweron data then "AlwaysOn" else "AlwaysOff"

def powerState (host : Settings.Payloads.Host) : String := if Power.powerGetState host.power then "On" else "Off"

def serialNumber : String := "12345"

def computerSystem (src : Sources) : Json :=
  object [("@odata.id", str "/redfish/v1/Systems/system"),
    ("@odata.type", str "#ComputerSystem.v1_22_0.ComputerSystem"), ("Id", str "system"),
    ("UUID", str "38947555-7742-3448-3784-823347823834"), ("Name", .str src.build.productName.bytes),
    ("SystemType", str "Physical"), ("Manufacturer", .str src.build.manufacturer.bytes),
    ("Model", .str src.build.model.bytes), ("SerialNumber", str serialNumber),
    ("PowerRestorePolicy", str (powerRestorePolicy src.bmc.config.data)),
    ("PowerState", str (powerState src.bmc.host)),
    ("ProcessorSummary", object [("Count", .num src.build.processorCount),
      ("Model", .str src.build.processorModel.bytes)]),
    ("MemorySummary", object [("TotalSystemMemoryGiB", .num src.build.memoryGib)]),
    ("Links", object [("Chassis", .arr [link "/redfish/v1/Chassis/1"]),
      ("ManagedBy", .arr [link "/redfish/v1/Managers/bmc"])]),
    ("Actions", object [("#ComputerSystem.Reset",
      object [("target", str "/redfish/v1/Systems/system/Actions/ComputerSystem.Reset"),
        ("ResetType@Redfish.AllowableValues", .arr [str "On", str "ForceOff", str "PowerCycle"])])])]

def chassis (src : Sources) : Json :=
  object [("@odata.id", str "/redfish/v1/Chassis/1"), ("@odata.type", str "#Chassis.v1_22_0.Chassis"),
    ("Id", str "1"), ("Name", str "Chassis"), ("ChassisType", str "StandAlone"),
    ("Manufacturer", .str src.build.manufacturer.bytes), ("Model", .str src.build.model.bytes),
    ("SerialNumber", str serialNumber), ("PowerState", str (powerState src.bmc.host)),
    ("Sensors", link "/redfish/v1/Chassis/1/Sensors"),
    ("Links", object [("ComputerSystems", .arr [link "/redfish/v1/Systems/system"]),
      ("ManagedBy", .arr [link "/redfish/v1/Managers/bmc"])])]

def sensorReading (dieTemperature : ℤ × ℤ) : ℤ := if dieTemperature.1 < 0 then -1 else dieTemperature.2

def sensorTempBmc (src : Sources) : Json :=
  object [("@odata.id", str "/redfish/v1/Chassis/1/Sensors/TempBmc"),
    ("@odata.type", str "#Sensor.v1_2_0.Sensor"), ("Id", str "TempBmc"), ("Name", str "BMC SoC Temperature"),
    ("Reading", .num (sensorReading src.dieTemperature)), ("ReadingType", str "Temperature"),
    ("ReadingUnits", str "Cel"), ("PhysicalContext", str "Manager")]

/-- What GET encodes; the reset action has no `get_fn`. -/
def document (src : Sources) : RedfishResource → Option Json
  | .redfishVersion => some redfishVersion
  | .serviceRoot => some serviceRoot
  | .sessionService => some sessionService
  | .sessionsCollection => some sessionsCollection
  | .odata => some odata
  | .accountService => some accountService
  | .accountsCollection => some accountsCollection
  | .account => some account
  | .managersCollection => some managersCollection
  | .manager => some (manager src)
  | .ethernetInterfaces => some ethernetCollection
  | .ethernet => some (ethernetInterface src.bmc.config src.unicast).json
  | .networkProtocol => some (networkProtocol src.bmc.config.data).json
  | .systemsCollection => some systemsCollection
  | .system => some (computerSystem src)
  | .systemReset => none
  | .chassisCollection => some chassisCollection
  | .chassis => some (chassis src)
  | .sensorsCollection => some sensorsCollection
  | .sensorTempBmc => some (sensorTempBmc src)

end WallaBMC.Documents
