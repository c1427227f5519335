import WallaBMC.Documents.Encoding

/-! The documents fit the buffer of 1024 bytes. Each is as long as the one without strings in it and the strings
themselves; the host name is bounded by the network stack, the NTP server and the addresses by their arrays. -/

namespace WallaBMC.Documents

open Library Library.Runs Redfish Config Json

/-- The bounds of what the documents show: the host name by `CONFIG_NET_HOSTNAME_MAX_LEN`, the UUID and the time
by their buffers, numbers by 32 bits. -/
structure Small (src : Sources) : Prop where
  hostname : src.bmc.config.net.hostname.bytes.length ≤ 63
  uuid : src.bmcUuid.bytes.length ≤ 36
  isoStr : src.isoStr.length < 30
  versions : src.build.projectGitSha.bytes.length + src.build.bannerVersion.bytes.length ≤ 250
  names : src.build.productName.bytes.length + src.build.manufacturer.bytes.length +
    src.build.model.bytes.length + src.build.processorModel.bytes.length ≤ 150
  processorCount : -2 ^ 31 ≤ src.build.processorCount ∧ src.build.processorCount < 2 ^ 31
  memoryGib : -2 ^ 31 ≤ src.build.memoryGib ∧ src.build.memoryGib < 2 ^ 31
  dieTemperature : -2 ^ 31 ≤ src.dieTemperature.2 ∧ src.dieTemperature.2 < 2 ^ 31

lemma noNul_nil : (0 : UInt8) ∉ ([] : List UInt8) := List.not_mem_nil

def noText : CString := ⟨[], noNul_nil⟩

/-- No string is set, and there is no address. -/
def blank : Sources where
  build := ⟨noText, noText, noText, noText, 0, 0, noText, noText⟩
  calendar := Time.gregorian
  bmcUuid := noText
  isoStr := []
  unicast := []
  dieTemperature := (0, 0)
  bmc := ⟨⟨.zero, false, mounted emptyStore, ⟨noText, none, ⟨false, false, 0, none⟩⟩⟩, ⟨none, ⟨0, 0⟩⟩,
    ⟨⟨[], false⟩, []⟩⟩

variable {src : Sources} {n : ℤ} {r : RedfishResource} {doc : Json}

lemma length_decimal_le (h : -2 ^ 31 ≤ n ∧ n < 2 ^ 31) : (decimal n).length ≤ 11 := by
  have hdigits : (Nat.toDigits 10 n.natAbs).length ≤ 10 := by
    rw [Nat.length_toDigits_le_iff (by norm_num) (by norm_num)]
    omega
  rw [decimal, List.length_append, Text.length_latin1]
  split_ifs <;> simp only [List.length_singleton, List.length_nil] <;> omega

lemma length_isoTime_le (h : src.isoStr.length < 30) (t : ℤ) :
    (Text.latin1 (Time.getIsoTime src.calendar src.isoStr t)).length ≤ 29 := by
  rw [Text.length_latin1, Time.getIsoTime, Time.strftime]
  split_ifs with hfits
  · exact Nat.le_of_lt_succ hfits
  · exact Nat.le_of_lt_succ h

lemma length_powerState_le (host : Settings.Payloads.Host) : (quote (ascii (powerState host))).length ≤ 5 := by
  rw [powerState]
  split_ifs <;> decide +kernel

lemma length_powerRestorePolicy_le (data : ConfigData) :
    (quote (ascii (powerRestorePolicy data))).length ≤ 11 := by
  rw [powerRestorePolicy]
  split_ifs <;> decide +kernel

lemma length_manager_le (src : Sources) :
    (manager src).text.length ≤ (manager blank).text.length + (quote src.bmcUuid.bytes).length +
      (quote (Text.latin1 (Time.getIsoTime src.calendar src.isoStr src.bmc.clock.realtime.sec))).length +
      (quote src.build.projectGitSha.bytes).length + (quote src.build.bannerVersion.bytes).length := by
  simp only [manager, object, link, str, List.map_cons, List.map_nil, text, memberTexts, length_listed,
    List.length_cons, List.length_append, List.sum_cons, List.sum_nil, List.length_nil]
  omega

lemma length_computerSystem_le (src : Sources) :
    (computerSystem src).text.length ≤ (computerSystem blank).text.length +
      (quote src.build.productName.bytes).length + (quote src.build.manufacturer.bytes).length +
      (quote src.build.model.bytes).length + (quote src.build.processorModel.bytes).length +
      (quote (ascii (powerRestorePolicy src.bmc.config.data))).length +
      (quote (ascii (powerState src.bmc.host))).length + (decimal src.build.processorCount).length +
      (decimal src.build.memoryGib).length := by
  simp only [computerSystem, object, link, str, List.map_cons, List.map_nil, text, texts, memberTexts, length_listed,
    List.length_cons, List.length_append, List.sum_cons, List.sum_nil, List.length_nil]
  omega

lemma length_chassis_le (src : Sources) :
    (chassis src).text.length ≤ (chassis blank).text.length + (quote src.build.manufacturer.bytes).length +
      (quote src.build.model.bytes).length + (quote (ascii (powerState src.bmc.host))).length := by
  simp only [chassis, object, link, str, List.map_cons, List.map_nil, text, texts, memberTexts, length_listed,
    List.length_cons, List.length_append, List.sum_cons, List.sum_nil, List.length_nil]
  omega

lemma length_sensorTempBmc_le (src : Sources) :
    (sensorTempBmc src).text.length ≤ (sensorTempBmc blank).text.length +
      (decimal (sensorReading src.dieTemperature)).length := by
  simp only [sensorTempBmc, object, str, List.map_cons, List.map_nil, text, memberTexts, length_listed,
    List.length_cons, List.length_append, List.sum_cons, List.sum_nil, List.length_nil]
  omega

/-- Its texts are no longer than dotted quads and the name of an origin. -/
structure SmallAddr (addr : RedfishIpv4Addr) : Prop where
  address : addr.address.length ≤ 15
  subnetMask : addr.subnetMask.length ≤ 15
  gateway : addr.gateway.length ≤ 15
  addressOrigin : (quote (ascii (addr.addressOrigin.getD ""))).length ≤ 9

lemma length_netAddrNtop_le (address : Ip4) : (netAddrNtop address).length ≤ 15 :=
  DottedQuad.length_text_le address.length_bytes

lemma length_addressOrigin_le (addrType : AddrType) : (quote (ascii (addressOrigin addrType))).length ≤ 9 := by
  cases addrType <;> decide +kernel

lemma smallAddr_ipv4Addresses {iface : Option Iface} {unicast : List NetIfAddr} {addr : RedfishIpv4Addr}
    (h : ipv4Addresses iface unicast = some addr) : SmallAddr addr := by
  obtain ⟨iface, -, h⟩ := Option.bind_eq_some_iff.mp h
  obtain ⟨shown, -, rfl⟩ := Option.map_eq_some_iff.mp h
  constructor
  · exact length_netAddrNtop_le _
  · exact length_netAddrNtop_le _
  · dsimp only
    split_ifs
    · exact length_netAddrNtop_le _
    · decide
  · exact length_addressOrigin_le shown.addrType

lemma smallAddr_ipv4StaticAddresses {data : ConfigData} {addr : RedfishIpv4Addr}
    (h : ipv4StaticAddresses data = some addr) : SmallAddr addr := by
  rw [ipv4StaticAddresses] at h
  split_ifs at h
  cases h
  have horigin : (quote (ascii "")).length ≤ 9 := by decide
  exact ⟨length_netAddrNtop_le _, length_netAddrNtop_le _, length_netAddrNtop_le _, horigin⟩

def blankAddr : RedfishIpv4Addr := ⟨[], [], [], none⟩

lemma length_addr_le {addr : RedfishIpv4Addr} (h : SmallAddr addr) : addr.json.text.length ≤ 170 := by
  have hblank : blankAddr.json.text.length ≤ 62 := by decide +kernel
  have haddress := length_quote_le addr.address
  have hmask := length_quote_le addr.subnetMask
  have hgateway := length_quote_le addr.gateway
  have horigin := h.addressOrigin
  have hlongest := And.intro h.address (And.intro h.subnetMask h.gateway)
  simp only [RedfishIpv4Addr.json, object, str, List.map_cons, List.map_nil, text, memberTexts, length_listed,
    List.length_cons, List.length_append, List.sum_cons, List.sum_nil, List.length_nil] at hblank ⊢
  omega

lemma length_addresses_le (addr : Option RedfishIpv4Addr) (h : ∀ a, addr = some a → SmallAddr a) :
    (Json.arr (addr.toList.map RedfishIpv4Addr.json)).text.length ≤ 172 := by
  cases addr with
  | none => decide
  | some a =>
    have hlength := length_addr_le (h a rfl)
    simp only [Option.toList_some, List.map_cons, List.map_nil, text, texts, length_listed, List.length_cons,
      List.length_append, List.sum_cons, List.sum_nil, List.length_nil]
    omega

lemma length_literal_le (b : Bool) : (literal b).length ≤ 5 := by
  cases b <;> decide

def noEthernet : RedfishEthernetInterface := ⟨[], true, none, none⟩

lemma length_ethernet_le (ethernet : RedfishEthernetInterface) :
    ethernet.json.text.length ≤ noEthernet.json.text.length + (quote ethernet.hostName).length +
      (literal ethernet.dhcpEnabled).length +
      (Json.arr (ethernet.ipv4Addresses.toList.map RedfishIpv4Addr.json)).text.length +
      (Json.arr (ethernet.ipv4StaticAddresses.toList.map RedfishIpv4Addr.json)).text.length := by
  simp only [RedfishEthernetInterface.json, noEthernet, object, str, List.map_cons, List.map_nil]
  generalize Json.arr (ethernet.ipv4Addresses.toList.map RedfishIpv4Addr.json) = live
  generalize Json.arr (ethernet.ipv4StaticAddresses.toList.map RedfishIpv4Addr.json) = configured
  simp only [text, memberTexts, length_listed, List.length_cons, List.length_append, List.map_cons, List.map_nil,
    List.sum_cons, List.sum_nil, List.length_nil]
  omega

def noNtp : RedfishNtp := ⟨true, []⟩

lemma length_networkProtocol_le (data : ConfigData) :
    (networkProtocol data).json.text.length ≤ noNtp.json.text.length + (literal data.bmcUseNtp).length +
      (quote (data.image .bmcNtpServer)).length := by
  simp only [networkProtocol, noNtp, RedfishNtp.json, object, str, List.map_cons, List.map_nil, text, texts,
    memberTexts, length_listed, List.length_cons, List.length_append, List.sum_cons, List.sum_nil, List.length_nil]
  omega

lemma length_ntpServer_le (data : ConfigData) : (quote (data.image .bmcNtpServer)).length ≤ 84 := by
  have himage : (data.image .bmcNtpServer).length ≤ 41 := by
    rw [ConfigData.image_str rfl]
    exact (Bytes.length_cstr_le _).trans_eq (data.length_bytes .bmcNtpServer)
  have hserver := length_quote_le (data.image .bmcNtpServer)
  omega

lemma manager_fits (h : Small src) : (manager src).text.length ≤ userDataBufferGetSize := by
  have hlength := length_manager_le src
  have hblank : (manager blank).text.length = 338 := by decide +kernel
  have huuid := length_quote_le src.bmcUuid.bytes
  have htime := length_quote_le (Text.latin1 (Time.getIsoTime src.calendar src.isoStr src.bmc.clock.realtime.sec))
  have hisoTime := length_isoTime_le h.isoStr src.bmc.clock.realtime.sec
  have hsha := length_quote_le src.build.projectGitSha.bytes
  have hbanner := length_quote_le src.build.bannerVersion.bytes
  have hbounds := And.intro h.uuid h.versions
  rw [userDataBufferGetSize]
  omega

lemma ethernet_fits (h : Small src) :
    (ethernetInterface src.bmc.config src.unicast).json.text.length ≤ userDataBufferGetSize := by
  have hlength := length_ethernet_le (ethernetInterface src.bmc.config src.unicast)
  have hblank : noEthernet.json.text.length = 256 := by decide +kernel
  have hname := length_quote_le (ethernetInterface src.bmc.config src.unicast).hostName
  have hbound : (ethernetInterface src.bmc.config src.unicast).hostName.length ≤ 63 := h.hostname
  have henabled := length_literal_le (ethernetInterface src.bmc.config src.unicast).dhcpEnabled
  have hlive := length_addresses_le (ethernetInterface src.bmc.config src.unicast).ipv4Addresses
    (fun _ => smallAddr_ipv4Addresses)
  have hstatic := length_addresses_le (ethernetInterface src.bmc.config src.unicast).ipv4StaticAddresses
    (fun _ => smallAddr_ipv4StaticAddresses)
  rw [userDataBufferGetSize]
  omega

lemma networkProtocol_fits (data : ConfigData) : (networkProtocol data).json.text.length ≤ userDataBufferGetSize := by
  have hlength := length_networkProtocol_le data
  have hblank : noNtp.json.text.length ≤ 143 := by decide +kernel
  have henabled := length_literal_le data.bmcUseNtp
  have hserver := length_ntpServer_le data
  rw [userDataBufferGetSize]
  omega

lemma computerSystem_fits (h : Small src) : (computerSystem src).text.length ≤ userDataBufferGetSize := by
  have hlength := length_computerSystem_le src
  have hblank : (computerSystem blank).text.length ≤ 667 := by decide +kernel
  have hproduct := length_quote_le src.build.productName.bytes
  have hmanufacturer := length_quote_le src.build.manufacturer.bytes
  have hmodel := length_quote_le src.build.model.bytes
  have hprocessor := length_quote_le src.build.processorModel.bytes
  have hpolicy := length_powerRestorePolicy_le src.bmc.config.data
  have hstate := length_powerState_le src.bmc.host
  have hcount := length_decimal_le h.processorCount
  have hmemory := length_decimal_le h.memoryGib
  have hbound := h.names
  rw [userDataBufferGetSize]
  omega

lemma chassis_fits (h : Small src) : (chassis src).text.length ≤ userDataBufferGetSize := by
  have hlength := length_chassis_le src
  have hblank : (chassis blank).text.length ≤ 386 := by decide +kernel
  have hmanufacturer := length_quote_le src.build.manufacturer.bytes
  have hmodel := length_quote_le src.build.model.bytes
  have hstate := length_powerState_le src.bmc.host
  have hbound := h.names
  rw [userDataBufferGetSize]
  omega

lemma sensorTempBmc_fits (h : Small src) : (sensorTempBmc src).text.length ≤ userDataBufferGetSize := by
  have hlength := length_sensorTempBmc_le src
  have hblank : (sensorTempBmc blank).text.length ≤ 224 := by decide +kernel
  have hreading : (decimal (sensorReading src.dieTemperature)).length ≤ 11 := by
    rw [sensorReading]
    split_ifs
    · decide
    · exact length_decimal_le h.dieTemperature
  rw [userDataBufferGetSize]
  omega

/-- Every document fits the buffer. -/
theorem document_fits (h : Small src) (hdoc : document src r = some doc) :
    doc.text.length ≤ userDataBufferGetSize := by
  cases r
  case systemReset => cases hdoc
  all_goals obtain rfl := Option.some.inj hdoc
  case manager => exact manager_fits h
  case ethernet => exact ethernet_fits h
  case networkProtocol => exact networkProtocol_fits src.bmc.config.data
  case system => exact computerSystem_fits h
  case chassis => exact chassis_fits h
  case sensorTempBmc => exact sensorTempBmc_fits h
  all_goals decide +kernel

variable {σ : Type*}

/-- A library that passes one byte after the other. -/
def bytewise : JsonLibrary where
  pieces value := value.text.map (fun b => ⟨[b], by simp⟩)
  flatten_pieces value := by
    induction value.text with
    | nil => rfl
    | cons b bytes ih => exact congrArg (b :: ·) ih

def adminAuth : Auth Sources := ⟨base64AdminPw, fun _ => passwordPw⟩

lemma small_blank : Small blank := by
  constructor <;> decide

end WallaBMC.Documents
