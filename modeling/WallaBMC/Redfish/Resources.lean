import WallaBMC.Redfish.Handler

/-! The resources that `REDFISH_HANDLER` registers, in the order of `redfish.c`, with `CONFIG_APP_SENSORS`.
The slash-less URLs share the resources of `/redfish/` and `/redfish/v1/`. -/

namespace WallaBMC.Redfish

inductive RedfishResource
  | redfishVersion
  | serviceRoot
  | sessionService
  | sessionsCollection
  | odata
  | accountService
  | accountsCollection
  | account
  | managersCollection
  | manager
  | ethernetInterfaces
  | ethernet
  | networkProtocol
  | systemsCollection
  | system
  | systemReset
  | chassisCollection
  | chassis
  | sensorsCollection
  | sensorTempBmc
  deriving DecidableEq

namespace RedfishResource

def all : List RedfishResource :=
  [redfishVersion, serviceRoot, sessionService, sessionsCollection, odata, accountService,
    accountsCollection, account, managersCollection, manager, ethernetInterfaces, ethernet,
    networkProtocol, systemsCollection, system, systemReset, chassisCollection, chassis,
    sensorsCollection, sensorTempBmc]

instance : Fintype RedfishResource := Fintype.ofList all (by intro r; cases r <;> decide)

end RedfishResource

structure ResourceFns (σ : Type*) where
  redfishVersionGetHandler : Handler σ
  serviceRootGetHandler : Handler σ
  sessionServiceGetHandler : Handler σ
  sessionsCollectionGetHandler : Handler σ
  odataGetHandler : Handler σ
  accountServiceGetHandler : Handler σ
  accountsCollectionGetHandler : Handler σ
  accountGetHandler : Handler σ
  accountPatchHandler : Handler σ
  managersCollectionGetHandler : Handler σ
  managerGetHandler : Handler σ
  managerPatchHandler : Handler σ
  ethernetCollectionGetHandler : Handler σ
  ethernetGetHandler : Handler σ
  ethernetPatchHandler : Handler σ
  networkProtocolGetHandler : Handler σ
  networkProtocolPatchHandler : Handler σ
  systemsCollectionGetHandler : Handler σ
  systemGetHandler : Handler σ
  systemPatchHandler : Handler σ
  systemResetPostHandler : Handler σ
  chassisCollectionGetHandler : Handler σ
  chassisGetHandler : Handler σ
  sensorsCollectionGetHandler : Handler σ
  sensorTempBmcGetHandler : Handler σ

def resources {σ : Type*} (fns : ResourceFns σ) : RedfishResource → Resource σ
  | .redfishVersion => ⟨false, fns.redfishVersionGetHandler, none, none⟩
  | .serviceRoot => ⟨false, fns.serviceRootGetHandler, none, none⟩
  | .sessionService => ⟨false, fns.sessionServiceGetHandler, none, none⟩
  | .sessionsCollection => ⟨true, fns.sessionsCollectionGetHandler, none, none⟩
  | .odata => ⟨false, fns.odataGetHandler, none, none⟩
  | .accountService => ⟨false, fns.accountServiceGetHandler, none, none⟩
  | .accountsCollection => ⟨true, fns.accountsCollectionGetHandler, none, none⟩
  | .account => ⟨true, fns.accountGetHandler, fns.accountPatchHandler, none⟩
  | .managersCollection => ⟨true, fns.managersCollectionGetHandler, none, none⟩
  | .manager => ⟨true, fns.managerGetHandler, fns.managerPatchHandler, none⟩
  | .ethernetInterfaces => ⟨true, fns.ethernetCollectionGetHandler, none, none⟩
  | .ethernet => ⟨true, fns.ethernetGetHandler, fns.ethernetPatchHandler, none⟩
  | .networkProtocol => ⟨true, fns.networkProtocolGetHandler, fns.networkProtocolPatchHandler, none⟩
  | .systemsCollection => ⟨true, fns.systemsCollectionGetHandler, none, none⟩
  | .system => ⟨true, fns.systemGetHandler, fns.systemPatchHandler, none⟩
  | .systemReset => ⟨true, none, none, fns.systemResetPostHandler⟩
  | .chassisCollection => ⟨true, fns.chassisCollectionGetHandler, none, none⟩
  | .chassis => ⟨true, fns.chassisGetHandler, none, none⟩
  | .sensorsCollection => ⟨true, fns.sensorsCollectionGetHandler, none, none⟩
  | .sensorTempBmc => ⟨true, fns.sensorTempBmcGetHandler, none, none⟩

section Admin

def passwordPw : CString := ⟨ascii "pw", by decide⟩

-- `base64_decode` on the one token that occurs below.
def base64AdminPw : Base64 where
  decode dlen src := if src = ascii "YWRtaW46cHc=" then (0, (ascii "admin:pw").take dlen) else (-22, [])
  bounded dlen src := by split <;> simp

def authPw : Auth Unit := ⟨base64AdminPw, fun _ => passwordPw⟩

def basicHeader : HttpHeader :=
  ⟨⟨ascii "authorization", zero_notMem_authorization⟩, ⟨ascii "Basic YWRtaW46cHc=", by decide⟩⟩

def adminCallback (method : HttpMethod) (status : TransactionStatus) (data : Chunk) : Callback :=
  ⟨⟨method, [basicHeader]⟩, status, data, ⟨0, [], [], false⟩⟩

def Chunk.fill (n : ℕ) (h : n < 2 ^ 31) : Chunk := ⟨List.replicate n 123, by rwa [List.length_replicate]⟩

def noData : Chunk := ⟨[], by decide⟩

def chunk4 : Chunk := .fill 4 (by decide)

def chunk256 : Chunk := .fill 256 (by decide)

def idleFns (σ : Type*) : ResourceFns σ :=
  let fn : Handler σ := fun app _ => .done 0 app
  ⟨fn, fn, fn, fn, fn, fn, fn, fn, fn, fn, fn, fn, fn, fn, fn, fn, fn, fn, fn, fn, fn, fn, fn, fn, fn⟩

end Admin

end WallaBMC.Redfish
