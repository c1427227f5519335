import Mathlib.Logic.Relation
import WallaBMC.Documents.Public

/-! What a crawler finds that follows the links of the documents from one GET to the next, whatever happens to
the BMC in between: no link is dead, and all but three of the resources are linked from the service root. -/

namespace WallaBMC.Documents

open Library Redfish Json Relation

/-- The URLs that `redfish.c` registers the resource under. -/
def urls : RedfishResource → List String
  | .redfishVersion => ["/redfish/", "/redfish"]
  | .serviceRoot => ["/redfish/v1/", "/redfish/v1"]
  | .sessionService => ["/redfish/v1/SessionService"]
  | .sessionsCollection => ["/redfish/v1/SessionService/Sessions"]
  | .odata => ["/redfish/v1/odata"]
  | .accountService => ["/redfish/v1/AccountService"]
  | .accountsCollection => ["/redfish/v1/AccountService/Accounts"]
  | .account => ["/redfish/v1/AccountService/Accounts/1"]
  | .managersCollection => ["/redfish/v1/Managers"]
  | .manager => ["/redfish/v1/Managers/bmc"]
  | .ethernetInterfaces => ["/redfish/v1/Managers/bmc/EthernetInterfaces"]
  | .ethernet => ["/redfish/v1/Managers/bmc/EthernetInterfaces/eth0"]
  | .networkProtocol => ["/redfish/v1/Managers/bmc/NetworkProtocol"]
  | .systemsCollection => ["/redfish/v1/Systems"]
  | .system => ["/redfish/v1/Systems/system"]
  | .systemReset => ["/redfish/v1/Systems/system/Actions/ComputerSystem.Reset"]
  | .chassisCollection => ["/redfish/v1/Chassis"]
  | .chassis => ["/redfish/v1/Chassis/1"]
  | .sensorsCollection => ["/redfish/v1/Chassis/1/Sensors"]
  | .sensorTempBmc => ["/redfish/v1/Chassis/1/Sensors/TempBmc"]

def route (path : List UInt8) : Option RedfishResource :=
  RedfishResource.all.find? (fun r => (urls r).any (fun url => ascii url == path))

def linkNames : List String := ["@odata.id", "url", "v1"]

def links (doc : Json) : List (List UInt8) := linkNames.flatMap (fun name => doc.named (ascii name))

def actions (doc : Json) : List (List UInt8) := doc.named (ascii "target")

/-- The document of `r`, as the BMC is in `src`, leads a client to `r'`. -/
def Leads (src : Sources) (r r' : RedfishResource) : Prop :=
  ∃ doc, document src r = some doc ∧ ∃ path ∈ links doc ++ actions doc, route path = some r'

structure LinksResolve (src : Sources) (r : RedfishResource) (doc : Json) : Prop where
  links : ∀ path ∈ links doc, ∃ r', route path = some r' ∧ (document src r').isSome
  actions : ∀ path ∈ actions doc, ∃ r', route path = some r' ∧ (registered r').postFn.isSome
  self : ∀ path ∈ (doc.named (ascii "@odata.id")).head?, route path = some r

def Linked (r : RedfishResource) : Prop := r ≠ .redfishVersion ∧ r ≠ .odata ∧ r ≠ .networkProtocol

instance (r : RedfishResource) : Decidable (Linked r) := inferInstanceAs (Decidable (_ ∧ _ ∧ _))

variable {src : Sources} {r r' : RedfishResource} {doc : Json}

lemma linkName_cases {name : String} (h : name ∈ "target" :: linkNames) :
    name = "target" ∨ name = "@odata.id" ∨ name = "url" ∨ name = "v1" := by
  simpa only [linkNames, List.mem_cons, List.not_mem_nil, or_false] using h

lemma named_manager {name : String} (h : name ∈ "target" :: linkNames) :
    (manager src).named (ascii name) = (manager blank).named (ascii name) := by
  rcases linkName_cases h with rfl | rfl | rfl | rfl <;>
    simp +decide only [manager, object, link, str, List.map_cons, List.map_nil, named, namedMembers, if_true, if_false]

lemma named_addr {name : String} (h : name ∈ "target" :: linkNames) (addr : Option RedfishIpv4Addr) :
    namedElems (ascii name) (addr.toList.map RedfishIpv4Addr.json) = [] := by
  rcases addr with _ | addr
  · rfl
  · rcases linkName_cases h with rfl | rfl | rfl | rfl <;>
      simp +decide only [Option.toList, RedfishIpv4Addr.json, object, str, List.map_cons, List.map_nil, namedElems,
        named, namedMembers, if_false, List.append_nil]

lemma named_ethernetInterface {name : String} (h : name ∈ "target" :: linkNames) (ethernet : RedfishEthernetInterface) :
    ethernet.json.named (ascii name) = noEthernet.json.named (ascii name) := by
  have haddr := named_addr h
  rcases linkName_cases h with rfl | rfl | rfl | rfl <;>
    simp +decide only [RedfishEthernetInterface.json, haddr, object, str, List.map_cons, List.map_nil, named,
      namedMembers, if_true, if_false]

lemma named_servers (name : List UInt8) (servers : List (List UInt8)) :
    namedElems name (servers.map Json.str) = [] := by
  induction servers with
  | nil => rfl
  | cons server servers ih => exact ih

lemma named_networkProtocol {name : String} (h : name ∈ "target" :: linkNames) (ntp : RedfishNtp) :
    ntp.json.named (ascii name) = noNtp.json.named (ascii name) := by
  rcases linkName_cases h with rfl | rfl | rfl | rfl <;>
    simp +decide only [RedfishNtp.json, named_servers, object, str, List.map_cons, List.map_nil, named, namedMembers,
      if_false]

lemma named_computerSystem {name : String} (h : name ∈ "target" :: linkNames) :
    (computerSystem src).named (ascii name) = (computerSystem blank).named (ascii name) := by
  rcases linkName_cases h with rfl | rfl | rfl | rfl <;>
    simp +decide only [computerSystem, object, link, str, List.map_cons, List.map_nil, named, namedMembers, if_true,
      if_false]

lemma named_chassis {name : String} (h : name ∈ "target" :: linkNames) :
    (chassis src).named (ascii name) = (chassis blank).named (ascii name) := by
  rcases linkName_cases h with rfl | rfl | rfl | rfl <;>
    simp +decide only [chassis, object, link, str, List.map_cons, List.map_nil, named, namedMembers, if_true, if_false]

lemma named_sensorTempBmc {name : String} (h : name ∈ "target" :: linkNames) :
    (sensorTempBmc src).named (ascii name) = (sensorTempBmc blank).named (ascii name) := by
  rcases linkName_cases h with rfl | rfl | rfl | rfl <;>
    simp +decide only [sensorTempBmc, object, str, List.map_cons, List.map_nil, named, namedMembers, if_true, if_false]

/-- What the state decides is never a link, so every state has the links of `blank`. -/
lemma named_document (h : document src r = some doc) : ∃ doc', document blank r = some doc' ∧
    ∀ name ∈ "target" :: linkNames, doc.named (ascii name) = doc'.named (ascii name) := by
  cases r
  case systemReset => cases h
  all_goals obtain rfl := Option.some.inj h
  case manager => exact ⟨_, rfl, fun _ => named_manager⟩
  case ethernet =>
    exact ⟨_, rfl, fun _ h => (named_ethernetInterface h _).trans (named_ethernetInterface h _).symm⟩
  case networkProtocol =>
    exact ⟨_, rfl, fun _ h => (named_networkProtocol h _).trans (named_networkProtocol h _).symm⟩
  case system => exact ⟨_, rfl, fun _ => named_computerSystem⟩
  case chassis => exact ⟨_, rfl, fun _ => named_chassis⟩
  case sensorTempBmc => exact ⟨_, rfl, fun _ => named_sensorTempBmc⟩
  all_goals exact ⟨_, rfl, fun _ _ => rfl⟩

lemma document_isSome (src : Sources) (r : RedfishResource) :
    (document src r).isSome = (document blank r).isSome := by
  cases r <;> rfl

def linkedFrom : RedfishResource → List RedfishResource
  | .redfishVersion => [.serviceRoot]
  | .serviceRoot => [.serviceRoot, .accountService, .sessionService, .managersCollection, .systemsCollection,
      .chassisCollection, .sessionsCollection]
  | .sessionService => [.sessionService, .sessionsCollection]
  | .odata => [.serviceRoot, .systemsCollection, .managersCollection, .accountService, .chassisCollection]
  | .accountService => [.accountService, .accountsCollection]
  | .accountsCollection => [.accountsCollection, .account]
  | .managersCollection => [.managersCollection, .manager]
  | .manager => [.manager, .ethernetInterfaces]
  | .ethernetInterfaces => [.ethernetInterfaces, .ethernet]
  | .systemsCollection => [.systemsCollection, .system]
  | .system => [.system, .chassis, .manager]
  | .chassisCollection => [.chassisCollection, .chassis]
  | .chassis => [.chassis, .sensorsCollection, .system, .manager]
  | .sensorsCollection => [.sensorsCollection, .sensorTempBmc]
  | .networkProtocol | .systemReset => []
  | r => [r]

def actionsOf (r : RedfishResource) : List RedfishResource := if r = .system then [.systemReset] else []

/-- Where the links of a document lead, in its order. -/
structure Routes (r : RedfishResource) (doc : Json) : Prop where
  links : (links doc).map route = (linkedFrom r).map some
  actions : (actions doc).map route = (actionsOf r).map some
  self : ∀ path ∈ (doc.named (ascii "@odata.id")).head?, route path = some r

lemma routes_blank : ∀ r, ∀ doc ∈ document blank r, (links doc).map route = (linkedFrom r).map some ∧
    (actions doc).map route = (actionsOf r).map some ∧
      ∀ path ∈ (doc.named (ascii "@odata.id")).head?, route path = some r := by
  decide +kernel

lemma routes_document (h : document src r = some doc) : Routes r doc := by
  obtain ⟨doc', hdoc', hnamed⟩ := named_document h
  obtain ⟨hlinks, hactions, hself⟩ := routes_blank r doc' hdoc'
  have hid : "@odata.id" ∈ linkNames := List.mem_cons_self
  have hall : links doc = links doc' :=
    List.flatMap_congr fun name hname => hnamed name (List.mem_cons_of_mem _ hname)
  constructor
  · rw [hall, hlinks]
  · rw [← hactions]
    exact congrArg (List.map route) (hnamed _ List.mem_cons_self)
  · rwa [hnamed _ (List.mem_cons_of_mem _ hid)]

lemma leads_iff : Leads src r r' ↔ r' ∈ linkedFrom r ++ actionsOf r := by
  have hpaths : ∀ doc, document src r = some doc →
      ((∃ path ∈ links doc ++ actions doc, route path = some r') ↔ r' ∈ linkedFrom r ++ actionsOf r) := by
    intro doc hdoc
    have hroutes := routes_document hdoc
    rw [← List.mem_map, List.map_append, hroutes.links, hroutes.actions, ← List.map_append,
      List.mem_map_of_injective (Option.some_injective _)]
  cases hdoc : document src r with
  | some doc =>
    rw [← hpaths doc hdoc]
    constructor
    · rintro ⟨doc', hdoc', hpath⟩
      obtain rfl := Option.some.inj (hdoc.symm.trans hdoc')
      exact hpath
    · exact fun hpath => ⟨doc, hdoc, hpath⟩
  | none =>
    constructor
    · rintro ⟨doc, hsome, -⟩
      rw [hdoc] at hsome
      cases hsome
    · intro h
      have hreset : r = .systemReset := by
        cases r <;> first | rfl | cases hdoc
      rw [hreset] at h
      cases h

lemma linksResolve (h : document src r = some doc) : LinksResolve src r doc := by
  have hroutes := routes_document h
  have hget : ∀ r, ∀ r' ∈ linkedFrom r, (document blank r').isSome := by decide
  have hpost : ∀ r, ∀ r' ∈ actionsOf r, (registered r').postFn.isSome := by decide
  constructor
  · intro path hpath
    have hmem : route path ∈ (links doc).map route := List.mem_map_of_mem hpath
    rw [hroutes.links] at hmem
    obtain ⟨r', hr', hroute⟩ := List.mem_map.mp hmem
    exact ⟨r', hroute.symm, (document_isSome src r').trans (hget r r' hr')⟩
  · intro path hpath
    have hmem : route path ∈ (actions doc).map route := List.mem_map_of_mem hpath
    rw [hroutes.actions] at hmem
    obtain ⟨r', hr', hroute⟩ := List.mem_map.mp hmem
    exact ⟨r', hroute.symm, hpost r r' hr'⟩
  · exact hroutes.self

/-- The resource whose document leads to this one. -/
def parent : RedfishResource → RedfishResource
  | .sessionsCollection => .sessionService
  | .accountsCollection => .accountService
  | .account => .accountsCollection
  | .manager => .managersCollection
  | .ethernetInterfaces => .manager
  | .ethernet => .ethernetInterfaces
  | .system => .systemsCollection
  | .systemReset => .system
  | .chassis => .chassisCollection
  | .sensorsCollection => .chassis
  | .sensorTempBmc => .sensorsCollection
  | _ => .serviceRoot

lemma parent_leads : ∀ r, Linked r → Linked (parent r) ∧ r ∈ linkedFrom (parent r) ++ actionsOf (parent r) := by
  decide

lemma parent_root : ∀ r, parent^[4] r = .serviceRoot := by
  decide

lemma reaches_parent (src : Sources) (n : ℕ) :
    ∀ r, Linked r → ReflTransGen (Leads src) (parent^[n] r) r := by
  induction n with
  | zero => exact fun r _ => .refl
  | succ n ih =>
    intro r hr
    obtain ⟨hparent, hleads⟩ := parent_leads r hr
    exact (ih (parent r) hparent).tail (leads_iff.mpr hleads)

/-- Each GET of the crawl may find the BMC in another state. -/
theorem crawl_reaches (r : RedfishResource) :
    (ReflTransGen (fun r r' => ∃ src, Leads src r r') .serviceRoot r ↔ Linked r) ∧
      ∀ src, (ReflTransGen (Leads src) .serviceRoot r ↔ Linked r) ∧ ∀ doc ∈ document src r, LinksResolve src r doc := by
  have hreach : ∀ src, Linked r → ReflTransGen (Leads src) .serviceRoot r := by
    intro src hr
    have hroot := reaches_parent src 4 r hr
    rwa [parent_root] at hroot
  have hany : ∀ src, ReflTransGen (Leads src) .serviceRoot r →
      ReflTransGen (fun r r' => ∃ src, Leads src r r') .serviceRoot r :=
    fun src h => ReflTransGen.mono (fun _ _ hleads => ⟨src, hleads⟩) _ _ h
  have hlinked : ReflTransGen (fun r r' => ∃ src, Leads src r r') .serviceRoot r → Linked r := by
    intro h
    have hstep : ∀ r, ∀ r' ∈ linkedFrom r ++ actionsOf r, Linked r' := by decide
    induction h with
    | refl => decide
    | tail _ hlast _ =>
      obtain ⟨src, hlast⟩ := hlast
      exact hstep _ _ (leads_iff.mp hlast)
  refine ⟨⟨hlinked, fun hr => hany blank (hreach blank hr)⟩, fun src => ⟨⟨?_, hreach src⟩, fun doc => linksResolve⟩⟩
  exact fun h => hlinked (hany src h)

theorem crawl_reaches_system : LinksResolve blank .system (computerSystem blank) :=
  ((crawl_reaches .system).2 blank).2 (computerSystem blank) rfl

end WallaBMC.Documents
