import BalanceKit.Library.Registration
import BalanceKit.Providers.ServiceProxies
import BalanceKit.Providers.Resolution
import Mathlib.Data.List.Dedup

/-! The discovery of the chain services and of the providers at the start. The container lists
its classes in an order of its own, and no request depends on it. -/
namespace BalanceKit.Discovery
open Registration FirstAnswer

/-- An entry of `getProviders`: a class, unless there is none, and whether it has an instance. -/
structure InstanceWrapper (Class : Type) where
  metatype : Option Class
  hasInstance : Bool

/-- The class of an entry that discovery looks at. -/
def InstanceWrapper.discovered {Class : Type} (wrapper : InstanceWrapper Class) : Option Class :=
  if wrapper.hasInstance then wrapper.metatype else none

section ChainServices
variable {Class : Type}

/-- The names that `@Chain` is given; the testnets are a set. -/
structure ChainMeta where
  mainnet : String
  testnets : List String

/-- The registrations of an entry. -/
def declared (chainMeta : Class → Option ChainMeta) (wrapper : InstanceWrapper Class) :
    List (String × Class) :=
  match wrapper.discovered with
  | none => []
  | some serviceType =>
      match chainMeta serviceType with
      | none => []
      | some names => (names.mainnet :: names.testnets).map fun name =>
          (Text.toLowerCase name, serviceType)

def discoverChainServices (chainMeta : Class → Option ChainMeta)
    (providers : List (InstanceWrapper Class)) : List (String × Class) :=
  providers.foldl (fun result wrapper => register result (declared chainMeta wrapper)) []

/-- The tables of the factory of chain services. -/
structure Services (Class : Type) where
  chainServices : List (String × Class)
  chainServiceTypes : List (String × Class)

inductive Outcome (Class : Type) where
  | returned (service : Class)
  | notFound
  | typeError

namespace Services

/-- `onModuleInit` registers what was discovered, in lower case once more. -/
def onModuleInit (discoveredServices : List (String × Class)) : Services Class where
  chainServices := []
  chainServiceTypes := register [] (discoveredServices.map fun entry =>
    (Text.toLowerCase entry.1, entry.2))

variable (s : Services Class)

/-- The instance of a class stands for it. -/
def getChainService (chainNameOrSymbol : String) : Outcome Class × Services Class :=
  match ChainServiceFactory.normalizeChainInput chainNameOrSymbol with
  | none => (.typeError, s)
  | some normalizedChainName =>
      match s.chainServices.lookup normalizedChainName with
      | some service => (.returned service, s)
      | none =>
          match s.chainServiceTypes.lookup normalizedChainName with
          | none => (.notFound, s)
          | some serviceType => (.returned serviceType, { s with
              chainServices :=
                OrderedMap.set s.chainServices normalizedChainName serviceType })

/-- The names of both tables, each at its first place. -/
def getAvailableChains : List String :=
  ((s.chainServices.map Prod.fst ++ s.chainServiceTypes.map Prod.fst).reverse.dedup).reverse

end Services

/-- The tables after these requests. -/
def Services.after (s : Services Class) (inputs : List String) : Services Class :=
  inputs.foldl (fun s input => (s.getChainService input).2) s

variable (chainMeta : Class → Option ChainMeta)

/-- The factory after the start of the application. -/
def startServices (providers : List (InstanceWrapper Class)) : Services Class :=
  .onModuleInit (discoverChainServices chainMeta providers)

/-- All registrations of the entries. -/
def declarations (providers : List (InstanceWrapper Class)) : List (String × Class) :=
  providers.flatMap (declared chainMeta)

/-- The types are those that the entries declare, and the instances are of these types. -/
structure Inv (providers : List (InstanceWrapper Class)) (s : Services Class) : Prop where
  types : ∀ name service,
    s.chainServiceTypes.lookup name = some service ↔ (name, service) ∈ declarations chainMeta providers
  services : ∀ name service,
    s.chainServices.lookup name = some service → (name, service) ∈ declarations chainMeta providers

variable {chainMeta} {providers : List (InstanceWrapper Class)} {s : Services Class}

/-- The names are in lower case before they are registered. -/
theorem toLowerCase_of_declared {entry : String × Class}
    (h : entry ∈ declarations chainMeta providers) : Text.toLowerCase entry.1 = entry.1 := by
  obtain ⟨wrapper, -, hEntry⟩ := List.mem_flatMap.mp h
  unfold declared at hEntry
  split at hEntry
  · cases hEntry
  · split at hEntry
    · cases hEntry
    · obtain ⟨name, -, rfl⟩ := List.mem_map.mp hEntry
      exact Text.toLowerCase_toLowerCase name

/-- The discovery registers what the decorated classes declare, in the order of the container.
Classes without the decorator are passed over. -/
theorem discoverChainServices_eq :
    discoverChainServices chainMeta providers = register [] (declarations chainMeta providers) :=
  foldl_register (declared chainMeta) providers

/-- Lower case changes no name that was discovered. -/
theorem startServices_eq (hAgree : Agree (declarations chainMeta providers)) :
    startServices chainMeta providers =
      ⟨[], register [] (register [] (declarations chainMeta providers))⟩ := by
  have hSame : ((register [] (declarations chainMeta providers)).map fun entry =>
      (Text.toLowerCase entry.1, entry.2)) = register [] (declarations chainMeta providers) := by
    conv_rhs => rw [← List.map_id (register [] (declarations chainMeta providers))]
    apply List.map_congr_left
    intro entry hEntry
    rw [toLowerCase_of_declared ((mem_register_iff hAgree).mp hEntry)]
    rfl
  unfold startServices Services.onModuleInit
  rw [discoverChainServices_eq, hSame]

/-- After the start-up the table is the one that the declarations stand for. -/
theorem inv_startServices (hAgree : Agree (declarations chainMeta providers)) :
    Inv chainMeta providers (startServices chainMeta providers) := by
  rw [startServices_eq hAgree]
  exact ⟨fun name service => lookup_register_register hAgree, fun _ _ hFound => (nomatch hFound)⟩

/-- What a request gives: the class that declares the name, and its instance is kept. A later
request for the name is given the same instance. -/
theorem getChainService_spec (hAgree : Agree (declarations chainMeta providers))
    (h : Inv chainMeta providers s) {input name : String}
    (hName : ChainServiceFactory.normalizeChainInput input = some name) :
    Inv chainMeta providers (s.getChainService input).2 ∧
      (∀ service, (s.getChainService input).1 = .returned service ↔
        (name, service) ∈ declarations chainMeta providers) ∧
      ((s.getChainService input).1 = .notFound ↔
        ∀ service, (name, service) ∉ declarations chainMeta providers) := by
  unfold Services.getChainService
  rw [hName]
  cases hKept : s.chainServices.lookup name with
  | some kept =>
      have hDeclared := h.services name kept hKept
      simp only [hKept]
      refine ⟨h, fun service => ?_, ?_⟩
      · constructor
        · rintro ⟨⟩
          exact hDeclared
        · intro hService
          exact congrArg Outcome.returned (hAgree _ hDeclared _ hService rfl)
      · constructor
        · intro hNone
          cases hNone
        · intro hNone
          exact absurd hDeclared (hNone kept)
  | none =>
      cases hType : s.chainServiceTypes.lookup name with
      | none =>
          have hNone : ∀ service, (name, service) ∉ declarations chainMeta providers := by
            intro service hService
            rw [(h.types name service).mpr hService] at hType
            cases hType
          simp only [hKept, hType]
          refine ⟨h, fun service => ?_, ?_⟩
          · constructor
            · intro hReturned
              cases hReturned
            · intro hService
              exact absurd hService (hNone service)
          · exact iff_of_true trivial hNone
      | some serviceType =>
          have hDeclared := (h.types name serviceType).mp hType
          simp only [hKept, hType]
          refine ⟨⟨h.types, ?_⟩, fun service => ?_, ?_⟩
          · intro other service hFound
            by_cases hOther : other = name
            · rw [hOther, OrderedMap.lookup_set] at hFound
              obtain rfl := Option.some.inj hFound
              exact hOther ▸ hDeclared
            · rw [OrderedMap.lookup_set_of_ne hOther] at hFound
              exact h.services other service hFound
          · constructor
            · rintro ⟨⟩
              exact hDeclared
            · intro hService
              exact congrArg Outcome.returned (hAgree _ hDeclared _ hService rfl)
          · constructor
            · intro hNone
              cases hNone
            · intro hNone
              exact absurd hDeclared (hNone serviceType)

/-- Without a name for the input there is nothing to look up, and the method throws a TypeError. -/
theorem getChainService_of_none {input : String}
    (hName : ChainServiceFactory.normalizeChainInput input = none) :
    s.getChainService input = (.typeError, s) := by
  unfold Services.getChainService
  rw [hName]

/-- Requests add instances to the cache and change no table, so what holds at the start holds
after any of them. -/
theorem inv_after (hAgree : Agree (declarations chainMeta providers))
    (h : Inv chainMeta providers s) (inputs : List String) :
    Inv chainMeta providers (s.after inputs) := by
  induction inputs generalizing s with
  | nil => exact h
  | cons input rest ih =>
      refine ih (s := (s.getChainService input).2) ?_
      cases hName : ChainServiceFactory.normalizeChainInput input with
      | none =>
          rw [getChainService_of_none hName]
          exact h
      | some name => exact (getChainService_spec hAgree h hName).1

/-- The chains that are offered are those that are declared, however much was asked for. Requests
create instances and register nothing. -/
theorem mem_getAvailableChains (h : Inv chainMeta providers s) {name : String} :
    name ∈ s.getAvailableChains ↔ ∃ service, (name, service) ∈ declarations chainMeta providers := by
  unfold Services.getAvailableChains
  rw [List.mem_reverse, List.mem_dedup, List.mem_reverse, List.mem_append]
  constructor
  · rintro (hService | hType)
    · cases hFound : s.chainServices.lookup name with
      | none => exact absurd hService (OrderedMap.lookup_eq_none_iff.mp hFound)
      | some service => exact ⟨service, h.services name service hFound⟩
    · cases hFound : s.chainServiceTypes.lookup name with
      | none => exact absurd hType (OrderedMap.lookup_eq_none_iff.mp hFound)
      | some service => exact ⟨service, (h.types name service).mp hFound⟩
  · rintro ⟨service, hDeclared⟩
    exact .inr (List.mem_map_of_mem (OrderedMap.mem_of_lookup ((h.types name service).mpr hDeclared)))

/-- Where no two classes declare one name, a request gets the class that declares the name it
stands for, after any requests and whatever order the container lists the classes in; and the
chains on offer are the declared ones, each once. -/
theorem services_discovered (hAgree : Agree (declarations chainMeta providers))
    (earlier : List String) :
    (∀ input service,
      (((startServices chainMeta providers).after earlier).getChainService input).1 =
          .returned service ↔
        ∃ name, ChainServiceFactory.normalizeChainInput input = some name ∧
          (name, service) ∈ declarations chainMeta providers) ∧
    (∀ input, (((startServices chainMeta providers).after earlier).getChainService input).1 =
          .notFound ↔
        ∃ name, ChainServiceFactory.normalizeChainInput input = some name ∧
          ∀ service, (name, service) ∉ declarations chainMeta providers) ∧
    ((startServices chainMeta providers).after earlier).getAvailableChains.Nodup ∧
    ∀ name, name ∈ ((startServices chainMeta providers).after earlier).getAvailableChains ↔
      ∃ service, (name, service) ∈ declarations chainMeta providers := by
  have hInv := inv_after hAgree (inv_startServices hAgree) earlier
  refine ⟨?_, ?_, ?_, fun name => mem_getAvailableChains hInv⟩
  · intro input service
    cases hName : ChainServiceFactory.normalizeChainInput input with
    | none => simp [getChainService_of_none hName]
    | some name => simp [(getChainService_spec hAgree hInv hName).2.1 service]
  · intro input
    cases hName : ChainServiceFactory.normalizeChainInput input with
    | none => simp [getChainService_of_none hName]
    | some name => simp [(getChainService_spec hAgree hInv hName).2.2]
  · exact List.nodup_reverse.mpr (List.nodup_dedup _)

/-- A chain, as the endpoint for the available chains describes it. -/
structure ChainEntry where
  id : Nat
  name : String
  type : String
  isTestnet : Bool
  mainnetRef : Option String
  supportedSymbols : List String

def entryOf (c : ChainName) : ChainEntry where
  id := (chainInfo c).id
  name := (chainInfo c).display
  type := c.value
  isTestnet := !(chainInfo c).isMainnet
  mainnetRef := (chainInfo c).mainnetRef.map ChainName.value
  supportedSymbols := (chainInfo c).coinSymbols

/-- `ChainsController.getAvailableChains`. -/
def availableChains (s : Services Class) (includeTestnet : Option String) : List ChainEntry :=
  let availableChainNames := s.getAvailableChains
  let showTestnets := includeTestnet == some "true"
  let offered := ChainName.all.filter fun c =>
    if !showTestnets && !(chainInfo c).isMainnet then false
    else availableChainNames.contains (Text.toLowerCase c.value)
  offered.map entryOf

def Outcome.isReturned : Outcome Class → Bool
  | .returned _ => true
  | _ => false

/-- What is offered is what is served: the endpoint lists those chains, each once and in the
order of the table, whose name gets a service, and testnets only if they are asked for. -/
theorem availableChains_served (hAgree : Agree (declarations chainMeta providers))
    (earlier : List String) (includeTestnet : Option String) :
    availableChains ((startServices chainMeta providers).after earlier) includeTestnet =
      (ChainName.all.filter fun c =>
        ((includeTestnet == some "true") || (chainInfo c).isMainnet) &&
          (((startServices chainMeta providers).after earlier).getChainService
            c.value).1.isReturned).map entryOf := by
  have hInv := inv_after hAgree (inv_startServices hAgree) earlier
  unfold availableChains
  refine congrArg (List.map entryOf) (List.filter_congr fun c _ => ?_)
  have hName : ChainServiceFactory.normalizeChainInput c.value = some c.value := by
    cases c <;> decide +kernel
  have hLower : Text.toLowerCase c.value = c.value := by
    cases c <;> decide +kernel
  have hListed : ((startServices chainMeta providers).after earlier).getAvailableChains.contains
        c.value =
      (((startServices chainMeta providers).after earlier).getChainService
        c.value).1.isReturned := by
    obtain ⟨-, hReturned, hNotFound⟩ := getChainService_spec hAgree hInv hName
    rw [Bool.eq_iff_iff, List.contains_iff_mem, mem_getAvailableChains hInv]
    constructor
    · rintro ⟨service, hDeclared⟩
      rw [(hReturned service).mpr hDeclared]
      rfl
    · intro hServed
      by_contra hNone
      rw [hNotFound.mpr fun service hDeclared => hNone ⟨service, hDeclared⟩] at hServed
      cases hServed
  rw [hLower, hListed]
  cases includeTestnet == some "true" <;> cases (chainInfo c).isMainnet <;> rfl

/-- The chain and the testnets of a service of the application. -/
def chainMetaOf (service : ChainService) : Option ChainMeta :=
  match service.chains with
  | [] => none
  | mainnet :: testnets => some ⟨mainnet.value, testnets.map ChainName.value⟩

/-- The services, as one module lists them. -/
def chainServiceWrappers : List (InstanceWrapper ChainService) :=
  [.ethereumService, .polygonService, .bscService, .solanaService].map fun service =>
    ⟨some service, true⟩

/-- The services of the application declare what the table of the factory lists. -/
theorem declarations_chainServiceWrappers :
    declarations chainMetaOf chainServiceWrappers = ChainServiceFactory.chainServiceTypes := rfl

theorem agree_chainServiceTypes : Agree ChainServiceFactory.chainServiceTypes := by
  have hNodup : (ChainServiceFactory.chainServiceTypes.map Prod.fst).Nodup := by decide +kernel
  intro a ha b hb hKey
  exact congrArg Prod.snd (List.inj_on_of_nodup_map hNodup ha hb hKey)

/-- The table of the factory comes from the discovery, in whatever order the services are
listed and among whatever classes without the decorator. -/
theorem lookup_startServices {wrappers : List (InstanceWrapper ChainService)}
    (hPerm : (declarations chainMetaOf wrappers).Perm
      (declarations chainMetaOf chainServiceWrappers)) (name : String) :
    (startServices chainMetaOf wrappers).chainServiceTypes.lookup name =
      ChainServiceFactory.chainServiceTypes.lookup name := by
  have hAgree : Agree (declarations chainMetaOf wrappers) :=
    agree_chainServiceTypes.perm hPerm.symm
  apply Option.ext
  intro service
  rw [(inv_startServices hAgree).types name service, hPerm.mem_iff,
    declarations_chainServiceWrappers, lookup_iff agree_chainServiceTypes]

/-- The services in the order of their module, after a request for a symbol. -/
theorem services_discovered_ether :
    (((startServices chainMetaOf chainServiceWrappers).after ["ETH"]).getChainService "Matic").1 =
      .returned .polygonService := by
  refine ((services_discovered ?_ ["ETH"]).1 "Matic" ChainService.polygonService).mpr ?_
  · exact agree_chainServiceTypes
  · exact ⟨"polygon", by decide +kernel, by decide +kernel⟩

/-- After a request for ether the endpoint lists the mainnet chains that have a service. -/
theorem availableChains_served_ether :
    availableChains ((startServices chainMetaOf chainServiceWrappers).after ["ETH"]) none =
      (ChainName.all.filter fun c => (((none : Option String) == some "true") ||
        (chainInfo c).isMainnet) &&
          (((startServices chainMetaOf chainServiceWrappers).after ["ETH"]).getChainService
            c.value).1.isReturned).map entryOf := by
  refine availableChains_served ?_ ["ETH"] none
  exact agree_chainServiceTypes

end ChainServices

section Providers
open ProviderResolution
variable {Class : Type}

/-- What `@Provider` is given: the chains, which are a set, and the type. -/
structure ProviderMeta where
  blockchainTypes : List String
  providerType : String

def registrations (providerMeta : Class → Option ProviderMeta) (wrapper : InstanceWrapper Class) :
    List ((String × String) × Class) :=
  match wrapper.discovered with
  | none => []
  | some providerClass =>
      match providerMeta providerClass with
      | none => []
      | some metadata => metadata.blockchainTypes.map fun type =>
          ((type, metadata.providerType), providerClass)

def discoverProviders (providerMeta : Class → Option ProviderMeta)
    (providers : List (InstanceWrapper Class)) : List ((String × String) × Class) :=
  providers.foldl (fun result wrapper => result ++ registrations providerMeta wrapper) []

def registerProviders (s : State Class) (entries : List ((String × String) × Class)) :
    State Class :=
  entries.foldl (fun s entry => s.registerProvider entry.1.1 entry.1.2 entry.2) s

/-- The factory after its constructor, which is handed registrations, and `onModuleInit`. -/
def startProviders (providerMeta : Class → Option ProviderMeta)
    (registeredProviders : List ((String × String) × Class))
    (wrappers : List (InstanceWrapper Class)) : State Class :=
  registerProviders (registerProviders ProviderResolution.init registeredProviders)
    (discoverProviders providerMeta wrappers)

/-- What the requests give, one after another. -/
def answers (app : Application Class) (s : State Class) :
    List (String × String) → List (ProviderResolution.Outcome Class)
  | [] => []
  | (blockchainType, providerType) :: rest =>
      (s.getProvider app blockchainType providerType).1 ::
        answers app (s.getProvider app blockchainType providerType).2 rest

variable {providerMeta : Class → Option ProviderMeta} {app : Application Class}
  {wrappers others : List (InstanceWrapper Class)} {s t : State Class}

/-- The discovery of the providers keeps the order of the container as well. -/
theorem discoverProviders_eq :
    discoverProviders providerMeta wrappers = wrappers.flatMap (registrations providerMeta) := by
  have hFold : ∀ result : List ((String × String) × Class),
      wrappers.foldl (fun result wrapper => result ++ registrations providerMeta wrapper) result =
        result ++ wrappers.flatMap (registrations providerMeta) := by
    induction wrappers with
    | nil => exact fun result => (List.append_nil result).symm
    | cons wrapper rest ih =>
        intro result
        rw [List.foldl_cons, ih, List.flatMap_cons, List.append_assoc]
  exact hFold []

/-- The registrations stand before the earlier ones, the last one first. A lookup therefore finds
the last registration of its key. -/
theorem registerProviders_eq (entries : List ((String × String) × Class)) :
    registerProviders s entries = { s with providers := entries.reverse ++ s.providers } := by
  induction entries generalizing s with
  | nil => rfl
  | cons entry rest ih =>
      rw [registerProviders, List.foldl_cons, ← registerProviders, ih, List.reverse_cons,
        List.append_assoc]
      rfl

/-- Two states that differ in the order of their registrations at most. -/
structure Alike (s t : State Class) : Prop where
  providers : ∀ key, s.providers.lookup key = t.providers.lookup key
  instances : s.instances = t.instances
  multiChainProviders : s.multiChainProviders = t.multiChainProviders

/-- A request reads the registrations by their keys only. Two registries that differ in their order
alone answer every request alike. -/
theorem Alike.getProvider (h : Alike s t) (blockchainType providerType : String) :
    (s.getProvider app blockchainType providerType).1 =
        (t.getProvider app blockchainType providerType).1 ∧
      Alike (s.getProvider app blockchainType providerType).2
        (t.getProvider app blockchainType providerType).2 := by
  unfold State.getProvider
  cases hName : ProviderFactory.normalizeBlockchainType blockchainType with
  | none => exact ⟨rfl, h⟩
  | some blockchain =>
      simp only [h.providers, h.instances, h.multiChainProviders]
      cases t.providers.lookup (blockchain, providerOf app blockchain providerType) with
      | none => exact ⟨rfl, h⟩
      | some providerClass =>
          dsimp only
          cases chainSupportedByProvider app blockchain providerClass with
          | false => exact ⟨rfl, h⟩
          | true =>
              cases isMultiChainProvider app providerClass with
              | true =>
                  cases t.multiChainProviders.lookup (providerOf app blockchain providerType) with
                  | none => exact ⟨rfl, h.providers, rfl, rfl⟩
                  | some cached => exact ⟨rfl, h⟩
              | false =>
                  cases t.instances.lookup (blockchain, providerOf app blockchain providerType) with
                  | none => exact ⟨rfl, h.providers, rfl, rfl⟩
                  | some cached => exact ⟨rfl, h⟩

/-- Factories that are alike give the same answers to the same requests, because each request
leaves them alike. -/
theorem Alike.answers (h : Alike s t) (requests : List (String × String)) :
    Discovery.answers app s requests = Discovery.answers app t requests := by
  induction requests generalizing s t with
  | nil => rfl
  | cons request rest ih =>
      obtain ⟨hOutcome, hNext⟩ := @Alike.getProvider _ app s t h request.1 request.2
      exact congrArg₂ List.cons hOutcome (ih hNext)

/-- Two orders of the container lead to factories that are alike, where no key is declared twice. -/
theorem alike_startProviders (hPerm : wrappers.Perm others)
    (hAgree : Agree (discoverProviders providerMeta wrappers))
    (registeredProviders : List ((String × String) × Class)) :
    Alike (startProviders providerMeta registeredProviders wrappers)
      (startProviders providerMeta registeredProviders others) := by
  unfold startProviders
  simp only [registerProviders_eq]
  refine ⟨fun key => ?_, rfl, rfl⟩
  have hEntries : (discoverProviders providerMeta wrappers).Perm
      (discoverProviders providerMeta others) := by
    rw [discoverProviders_eq, discoverProviders_eq]
    exact hPerm.flatMap_right _
  have hReversed := (List.reverse_perm _).trans (hEntries.trans (List.reverse_perm _).symm)
  have hLookup := lookup_perm (hAgree.perm (List.reverse_perm _).symm) hReversed key
  simp only [List.lookup_append, hLookup]

/-- The order in which the container lists the providers is not to be seen from any requests,
unless two classes declare one chain and type. -/
theorem startup_order (hPerm : wrappers.Perm others)
    (hAgree : Agree (discoverProviders providerMeta wrappers))
    (registeredProviders : List ((String × String) × Class)) (requests : List (String × String)) :
    answers app (startProviders providerMeta registeredProviders wrappers) requests =
      answers app (startProviders providerMeta registeredProviders others) requests :=
  (alike_startProviders hPerm hAgree registeredProviders).answers requests

/-- The chains and the type of a provider of the application. -/
def providerMetaOf (providerClass : ProviderClass) : Option ProviderMeta :=
  some ⟨providerClass.blockchainTypes.map ChainName.value, providerClass.providerType.value⟩

def providerWrappers : List (InstanceWrapper ProviderClass) :=
  [⟨some .alchemyProviderFacade, true⟩, ⟨some .ethereumQuickNodeProvider, true⟩]

/-- The providers of the application are discovered as the factory registers them. -/
theorem discoverProviders_providerWrappers :
    discoverProviders providerMetaOf providerWrappers = ProviderFactory.providers := rfl

theorem agree_providers : Agree ProviderFactory.providers := by
  have hNodup : (ProviderFactory.providers.map Prod.fst).Nodup := by decide +kernel
  intro a ha b hb hKey
  exact congrArg Prod.snd (List.inj_on_of_nodup_map hNodup ha hb hKey)

/-- The registrations of the factory come from the discovery, in whatever order the providers
are listed. -/
theorem lookup_startProviders {wrappers : List (InstanceWrapper ProviderClass)}
    (hPerm : (discoverProviders providerMetaOf wrappers).Perm
      (discoverProviders providerMetaOf providerWrappers)) (key : String × String) :
    (startProviders providerMetaOf [] wrappers).providers.lookup key =
      ProviderFactory.providers.lookup key := by
  have hAgree : Agree (discoverProviders providerMetaOf wrappers) :=
    agree_providers.perm hPerm.symm
  unfold startProviders
  simp only [registerProviders_eq, ProviderResolution.init, List.reverse_nil, List.append_nil]
  rw [← discoverProviders_providerWrappers]
  exact lookup_perm (hAgree.perm (List.reverse_perm _).symm) ((List.reverse_perm _).trans hPerm) key

/-- The metadata of the two classes, in an environment that configures no defaults. -/
def application : Application ProviderClass where
  metadata
    | .alchemyProviderFacade =>
        some (.chains (ProviderClass.alchemyProviderFacade.blockchainTypes.map ChainName.value))
    | .ethereumQuickNodeProvider => some (.chain ChainName.ethereum.value)
  configured := fun _ => ""

/-- The application answers these requests alike when its providers are listed in reverse. -/
theorem startup_order_application :
    answers application (startProviders providerMetaOf [] providerWrappers)
        [("ETH", "quicknode"), ("bsc", ""), ("polygon", "quicknode")] =
      answers application (startProviders providerMetaOf [] providerWrappers.reverse)
        [("ETH", "quicknode"), ("bsc", ""), ("polygon", "quicknode")] := by
  have hAgree : Agree (discoverProviders providerMetaOf providerWrappers) := agree_providers
  exact startup_order (List.reverse_perm _).symm hAgree [] _

end Providers

end BalanceKit.Discovery
