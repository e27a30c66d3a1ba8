import BalanceKit.Library.Runs
import BalanceKit.Providers.ServiceProxies

/-! The endpoints that name a chain or its id. The services that they go to are shared by all
requests, and each has one current chain id. -/
namespace BalanceKit.ChainEndpoints

/-- `currentChainId` of the instance of each class. -/
abbrev State := ChainService → Int

def init : State := ServiceProxies.getDefaultChainId

inductive Endpoint where
  | validateAddress | getAddressTransactions
  deriving DecidableEq

/-- What `ChainIdController` has done with the service. -/
inductive RoutedAction where
  | getBalances | validateAddress | getTransactions
  deriving DecidableEq

inductive Request where
  | chain (endpoint : Endpoint) (chainNameOrSymbol address : String)
      (network chainIdParam : Option String)
  | dispatch (chainId : Int) (action : RoutedAction) (address : String)

inductive Response where
  | notFound
  | typeError
  | failed
  | validated (chain : String) (chainId : Int) (address : String) (isValid isTestnet : Bool)
  | transactions (chain : String) (chainId : Int) (address : String) (isTestnet : Bool)
      (hashes : List String)
  | routedBalances (chainId : Int) (balances : RawBalances)
  | routedValidation (chainId : Int) (chain address : String) (isValid : Bool)
  | routedTransactions (chainId : Int) (chain address : String) (hashes : List String)

/-- The chain id and the kind of network that a response reports for the named chain. -/
def Response.reported : Response → Option (Int × Bool)
  | validated _ chainId _ _ isTestnet => some (chainId, isTestnet)
  | transactions _ chainId _ isTestnet _ => some (chainId, isTestnet)
  | _ => none

def getChainInfoByChainId (chainId : Int) : Option BaseChainInfo :=
  if 0 ≤ chainId then BalanceKit.getChainInfoByChainId chainId.toNat else none

section Services
variable (outside : Outside) (service : ChainService) (chainId : Int) (address : String)

def isTestnet : Bool :=
  match service with
  | .solanaService => decide (chainId ≠ 101)
  | _ =>
      match getChainInfoByChainId chainId with
      | some chainInfo => !chainInfo.isMainnet
      | none => false

def getChainName : String :=
  match service with
  | .solanaService =>
      if chainId = 103 then "Solana Devnet"
      else if chainId = 102 then "Solana Testnet"
      else ChainName.solana.value
  | _ =>
      match getChainInfoByChainId chainId with
      | some chainInfo => chainInfo.display
      | none => (chainInfo service.evmChain).display

def isValidAddress : Bool :=
  match service with
  | .solanaService => outside.libraries.isPublicKey address
  | _ => outside.libraries.isAddress address

/-- Sample texts, after a check of the address for EVM chains. -/
def getAddressTransactionHashes : Option (List String) :=
  match service with
  | .solanaService => some ["sample_hash_1", "sample_hash_2"]
  | _ =>
      if isValidAddress outside service address then some ["0xsample1", "0xsample2"] else none

/-- What an endpoint answers when the service has the chain id. -/
def answer (endpoint : Endpoint) : Response :=
  match endpoint with
  | .validateAddress =>
      .validated (getChainName service chainId) chainId address
        (isValidAddress outside service address) (isTestnet service chainId)
  | .getAddressTransactions =>
      match getAddressTransactionHashes outside service address with
      | none => .failed
      | some transactions =>
          .transactions (getChainName service chainId) chainId address
            (isTestnet service chainId) transactions

end Services

section Requests
variable (outside : Outside) (s : State)

/-- The service that `isChainAvailable` and `getChainService` find. -/
def serviceOf (chainNameOrSymbol : String) : Except Response ChainService :=
  match ChainServiceFactory.normalizeChainInput chainNameOrSymbol with
  | none => .error .typeError
  | some normalizedChainName =>
      match ChainServiceFactory.chainServiceTypes.lookup normalizedChainName with
      | none => .error .notFound
      | some service => .ok service

/-- The first testnet whose mainnet has the text of the request as its name. -/
def testnetOf (chainNameOrSymbol : String) : Option ChainName :=
  ChainName.all.find? fun c =>
    !(chainInfo c).isMainnet &&
      (chainInfo c).mainnetRef.map ChainName.value == some chainNameOrSymbol

/-- The chain id that a request sets. Zero and what is no number are not set. -/
def requestedChainId (chainNameOrSymbol : String) (network chainIdParam : Option String) :
    Option Int :=
  let chainId :=
    match Text.present chainIdParam with
    | some text => Text.parseInt text
    | none =>
        if network = some "testnet" then
          (testnetOf chainNameOrSymbol).map fun c => ((chainInfo c).id : Int)
        else none
  chainId.filter fun id => id ≠ 0

def setChainId (service : ChainService) : Option Int → State
  | some chainId => Function.update s service chainId
  | none => s

/-- The class in `GLOBAL_CHAIN_SERVICE_MAP` for the chain with the id. -/
def routedService (chainId : Int) : Option ChainService :=
  (getChainInfoByChainId chainId).bind fun info =>
    [ChainService.ethereumService, .polygonService, .bscService, .solanaService].find?
      fun service => service.chains.contains info.name

/-- The router sets the chain id of the EVM services only. -/
def route (service : ChainService) (chainId : Int) : State :=
  match service with
  | .solanaService => s
  | _ => setChainId s service (some chainId)

def step : Request → Response × State
  | .chain endpoint chainNameOrSymbol address network chainIdParam =>
      match serviceOf chainNameOrSymbol with
      | .error failure => (failure, s)
      | .ok service =>
          let next := setChainId s service (requestedChainId chainNameOrSymbol network chainIdParam)
          (answer outside service (next service) address endpoint, next)
  | .dispatch chainId action address =>
      match routedService chainId with
      | none => (.notFound, s)
      | some service =>
          let routed := route s service chainId
          match action with
          | .getBalances =>
              (match service.getBalances outside address chainId.toNat none with
                | some balances => .routedBalances chainId balances
                | none => .failed,
                setChainId routed service (some chainId))
          | .validateAddress =>
              (.routedValidation chainId (getChainName service (routed service)) address
                (isValidAddress outside service address), routed)
          | .getTransactions =>
              (match getAddressTransactionHashes outside service address with
                | some transactions =>
                    .routedTransactions chainId (getChainName service (routed service)) address
                      transactions
                | none => .failed,
                routed)

end Requests

/-- The mainnet of a chain. -/
def mainnetOf (c : ChainName) : ChainName := (chainInfo c).mainnetRef.getD c

/-- The id is that of a network of the chain. -/
def Belongs (chainId : Int) (c : ChainName) : Prop :=
  ∃ d, mainnetOf d = mainnetOf c ∧ chainId = (chainInfo d).id

/-- The id is that of a testnet of the chain. -/
def BelongsToTestnet (chainId : Int) (c : ChainName) : Prop :=
  ∃ d, mainnetOf d = mainnetOf c ∧ (chainInfo d).isMainnet = false ∧ chainId = (chainInfo d).id

section Claims
variable (outside : Outside)

/-- What the response reports belongs to the chain that is named. -/
structure Truthful (c : ChainName) (network chainIdParam : Option String)
    (reported : Int × Bool) : Prop where
  plain : Text.present chainIdParam = none → Text.present network = none →
    reported = (((chainInfo c).id : Int), !(chainInfo c).isMainnet)
  testnet : Text.present chainIdParam = none → network = some "testnet" →
    BelongsToTestnet reported.1 c
  belongs : Belongs reported.1 c

/-- A request is answered as if it were the first, and by the chain that it names. -/
def Honest (s : State) (request : Request) : Prop :=
  (step outside s request).1 = (step outside init request).1 ∧
    match request with
    | .chain _ chainNameOrSymbol _ network chainIdParam =>
        ∀ c, ServiceProxies.Spells chainNameOrSymbol c →
          ∀ reported ∈ (step outside s request).1.reported,
            Truthful c network chainIdParam reported
    | .dispatch .. => True

/-- A request that sets a chain id sets one of the chain. Any other finds the service as it was
at the start, and asks for no testnet; without parameters, it names a mainnet. The router finds
the Solana service with the name that it had at the start. -/
def Sound (s : State) : Request → Prop
  | .chain endpoint chainNameOrSymbol address network chainIdParam =>
      ∀ c service, ServiceProxies.Spells chainNameOrSymbol c → c ∈ service.chains →
        (endpoint = .getAddressTransactions →
          getAddressTransactionHashes outside service address ≠ none) →
        match requestedChainId chainNameOrSymbol network chainIdParam with
        | some chainId => Text.present chainIdParam ≠ none → Belongs chainId c
        | none => s service = init service ∧
            (Text.present chainIdParam = none → network ≠ some "testnet" ∧
              (Text.present network = none → (chainInfo c).isMainnet = true))
  | .dispatch chainId action _ => action ≠ .getBalances →
      routedService chainId = some .solanaService →
        getChainName .solanaService (s .solanaService) =
          getChainName .solanaService (init .solanaService)

end Claims

section Names
variable {x : String} {c : ChainName} {service : ChainService}

/-- The factory reads an input as a chain exactly if the input spells its name or its symbol. Upper
and lower case make no difference, and nothing else is accepted. -/
theorem normalizeChainInput_eq_some_iff :
    ChainServiceFactory.normalizeChainInput x = some c.value ↔ ServiceProxies.Spells x c := by
  refine ⟨fun h => ?_, ServiceProxies.normalizeChainInput_of_spells⟩
  unfold ChainServiceFactory.normalizeChainInput at h
  cases hSymbol : Text.lookup coinSymbolToChainMap (Text.toLowerCase x) with
  | own d =>
      have hName : d.value = c.value := by
        simpa [hSymbol, ChainInput.toLowerCase_value] using h
      obtain rfl := ChainName.value_injective hName
      refine .inr ?_
      unfold Text.lookup at hSymbol
      cases hFound : coinSymbolToChainMap.lookup (Text.toLowerCase x) with
      | some e => simpa [hFound] using hSymbol
      | none =>
          simp only [hFound] at hSymbol
          split at hSymbol <;> cases hSymbol
  | inherited => simp [hSymbol] at h
  | missing => exact .inl (by simpa [hSymbol] using h)

theorem lookup_value_iff :
    ChainServiceFactory.chainServiceTypes.lookup c.value = some service ↔ c ∈ service.chains := by
  cases service <;> cases c <;> decide

/-- The service of a request is the one whose chain it names. -/
theorem serviceOf_eq_ok_iff :
    serviceOf x = .ok service ↔ ∃ c ∈ service.chains, ServiceProxies.Spells x c := by
  unfold serviceOf
  constructor
  · intro h
    cases hName : ChainServiceFactory.normalizeChainInput x with
    | none => simp [hName] at h
    | some name =>
        cases hFound : ChainServiceFactory.chainServiceTypes.lookup name with
        | none => simp [hName, hFound] at h
        | some found =>
            obtain rfl : found = service := by simpa [hName, hFound] using h
            obtain ⟨c, rfl⟩ : ∃ c : ChainName, c.value = name := by
              have hNames : ∀ entry ∈ ChainServiceFactory.chainServiceTypes,
                  ∃ c ∈ ChainName.all, c.value = entry.1 := by decide
              obtain ⟨c, -, hValue⟩ := hNames _ (OrderedMap.mem_of_lookup hFound)
              exact ⟨c, hValue⟩
            exact ⟨c, lookup_value_iff.mp hFound, normalizeChainInput_eq_some_iff.mp hName⟩
  · rintro ⟨c, hChain, hSpells⟩
    rw [ServiceProxies.normalizeChainInput_of_spells hSpells]
    simp only [lookup_value_iff.mpr hChain]

/-- The factory answers with the instance of that service, whatever has been asked before. The
instance is created by the first request and kept. -/
theorem getChainService_of_serviceOf {s : ServiceProxies.State} (hInv : ServiceProxies.Inv s)
    (h : serviceOf x = .ok service) :
    (s.getChainService x).1 = .returned (.instance service) := by
  obtain ⟨c, hChain, hSpells⟩ := serviceOf_eq_ok_iff.mp h
  obtain ⟨chainServices, hAnswer, -⟩ := ServiceProxies.getChainService_of_known hInv
    (ServiceProxies.normalizeChainInput_of_spells hSpells) (lookup_value_iff.mpr hChain)
  rw [hAnswer]

theorem spells_unique {d : ChainName} (hc : ServiceProxies.Spells x c)
    (hd : ServiceProxies.Spells x d) : c = d := by
  have hName := ServiceProxies.normalizeChainInput_of_spells hc
  rw [ServiceProxies.normalizeChainInput_of_spells hd] at hName
  exact ChainName.value_injective (Option.some.inj hName).symm

/-- The chain id at the start is that of the mainnet of every chain of the service. Until a request
sets it, the endpoints answer with that id. -/
theorem init_eq_mainnet (h : c ∈ service.chains) :
    init service = ((chainInfo (mainnetOf c)).id : Int) := by
  revert h
  cases service <;> cases c <;> decide

theorem mainnetOf_mainnetOf (c : ChainName) : mainnetOf (mainnetOf c) = mainnetOf c := by
  cases c <;> decide

theorem isMainnet_mainnetOf (c : ChainName) : (chainInfo (mainnetOf c)).isMainnet = true := by
  cases c <;> decide

theorem mainnetOf_eq_self_iff : mainnetOf c = c ↔ (chainInfo c).isMainnet = true := by
  cases c <;> decide

/-- The network of a testnet request is a testnet of the chain that it names. The testnets of a
chain are the entries that refer to it as their mainnet. -/
theorem belongsToTestnet_of_testnetOf {d : ChainName} (hSpells : ServiceProxies.Spells x c)
    (h : testnetOf x = some d) : BelongsToTestnet (chainInfo d).id c := by
  have hFound := List.find?_some h
  have hReference : (chainInfo d).isMainnet = false ∧ (chainInfo d).mainnetRef.map ChainName.value =
      some x := by
    simpa using hFound
  obtain ⟨hTestnet, hMain⟩ := hReference
  obtain ⟨m, hRef, rfl⟩ := Option.map_eq_some_iff.mp hMain
  obtain rfl : m = c := spells_unique (.inl (ChainInput.toLowerCase_value m)) hSpells
  refine ⟨d, ?_, hTestnet, rfl⟩
  have hMainnet : mainnetOf d = m := by rw [mainnetOf, hRef, Option.getD_some]
  have hSelf := mainnetOf_mainnetOf d
  rw [hMainnet] at hSelf
  rw [hMainnet, hSelf]

end Names

section Steps
variable {outside : Outside} {s : State} {service : ChainService} {endpoint : Endpoint}
  {x address : String} {network chainIdParam : Option String}

/-- A request fails whatever the chain id is, or reports it. -/
theorem reported_answer (chainId : Int) :
    (answer outside service chainId address endpoint).reported =
      if endpoint = .getAddressTransactions ∧
          getAddressTransactionHashes outside service address = none then none
      else some (chainId, isTestnet service chainId) := by
  cases endpoint with
  | validateAddress => rfl
  | getAddressTransactions =>
      cases hHashes : getAddressTransactionHashes outside service address with
      | none => simp [answer, hHashes, Response.reported]
      | some hashes => simp [answer, hHashes, Response.reported]

/-- An endpoint whose first call fails answers nothing, whatever the chain id is. -/
theorem answer_eq_of_failed (hEndpoint : endpoint = .getAddressTransactions)
    (hHashes : getAddressTransactionHashes outside service address = none) (chainId : Int) :
    answer outside service chainId address endpoint = .failed := by
  rw [hEndpoint, answer, hHashes]

/-- Answers that report their chain ids are equal if these are. Nothing else in an answer depends on
what was asked before. -/
theorem answer_eq_iff (hReports : endpoint = .getAddressTransactions →
      getAddressTransactionHashes outside service address ≠ none) {chainId other : Int} :
    answer outside service chainId address endpoint =
      answer outside service other address endpoint ↔ chainId = other := by
  refine ⟨fun hEqual => ?_, fun hEqual => by rw [hEqual]⟩
  have hReported := congrArg Response.reported hEqual
  rw [reported_answer, reported_answer, if_neg (fun h => hReports h.1 h.2),
    if_neg (fun h => hReports h.1 h.2)] at hReported
  exact congrArg Prod.fst (Option.some.inj hReported)

/-- A request for a known chain is answered by its service, for the chain id of the query or else
for the one that the service has kept. -/
theorem step_chain (hService : serviceOf x = .ok service) :
    (step outside s (.chain endpoint x address network chainIdParam)).1 =
      answer outside service ((requestedChainId x network chainIdParam).getD (s service)) address
        endpoint := by
  simp only [step, hService]
  cases requestedChainId x network chainIdParam with
  | none => rfl
  | some chainId => simp [setChainId]

/-- Without a `chainId` the chain id comes from the testnet that is found. The first testnet of the
chain is taken, in the order of the constants. -/
theorem requestedChainId_of_network {chainId : Int} (hParam : Text.present chainIdParam = none)
    (h : requestedChainId x network chainIdParam = some chainId) :
    network = some "testnet" ∧ ∃ d, testnetOf x = some d ∧ chainId = (chainInfo d).id := by
  unfold requestedChainId at h
  rw [hParam] at h
  by_cases hNetwork : network = some "testnet"
  · refine ⟨hNetwork, ?_⟩
    simp only [if_pos hNetwork] at h
    obtain ⟨hFound, -⟩ := Option.filter_eq_some_iff.mp h
    obtain ⟨d, hTestnet, hId⟩ := Option.map_eq_some_iff.mp hFound
    exact ⟨d, hTestnet, hId.symm⟩
  · simp [hNetwork] at h

theorem service_unique {c : ChainName} {other : ChainService} (h : c ∈ service.chains)
    (hOther : c ∈ other.chains) : other = service :=
  Option.some.inj ((lookup_value_iff.mpr hOther).symm.trans (lookup_value_iff.mpr h))

/-- A request that reports its chain id is honest if the id does not come from the history,
and is truthful. -/
theorem honest_chain_iff {c : ChainName} (hChain : c ∈ service.chains)
    (hSpells : ServiceProxies.Spells x c)
    (hReports : endpoint = .getAddressTransactions →
      getAddressTransactionHashes outside service address ≠ none) :
    let chainId := (requestedChainId x network chainIdParam).getD (s service)
    Honest outside s (.chain endpoint x address network chainIdParam) ↔
      (requestedChainId x network chainIdParam = none → s service = init service) ∧
        Truthful c network chainIdParam (chainId, isTestnet service chainId) := by
  intro chainId
  have hService := serviceOf_eq_ok_iff.mpr ⟨c, hChain, hSpells⟩
  have hReported : (step outside s (.chain endpoint x address network chainIdParam)).1.reported =
      some (chainId, isTestnet service chainId) := by
    rw [step_chain hService, reported_answer, if_neg fun h => hReports h.1 h.2]
  have hSame : chainId = (requestedChainId x network chainIdParam).getD (init service) ↔
      (requestedChainId x network chainIdParam = none → s service = init service) := by
    cases hRequest : requestedChainId x network chainIdParam with
    | none => simp [chainId, hRequest]
    | some requested => simp [chainId, hRequest]
  unfold Honest
  rw [step_chain hService, step_chain hService, answer_eq_iff hReports, ← step_chain hService]
  refine and_congr hSame ?_
  rw [hReported]
  constructor
  · intro h
    exact h c hSpells _ rfl
  · rintro hTruthful d hOther reported hMember
    obtain rfl := Option.some.inj hMember
    obtain rfl := spells_unique hSpells hOther
    exact hTruthful

/-- The chain ids at the start are truthful for requests that ask for no testnet, and name a
mainnet if they have no parameters. -/
theorem truthful_init_iff {c : ChainName} (hChain : c ∈ service.chains) :
    Truthful c network chainIdParam (init service, isTestnet service (init service)) ↔
      (Text.present chainIdParam = none → network ≠ some "testnet" ∧
        (Text.present network = none → (chainInfo c).isMainnet = true)) := by
  have hInit := init_eq_mainnet hChain
  have hMainnet : isTestnet service (init service) = false := by
    cases service <;> decide
  rw [hMainnet, hInit]
  constructor
  · intro hTruthful hParam
    constructor
    · intro hNetwork
      obtain ⟨d, -, hTestnet, hId⟩ := hTruthful.testnet hParam hNetwork
      obtain rfl := chainInfo_id_injective (Int.ofNat.inj hId)
      rw [isMainnet_mainnetOf] at hTestnet
      cases hTestnet
    · intro hNone
      have hPlain := congrArg Prod.snd (hTruthful.plain hParam hNone)
      simpa using hPlain.symm
  · intro hCondition
    constructor
    case plain =>
      intro hParam hNone
      have hSelf := (hCondition hParam).2 hNone
      rw [mainnetOf_eq_self_iff.mpr hSelf, hSelf]
      rfl
    case testnet => exact fun hParam hNetwork => absurd hNetwork (hCondition hParam).1
    case belongs => exact ⟨mainnetOf c, mainnetOf_mainnetOf c, rfl⟩

/-- A chain id that is set is truthful if it belongs to the chain, as that of a testnet that
was found does. -/
theorem truthful_requested_iff {c : ChainName} {chainId : Int} {testnet : Bool}
    (hSpells : ServiceProxies.Spells x c)
    (hRequest : requestedChainId x network chainIdParam = some chainId) :
    Truthful c network chainIdParam (chainId, testnet) ↔
      (Text.present chainIdParam ≠ none → Belongs chainId c) := by
  constructor
  · intro hTruthful _
    exact hTruthful.belongs
  · intro hBelongs
    by_cases hParam : Text.present chainIdParam = none
    · obtain ⟨hNetwork, d, hFound, rfl⟩ := requestedChainId_of_network hParam hRequest
      obtain ⟨e, hMainnet, hTestnet, hId⟩ := belongsToTestnet_of_testnetOf hSpells hFound
      refine ⟨fun _ hNone => ?_, fun _ _ => ⟨e, hMainnet, hTestnet, hId⟩, ⟨e, hMainnet, hId⟩⟩
      rw [hNetwork] at hNone
      exact absurd hNone (by decide)
    · exact ⟨fun h => absurd h hParam, fun h => absurd h hParam, hBelongs hParam⟩

/-- A request for no registered chain is refused, whatever the chain ids are. -/
theorem honest_and_sound_of_refused {failure : Response} (hService : serviceOf x = .error failure) :
    Honest outside s (.chain endpoint x address network chainIdParam) ∧
      Sound outside s (.chain endpoint x address network chainIdParam) := by
  have hFailure : failure.reported = none := by
    unfold serviceOf at hService
    split at hService
    · cases hService
      rfl
    · split at hService <;> cases hService
      rfl
  constructor
  · refine ⟨by simp [step, hService], ?_⟩
    intro c _ reported hReported
    simp [step, hService, hFailure] at hReported
  · intro c service hSpells hChain
    rw [serviceOf_eq_ok_iff.mpr ⟨c, hChain, hSpells⟩] at hService
    cases hService

/-- A request whose endpoint fails at its first call reports no chain id, so there is nothing to be
wrong about. -/
theorem honest_of_failed (hService : serviceOf x = .ok service)
    (hEndpoint : endpoint = .getAddressTransactions)
    (hHashes : getAddressTransactionHashes outside service address = none) :
    Honest outside s (.chain endpoint x address network chainIdParam) := by
  have hFailed : ∀ t : State,
      (step outside t (.chain endpoint x address network chainIdParam)).1 = .failed := by
    intro t
    rw [step_chain hService, answer_eq_of_failed hEndpoint hHashes]
  refine ⟨by rw [hFailed, hFailed], ?_⟩
  intro c _ reported hReported
  rw [hFailed] at hReported
  cases hReported

/-- The condition on a request, once its chain and service are known. It says whether the request
fixes the chain id that it reports. -/
theorem sound_chain_iff {c : ChainName} (hChain : c ∈ service.chains)
    (hSpells : ServiceProxies.Spells x c) :
    Sound outside s (.chain endpoint x address network chainIdParam) ↔
      ((endpoint = .getAddressTransactions →
        getAddressTransactionHashes outside service address ≠ none) →
        match requestedChainId x network chainIdParam with
        | some chainId => Text.present chainIdParam ≠ none → Belongs chainId c
        | none => s service = init service ∧
            (Text.present chainIdParam = none → network ≠ some "testnet" ∧
              (Text.present network = none → (chainInfo c).isMainnet = true))) := by
  constructor
  · intro hSound
    exact hSound c service hSpells hChain
  · intro hCondition d other hOther hMember
    obtain rfl := spells_unique hSpells hOther
    obtain rfl := service_unique hChain hMember
    exact hCondition

/-- A request of a chain endpoint is honest exactly if it is sound. Where its answer reports no
chain id both hold. -/
theorem honest_iff_sound_chain :
    Honest outside s (.chain endpoint x address network chainIdParam) ↔
      Sound outside s (.chain endpoint x address network chainIdParam) := by
  cases hService : serviceOf x with
  | error failure =>
      obtain ⟨hHonest, hSound⟩ := honest_and_sound_of_refused hService
      exact iff_of_true hHonest hSound
  | ok service =>
      obtain ⟨c, hChain, hSpells⟩ := serviceOf_eq_ok_iff.mp hService
      rw [sound_chain_iff hChain hSpells]
      by_cases hReports : endpoint = .getAddressTransactions →
          getAddressTransactionHashes outside service address ≠ none
      · refine (honest_chain_iff hChain hSpells hReports).trans ?_
        rw [forall_prop_of_true hReports]
        cases hRequest : requestedChainId x network chainIdParam with
        | some chainId =>
            simp only [reduceCtorEq, false_implies, true_and, Option.getD_some]
            exact truthful_requested_iff hSpells hRequest
        | none =>
            simp only [true_implies, Option.getD_none]
            refine and_congr_right fun hInit => ?_
            rw [hInit]
            exact truthful_init_iff hChain
      · have hFailed := hReports
        rw [Classical.not_imp, not_not] at hFailed
        exact iff_of_true (honest_of_failed hService hFailed.1 hFailed.2) fun h => absurd h hReports

/-- The router sets the chain id of an EVM service, which then answers with it. -/
theorem route_self (hEvm : service ≠ .solanaService) (chainId : Int) :
    route s service chainId service = chainId := by
  cases service with
  | solanaService => exact absurd rfl hEvm
  | ethereumService => simp [route, setChainId]
  | polygonService => simp [route, setChainId]
  | bscService => simp [route, setChainId]

/-- A routed request finds the name of an EVM service as it would at the start. That of the
Solana service comes from the history. -/
theorem getChainName_route_iff (chainId : Int) :
    getChainName service (route s service chainId service) =
        getChainName service (route init service chainId service) ↔
      (service = .solanaService → getChainName .solanaService (s .solanaService) =
        getChainName .solanaService (init .solanaService)) := by
  by_cases hSolana : service = .solanaService
  · subst hSolana
    exact ⟨fun hSame _ => hSame, fun hSame => hSame rfl⟩
  · rw [route_self hSolana, route_self hSolana]
    exact iff_of_true rfl fun h => absurd h hSolana

/-- A request that is dispatched by a chain id is honest exactly if it is sound. Only the Solana
service keeps an earlier id. -/
theorem honest_iff_sound_dispatch {chainId : Int} {action : RoutedAction} :
    Honest outside s (.dispatch chainId action address) ↔
      Sound outside s (.dispatch chainId action address) := by
  have hSound : Sound outside s (.dispatch chainId action address) ↔
      (action ≠ .getBalances → routedService chainId = some .solanaService →
        getChainName .solanaService (s .solanaService) =
          getChainName .solanaService (init .solanaService)) := Iff.rfl
  rw [Honest, and_true, hSound]
  cases hService : routedService chainId with
  | none => simp [step, hService]
  | some service =>
      rw [Option.some.injEq]
      cases action with
      | getBalances => simp [step, hService]
      | validateAddress =>
          have hRouted : RoutedAction.validateAddress ≠ .getBalances := nofun
          rw [forall_prop_of_true hRouted, ← getChainName_route_iff chainId]
          simp [step, hService]
      | getTransactions =>
          have hRouted : RoutedAction.getTransactions ≠ .getBalances := nofun
          rw [forall_prop_of_true hRouted, ← getChainName_route_iff chainId]
          cases hHashes : getAddressTransactionHashes outside service address with
          | some hashes => simp [step, hService, hHashes]
          | none =>
              have hEvm : service ≠ .solanaService := by
                rintro rfl
                cases hHashes
              simp [step, hService, hHashes, route_self hEvm]

end Steps

/-- The state after a request. -/
def next (outside : Outside) (s : State) (request : Request) : Option State :=
  some (step outside s request).2

/-- The requests of a history are honest just where they are sound. What an earlier request has set
shows in a later one that does not set it itself. -/
theorem history_honest_iff (outside : Outside) (history : List Request) :
    TransitionSystem.Meets (next outside) (Honest outside) init history ↔
      TransitionSystem.Meets (next outside) (Sound outside) init history := by
  refine TransitionSystem.meets_congr (fun s request => ?_) init history
  cases request with
  | chain endpoint x address network chainIdParam => exact honest_iff_sound_chain
  | dispatch chainId action address => exact honest_iff_sound_dispatch

def wallet : String := "0xd8dA6BF26964aF9D7eEd9e03E53415D37aA96045"

/-- A request for Goerli, then one without parameters. -/
def goerliFirst : List Request :=
  [.chain .validateAddress "ethereum" wallet none (some "5"),
    .chain .validateAddress "ethereum" wallet none none]

/-- The second request is answered with the chain id of the first. It asked for nothing in
particular and expects the mainnet. -/
theorem not_honest_goerliFirst :
    ¬ TransitionSystem.Meets (next NetworkRouting.answeringOutside)
      (Honest NetworkRouting.answeringOutside) init goerliFirst := by
  rintro ⟨-, ⟨hSame, -⟩, -⟩
  have hReported := congrArg Response.reported hSame
  revert hReported
  decide +kernel

end BalanceKit.ChainEndpoints
