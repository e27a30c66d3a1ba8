import Mathlib.Data.Option.Basic
import BalanceKit.Providers.Registry

/-! The network that a portfolio comes from when neither store has it: from the chain
name of the request through the chain service and the provider to the requests. -/
namespace BalanceKit

/-- The classes with a `@Chain` decorator. -/
inductive ChainService where
  | ethereumService | polygonService | bscService | solanaService
  deriving DecidableEq, Repr

namespace ChainService

/-- The mainnet of the service, and its testnets. -/
def chains : ChainService → List ChainName
  | ethereumService => [.ethereum, .ethereumSepolia]
  | polygonService => [.polygon, .polygonMumbai]
  | bscService => [.bsc, .bscTestnet]
  | solanaService => [.solana, .solanaDevnet]

def evmChain : ChainService → ChainName
  | ethereumService => .ethereum
  | polygonService => .polygon
  | bscService => .bsc
  | solanaService => .solana

def providerKey : ChainService → String
  | ethereumService => "blockchain.defaultProvider"
  | polygonService => "blockchain.polygonProvider"
  | bscService => "blockchain.bscProvider"
  | solanaService => "blockchain.defaultProvider"

end ChainService

namespace ChainServiceFactory

def chainServiceTypes : List (String × ChainService) :=
  [ChainService.ethereumService, .polygonService, .bscService, .solanaService].flatMap
    fun service => service.chains.map fun c => (Text.toLowerCase c.value, service)

/-- An inherited member of the symbol table has no lower case and makes this throw. -/
def normalizeChainInput (input : String) : Option String :=
  let lowercaseInput := Text.toLowerCase input
  match Text.lookup coinSymbolToChainMap lowercaseInput with
  | .own c => some (Text.toLowerCase c.value)
  | .inherited => none
  | .missing => some lowercaseInput

def getChainService (chainNameOrSymbol : String) : Option ChainService :=
  (normalizeChainInput chainNameOrSymbol).bind fun name => chainServiceTypes.lookup name

end ChainServiceFactory

section Services
variable (outside : Outside)

/-- The provider of the call, else the configured one, else Alchemy. -/
def ChainService.selectedProviderType (service : ChainService) (providerType : Option String) :
    String :=
  let getDefaultProvider := (outside.config service.providerKey).getD "alchemy"
  (Text.present providerType <|> Text.present (some getDefaultProvider)).getD "alchemy"

def getChainInfoByChainId (chainId : Nat) : Option BaseChainInfo :=
  (ChainName.all.map chainInfo).find? fun info => info.id == chainId

/-- `isTestnet` of the EVM services. -/
def isTestnetChainId (chainId : Nat) : Bool :=
  match getChainInfoByChainId chainId with
  | some info => !info.isMainnet
  | none => false

def AbstractEvmChainService.getBalances (service : ChainService) (address : String)
    (chainId : Nat) (providerType : Option String) : Option RawBalances := do
  guard (outside.libraries.isAddress address)
  let networkType := if isTestnetChainId chainId then NetworkType.testnet else .mainnet
  let provider ← ProviderFactory.getEvmProvider chainId
    (service.selectedProviderType outside providerType)
  guard (provider.isSupported outside)
  let currentChainName := ((getChainInfoByChainId chainId).map (·.name)).getD service.evmChain
  provider.getBalances outside address networkType currentChainName

/-- A price lookup that fails makes the whole call fail. -/
def PriceableEvmChainService.getBalances (service : ChainService) (address : String)
    (chainId : Nat) (providerType : Option String) : Option RawBalances := do
  let balances ← AbstractEvmChainService.getBalances outside service address chainId providerType
  guard (isTestnetChainId chainId || outside.prices chainId balances)
  return balances

def SolanaService.getBalances (address : String) (chainId : Nat) (providerType : Option String) :
    Option RawBalances := do
  guard (outside.libraries.isPublicKey address)
  let networkType := if chainId ≠ 101 then NetworkType.testnet else .mainnet
  let provider ← ProviderFactory.getProvider ChainName.solana.value
    (ChainService.solanaService.selectedProviderType outside providerType)
  guard (provider.isSupported outside)
  provider.getBalances outside address networkType .solana

def ChainService.getBalances (address : String) (chainId : Nat) (providerType : Option String) :
    ChainService → Option RawBalances
  | ethereumService =>
      PriceableEvmChainService.getBalances outside .ethereumService address chainId providerType
  | polygonService =>
      AbstractEvmChainService.getBalances outside .polygonService address chainId providerType
  | bscService =>
      AbstractEvmChainService.getBalances outside .bscService address chainId providerType
  | solanaService => SolanaService.getBalances outside address chainId providerType

end Services

namespace BalanceService

/-- An inherited member of the symbol table has no chain id, which `getPortfolio`
rejects like an unknown name. -/
def normalizeChainInput (chainNameOrSymbol : String) : Option ChainName :=
  let lowerCaseInput := Text.toLowerCase chainNameOrSymbol
  match ChainName.all.find? fun c => c.value == lowerCaseInput with
  | some c => some c
  | none =>
      match Text.lookup coinSymbolToChainMap lowerCaseInput with
      | .own c => some c
      | .inherited => none
      | .missing => none

/-- `getPortfolio` when nothing is cached: the chain that the result is returned and
emitted for, and the answers that it is made of. -/
def getPortfolio (outside : Outside) (providerFromContext : Option String)
    (chainNameOrSymbol address : String) : Option (ChainName × RawBalances) := do
  let chain ← normalizeChainInput chainNameOrSymbol
  let chainService ← ChainServiceFactory.getChainService chain.value
  guard (outside.libraries.isValidAddress chain address)
  let balanceData ←
    chainService.getBalances outside address (chainInfo chain).id providerFromContext
  return (chain, balanceData)

end BalanceService

namespace NetworkRouting

/-- All the answers come from the network of the chain. -/
def From (c : ChainName) (balances : RawBalances) : Prop :=
  ∀ answer ∈ balances.nativeBalance ++ balances.tokens ++ balances.nfts, answer.endpoint.chain = c

/-- Every portfolio that the call returns comes from the network of the chain that it
is returned and cached for. -/
def OwnNetwork (outside : Outside) (providerFromContext : Option String)
    (chainNameOrSymbol address : String) : Prop :=
  ∀ chain balances,
    BalanceService.getPortfolio outside providerFromContext chainNameOrSymbol address =
      some (chain, balances) → From chain balances

/-- Alchemy is selected and has a key for Solana mainnet, and its three requests
there for the address are answered. -/
def SolanaMainnetAnswers (outside : Outside) (providerFromContext : Option String)
    (address : String) : Prop :=
  outside.libraries.isPublicKey address = true ∧
    ChainService.solanaService.selectedProviderType outside providerFromContext = "alchemy" ∧
    (AlchemyProviderFacade.finalApiKey outside .solana).isSome = true ∧
    (outside.ask (.solanaRpc false) "getBalance" (.str address)).isSome = true ∧
    (outside.ask (.solanaRpc false) "getTokenAccountsByOwner" (.str address)).isSome = true ∧
    (outside.ask .solanaPortfolio "getNFTs" (.str address)).isSome = true

variable {outside : Outside} {endpoint : Endpoint} {method address : String} {c : ChainName}
  {balances : RawBalances}

theorem endpoint_request {params : Js} {answer : Answer}
    (h : outside.request endpoint method params = some answer) : answer.endpoint = endpoint := by
  obtain ⟨content, -, rfl⟩ := Option.map_eq_some_iff.mp h
  rfl

theorem endpoint_mapM_request {items : List Js} {params : Js → Js} {answers : List Answer}
    (h : (items.mapM fun item => outside.request endpoint method (params item)) = some answers) :
    ∀ answer ∈ answers, answer.endpoint = endpoint := by
  induction items generalizing answers with
  | nil =>
      obtain rfl : answers = [] := by simpa using h.symm
      simp
  | cons item rest ih =>
      simp only [List.mapM_cons, Option.bind_eq_bind, Option.bind_eq_some_iff] at h
      obtain ⟨first, hFirst, others, hOthers, hAnswers⟩ := h
      obtain rfl : first :: others = answers := Option.some.inj hAnswers
      intro answer hMember
      rcases List.mem_cons.mp hMember with rfl | hMember
      · exact endpoint_request hFirst
      · exact ih hOthers answer hMember

/-- The strategy asks for everything at the network of its client, so the whole of the balances is
from there. -/
theorem from_evmAlchemyStrategy {client : Network}
    (h : EvmAlchemyStrategy.getRawBalances outside client address = some balances) :
    From client.chain balances := by
  simp only [EvmAlchemyStrategy.getRawBalances, Option.bind_eq_bind,
    Option.bind_eq_some_iff] at h
  obtain ⟨native, hNative, tokens, hTokens, metadata, hMetadata, nfts, hNfts, hBalances⟩ := h
  obtain rfl := Option.some.inj hBalances
  intro answer hMember
  have hEndpoint : answer.endpoint = .alchemy client := by
    simp only [List.cons_append, List.nil_append, List.mem_cons, List.mem_append,
      List.not_mem_nil, or_false] at hMember
    rcases hMember with rfl | rfl | hMember | rfl
    · exact endpoint_request hNative
    · exact endpoint_request hTokens
    · exact endpoint_mapM_request hMetadata answer hMember
    · exact endpoint_request hNfts
  rw [hEndpoint]
  rfl

/-- Three answers of mainnet and of nothing else. -/
theorem from_solanaAlchemyStrategy
    (h : SolanaAlchemyStrategy.getRawBalances outside false address = some balances) :
    From .solana balances := by
  simp only [SolanaAlchemyStrategy.getRawBalances, Option.bind_eq_bind,
    Option.bind_eq_some_iff] at h
  obtain ⟨native, hNative, tokens, hTokens, nfts, hNfts, hBalances⟩ := h
  obtain rfl := Option.some.inj hBalances
  intro answer hMember
  have hEndpoint : answer.endpoint = .solanaRpc false ∨ answer.endpoint = .solanaPortfolio := by
    simp only [List.cons_append, List.nil_append, List.mem_cons, List.mem_append,
      List.mem_filterMap, List.not_mem_nil, or_false] at hMember
    rcases hMember with rfl | rfl | ⟨account, -, hAccount⟩ | rfl
    · exact .inl (endpoint_request hNative)
    · exact .inl (endpoint_request hTokens)
    · exact .inl (endpoint_request hAccount)
    · exact .inr (endpoint_request hNfts)
  rcases hEndpoint with hEndpoint | hEndpoint <;> rw [hEndpoint] <;> rfl

/-- The portfolio calls ignore the network that the strategy was built for. They are made with the
URL of the mainnet. -/
theorem nfts_solanaAlchemyStrategy {isDevnet : Bool}
    (h : SolanaAlchemyStrategy.getRawBalances outside isDevnet address = some balances) :
    ∀ answer ∈ balances.nfts, answer.endpoint.chain = .solana := by
  simp only [SolanaAlchemyStrategy.getRawBalances, Option.bind_eq_bind,
    Option.bind_eq_some_iff] at h
  obtain ⟨native, -, tokens, -, nfts, hNfts, hBalances⟩ := h
  obtain rfl := Option.some.inj hBalances
  intro answer hMember
  rw [List.mem_singleton.mp hMember, endpoint_request hNfts]
  rfl

/-- A call that may fail is answered by its own endpoint, or not at all. Its failure is caught and
leaves no trace of another endpoint. -/
theorem endpoint_optional {client : NetworkType} {answers : List Answer}
    (h : EvmQuickNodeStrategy.optional outside client method address = some answers) :
    ∀ answer ∈ answers, answer.endpoint = .quickNode client := by
  unfold EvmQuickNodeStrategy.optional at h
  split at h
  · obtain ⟨only, hOnly, rfl⟩ := Option.map_eq_some_iff.mp h
    intro answer hMember
    rw [List.mem_singleton.mp hMember]
    exact endpoint_request hOnly
  · obtain rfl : answers = [] := (Option.some.inj h).symm
    simp

/-- The QuickNode strategy asks one endpoint, which the network type has chosen. -/
theorem from_evmQuickNodeStrategy {client : NetworkType}
    (h : EvmQuickNodeStrategy.getRawBalances outside client address = some balances) :
    From (Endpoint.quickNode client).chain balances := by
  simp only [EvmQuickNodeStrategy.getRawBalances, Option.bind_eq_bind,
    Option.bind_eq_some_iff] at h
  obtain ⟨native, hNative, h⟩ := h
  have hNativeEndpoint := endpoint_request hNative
  split at h
  · obtain rfl := Option.some.inj h
    intro answer hMember
    obtain rfl : answer = native := by simpa using hMember
    rw [hNativeEndpoint]
  · rename_i tokens hTokens
    obtain rfl := Option.some.inj h
    intro answer hMember
    simp only [List.cons_append, List.nil_append, List.mem_cons, List.mem_append] at hMember
    rcases hMember with rfl | hMember | hMember
    · rw [hNativeEndpoint]
    · rw [endpoint_optional hTokens answer hMember]
    · cases hNfts : EvmQuickNodeStrategy.optional outside client "qn_fetchNFTs" address with
      | none => simp [hNfts] at hMember
      | some nfts =>
          rw [hNfts, Option.getD_some] at hMember
          rw [endpoint_optional hNfts answer hMember]

section Facades
open AlchemyProviderFacade

/-- A chain name that is given is the one whose strategy is used. The network type is looked at only
where the name is absent. -/
theorem getChainName_some (networkType : NetworkType) (c : ChainName) :
    getChainName outside networkType (some c) = c := by
  have hSupported : (some c).filter supportedAlchemyChains.contains = some c := by
    cases c <;> rfl
  unfold getChainName
  rw [hSupported]

/-- With a chain the facade asks the strategy of that chain, and the network type is not looked
at. -/
theorem facade_getBalances (networkType : NetworkType) (c : ChainName) :
    AlchemyProviderFacade.getBalances outside address networkType (some c) =
      (strategies outside c).bind (Strategy.getRawBalances outside address) := by
  simp only [AlchemyProviderFacade.getBalances, getStrategy, getChainName_some]

/-- Each chain has a strategy of its own, where there is a key. -/
theorem strategies_eq (c : ChainName) :
    strategies outside c = (finalApiKey outside c).map fun _ =>
      if evmChains.contains c then .evm (alchemyNetworkMap c)
      else .solana (c == .solanaDevnet) := by
  unfold strategies
  cases hKey : finalApiKey outside c with
  | none => simp
  | some key => cases c <;> rfl

theorem chain_alchemyNetworkMap (c : ChainName) : (alchemyNetworkMap c).chain = c := by
  cases c <;> rfl

/-- On every chain but Solana's devnet the facade stays on the chain's network. The strategy of the
devnet asks the mainnet, which is why it is excluded. -/
theorem from_facade {networkType : NetworkType} (hDevnet : c ≠ .solanaDevnet)
    (h : AlchemyProviderFacade.getBalances outside address networkType (some c) =
      some balances) : From c balances := by
  rw [facade_getBalances, strategies_eq, Option.bind_map] at h
  obtain ⟨key, -, hBalances⟩ := Option.bind_eq_some_iff.mp h
  by_cases hEvm : evmChains.contains c
  · simp only [Function.comp_apply, hEvm, if_true, Strategy.getRawBalances] at hBalances
    rw [← chain_alchemyNetworkMap c]
    exact from_evmAlchemyStrategy hBalances
  · obtain rfl : c = .solana := by
      cases c <;> simp_all [evmChains]
    exact from_solanaAlchemyStrategy hBalances

/-- Mainnet requests of the QuickNode provider go to the mainnet client. -/
theorem from_quickNode
    (h : EthereumQuickNodeProvider.getBalances outside address .mainnet = some balances) :
    From .ethereum balances := by
  unfold EthereumQuickNodeProvider.getBalances at h
  split at h
  · obtain ⟨client, hClient, hBalances⟩ := Option.bind_eq_some_iff.mp h
    obtain ⟨url, -, rfl⟩ := Option.map_eq_some_iff.mp hClient
    exact from_evmQuickNodeStrategy hBalances
  · cases h

end Facades

section Services
open ProviderFactory

theorem getChainTypeFromChainId_id (c : ChainName) :
    getChainTypeFromChainId (chainInfo c).id = some c := by
  cases c <;> rfl

theorem getChainInfoByChainId_id (c : ChainName) :
    getChainInfoByChainId (chainInfo c).id = some (chainInfo c) := by
  cases c <;> rfl

/-- A chain is taken for a testnet by its id exactly if its entry says so. The ids are unique, so it
cannot be that of another entry. -/
theorem isTestnetChainId_id (c : ChainName) :
    isTestnetChainId (chainInfo c).id = !(chainInfo c).isMainnet := by
  rw [isTestnetChainId, getChainInfoByChainId_id]

theorem chainInfo_name (c : ChainName) : (chainInfo c).name = c := by
  cases c <;> rfl

/-- A registration names the type of its class, and a chain that the class declares. -/
theorem mem_providers {blockchain providerType : String} {providerClass : ProviderClass}
    (h : ((blockchain, providerType), providerClass) ∈ providers) :
    providerType = providerClass.providerType.value ∧
      ∃ d ∈ providerClass.blockchainTypes, d.value = blockchain := by
  obtain ⟨registered, -, hEntry⟩ := List.mem_flatMap.mp h
  obtain ⟨d, hType, hSame⟩ := List.mem_map.mp hEntry
  obtain ⟨hKey, rfl⟩ := Prod.mk.inj hSame
  obtain ⟨hBlockchain, hProvider⟩ := Prod.mk.inj hKey
  exact ⟨hProvider.symm, d, hType, hBlockchain⟩

/-- A provider is found under its own type and on a chain that it declares. A class that declares
the chain under another type is not found. -/
theorem getProvider_spec {providerType : String} {providerClass : ProviderClass}
    (h : getProvider c.value providerType = some providerClass) :
    providerType = providerClass.providerType.value ∧ c ∈ providerClass.blockchainTypes := by
  have hNormal : normalizeBlockchainType c.value = some c.value := by
    cases c <;> decide
  simp only [getProvider, hNormal, Option.bind_some, Option.bind_eq_bind,
    Option.bind_eq_some_iff] at h
  obtain ⟨registered, hLookup, -, -, hClass⟩ := h
  obtain rfl : registered = providerClass := Option.some.inj hClass
  obtain ⟨hType, d, hMember, hValue⟩ := mem_providers (OrderedMap.mem_of_lookup hLookup)
  obtain rfl := ChainName.value_injective hValue
  exact ⟨hType, hMember⟩

theorem getProvider_alchemy (c : ChainName) :
    getProvider c.value "alchemy" = some .alchemyProviderFacade := by
  cases c <;> decide

/-- Besides the facade, only `ethereum` has a provider. -/
theorem getProvider_cases {providerType : String} {providerClass : ProviderClass}
    (h : getProvider c.value providerType = some providerClass) :
    providerClass = .alchemyProviderFacade ∨
      providerClass = .ethereumQuickNodeProvider ∧ c = .ethereum := by
  obtain ⟨-, hMember⟩ := getProvider_spec h
  cases providerClass with
  | alchemyProviderFacade => exact .inl rfl
  | ethereumQuickNodeProvider => exact .inr ⟨rfl, List.mem_singleton.mp hMember⟩

/-- The EVM services ask the provider for the chain of the id. The id is that of one entry of the
table, which names the chain. -/
theorem from_abstractEvmChainService {service : ChainService} {providerType : Option String}
    (hDevnet : c ≠ .solanaDevnet)
    (h : AbstractEvmChainService.getBalances outside service address (chainInfo c).id
      providerType = some balances) : From c balances := by
  simp only [AbstractEvmChainService.getBalances, getEvmProvider, getChainTypeFromChainId_id,
    getChainInfoByChainId_id, isTestnetChainId_id, Option.map_some, Option.getD_some,
    chainInfo_name, Option.bind_some, Option.bind_eq_bind, Option.bind_eq_some_iff] at h
  obtain ⟨-, -, providerClass, hProvider, -, -, hBalances⟩ := h
  rcases getProvider_cases hProvider with rfl | ⟨rfl, rfl⟩
  · exact from_facade hDevnet hBalances
  · exact from_quickNode hBalances

/-- A service with prices adds them to what the chain service answers, and leaves the balances
alone. -/
theorem from_priceableEvmChainService {service : ChainService} {providerType : Option String}
    (hDevnet : c ≠ .solanaDevnet)
    (h : PriceableEvmChainService.getBalances outside service address (chainInfo c).id
      providerType = some balances) : From c balances := by
  simp only [PriceableEvmChainService.getBalances, Option.bind_eq_bind,
    Option.bind_eq_some_iff] at h
  obtain ⟨fetched, hFetched, -, -, hBalances⟩ := h
  obtain rfl := Option.some.inj hBalances
  exact from_abstractEvmChainService hDevnet hFetched

/-- The Solana service asks for mainnet, whatever the chain id is. -/
theorem from_solanaService {chainId : Nat} {providerType : Option String}
    (h : SolanaService.getBalances outside address chainId providerType = some balances) :
    From .solana balances := by
  simp only [SolanaService.getBalances, Option.bind_eq_bind, Option.bind_eq_some_iff] at h
  obtain ⟨-, -, providerClass, hProvider, -, -, hBalances⟩ := h
  rcases getProvider_cases hProvider with rfl | ⟨-, hEthereum⟩
  · exact from_facade (by decide) hBalances
  · cases hEthereum

theorem mem_chains_of_getChainService {service : ChainService}
    (h : ChainServiceFactory.getChainService c.value = some service) : c ∈ service.chains := by
  cases c <;> cases service <;> first | decide | exact absurd h (by decide)

theorem solanaService_of_devnet {service : ChainService}
    (h : .solanaDevnet ∈ service.chains) : service = .solanaService := by
  cases service <;> first | rfl | exact absurd h (by decide)

/-- The service of a chain answers from the chain's network, and the Solana service
from mainnet on both of its chains. -/
theorem from_getBalances {service : ChainService} {providerType : Option String}
    (hService : ChainServiceFactory.getChainService c.value = some service)
    (h : service.getBalances outside address (chainInfo c).id providerType = some balances) :
    From (if c = .solanaDevnet then .solana else c) balances := by
  have hChain := mem_chains_of_getChainService hService
  have hDevnet : service ≠ .solanaService → c ≠ .solanaDevnet := by
    rintro hOther rfl
    exact hOther (solanaService_of_devnet hChain)
  cases service with
  | solanaService =>
      have hMainnet := from_solanaService h
      rcases List.mem_pair.mp hChain with rfl | rfl <;> exact hMainnet
  | ethereumService =>
      rw [if_neg (hDevnet (by decide))]
      exact from_priceableEvmChainService (hDevnet (by decide)) h
  | polygonService =>
      rw [if_neg (hDevnet (by decide))]
      exact from_abstractEvmChainService (hDevnet (by decide)) h
  | bscService =>
      rw [if_neg (hDevnet (by decide))]
      exact from_abstractEvmChainService (hDevnet (by decide)) h

/-- When the Solana service answers, and what. -/
theorem solanaService_eq_some {chainId : Nat} {providerType : Option String} :
    SolanaService.getBalances outside address chainId providerType = some balances ↔
      outside.libraries.isPublicKey address = true ∧
      ChainService.solanaService.selectedProviderType outside providerType = "alchemy" ∧
      (AlchemyProviderFacade.finalApiKey outside .solana).isSome = true ∧
      SolanaAlchemyStrategy.getRawBalances outside false address = some balances := by
  have hFacade : ∀ networkType, AlchemyProviderFacade.getBalances outside address networkType
      (some .solana) = (AlchemyProviderFacade.finalApiKey outside .solana).bind fun _ =>
        SolanaAlchemyStrategy.getRawBalances outside false address := by
    intro networkType
    rw [facade_getBalances, strategies_eq, Option.bind_map]
    rfl
  constructor
  · intro h
    simp only [SolanaService.getBalances, Option.bind_eq_bind, Option.bind_eq_some_iff] at h
    obtain ⟨_, hGuard, providerClass, hProvider, -, -, hBalances⟩ := h
    have hAddress := (Option.guard_eq_some' _).mp hGuard
    obtain ⟨hType, hMember⟩ := getProvider_spec hProvider
    cases providerClass with
    | ethereumQuickNodeProvider => exact absurd hMember (by decide)
    | alchemyProviderFacade =>
        rw [ProviderClass.getBalances, hFacade] at hBalances
        obtain ⟨key, hKey, hRaw⟩ := Option.bind_eq_some_iff.mp hBalances
        exact ⟨hAddress, hType, Option.isSome_of_eq_some hKey, hRaw⟩
  · rintro ⟨hAddress, hType, hKey, hRaw⟩
    have hSupported : ProviderClass.isSupported outside .alchemyProviderFacade = true := by
      apply List.any_eq_true.mpr
      exact ⟨.solana, by decide, by rw [strategies_eq, Option.isSome_map]; exact hKey⟩
    obtain ⟨key, hKey⟩ := Option.isSome_iff_exists.mp hKey
    simp only [SolanaService.getBalances, hAddress, hType, getProvider_alchemy, hSupported,
      ProviderClass.getBalances, hFacade, hKey, hRaw, Option.bind_eq_bind, guard_true,
      Option.pure_def, Option.bind_some]

/-- The strategy answers when its three requests do. -/
theorem solanaAlchemyStrategy_answers :
    (∃ balances, SolanaAlchemyStrategy.getRawBalances outside false address = some balances) ↔
      (outside.ask (.solanaRpc false) "getBalance" (.str address)).isSome = true ∧
      (outside.ask (.solanaRpc false) "getTokenAccountsByOwner" (.str address)).isSome = true ∧
      (outside.ask .solanaPortfolio "getNFTs" (.str address)).isSome = true := by
  simp only [SolanaAlchemyStrategy.getRawBalances, Outside.request]
  cases outside.ask (.solanaRpc false) "getBalance" (.str address) <;>
    cases outside.ask (.solanaRpc false) "getTokenAccountsByOwner" (.str address) <;>
      cases outside.ask .solanaPortfolio "getNFTs" (.str address) <;> simp

end Services

/-- What has to hold for a portfolio to be fetched: the input names a chain, the address is valid
there, and the service of the chain answers. -/
theorem getPortfolio_eq_some {context : Option String} {input : String} :
    BalanceService.getPortfolio outside context input address = some (c, balances) ↔
      BalanceService.normalizeChainInput input = some c ∧
      outside.libraries.isValidAddress c address = true ∧
      ∃ service, ChainServiceFactory.getChainService c.value = some service ∧
        service.getBalances outside address (chainInfo c).id context = some balances := by
  simp only [BalanceService.getPortfolio, Option.bind_eq_bind, Option.bind_eq_some_iff]
  constructor
  · rintro ⟨chain, hChain, service, hService, _, hGuard, fetched, hFetched, hResult⟩
    obtain ⟨rfl, rfl⟩ := Prod.mk.inj (Option.some.inj hResult)
    exact ⟨hChain, (Option.guard_eq_some' _).mp hGuard, service, hService, hFetched⟩
  · rintro ⟨hChain, hAddress, service, hService, hFetched⟩
    exact ⟨c, hChain, service, hService, (), (Option.guard_eq_some' ()).mpr hAddress, balances,
      hFetched, rfl⟩

/-- The devnet is served, from Solana mainnet, exactly when that answers. The chain id takes no part
in it. -/
theorem solanaMainnetAnswers_iff {chainId : Nat} {context : Option String} :
    SolanaMainnetAnswers outside context address ↔
      ∃ balances, SolanaService.getBalances outside address chainId context = some balances := by
  simp only [SolanaMainnetAnswers, solanaService_eq_some, exists_and_left,
    solanaAlchemyStrategy_answers]

/-- The native balance is an answer, so a portfolio is of one chain only. -/
theorem eq_of_from {d : ChainName}
    (h : SolanaAlchemyStrategy.getRawBalances outside false address = some balances)
    (hFrom : From d balances) : d = .solana := by
  have hMainnet := from_solanaAlchemyStrategy h
  simp only [SolanaAlchemyStrategy.getRawBalances, Option.bind_eq_bind,
    Option.bind_eq_some_iff] at h
  obtain ⟨native, -, tokens, -, nfts, -, hBalances⟩ := h
  obtain rfl := Option.some.inj hBalances
  have hMember : native ∈ [native] ++ (tokens :: (tokens.content.get "value").items.filterMap
      fun account => outside.request (.solanaRpc false) "getProgramAccounts"
        (SolanaAlchemyStrategy.mintOf account)) ++ [nfts] := by
    simp
  exact (hFrom native hMember).symm.trans (hMainnet native hMember)

/-- Every portfolio comes from its chain's own network, except that the devnet of
Solana is served from mainnet wherever mainnet answers. -/
theorem ownNetwork_iff (outside : Outside) (context : Option String) (input address : String) :
    OwnNetwork outside context input address ↔
      (BalanceService.normalizeChainInput input = some .solanaDevnet →
        ¬ SolanaMainnetAnswers outside context address) := by
  constructor
  · intro hOwn hInput hAnswers
    obtain ⟨balances, hBalances⟩ := solanaMainnetAnswers_iff.mp hAnswers
    have hPortfolio : BalanceService.getPortfolio outside context input address =
        some (.solanaDevnet, balances) :=
      getPortfolio_eq_some.mpr ⟨hInput, hAnswers.1, .solanaService, by decide, hBalances⟩
    have hRaw := (solanaService_eq_some.mp hBalances).2.2.2
    have hDevnet : ChainName.solanaDevnet = .solana :=
      eq_of_from hRaw (hOwn .solanaDevnet balances hPortfolio)
    cases hDevnet
  · intro hCondition chain balances hPortfolio
    obtain ⟨hInput, -, service, hService, hBalances⟩ := getPortfolio_eq_some.mp hPortfolio
    by_cases hDevnet : chain = .solanaDevnet
    · subst hDevnet
      obtain rfl := solanaService_of_devnet (mem_chains_of_getChainService hService)
      exact absurd (solanaMainnetAnswers_iff.mpr ⟨balances, hBalances⟩) (hCondition hInput)
    · have hFrom := from_getBalances hService hBalances
      rwa [if_neg hDevnet] at hFrom

def emptyWallet : Js := .obj [("value", .arr []), ("ownedNfts", .arr [])]

/-- A deployment with one Alchemy key whose requests are all answered. -/
def answeringOutside : Outside where
  libraries := uncheckedLibraries
  config key := if key = "ALCHEMY_API_KEY" then some "demo" else none
  ask _ _ _ := some emptyWallet
  offers _ := true
  prices _ _ := true

/-- A devnet portfolio that is made of mainnet answers. -/
theorem not_ownNetwork_solanaDevnet :
    ¬ OwnNetwork answeringOutside none "solana_devnet"
      "5vxoRv2P12q2YwUWQHQj9pEQRAEXjz8VQFtdoqAR7j4X" := by
  intro hOwn
  have hRaw : SolanaAlchemyStrategy.getRawBalances answeringOutside false
      "5vxoRv2P12q2YwUWQHQj9pEQRAEXjz8VQFtdoqAR7j4X" =
        some ⟨[⟨.solanaRpc false, emptyWallet⟩], [⟨.solanaRpc false, emptyWallet⟩],
          [⟨.solanaPortfolio, emptyWallet⟩]⟩ := rfl
  have hService : SolanaService.getBalances answeringOutside
      "5vxoRv2P12q2YwUWQHQj9pEQRAEXjz8VQFtdoqAR7j4X" (chainInfo .solanaDevnet).id none = some _ :=
    solanaService_eq_some.mpr ⟨by decide +kernel, by decide +kernel, by decide +kernel, hRaw⟩
  have hInput : BalanceService.normalizeChainInput "solana_devnet" = some .solanaDevnet := by
    decide +kernel
  have hPortfolio := getPortfolio_eq_some.mpr
    ⟨hInput, by decide +kernel, .solanaService, by decide +kernel, hService⟩
  have hNetwork : ChainName.solana = .solanaDevnet :=
    hOwn .solanaDevnet _ hPortfolio ⟨.solanaRpc false, emptyWallet⟩ (by simp)
  cases hNetwork

end NetworkRouting

end BalanceKit
