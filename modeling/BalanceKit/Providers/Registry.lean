import BalanceKit.Chains.Addresses
import BalanceKit.Library.Js

/-! The registered providers: what their strategies ask, and how the facades and the
factory come to a strategy. -/
namespace BalanceKit

inductive NetworkType where
  | mainnet | testnet
  deriving DecidableEq, Repr

/-- The networks of the Alchemy SDK. -/
inductive Network where
  | ethMainnet | ethGoerli | ethSepolia | maticMainnet | maticMumbai | bnbMainnet | bnbTestnet
  | solanaMainnet | solanaDevnet
  deriving DecidableEq, Repr

def Network.chain : Network → ChainName
  | ethMainnet => .ethereum
  | ethGoerli => .ethereumGoerli
  | ethSepolia => .ethereumSepolia
  | maticMainnet => .polygon
  | maticMumbai => .polygonMumbai
  | bnbMainnet => .bsc
  | bnbTestnet => .bscTestnet
  | solanaMainnet => .solana
  | solanaDevnet => .solanaDevnet

/-- Where a request goes: to an SDK client of a network, to one of the two base URLs
of the Solana strategy, to the host of its portfolio calls, or to a QuickNode client. -/
inductive Endpoint where
  | alchemy (network : Network)
  | solanaRpc (isDevnet : Bool)
  | solanaPortfolio
  | quickNode (networkType : NetworkType)
  deriving DecidableEq, Repr

/-- The chain whose network answers there. -/
def Endpoint.chain : Endpoint → ChainName
  | alchemy network => network.chain
  | solanaRpc isDevnet => if isDevnet then .solanaDevnet else .solana
  -- `https://solana-mainnet.g.alchemy.com/nft/v3/`, whatever the base URL is
  | solanaPortfolio => .solana
  | quickNode .mainnet => .ethereum
  | quickNode .testnet => .ethereumSepolia

structure Answer where
  endpoint : Endpoint
  content : Js

/-- The answers that each part of a portfolio is read from. The adapters format the
three parts one by one. -/
structure RawBalances where
  nativeBalance : List Answer
  tokens : List Answer
  nfts : List Answer

/-- What the deployment and the networks contribute. A request without an answer has
failed, or its answer has not the shape that the code reads. -/
structure Outside where
  libraries : AddressLibraries
  config : String → Option String
  ask : Endpoint → String → Js → Option Js
  /-- The functions of a QuickNode client. -/
  offers : String → Bool
  /-- Whether the price lookup for the chain id returns. -/
  prices : Nat → RawBalances → Bool

/-- A setting that is present and not empty. -/
def Outside.setting (outside : Outside) (key : String) : Option String :=
  Text.present (outside.config key)

def Outside.request (outside : Outside) (endpoint : Endpoint) (method : String) (params : Js) :
    Option Answer :=
  (outside.ask endpoint method params).map fun content => ⟨endpoint, content⟩

variable (outside : Outside)

def EvmAlchemyStrategy.getRawBalances (client : Network) (address : String) :
    Option RawBalances := do
  let nativeBalance ← outside.request (.alchemy client) "getBalance" (.str address)
  let tokenBalances ← outside.request (.alchemy client) "getTokenBalances" (.str address)
  let tokenMetadataResults ← (tokenBalances.content.get "tokenBalances").items.mapM fun token =>
    outside.request (.alchemy client) "getTokenMetadata" (token.get "contractAddress")
  let nfts ← outside.request (.alchemy client) "getNftsForOwner" (.str address)
  return ⟨[nativeBalance], tokenBalances :: tokenMetadataResults, [nfts]⟩

namespace SolanaAlchemyStrategy

/-- The `mint` of a parsed token account. -/
def mintOf (account : Js) : Js :=
  let info := (((account.get "account").get "data").get "parsed").get "info"
  (info.get "mint").orElse (.str "")

/-- The token names come from files that the metadata accounts point to; a token
whose account or file is not answered stays without a name. -/
def getRawBalances (isDevnet : Bool) (address : String) : Option RawBalances := do
  let solBalance ← outside.request (.solanaRpc isDevnet) "getBalance" (.str address)
  let tokenAccounts ←
    outside.request (.solanaRpc isDevnet) "getTokenAccountsByOwner" (.str address)
  let metadata := (tokenAccounts.content.get "value").items.filterMap fun account =>
    outside.request (.solanaRpc isDevnet) "getProgramAccounts" (mintOf account)
  let nfts ← outside.request .solanaPortfolio "getNFTs" (.str address)
  return ⟨[solBalance], tokenAccounts :: metadata, [nfts]⟩

end SolanaAlchemyStrategy

/-- The function of this name of the QuickNode provider and of its strategy. -/
def ensureHexAddress (address : String) : String :=
  if address = "" then "0x0000000000000000000000000000000000000000"
  else
    let normalizedAddress := Text.toLowerCase address
    if "0x".toList.isPrefixOf normalizedAddress.toList then normalizedAddress
    else "0x" ++ normalizedAddress

namespace EvmQuickNodeStrategy

/-- Call a function that the client may lack. -/
def optional (client : NetworkType) (method address : String) : Option (List Answer) :=
  if outside.offers method then
    (outside.request (.quickNode client) method (.str address)).map fun answer => [answer]
  else some []

/-- An error in one of the optional calls is logged, and skips what comes after it. -/
def getRawBalances (client : NetworkType) (address : String) : Option RawBalances := do
  let nativeBalance ←
    outside.request (.quickNode client) "getBalance" (.str (ensureHexAddress address))
  match optional outside client "qn_fetchTokenBalances" address with
  | none => return ⟨[nativeBalance], [], []⟩
  | some tokens =>
      return ⟨[nativeBalance], tokens, (optional outside client "qn_fetchNFTs" address).getD []⟩

end EvmQuickNodeStrategy

namespace AlchemyProviderFacade

inductive Strategy where
  | evm (client : Network)
  | solana (isDevnet : Bool)
  deriving DecidableEq, Repr

def Strategy.getRawBalances (address : String) : Strategy → Option RawBalances
  | evm client => EvmAlchemyStrategy.getRawBalances outside client address
  | solana isDevnet => SolanaAlchemyStrategy.getRawBalances outside isDevnet address

def alchemyNetworkMap : ChainName → Network
  | .ethereum => .ethMainnet
  | .ethereumGoerli => .ethGoerli
  | .ethereumSepolia => .ethSepolia
  | .polygon => .maticMainnet
  | .polygonMumbai => .maticMumbai
  | .bsc => .bnbMainnet
  | .bscTestnet => .bnbTestnet
  | .solana => .solanaMainnet
  | .solanaDevnet => .solanaDevnet

def envPrefixMap : ChainName → String
  | .ethereum | .ethereumGoerli | .ethereumSepolia => "ETH"
  | .polygon | .polygonMumbai => "POLYGON"
  | .bsc | .bscTestnet => "BSC"
  | .solana | .solanaDevnet => "SOLANA"

def supportedAlchemyChains : List ChainName :=
  [.ethereum, .ethereumGoerli, .ethereumSepolia, .polygon, .polygonMumbai, .bsc, .bscTestnet,
    .solana, .solanaDevnet]

def evmChains : List ChainName :=
  [.ethereum, .ethereumGoerli, .ethereumSepolia, .polygon, .polygonMumbai, .bsc, .bscTestnet]

def solanaChains : List ChainName := [.solana, .solanaDevnet]

def globalAlchemyApiKey : Option String :=
  outside.setting "blockchain.alchemyApiKey" <|> outside.setting "ALCHEMY_API_KEY"

def defaultChain : ChainName :=
  ((outside.setting "ALCHEMY_DEFAULT_CHAIN").bind fun name =>
    supportedAlchemyChains.find? fun c => c.value == name).getD .ethereum

def isTestnet (chainName : ChainName) : Bool :=
  Text.includes chainName.value "_" || Text.includes chainName.value "testnet" ||
    Text.includes chainName.value "devnet"

/-- A chain name that is given and supported is used as it is. -/
def getChainName (networkType : NetworkType) (chainName : Option ChainName) : ChainName :=
  match chainName.filter supportedAlchemyChains.contains, networkType with
  | some c, _ => c
  | none, .testnet => (supportedAlchemyChains.find? isTestnet).getD .ethereumSepolia
  | none, .mainnet => defaultChain outside

def getApiKey (networkType : NetworkType) (chainName : Option ChainName) : Option String :=
  let resolvedChainName := getChainName outside networkType chainName
  let fallbackKeyEnvVar := "ALCHEMY_API_KEY_" ++ envPrefixMap resolvedChainName
  let keyEnvVar :=
    fallbackKeyEnvVar ++ if isTestnet resolvedChainName then "_TESTNET" else "_MAINNET"
  outside.setting keyEnvVar <|> outside.setting fallbackKeyEnvVar <|>
    globalAlchemyApiKey outside <|> outside.setting "ALCHEMY_API_KEY"

/-- The key of `initializeStrategies` for the chain. -/
def finalApiKey (chainName : ChainName) : Option String :=
  getApiKey outside (if isTestnet chainName then .testnet else .mainnet) (some chainName) <|>
    globalAlchemyApiKey outside

/-- The map that `initializeStrategies` fills. -/
def strategies (chainName : ChainName) : Option Strategy :=
  if supportedAlchemyChains.contains chainName && (finalApiKey outside chainName).isSome then
    if evmChains.contains chainName then some (.evm (alchemyNetworkMap chainName))
    else if solanaChains.contains chainName then some (.solana (chainName == .solanaDevnet))
    else none
  else none

def isSupported : Bool :=
  supportedAlchemyChains.any fun c => (strategies outside c).isSome

def getStrategy (networkType : NetworkType) (chainName : Option ChainName) : Option Strategy :=
  strategies outside (getChainName outside networkType chainName)

def getBalances (address : String) (networkType : NetworkType) (chainName : Option ChainName) :
    Option RawBalances :=
  let resolvedChainName := getChainName outside networkType chainName
  (getStrategy outside networkType (some resolvedChainName)).bind
    (Strategy.getRawBalances outside address)

end AlchemyProviderFacade

namespace EthereumQuickNodeProvider

def mainnetClient : Option NetworkType :=
  (outside.setting "QUICKNODE_ETH_MAINNET_URL").map fun _ => .mainnet

def testnetClient : Option NetworkType :=
  (outside.setting "QUICKNODE_ETH_TESTNET_URL").map fun _ => .testnet

/-- `EvmQuickNodeStrategy.getClient`. -/
def getClient : NetworkType → Option NetworkType
  | .testnet => testnetClient outside <|> mainnetClient outside
  | .mainnet => mainnetClient outside

/-- The strategy is registered for both network types when there is a mainnet client. -/
def isSupported : Bool := (mainnetClient outside).isSome

def getBalances (address : String) (networkType : NetworkType) : Option RawBalances :=
  if outside.libraries.isAddress address && isSupported outside then
    (getClient outside networkType).bind fun client =>
      EvmQuickNodeStrategy.getRawBalances outside client address
  else none

end EthereumQuickNodeProvider

/-- The classes with a `@Provider` decorator. -/
inductive ProviderClass where
  | alchemyProviderFacade | ethereumQuickNodeProvider
  deriving DecidableEq, Repr

namespace ProviderClass

def blockchainTypes : ProviderClass → List ChainName
  | alchemyProviderFacade => AlchemyProviderFacade.supportedAlchemyChains
  | ethereumQuickNodeProvider => [.ethereum]

def providerType : ProviderClass → ProviderType
  | alchemyProviderFacade => .alchemy
  | ethereumQuickNodeProvider => .quicknode

def isSupported : ProviderClass → Bool
  | alchemyProviderFacade => AlchemyProviderFacade.isSupported outside
  | ethereumQuickNodeProvider => EthereumQuickNodeProvider.isSupported outside

/-- The QuickNode provider takes no chain name. -/
def getBalances (address : String) (networkType : NetworkType) (chainName : ChainName) :
    ProviderClass → Option RawBalances
  | alchemyProviderFacade =>
      AlchemyProviderFacade.getBalances outside address networkType (some chainName)
  | ethereumQuickNodeProvider =>
      EthereumQuickNodeProvider.getBalances outside address networkType

end ProviderClass

namespace ProviderFactory

/-- The registrations, by chain and provider type. -/
def providers : List ((String × String) × ProviderClass) :=
  [ProviderClass.alchemyProviderFacade, .ethereumQuickNodeProvider].flatMap fun providerClass =>
    providerClass.blockchainTypes.map fun c =>
      ((c.value, providerClass.providerType.value), providerClass)

/-- An inherited member of the symbol table is the name of no registration. -/
def normalizeBlockchainType (input : String) : Option String :=
  let inputStr := Text.toLowerCase input
  if ChainName.all.any fun c => c.value == inputStr then some inputStr
  else match Text.lookup coinSymbolToChainMap inputStr with
    | .own c => some c.value
    | .inherited => none
    | .missing => some inputStr

def getProvider (blockchainType providerType : String) : Option ProviderClass := do
  let blockchain ← normalizeBlockchainType blockchainType
  let providerClass ← providers.lookup (blockchain, providerType)
  guard (providerClass.blockchainTypes.any fun c => c.value == blockchain)
  return providerClass

def getChainTypeFromChainId (chainId : Nat) : Option ChainName :=
  ChainName.all.find? fun c => (chainInfo c).id == chainId

def getEvmProvider (chainId : Nat) (providerType : String) : Option ProviderClass :=
  (getChainTypeFromChainId chainId).bind fun blockchainType =>
    getProvider blockchainType.value providerType

end ProviderFactory

end BalanceKit
