import BalanceKit.Library.OrderedMap
import BalanceKit.Library.Text

/-! The supported chains, the tables indexed by them, and the two ways in which
the code relates chains to Alchemy network identifiers. -/
namespace BalanceKit

inductive ChainName where
  | ethereum | solana | polygon | bsc
  | ethereumGoerli | ethereumSepolia | solanaDevnet | bscTestnet | polygonMumbai
  deriving DecidableEq, Repr

namespace ChainName

/-- The string that the enumeration stands for. -/
def value : ChainName → String
  | ethereum => "ethereum"
  | solana => "solana"
  | polygon => "polygon"
  | bsc => "bsc"
  | ethereumGoerli => "ethereum_goerli"
  | ethereumSepolia => "ethereum_sepolia"
  | solanaDevnet => "solana_devnet"
  | bscTestnet => "bsc_testnet"
  | polygonMumbai => "polygon_mumbai"

/-- Every chain, in the order of the keys of `CHAIN_INFO_MAP`. -/
def all : List ChainName :=
  [ethereum, solana, polygon, bsc, ethereumGoerli, ethereumSepolia, solanaDevnet, bscTestnet,
    polygonMumbai]

end ChainName

structure BaseChainInfo where
  id : Nat
  name : ChainName
  display : String
  coinSymbols : List String
  isMainnet : Bool
  mainnetRef : Option ChainName
  networkIdentifier : String
  deriving DecidableEq, Repr

/-- The entry of `CHAIN_INFO_MAP`. -/
def chainInfo : ChainName → BaseChainInfo
  | .ethereum => ⟨1, .ethereum, "Ethereum", ["eth", "ethereum"], true, none, "ETH_MAINNET"⟩
  | .solana => ⟨101, .solana, "Solana", ["sol", "solana"], true, none, "SOL_MAINNET"⟩
  | .polygon =>
      ⟨137, .polygon, "Polygon", ["poly", "matic", "polygon"], true, none, "POLY_MAINNET"⟩
  | .bsc => ⟨56, .bsc, "BNB Smart Chain", ["bsc", "bnb"], true, none, "BSC_MAINNET"⟩
  | .ethereumGoerli =>
      ⟨5, .ethereumGoerli, "Ethereum Goerli", ["eth", "ethereum", "goerli"], false,
        some .ethereum, "ETH_GOERLI"⟩
  | .ethereumSepolia =>
      ⟨11155111, .ethereumSepolia, "Ethereum Sepolia", ["eth", "ethereum", "sepolia"], false,
        some .ethereum, "ETH_SEPOLIA"⟩
  | .solanaDevnet =>
      ⟨103, .solanaDevnet, "Solana Devnet", ["sol", "solana", "devnet"], false, some .solana,
        "SOL_DEVNET"⟩
  | .bscTestnet =>
      ⟨97, .bscTestnet, "BNB Smart Chain Testnet", ["bsc", "bnb", "testnet"], false, some .bsc,
        "BSC_TESTNET"⟩
  | .polygonMumbai =>
      ⟨80001, .polygonMumbai, "Polygon Mumbai", ["poly", "matic", "polygon", "mumbai"], false,
        some .polygon, "POLY_MUMBAI"⟩

/-- The fields that `EVM_CHAIN_INFO_MAP` adds; the table has no other chains. -/
structure EvmChainInfo where
  symbol : String
  decimals : Nat
  deriving DecidableEq, Repr

def evmChainInfo : ChainName → Option EvmChainInfo
  | .ethereum => some ⟨"ETH", 18⟩
  | .polygon => some ⟨"MATIC", 18⟩
  | .bsc => some ⟨"BNB", 18⟩
  | .ethereumGoerli => some ⟨"ETH", 18⟩
  | .ethereumSepolia => some ⟨"ETH", 18⟩
  | .bscTestnet => some ⟨"BNB", 18⟩
  | .polygonMumbai => some ⟨"MATIC", 18⟩
  | .solana => none
  | .solanaDevnet => none

def isEvmChain (c : ChainName) : Bool :=
  [.ethereum, .polygon, .bsc, .ethereumGoerli, .ethereumSepolia, .bscTestnet,
    .polygonMumbai].contains c

/-- `NETWORK_ID_TO_CHAIN_MAP`, built from the table above. -/
def networkIdToChainMap : List (String × ChainName) :=
  ChainName.all.map fun c => ((chainInfo c).networkIdentifier, c)

/-- `getChainNameFromNetworkId`. An inherited member of the plain object is
truthy, so only a missing key gives null. -/
def getChainNameFromNetworkId (networkId : String) : Text.Lookup ChainName :=
  Text.lookup networkIdToChainMap networkId

/-- `getChainIdFromNetworkId`. Reading `.id` of the table entry throws where
the looked-up value is an inherited member. -/
def getChainIdFromNetworkId (networkId : String) : Except Unit (Option Nat) :=
  match Text.lookup networkIdToChainMap networkId with
  | .own c => .ok (some (chainInfo c).id)
  | .inherited => .error ()
  | .missing => .ok none

/-- `COIN_SYMBOL_TO_CHAIN_MAP`: the symbols and the names of the mainnets. -/
def coinSymbolToChainMap : List (String × ChainName) :=
  (ChainName.all.filter fun c => (chainInfo c).isMainnet).flatMap fun c =>
    (chainInfo c).coinSymbols.map (fun symbol => (Text.toLowerCase symbol, c)) ++
      [(Text.toLowerCase c.value, c)]

/-- `AlchemyNetworkUtils.getNetworkIdForChain`, whose table covers every chain. -/
def getNetworkIdForChain : ChainName → String
  | .ethereum => "ETH_MAINNET"
  | .ethereumGoerli => "ETH_GOERLI"
  | .ethereumSepolia => "ETH_SEPOLIA"
  | .polygon => "MATIC_MAINNET"
  | .polygonMumbai => "MATIC_MUMBAI"
  | .bsc => "BNB_MAINNET"
  | .bscTestnet => "BNB_TESTNET"
  | .solana => "SOLANA_MAINNET"
  | .solanaDevnet => "SOLANA_DEVNET"

inductive ProviderType where
  | alchemy | rpc | infura | quicknode | okx
  deriving DecidableEq, Repr

def ProviderType.value : ProviderType → String
  | alchemy => "alchemy"
  | rpc => "rpc"
  | infura => "infura"
  | quicknode => "quicknode"
  | okx => "okx"

/-- Chains are told apart by their name. -/
theorem ChainName.value_injective {c d : ChainName} (h : c.value = d.value) : c = d := by
  cases c <;> cases d <;> first | rfl | exact absurd h (by decide)

/-- No name has the character that keys are joined with. This is why the chain can be read off a key
by its first delimiters. -/
theorem ChainName.colon_not_mem_value (c : ChainName) : ':' ∉ c.value.toList := by
  cases c <;> decide

/-- Chains are told apart by their id. -/
theorem chainInfo_id_injective {c d : ChainName} (h : (chainInfo c).id = (chainInfo d).id) :
    c = d := by
  cases c <;> cases d <;> first | rfl | exact absurd h (by decide)

theorem chainInfo_id_pos (c : ChainName) : 0 < (chainInfo c).id := by
  cases c <;> decide

theorem getChainIdFromNetworkId_of_own {networkId : String} {c : ChainName}
    (h : getChainNameFromNetworkId networkId = .own c) :
    getChainIdFromNetworkId networkId = .ok (some (chainInfo c).id) := by
  unfold getChainNameFromNetworkId at h
  simp [getChainIdFromNetworkId, h]

theorem getChainNameFromNetworkId_eq_own {networkId : String} {c : ChainName} :
    getChainNameFromNetworkId networkId = .own c ↔ networkId = (chainInfo c).networkIdentifier := by
  constructor
  · intro h
    unfold getChainNameFromNetworkId Text.lookup at h
    split at h
    · rename_i d hLookup
      obtain rfl : d = c := by simpa using h
      have hEntry := OrderedMap.mem_of_lookup hLookup
      obtain ⟨e, -, hSame⟩ := List.mem_map.mp hEntry
      obtain ⟨hId, rfl⟩ := Prod.mk.inj hSame
      exact hId.symm
    · split at h <;> cases h
  · rintro rfl
    cases c <;> decide

end BalanceKit
