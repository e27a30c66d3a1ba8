import BalanceKit.Core.CacheMongo

/-! The portfolio that `getPortfolio` assembles from a chain service, and the two
ways in which it is read back: the Redis entry and the converted snapshot. -/
namespace BalanceKit

structure TokenMetadata where
  symbol : Option String
  decimals : Option Nat
  name : Option String
  deriving DecidableEq

structure TokenBalance where
  mint : String
  tokenMetadata : Option TokenMetadata
  balance : String
  deriving DecidableEq

structure NftMetadata where
  collectionName : Option String
  name : Option String
  image : Option String
  deriving DecidableEq

structure NftBalance where
  mint : String
  tokenId : Option String
  tokenMetadata : Option NftMetadata
  deriving DecidableEq

/-- What a provider answers. -/
structure BalancesResponse where
  nativeBalance : String
  tokens : List TokenBalance
  nfts : List NftBalance
  deriving DecidableEq

/-- `text || fallback`. -/
def textOr (text : Option String) (fallback : String) : Js :=
  .str ((Text.present text).getD fallback)

/-- `decimals || fallback`; zero is replaced too. -/
def decimalsOr (decimals : Option Nat) (fallback : Nat) : Js :=
  .num ((Text.nonzero decimals).getD fallback : Nat)

namespace AbstractEvmChainService

def toFungible (token : TokenBalance) : Js :=
  .obj [("mint", .str token.mint),
    ("symbol", textOr (token.tokenMetadata.bind TokenMetadata.symbol) "UNKNOWN"),
    ("decimals", decimalsOr (token.tokenMetadata.bind TokenMetadata.decimals) 18),
    ("balance", .str token.balance), ("usd", .num 0)]

def toNft (nft : NftBalance) : Js :=
  .obj [("mint", .str nft.mint), ("tokenId", textOr nft.tokenId "0"),
    ("collection",
      textOr (nft.tokenMetadata.bind NftMetadata.collectionName) "Unknown Collection"),
    ("name", textOr (nft.tokenMetadata.bind NftMetadata.name) "Unknown NFT"),
    ("image", textOr (nft.tokenMetadata.bind NftMetadata.image) "")]

/-- What a response is made of: the chain id, symbol and decimals that the service
reads when the provider has answered, and the answer. -/
structure Response where
  chainId : Nat
  symbol : String
  decimals : Option Nat
  balances : BalancesResponse
  deriving DecidableEq

/-- The object that `getBalances` returns, stamped in seconds. -/
def Response.toJs (r : Response) (seconds : Nat) : Js :=
  .obj [("chainId", .num r.chainId),
    ("nativeBalance",
      .obj [("symbol", textOr (some r.symbol) "UNKNOWN"), ("decimals", decimalsOr r.decimals 18),
        ("balance", .str r.balances.nativeBalance), ("usd", .num 0)]),
    ("fungibles", .arr (r.balances.tokens.map toFungible)),
    ("nfts", .arr (r.balances.nfts.map toNft)), ("updatedAt", .num seconds)]

end AbstractEvmChainService

namespace PriceableEvmChainService

/-- The values that the price lookup puts into a response. -/
structure Quote where
  native : Rat
  fungible : Js → Rat

/-- Fill in the `usd` fields. Testnets and services without prices keep zero. -/
def quoted (quote : Option Quote) (response : Js) : Js :=
  match quote with
  | none => response
  | some q =>
      (response.set "nativeBalance"
        ((response.get "nativeBalance").set "usd" (.num q.native))).set "fungibles"
        (.arr ((response.get "fungibles").items.map fun f => f.set "usd" (.num (q.fungible f))))

end PriceableEvmChainService

namespace SolanaService

def solSymbol : String := "SOL"

def solDecimals : Nat := 9

def toToken (token : TokenBalance) : Js :=
  .obj [("mint", .str token.mint), ("balance", .str token.balance),
    ("tokenMetadata",
      .obj [("symbol", textOr (token.tokenMetadata.bind TokenMetadata.symbol) "UNKNOWN"),
        ("decimals", decimalsOr (token.tokenMetadata.bind TokenMetadata.decimals) 9),
        ("name", textOr (token.tokenMetadata.bind TokenMetadata.name) "Unknown Token")])]

def toNft (nft : NftBalance) : Js :=
  .obj [("mint", .str nft.mint), ("tokenId", textOr nft.tokenId "0"),
    ("tokenMetadata",
      .obj [("name", textOr (nft.tokenMetadata.bind NftMetadata.name) "Unknown NFT"),
        ("image", textOr (nft.tokenMetadata.bind NftMetadata.image) ""),
        ("collection",
          .obj [("name", textOr (nft.tokenMetadata.bind NftMetadata.collectionName)
            "Unknown Collection")])])]

/-- The response of `getBalances`, stamped in seconds. -/
def toResponse (cluster : String) (balances : BalancesResponse) (seconds : Nat) : Js :=
  .obj [("cluster", .str cluster),
    ("nativeBalance",
      .obj [("symbol", .str solSymbol), ("decimals", .num solDecimals),
        ("balance", .str balances.nativeBalance), ("usd", .num 0)]),
    ("tokens", .arr (balances.tokens.map toToken)),
    ("nfts", .arr (balances.nfts.map toNft)), ("updatedAt", .num seconds)]

end SolanaService

/-- A response of one of the two chain families. -/
inductive ChainResponse where
  | evm (response : AbstractEvmChainService.Response)
      (quote : Option PriceableEvmChainService.Quote)
  | solana (cluster : String) (balances : BalancesResponse)

def ChainResponse.toJs (seconds : Nat) : ChainResponse → Js
  | .evm response quote => PriceableEvmChainService.quoted quote (response.toJs seconds)
  | .solana cluster balances => SolanaService.toResponse cluster balances seconds

namespace BalanceService

/-- The token list of a response: `fungibles` before `tokens`. -/
def getTokensFromBalanceData (balanceData : Js) : Js :=
  if balanceData.has "fungibles" && (balanceData.get "fungibles").isArray then
    balanceData.get "fungibles"
  else if balanceData.has "tokens" && (balanceData.get "tokens").isArray then
    balanceData.get "tokens"
  else .arr []

/-- The result that `getPortfolio` returns and emits for caching. -/
def toPortfolio (chainSymbol : String) (seconds : Nat) (balanceData : Js) : Js :=
  .obj [("nativeBalance", (balanceData.get "nativeBalance").orElse
      (.obj [("symbol", .str chainSymbol), ("decimals", .num 18), ("balance", .str "0")])),
    ("tokens", getTokensFromBalanceData balanceData),
    ("nfts", (balanceData.get "nfts").orElse (.arr [])),
    ("updatedAt", (balanceData.get "updatedAt").orElse (.num seconds))]

/-- A chain service that answers at `fetchedAt` milliseconds, and the portfolio
assembled at `assembledAt`. -/
def assembled (response : ChainResponse) (chainSymbol : String) (fetchedAt assembledAt : Nat) :
    Js :=
  toPortfolio chainSymbol (assembledAt / 1000) (response.toJs (fetchedAt / 1000))

end BalanceService

end BalanceKit
