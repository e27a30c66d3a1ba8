import BalanceKit.Balances.ProviderAnswers

/-! The raw balances on their way from a strategy to an adapter. Both sides declare them as
`any`, so what passes is a plain object, and an adapter that does not find its lists throws. -/
namespace BalanceKit

namespace RawData

/-- The value of a field that may be missing. -/
def optionalText (text : Option String) : Js := (text.map Js.str).getD .undefined

def optionalNumber (number : Option Nat) : Js :=
  (number.map fun n => Js.num (n : Rat)).getD .undefined

/-- `value.key`, which throws where the value is undefined or null. -/
def member (value : Js) (key : String) : Option Js :=
  if value.isNullish then none else some (value.get key)

/-- The items that `value.map` goes through. Only an array has this method. -/
def mapped : Js → Option (List Js)
  | .arr items => some items
  | _ => none

/-- `toBalancesResponse` of an adapter, by the names of the fields that it reads and by what it
makes of each token and each NFT. -/
def toBalancesResponse (balanceField tokensField nftsField : String)
    (toToken toNft : Js → Option Js) (rawData : Js) : Option Js := do
  let balance ← member rawData balanceField
  let tokens ← (← mapped (rawData.get tokensField)).mapM toToken
  let nfts ← (← mapped (rawData.get nftsField)).mapM toNft
  return .obj [("nativeBalance", .obj [("balance", balance)]), ("tokens", .arr tokens),
    ("nfts", .arr nfts)]

/-- A token with its metadata in fields of its own. -/
def flatToken (mintField balanceField : String) (decimals : Nat) (token : Js) : Option Js := do
  let mint ← member token mintField
  return .obj [("mint", mint),
    ("tokenMetadata", .obj [("symbol", (token.get "symbol").orElse (.str "UNKNOWN")),
      ("decimals", (token.get "decimals").orElse (.num decimals)),
      ("name", (token.get "name").orElse (.str "Unknown Token"))]),
    ("balance", (token.get balanceField).orElse (.str "0"))]

end RawData

open RawData

def TokenMetadata.toJs (metadata : TokenMetadata) : Js :=
  .obj [("symbol", optionalText metadata.symbol), ("decimals", optionalNumber metadata.decimals),
    ("name", optionalText metadata.name)]

def TokenBalance.toJs (token : TokenBalance) : Js :=
  .obj [("mint", .str token.mint),
    ("tokenMetadata", (token.tokenMetadata.map TokenMetadata.toJs).getD .undefined),
    ("balance", .str token.balance)]

def NftMetadata.toJs (metadata : NftMetadata) : Js :=
  .obj [("name", optionalText metadata.name), ("image", optionalText metadata.image),
    ("collection", .obj [("name", optionalText metadata.collectionName)])]

def NftBalance.toJs (nft : NftBalance) : Js :=
  .obj [("mint", .str nft.mint), ("tokenId", optionalText nft.tokenId),
    ("tokenMetadata", (nft.tokenMetadata.map NftMetadata.toJs).getD .undefined)]

/-- The object that an adapter returns. -/
def BalancesResponse.toJs (response : BalancesResponse) : Js :=
  .obj [("nativeBalance", .obj [("balance", .str response.nativeBalance)]),
    ("tokens", .arr (response.tokens.map TokenBalance.toJs)),
    ("nfts", .arr (response.nfts.map NftBalance.toJs))]

namespace EvmAlchemyStrategy

def tokenToJs (token : EvmBalanceAdapter.Token) : Js :=
  .obj [("contractAddress", .str token.contractAddress),
    ("tokenBalance", .str token.tokenBalance),
    ("tokenMetadata", (token.tokenMetadata.map TokenMetadata.toJs).getD .undefined)]

/-- An NFT as the SDK answers with it. -/
def nftToJs (nft : OwnedNft) : Js :=
  .obj [("contract", .obj [("address", .str nft.contractAddress),
      ("name", optionalText nft.contractName)]),
    ("tokenId", .str nft.tokenId),
    ("raw", .obj [("metadata", .obj [("name", optionalText nft.name),
      ("image", optionalText nft.image)])])]

/-- The object at the end of `getRawBalances`. -/
def toJs (rawData : EvmBalanceAdapter.RawData) : Js :=
  .obj [("nativeBalance", .str rawData.nativeBalance),
    ("tokenBalances", .arr (rawData.tokenBalances.map tokenToJs)),
    ("ownedNfts", .arr (rawData.ownedNfts.map nftToJs))]

end EvmAlchemyStrategy

namespace EvmQuickNodeStrategy

def tokenToJs (token : EvmQuickNodeAdapter.Token) : Js :=
  .obj [("contractAddress", .str token.contractAddress), ("symbol", .str token.symbol),
    ("name", .str token.name), ("balance", .str token.balance), ("decimals", .num token.decimals)]

def nftToJs (nft : EvmQuickNodeAdapter.Nft) : Js :=
  .obj [("contractAddress", .str nft.contractAddress), ("tokenId", .str nft.tokenId),
    ("name", .str nft.name), ("symbol", .str nft.symbol),
    ("metadata", .obj [("image", .str nft.image)])]

/-- The object at the end of `getRawBalances`. -/
def toJs (rawData : EvmQuickNodeAdapter.RawData) : Js :=
  .obj [("nativeBalance", .str rawData.nativeBalance),
    ("tokens", .arr (rawData.tokens.map tokenToJs)), ("nfts", .arr (rawData.nfts.map nftToJs))]

end EvmQuickNodeStrategy

namespace SolanaAlchemyStrategy

def accountToJs (token : SolanaBalanceAdapter.Token) : Js :=
  .obj [("mint", .str token.mint), ("amount", .str token.amount), ("decimals", .num token.decimals),
    ("symbol", .str token.symbol), ("name", .str token.name)]

def nftToJs (nft : SolanaBalanceAdapter.Nft) : Js :=
  .obj [("mint", .str nft.mint), ("name", optionalText nft.name),
    ("image", optionalText nft.image), ("collectionName", optionalText nft.collectionName)]

/-- The object at the end of `getRawBalances`. -/
def toJs (rawData : SolanaBalanceAdapter.RawData) : Js :=
  .obj [("solBalance", .str rawData.solBalance),
    ("tokenAccounts", .arr (rawData.tokenAccounts.map accountToJs)),
    ("nfts", .arr (rawData.nfts.map nftToJs))]

end SolanaAlchemyStrategy

namespace EvmBalanceAdapter

def readToken (token : Js) : Option Js := do
  let mint ← member token "contractAddress"
  let tokenMetadata := token.get "tokenMetadata"
  return .obj [("mint", mint),
    ("tokenMetadata", .obj [("symbol", (tokenMetadata.get "symbol").orElse (.str "UNKNOWN")),
      ("decimals", (tokenMetadata.get "decimals").orElse (.num (18 : Nat))),
      ("name", (tokenMetadata.get "name").orElse (.str "Unknown Token"))]),
    ("balance", (token.get "tokenBalance").orElse (.str "0"))]

def readNft (nft : Js) : Option Js := do
  let raw ← member nft "raw"
  let metadata := raw.get "metadata"
  let contract := nft.get "contract"
  let mint ← member contract "address"
  return .obj [("mint", mint), ("tokenId", nft.get "tokenId"),
    ("tokenMetadata", .obj [
      ("name", (metadata.get "name").orElse ((contract.get "name").orElse (.str "Unknown NFT"))),
      ("image", (metadata.get "image").orElse (.str "")),
      ("collection", .obj [("name", (contract.get "name").orElse (.str "Unknown Collection"))])])]

/-- `toBalancesResponse` on whatever it is given. -/
def read : Js → Option Js :=
  RawData.toBalancesResponse "nativeBalance" "tokenBalances" "ownedNfts" readToken readNft

end EvmBalanceAdapter

namespace EvmQuickNodeAdapter

def readToken : Js → Option Js := flatToken "contractAddress" "balance" 18

def readNft (nft : Js) : Option Js := do
  let mint ← member nft "contractAddress"
  return .obj [("mint", mint), ("tokenId", nft.get "tokenId"),
    ("tokenMetadata", .obj [("name", (nft.get "name").orElse (.str "Unknown NFT")),
      ("image", ((nft.get "metadata").get "image").orElse (.str "")),
      ("collection", .obj [("name", (nft.get "symbol").orElse (.str "Unknown Collection"))])])]

/-- `toBalancesResponse` on whatever it is given. -/
def read : Js → Option Js :=
  RawData.toBalancesResponse "nativeBalance" "tokens" "nfts" readToken readNft

end EvmQuickNodeAdapter

namespace SolanaBalanceAdapter

def readToken : Js → Option Js := flatToken "mint" "amount" 9

def readNft (nft : Js) : Option Js := do
  let mint ← member nft "mint"
  return .obj [("mint", mint), ("tokenId", mint),
    ("tokenMetadata", .obj [("name", (nft.get "name").orElse (.str "Unknown NFT")),
      ("image", (nft.get "image").orElse (.str "")),
      ("collection", .obj [
        ("name", (nft.get "collectionName").orElse (.str "Unknown Collection"))])])]

/-- `toBalancesResponse` on whatever it is given. -/
def read : Js → Option Js :=
  RawData.toBalancesResponse "solBalance" "tokenAccounts" "nfts" readToken readNft

end SolanaBalanceAdapter

namespace RawData

/-- A default in the object is the default of the field. A strategy that leaves the field out and
one that leaves it empty are read alike. -/
theorem orElse_optionalText (text : Option String) (fallback : String) :
    (optionalText text).orElse (.str fallback) = .str (orText text fallback) := by
  cases text with
  | none => rfl
  | some found =>
      by_cases hEmpty : found = ""
      · subst hEmpty
        rfl
      · rw [orText, Text.present_some hEmpty]
        exact Js.orElse_of_truthy (by simpa [optionalText, Js.truthy] using hEmpty)

theorem orElse_optionalNumber (number : Option Nat) (fallback : Nat) :
    (optionalNumber number).orElse (.num fallback) = .num (orDecimals number fallback : Nat) := by
  match number with
  | none => rfl
  | some 0 => rfl
  | some (n + 1) => exact Js.orElse_of_truthy (Js.truthy_natCast (Nat.succ_ne_zero n))

theorem orElse_str (text fallback : String) :
    (Js.str text).orElse (.str fallback) = .str (orText (some text) fallback) :=
  orElse_optionalText (some text) fallback

theorem orElse_num (number fallback : Nat) :
    (Js.num number).orElse (.num fallback) = .num (orDecimals (some number) fallback : Nat) :=
  orElse_optionalNumber (some number) fallback

/-- Items that are all read are read in their order. -/
theorem mapM_map {Item Result : Type} {toJs : Item → Js} {read : Js → Option Js}
    {made : Item → Result} {resultToJs : Result → Js}
    (h : ∀ item, read (toJs item) = some (resultToJs (made item))) (items : List Item) :
    (items.map toJs).mapM read = some ((items.map made).map resultToJs) := by
  induction items with
  | nil => rfl
  | cons item rest ih =>
      rw [List.map_cons, List.mapM_cons, h, ih]
      rfl

section Adapter
variable {balanceField tokensField nftsField : String} {toToken toNft : Js → Option Js}
  {rawData balance : Js} {tokens nfts : List Js}

/-- An adapter that finds its fields answers with what it makes of them. -/
theorem toBalancesResponse_of_fields (hBalance : member rawData balanceField = some balance)
    {tokensMade nftsMade : List Js} (hTokens : rawData.get tokensField = .arr tokens)
    (hToken : tokens.mapM toToken = some tokensMade) (hNfts : rawData.get nftsField = .arr nfts)
    (hNft : nfts.mapM toNft = some nftsMade) :
    toBalancesResponse balanceField tokensField nftsField toToken toNft rawData =
      some (.obj [("nativeBalance", .obj [("balance", balance)]), ("tokens", .arr tokensMade),
        ("nfts", .arr nftsMade)]) := by
  simp [toBalancesResponse, hBalance, hTokens, hNfts, mapped, hToken, hNft]

/-- One that does not find its tokens throws. This is what happens to the raw data of another
strategy, whose fields have other names. -/
theorem toBalancesResponse_of_missing (h : rawData.get tokensField = .undefined) :
    toBalancesResponse balanceField tokensField nftsField toToken toNft rawData = none := by
  rw [toBalancesResponse, h]
  cases member rawData balanceField <;> rfl

end Adapter

end RawData

section Pairs

/-- A token with its metadata is read as the adapter shows it, with defaults for what is missing. -/
theorem EvmBalanceAdapter.readToken_tokenToJs (token : EvmBalanceAdapter.Token) :
    EvmBalanceAdapter.readToken (EvmAlchemyStrategy.tokenToJs token) =
      some (EvmBalanceAdapter.toToken token).toJs := by
  obtain ⟨contractAddress, tokenBalance, _ | metadata⟩ := token
  · exact congrArg some (congrArg (fun balance => Js.obj [_, _, ("balance", balance)])
      (orElse_str tokenBalance "0"))
  · show some (Js.obj [_, ("tokenMetadata", .obj [("symbol", (optionalText _).orElse _),
        ("decimals", (optionalNumber _).orElse _), ("name", (optionalText _).orElse _)]),
      ("balance", (Js.str tokenBalance).orElse _)]) = _
    rw [orElse_optionalText, orElse_optionalText, orElse_optionalNumber, orElse_str]
    rfl

/-- The name of the contract stands in for that of the NFT. -/
theorem EvmBalanceAdapter.readNft_nftToJs (nft : EvmAlchemyStrategy.OwnedNft) :
    EvmBalanceAdapter.readNft (EvmAlchemyStrategy.nftToJs nft) =
      some (EvmBalanceAdapter.toNft nft).toJs := by
  show some (Js.obj [_, _, ("tokenMetadata", .obj [
      ("name", (optionalText nft.name).orElse ((optionalText nft.contractName).orElse _)),
      ("image", (optionalText nft.image).orElse _),
      ("collection", .obj [("name", (optionalText nft.contractName).orElse _)])])]) = _
  simp only [orElse_optionalText]
  rfl

theorem EvmQuickNodeAdapter.readToken_tokenToJs (token : EvmQuickNodeAdapter.Token) :
    EvmQuickNodeAdapter.readToken (EvmQuickNodeStrategy.tokenToJs token) =
      some (EvmQuickNodeAdapter.toToken token).toJs := by
  show some (Js.obj [_, ("tokenMetadata", .obj [("symbol", (Js.str token.symbol).orElse _),
      ("decimals", (Js.num token.decimals).orElse (.num (18 : Nat))),
      ("name", (Js.str token.name).orElse _)]), ("balance", (Js.str token.balance).orElse _)]) = _
  simp only [orElse_str, orElse_num]
  rfl

theorem EvmQuickNodeAdapter.readNft_nftToJs (nft : EvmQuickNodeAdapter.Nft) :
    EvmQuickNodeAdapter.readNft (EvmQuickNodeStrategy.nftToJs nft) =
      some (EvmQuickNodeAdapter.toNft nft).toJs := by
  show some (Js.obj [_, _, ("tokenMetadata", .obj [("name", (Js.str nft.name).orElse _),
      ("image", (Js.str nft.image).orElse _),
      ("collection", .obj [("name", (Js.str nft.symbol).orElse _)])])]) = _
  simp only [orElse_str]
  rfl

/-- A token account holds its amount and its decimals two levels down, where the adapter looks for
them. -/
theorem SolanaBalanceAdapter.readToken_accountToJs (token : SolanaBalanceAdapter.Token) :
    SolanaBalanceAdapter.readToken (SolanaAlchemyStrategy.accountToJs token) =
      some (SolanaBalanceAdapter.toToken token).toJs := by
  show some (Js.obj [_, ("tokenMetadata", .obj [("symbol", (Js.str token.symbol).orElse _),
      ("decimals", (Js.num token.decimals).orElse (.num (9 : Nat))),
      ("name", (Js.str token.name).orElse _)]), ("balance", (Js.str token.amount).orElse _)]) = _
  simp only [orElse_str, orElse_num]
  rfl

theorem SolanaBalanceAdapter.readNft_nftToJs (nft : SolanaBalanceAdapter.Nft) :
    SolanaBalanceAdapter.readNft (SolanaAlchemyStrategy.nftToJs nft) =
      some (SolanaBalanceAdapter.toNft nft).toJs := by
  show some (Js.obj [_, _, ("tokenMetadata", .obj [("name", (optionalText nft.name).orElse _),
      ("image", (optionalText nft.image).orElse _),
      ("collection", .obj [("name", (optionalText nft.collectionName).orElse _)])])]) = _
  simp only [orElse_optionalText]
  rfl

/-- Each adapter makes of what its strategy returns the response that the two make together. The way
over an untyped object loses nothing that the adapter looks at. -/
theorem EvmBalanceAdapter.read_toJs (rawData : EvmBalanceAdapter.RawData) :
    EvmBalanceAdapter.read (EvmAlchemyStrategy.toJs rawData) =
      some (EvmBalanceAdapter.toBalancesResponse rawData).toJs :=
  toBalancesResponse_of_fields rfl rfl (mapM_map EvmBalanceAdapter.readToken_tokenToJs _) rfl
    (mapM_map EvmBalanceAdapter.readNft_nftToJs _)

theorem EvmQuickNodeAdapter.read_toJs (rawData : EvmQuickNodeAdapter.RawData) :
    EvmQuickNodeAdapter.read (EvmQuickNodeStrategy.toJs rawData) =
      some (EvmQuickNodeAdapter.toBalancesResponse rawData).toJs :=
  toBalancesResponse_of_fields rfl rfl (mapM_map EvmQuickNodeAdapter.readToken_tokenToJs _) rfl
    (mapM_map EvmQuickNodeAdapter.readNft_nftToJs _)

theorem SolanaBalanceAdapter.read_toJs (rawData : SolanaBalanceAdapter.RawData) :
    SolanaBalanceAdapter.read (SolanaAlchemyStrategy.toJs rawData) =
      some (SolanaBalanceAdapter.toBalancesResponse rawData).toJs :=
  toBalancesResponse_of_fields rfl rfl (mapM_map SolanaBalanceAdapter.readToken_accountToJs _) rfl
    (mapM_map SolanaBalanceAdapter.readNft_nftToJs _)

end Pairs

end BalanceKit
