import BalanceKit.Balances.ProviderAnswers
import BalanceKit.Balances.StorePaths

/-! The NFTs of a portfolio, from the answer of a provider to each of the places that a
portfolio is read from: the response, its entry in Redis and its snapshot. -/
namespace BalanceKit.NftPipeline
open BalanceService CacheMongoService ProviderAnswers Calls

/-- The NFT list of a provider's answers. -/
inductive RawNfts where
  | alchemy (ownedNfts : List EvmAlchemyStrategy.OwnedNft)
  | quickNode (assets : List EvmQuickNodeStrategy.RawNft)
  | solana (ownedNfts : List SolanaAlchemyStrategy.OwnedNft)

/-- What a source says about an NFT. -/
structure Reported where
  contract : String
  tokenId : String
  name : Option String
  collectionName : Option String
  image : Option String

/-- What a portfolio says about it. -/
structure Shown where
  mint : Js
  tokenId : Js
  name : Js
  collectionName : Js
  image : Js

namespace RawNfts

/-- An NFT without a name of its own has that of its contract. -/
def reported : RawNfts → List Reported
  | alchemy ownedNfts => ownedNfts.map fun nft =>
      ⟨nft.contractAddress, nft.tokenId, (Text.present nft.name).or nft.contractName,
        nft.contractName, nft.image⟩
  | quickNode assets => assets.map fun nft =>
      ⟨nft.collectionAddress, nft.tokenId, nft.name, nft.collectionName, nft.imageUrl⟩
  | solana ownedNfts => ownedNfts.map fun nft =>
      ⟨nft.contractAddress, nft.tokenId, nft.name, nft.collectionName, nft.image⟩

/-- The NFTs after the strategy and the adapter. -/
def adapted : RawNfts → List NftBalance
  | alchemy ownedNfts => ownedNfts.map EvmBalanceAdapter.toNft
  | quickNode assets => (assets.map EvmQuickNodeStrategy.toNft).map EvmQuickNodeAdapter.toNft
  | solana ownedNfts =>
      (ownedNfts.map SolanaAlchemyStrategy.toNft).map SolanaBalanceAdapter.toNft

/-- What is shown for a token id: the id itself, or on Solana the contract in its place. -/
def shownId : RawNfts → Reported → String
  | alchemy _, nft | quickNode _, nft => nft.tokenId
  | solana _, nft => nft.contract

/-- What becomes of an NFT on the way. -/
def pass (raw : RawNfts) (nft : Reported) : Shown where
  mint := .str nft.contract
  tokenId := .str (orText (some (raw.shownId nft)) "0")
  name := .str (orText nft.name "Unknown NFT")
  collectionName := .str (orText nft.collectionName "Unknown Collection")
  image := .str (orText nft.image "")

/-- The NFTs are of one contract, and on an EVM chain have one token id. An empty id is the
same as `0`. -/
def Alike : RawNfts → Reported → Reported → Prop
  | alchemy _, a, b | quickNode _, a, b =>
      a.contract = b.contract ∧
        (a.tokenId = b.tokenId ∨ a.tokenId ∈ ["", "0"] ∧ b.tokenId ∈ ["", "0"])
  | solana _, a, b => a.contract = b.contract

end RawNfts

/-- The rest of what a chain service puts into its response. -/
structure Service where
  chainId : Nat
  symbol : String
  decimals : Option Nat
  quote : Option PriceableEvmChainService.Quote
  cluster : String

/-- A provider with what its calls give. -/
inductive Source where
  | alchemy (answers : Answers ProviderAnswers.EvmAlchemyStrategy.Answer)
  | quickNode (offers : ProviderAnswers.EvmQuickNodeStrategy.Call → Bool)
      (answers : Answers ProviderAnswers.EvmQuickNodeStrategy.Answer)
  | solana (answers : Answers ProviderAnswers.SolanaAlchemyStrategy.Answer)

namespace Source

def getBalances : Source → Option BalancesResponse
  | alchemy answers => ProviderAnswers.EvmAlchemyStrategy.getBalances answers
  | quickNode offers answers => ProviderAnswers.EvmQuickNodeStrategy.getBalances offers answers
  | solana answers => ProviderAnswers.SolanaAlchemyStrategy.getBalances answers

/-- The NFT list that was answered. QuickNode is not asked after an error in the token list. -/
def rawNfts : Source → RawNfts
  | alchemy answers => .alchemy ((answers .getNftsForOwner).getD [])
  | quickNode offers answers =>
      if (ProviderAnswers.EvmQuickNodeStrategy.fetchTokens offers answers).isSome &&
          offers .qnFetchNFTs then
        .quickNode (((answers .qnFetchNFTs).getD none).getD [])
      else .quickNode []
  | solana answers => .solana ((answers .getNFTs).getD [])

def response (service : Service) (balances : BalancesResponse) : Source → ChainResponse
  | alchemy _ | quickNode _ _ =>
      .evm ⟨service.chainId, service.symbol, service.decimals, balances⟩ service.quote
  | solana _ => .solana service.cluster balances

/-- The NFTs of a portfolio, where the readers of its chain find them. -/
def shown (portfolio : Js) : Source → List Shown
  | alchemy _ | quickNode _ _ => (portfolio.get "nfts").items.map fun nft =>
      ⟨nft.get "mint", nft.get "tokenId", nft.get "name", nft.get "collection", nft.get "image"⟩
  | solana _ => (portfolio.get "nfts").items.map fun nft =>
      let tokenMetadata := nft.get "tokenMetadata"
      ⟨nft.get "mint", nft.get "tokenId", tokenMetadata.get "name",
        (tokenMetadata.get "collection").get "name", tokenMetadata.get "image"⟩

end Source

/-- An NFT of a response. -/
def ofBalance (nft : NftBalance) : Shown where
  mint := .str nft.mint
  tokenId := textOr nft.tokenId "0"
  name := textOr (nft.tokenMetadata.bind NftMetadata.name) "Unknown NFT"
  collectionName := textOr (nft.tokenMetadata.bind NftMetadata.collectionName) "Unknown Collection"
  image := textOr (nft.tokenMetadata.bind NftMetadata.image) ""

section Stages
open TokenPipeline
variable {text other : Option String} {fallback : String}

theorem orText_of_present {found : String} (h : Text.present text = some found) :
    orText text fallback = found := by
  rw [orText, h]
  rfl

theorem orText_of_absent (h : Text.present text = none) : orText text fallback = fallback := by
  rw [orText, h]
  rfl

/-- An empty default leaves the next stage to decide. The empty text counts as absent at every
stage, so nothing is lost by filling it in early. -/
theorem orText_orText_empty : orText (some (orText text "")) fallback = orText text fallback := by
  cases hPresent : Text.present text with
  | none =>
      rw [orText_of_absent hPresent, orText_of_absent hPresent]
      exact orText_of_absent rfl
  | some found =>
      rw [orText_of_present hPresent, orText_of_present hPresent]
      obtain rfl := Text.eq_some_of_present hPresent
      exact orText_of_present hPresent

/-- The text of two that is chosen before the default. -/
theorem orText_or : orText ((Text.present text).or other) fallback =
    orText text (orText other fallback) := by
  cases hPresent : Text.present text with
  | none =>
      rw [orText_of_absent hPresent]
      rfl
  | some found =>
      rw [orText_of_present hPresent]
      obtain rfl := Text.eq_some_of_present hPresent
      exact orText_of_present hPresent

theorem orText_ne_empty (h : fallback ≠ "") : orText text fallback ≠ "" := by
  cases hPresent : Text.present text with
  | none => rwa [orText_of_absent hPresent]
  | some found =>
      rw [orText_of_present hPresent]
      rintro rfl
      obtain rfl := Text.eq_some_of_present hPresent
      cases hPresent

/-- All stages together give every NFT the defaults of the last one. The defaults of earlier stages
are either empty or the same, and are replaced or kept. -/
theorem ofBalance_adapted (raw : RawNfts) :
    raw.adapted.map ofBalance = raw.reported.map raw.pass := by
  have hCollection : "Unknown Collection" ≠ "" := by decide
  have hName : "Unknown NFT" ≠ "" := by decide
  cases raw with
  | alchemy ownedNfts =>
      show List.map _ (List.map _ _) = List.map _ (List.map _ _)
      rw [List.map_map, List.map_map]
      apply List.map_congr_left
      intro nft _
      show Shown.mk _ _ (.str (orText (some (orText nft.name (orText nft.contractName _))) _))
          (.str (orText (some (orText nft.contractName _)) _))
          (.str (orText (some (orText nft.image _)) _)) =
        Shown.mk _ _ (.str (orText ((Text.present nft.name).or nft.contractName) _)) _ _
      rw [orText_or, orText_orText (orText_ne_empty hName), orText_orText hCollection,
        orText_orText_empty]
      rfl
  | quickNode assets =>
      show List.map _ (List.map _ (List.map _ _)) = List.map _ (List.map _ _)
      rw [List.map_map, List.map_map, List.map_map]
      apply List.map_congr_left
      intro nft _
      show Shown.mk _ _ (.str (orText (some (orText (some (orText nft.name _)) _)) _))
          (.str (orText (some (orText (some (orText nft.collectionName _)) _)) _))
          (.str (orText (some (orText (some (orText nft.imageUrl _)) _)) _)) = _
      rw [orText_orText hName, orText_orText hCollection, orText_orText_empty,
        orText_orText_empty, orText_orText_empty, orText_orText_empty]
      rfl
  | solana ownedNfts =>
      show List.map _ (List.map _ (List.map _ _)) = List.map _ (List.map _ _)
      rw [List.map_map, List.map_map, List.map_map]
      apply List.map_congr_left
      intro nft _
      show Shown.mk _ _ (.str (orText (some (orText nft.name _)) _))
          (.str (orText (some (orText nft.collectionName _)) _))
          (.str (orText (some (orText nft.image _)) _)) = _
      rw [orText_orText hName, orText_orText hCollection, orText_orText_empty]
      rfl

end Stages

/-- The strategy and the adapter hand on the list that was answered. -/
theorem nfts_getBalances {source : Source} {balances : BalancesResponse}
    (h : source.getBalances = some balances) : balances.nfts = source.rawNfts.adapted := by
  cases source with
  | alchemy answers =>
      obtain ⟨rawData, hRaw, rfl⟩ := Option.map_eq_some_iff.mp h
      simp only [ProviderAnswers.EvmAlchemyStrategy.getRawBalances, Option.bind_eq_bind,
        Option.bind_eq_some_iff, Option.pure_def, Option.some.injEq] at hRaw
      obtain ⟨nativeBalance, -, tokens, -, metadata, -, ownedNfts, hNfts, rfl⟩ := hRaw
      simp only [Source.rawNfts, hNfts]
      rfl
  | quickNode offers answers =>
      obtain ⟨rawData, hRaw, rfl⟩ := Option.map_eq_some_iff.mp h
      simp only [ProviderAnswers.EvmQuickNodeStrategy.getRawBalances, Option.bind_eq_bind,
        Option.bind_eq_some_iff, Option.pure_def] at hRaw
      obtain ⟨nativeBalance, -, hLists⟩ := hRaw
      cases hTokens : ProviderAnswers.EvmQuickNodeStrategy.fetchTokens offers answers with
      | none =>
          rw [hTokens] at hLists
          obtain rfl := Option.some.inj hLists
          simp only [Source.rawNfts, hTokens]
          rfl
      | some tokens =>
          rw [hTokens] at hLists
          obtain rfl := Option.some.inj hLists
          simp only [Source.rawNfts, hTokens, ProviderAnswers.EvmQuickNodeStrategy.fetchNfts]
          cases offers .qnFetchNFTs with
          | false => rfl
          | true => cases answers .qnFetchNFTs <;> rfl
  | solana answers =>
      obtain ⟨rawData, hRaw, rfl⟩ := Option.map_eq_some_iff.mp h
      simp only [ProviderAnswers.SolanaAlchemyStrategy.getRawBalances, Option.bind_eq_bind,
        Option.bind_eq_some_iff, Option.pure_def, Option.some.injEq] at hRaw
      obtain ⟨solBalance, -, accounts, -, ownedNfts, hNfts, rfl⟩ := hRaw
      simp only [Source.rawNfts, hNfts]
      rfl

/-- The response shows its NFTs, whatever else is in it. What a reader shows is a function of the
list that the adapter handed on. -/
theorem shown_storedPortfolio (source : Source) (service : Service)
    (balances : BalancesResponse) (fetchedAt assembledAt : Nat) :
    source.shown
        (StorePaths.storedPortfolio (source.response service balances) fetchedAt assembledAt).toJs =
      balances.nfts.map ofBalance := by
  cases source with
  | alchemy answers =>
      cases hQuote : service.quote with
      | none =>
          simp only [Source.response, hQuote]
          exact List.map_map ..
      | some quote =>
          simp only [Source.response, hQuote]
          exact List.map_map ..
  | quickNode offers answers =>
      cases hQuote : service.quote with
      | none =>
          simp only [Source.response, hQuote]
          exact List.map_map ..
      | some quote =>
          simp only [Source.response, hQuote]
          exact List.map_map ..
  | solana answers => exact List.map_map ..

theorem shown_congr (source : Source) {a b : Js} (h : a.get "nfts" = b.get "nfts") :
    source.shown a = source.shown b := by
  cases source <;> simp only [Source.shown, h]

/-- What tells an NFT from others. -/
def Shown.identity (nft : Shown) : Js × Js := (nft.mint, nft.tokenId)

/-- The default of a token id is one that an NFT may have. -/
theorem orText_zero_inj {id other : String} :
    orText (some id) "0" = orText (some other) "0" ↔
      id = other ∨ id ∈ ["", "0"] ∧ other ∈ ["", "0"] := by
  have hShown : ∀ id : String, orText (some id) "0" = if id = "" then "0" else id := by
    intro id
    by_cases hEmpty : id = ""
    · subst hEmpty
      rfl
    · rw [TokenPipeline.orText_eq_iff.mpr hEmpty, if_neg hEmpty]
  rw [hShown, hShown]
  simp only [List.mem_cons, List.not_mem_nil, or_false]
  by_cases hId : id = "" <;> by_cases hOther : other = "" <;> grind

/-- Two NFTs are shown under one identity just where they are alike for their source. On the EVM
chains this is the contract with the token id. A Solana NFT has its contract alone. -/
theorem RawNfts.identity_pass_eq_iff (raw : RawNfts) (a b : Reported) :
    (raw.pass a).identity = (raw.pass b).identity ↔ raw.Alike a b := by
  have hTexts : (raw.pass a).identity = (raw.pass b).identity ↔ a.contract = b.contract ∧
      orText (some (raw.shownId a)) "0" = orText (some (raw.shownId b)) "0" := by
    simp [Shown.identity, RawNfts.pass]
  rw [hTexts, orText_zero_inj]
  cases raw with
  | alchemy ownedNfts => exact Iff.rfl
  | quickNode assets => exact Iff.rfl
  | solana ownedNfts => exact ⟨And.left, fun hSame => ⟨hSame, .inl hSame⟩⟩

section Readers
variable {source : Source} {balances : BalancesResponse} (service : Service)
  (s m : Stores) (chain : ChainName) (chainId : Nat) (address : String)
  (provider : Option String) (chainSymbol : String)
  {fetchedAt assembledAt now redisTime mongoTime : Nat} (ttlSeconds : Option Nat)

/-- Whether a portfolio comes from the provider, from its entry in Redis or from its snapshot,
its NFTs are those that the provider reported, in their order, with defaults for what it did
not say. Two of them are mistaken for one another just where contract and token id are the
same, or the contract alone on Solana, whose token ids are not kept. -/
theorem nfts_everywhere (hAnswered : source.getBalances = some balances)
    (hRedisLive : redisTime < now + CacheService.defaultTtl * 1000)
    (hMongoLive : mongoTime < now + PortfolioCacheListener.mongoTtlSeconds * 1000)
    (hSnapshots : m.snapshots = (emitPortfolioUpdate s now chain chainId address
      (assembled (source.response service balances) chainSymbol fetchedAt assembledAt)
        provider).snapshots)
    (hGone : CacheService.get m.redis mongoTime
      (CacheKeyService.createPortfolioKey chain address provider) = none) :
    (∃ a b, (getPortfolioData (emitPortfolioUpdate s now chain chainId address
          (assembled (source.response service balances) chainSymbol fetchedAt assembledAt)
            provider) redisTime chain chainId address provider ttlSeconds).2 = .returned (some a) ∧
      (getPortfolioData m mongoTime chain chainId address provider ttlSeconds).2 = .returned (some b) ∧
      ∀ portfolio ∈ [assembled (source.response service balances) chainSymbol fetchedAt assembledAt,
          a, b], source.shown portfolio = source.rawNfts.reported.map source.rawNfts.pass) ∧
    ∀ nft ∈ source.rawNfts.reported, ∀ other ∈ source.rawNfts.reported,
      ((source.rawNfts.pass nft).identity = (source.rawNfts.pass other).identity ↔
        source.rawNfts.Alike nft other) := by
  have hShown := shown_storedPortfolio source service balances fetchedAt assembledAt
  rw [nfts_getBalances hAnswered, ofBalance_adapted] at hShown
  rw [StorePaths.assembled_eq] at hSnapshots ⊢
  refine ⟨?_, fun nft _ other _ => source.rawNfts.identity_pass_eq_iff nft other⟩
  · refine ⟨_, _, StorePaths.redis_path s hRedisLive chain chainId address provider _ ttlSeconds,
      StorePaths.mongo_path s m hMongoLive chain chainId address provider _ ttlSeconds hSnapshots
        hGone, ?_⟩
    intro portfolio hPortfolio
    simp only [List.mem_cons, List.not_mem_nil, or_false] at hPortfolio
    rcases hPortfolio with rfl | rfl | rfl
    · exact hShown
    · exact hShown
    · rw [shown_congr source (StorePaths.nfts_mongoResponse _ mongoTime)]
      exact hShown

end Readers

/-- A wallet with 1.5 ether and two NFTs of one contract, of which one has no name of its own. -/
def collector : Source :=
  .alchemy fun
    | .getBalance => some 1500000000000000000
    | .getTokenBalances => some []
    | .getTokenMetadata .. => none
    | .getNftsForOwner =>
        some [⟨"0xbc4ca0eda7647a8ab7c2061c2e118a18a936f13d", some "BoredApeYachtClub", "1234",
            none, none⟩,
          ⟨"0xbc4ca0eda7647a8ab7c2061c2e118a18a936f13d", some "BoredApeYachtClub", "5678",
            some "Ape", some "ipfs://ape"⟩]

def collectorBalances : BalancesResponse :=
  ⟨"1500000000000000000", [], collector.rawNfts.adapted⟩

def mainnet : Service := ⟨1, "ETH", some 18, none, ""⟩

/-- A collector of two NFTs of one contract, which are told apart by their token ids. -/
theorem nfts_everywhere_collector :
    (∃ a b, (getPortfolioData (emitPortfolioUpdate Stores.init 10000 .ethereum 1 "wallet"
          (assembled (collector.response mainnet collectorBalances) "ETH" 10000 10000) none) 20000
            .ethereum 1 "wallet" none none).2 = .returned (some a) ∧
      (getPortfolioData ⟨[], (emitPortfolioUpdate Stores.init 10000 .ethereum 1 "wallet"
          (assembled (collector.response mainnet collectorBalances) "ETH" 10000 10000)
            none).snapshots⟩ 600000 .ethereum 1 "wallet" none none).2 = .returned (some b) ∧
      ∀ portfolio ∈ [assembled (collector.response mainnet collectorBalances) "ETH" 10000 10000,
          a, b], collector.shown portfolio =
            collector.rawNfts.reported.map collector.rawNfts.pass) ∧
    ∀ nft ∈ collector.rawNfts.reported, ∀ other ∈ collector.rawNfts.reported,
      ((collector.rawNfts.pass nft).identity = (collector.rawNfts.pass other).identity ↔
        collector.rawNfts.Alike nft other) :=
  nfts_everywhere mainnet Stores.init _ .ethereum 1 "wallet" none "ETH" none rfl (by decide)
    (by decide) rfl rfl

end BalanceKit.NftPipeline
