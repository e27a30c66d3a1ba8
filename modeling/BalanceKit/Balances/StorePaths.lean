import BalanceKit.Balances.Portfolio

/-! What a stored portfolio reads back as. The Redis path returns the assembled
object; the Mongo path renames its fields twice and stamps it anew. -/
namespace BalanceKit.StorePaths
open BalanceService DbService CacheMongoService

/-- The fields of the native balance that a caller sees. -/
def nativeView (r : Js) : List Js :=
  ["symbol", "decimals", "balance", "usd"].map (r.get "nativeBalance").get

/-- The fields of a token that a caller sees. -/
def tokenView (token : Js) : List Js :=
  ["mint", "address", "symbol", "name", "decimals", "balance", "usd", "tokenMetadata"].map
    token.get

def tokensView (r : Js) : List (List Js) := (r.get "tokens").items.map tokenView

/-- Two responses show the same portfolio. -/
def SamePortfolio (a b : Js) : Prop :=
  nativeView a = nativeView b ∧ tokensView a = tokensView b ∧ a.get "nfts" = b.get "nfts" ∧
    a.get "updatedAt" = b.get "updatedAt"

/-- An assembled portfolio: its decimals are not falsy and every token has a mint. -/
structure StoredPortfolio where
  native : List (String × Js)
  tokens : List Js
  nfts : List Js
  stamp : Nat
  decimals : ((Js.obj native).get "decimals").truthy = true
  mint : ∀ t ∈ tokens, ∃ m, t.get "mint" = .str m

/-- The object that is returned, emitted and written to Redis. -/
def StoredPortfolio.toJs (p : StoredPortfolio) : Js :=
  .obj [("nativeBalance", .obj p.native), ("tokens", .arr p.tokens), ("nfts", .arr p.nfts),
    ("updatedAt", .num p.stamp)]

theorem truthy_decimalsOr {decimals : Option Nat} {fallback : Nat} (h : fallback ≠ 0) :
    (decimalsOr decimals fallback).truthy = true := by
  have hNonzero : (Text.nonzero decimals).getD fallback ≠ 0 := by
    unfold Text.nonzero
    split
    · exact Nat.succ_ne_zero _
    · exact h
  exact Js.truthy_natCast hNonzero

/-- The stamp of the service, or the clock of the assembly when it is zero. A service that reports
no time is stamped when the response is put together. -/
theorem orElse_num (a b : Nat) :
    (Js.num a).orElse (.num b) = .num (if a = 0 then b else a : Nat) := by
  by_cases h : a = 0
  · simp [Js.orElse, Js.truthy, h]
  · simp [Js.orElse, Js.truthy, h]

/-- The stamp of an assembled portfolio in seconds. -/
def stampOf (fetchedAt assembledAt : Nat) : Nat :=
  if fetchedAt / 1000 = 0 then assembledAt / 1000 else fetchedAt / 1000

theorem stampOf_le {fetchedAt assembledAt : Nat} (h : fetchedAt ≤ assembledAt) :
    stampOf fetchedAt assembledAt ≤ assembledAt / 1000 := by
  unfold stampOf
  split
  · exact Nat.le_refl _
  · exact Nat.div_le_div_right h

/-- The assembled portfolio of each kind of response. -/
def storedPortfolio (response : ChainResponse) (fetchedAt assembledAt : Nat) : StoredPortfolio :=
  match response with
  | .evm r none =>
      { native := [("symbol", textOr (some r.symbol) "UNKNOWN"),
          ("decimals", decimalsOr r.decimals 18), ("balance", .str r.balances.nativeBalance),
          ("usd", .num 0)]
        tokens := r.balances.tokens.map AbstractEvmChainService.toFungible
        nfts := r.balances.nfts.map AbstractEvmChainService.toNft
        stamp := stampOf fetchedAt assembledAt
        decimals := truthy_decimalsOr (by decide)
        mint := by
          intro t ht
          obtain ⟨token, -, rfl⟩ := List.mem_map.mp ht
          exact ⟨token.mint, rfl⟩ }
  | .evm r (some quote) =>
      { native := [("symbol", textOr (some r.symbol) "UNKNOWN"),
          ("decimals", decimalsOr r.decimals 18), ("balance", .str r.balances.nativeBalance),
          ("usd", .num quote.native)]
        tokens := (r.balances.tokens.map AbstractEvmChainService.toFungible).map fun f =>
          f.set "usd" (.num (quote.fungible f))
        nfts := r.balances.nfts.map AbstractEvmChainService.toNft
        stamp := stampOf fetchedAt assembledAt
        decimals := truthy_decimalsOr (by decide)
        mint := by
          intro t ht
          obtain ⟨f, hf, rfl⟩ := List.mem_map.mp ht
          obtain ⟨token, -, rfl⟩ := List.mem_map.mp hf
          exact ⟨token.mint, rfl⟩ }
  | .solana _ balances =>
      { native := [("symbol", .str SolanaService.solSymbol),
          ("decimals", .num SolanaService.solDecimals), ("balance", .str balances.nativeBalance),
          ("usd", .num 0)]
        tokens := balances.tokens.map SolanaService.toToken
        nfts := balances.nfts.map SolanaService.toNft
        stamp := stampOf fetchedAt assembledAt
        decimals := Js.truthy_natCast (by decide)
        mint := by
          intro t ht
          obtain ⟨token, -, rfl⟩ := List.mem_map.mp ht
          exact ⟨token.mint, rfl⟩ }

theorem assembled_eq (response : ChainResponse) (chainSymbol : String)
    (fetchedAt assembledAt : Nat) :
    assembled response chainSymbol fetchedAt assembledAt =
      (storedPortfolio response fetchedAt assembledAt).toJs := by
  match response with
  | .evm r none =>
      rw [StoredPortfolio.toJs, storedPortfolio, stampOf, ← orElse_num]
      rfl
  | .evm r (some quote) =>
      rw [StoredPortfolio.toJs, storedPortfolio, stampOf, ← orElse_num]
      rfl
  | .solana cluster balances =>
      rw [StoredPortfolio.toJs, storedPortfolio, stampOf, ← orElse_num]
      rfl

/-- The stored portfolio carries the time of its fetch, in seconds where the chain service gives
one. -/
theorem stamp_storedPortfolio (response : ChainResponse) (fetchedAt assembledAt : Nat) :
    (storedPortfolio response fetchedAt assembledAt).stamp = stampOf fetchedAt assembledAt := by
  match response with
  | .evm _ none => rfl
  | .evm _ (some _) => rfl
  | .solana _ _ => rfl

/-- The document format of a portfolio. A second transformation keeps it, so it does not matter how
often it is applied on the way to the collection. -/
theorem transformPortfolioData_toJs (p : StoredPortfolio) :
    transformPortfolioData (transformPortfolioData p.toJs) =
      .obj [("nfts", .arr p.nfts), ("updatedAt", .num p.stamp), ("native", .obj p.native),
        ("blockNumber", .num 0), ("fungibles", .arr p.tokens)] := rfl

/-- What the snapshot of a portfolio is converted to. -/
def mongoResponse (p : StoredPortfolio) (now : Nat) : Js :=
  .obj
    [("nativeBalance",
      .obj [("symbol", (Js.obj p.native).get "symbol"),
        ("balance", (Js.obj p.native).get "balance"),
        ("decimals", (Js.obj p.native).get "decimals"),
        ("usd", (Js.obj p.native).get "usd")]),
      ("tokens", .arr (p.tokens.map toToken)), ("nfts", .arr p.nfts), ("updatedAt", .num now)]

/-- A token with a mint has fields to read. -/
theorem StoredPortfolio.not_isNullish (p : StoredPortfolio) :
    p.tokens.all (fun token => !token.isNullish) = true := by
  rw [List.all_eq_true]
  intro token hToken
  obtain ⟨mint, hMint⟩ := p.mint token hToken
  cases token with
  | obj fields => rfl
  | _ => cases hMint

/-- Fields that an earlier document left behind do not show, and nothing is missing for the
conversion. -/
theorem toBalanceResponse_spread (p : StoredPortfolio) (base : Js) (now : Nat) :
    toBalanceResponse now
        (base.spread (transformPortfolioData (transformPortfolioData p.toJs))) =
      some (mongoResponse p now) := by
  have hData : ∀ key, (base.spread (transformPortfolioData (transformPortfolioData p.toJs))).get key =
      if key = "fungibles" then .arr p.tokens
      else if key = "blockNumber" then .num 0
      else if key = "native" then .obj p.native
      else if key = "updatedAt" then .num p.stamp
      else if key = "nfts" then .arr p.nfts
      else (base.fields.lookup key).getD .undefined := by
    intro key
    rw [transformPortfolioData_toJs]
    simp only [Js.spread, Js.fields, Js.get, List.foldl, Js.lookup_setField]
    split_ifs <;> rfl
  have hNative := hData "native"
  have hFungibles := hData "fungibles"
  unfold toBalanceResponse guard
  rw [hNative, hFungibles]
  simp only [reduceIte, String.reduceEq, Js.items_arr, p.not_isNullish]
  simp [mongoResponse, hData, Js.orElse_of_truthy p.decimals, Js.isNullish]

/-- The Redis path answers with the stored object. The entry is parsed and handed on as it is,
without a conversion. -/
theorem redis_path (s : Stores) {now t : Nat} (hLive : t < now + CacheService.defaultTtl * 1000)
    (chain : ChainName) (chainId : Nat) (address : String) (provider : Option String)
    (p : StoredPortfolio) (ttlSeconds : Option Nat) :
    (getPortfolioData (emitPortfolioUpdate s now chain chainId address p.toJs provider) t chain
      chainId address provider ttlSeconds).2 = .returned (some p.toJs) := by
  have hGet : CacheService.get
      (emitPortfolioUpdate s now chain chainId address p.toJs provider).redis t
      (CacheKeyService.createPortfolioKey chain address provider) = some p.toJs :=
    CacheService.get_set s.redis _ p.toJs hLive
  have hTruthy : p.toJs.truthy = true := rfl
  simp [getPortfolioData, hGet, Option.filter, hTruthy]

/-- The Mongo path answers with the converted snapshot. The conversion starts from the document and
not from the portfolio that was saved. -/
theorem mongo_path (s m : Stores) {now t : Nat}
    (hLive : t < now + PortfolioCacheListener.mongoTtlSeconds * 1000)
    (chain : ChainName) (chainId : Nat) (address : String) (provider : Option String)
    (p : StoredPortfolio) (ttlSeconds : Option Nat)
    (hSnapshots : m.snapshots =
      (emitPortfolioUpdate s now chain chainId address p.toJs provider).snapshots)
    (hGone : CacheService.get m.redis t
      (CacheKeyService.createPortfolioKey chain address provider) = none) :
    (getPortfolioData m t chain chainId address provider ttlSeconds).2 =
      .returned (some (mongoResponse p t)) := by
  obtain ⟨d, base, hFound, hData⟩ := getPortfolioSnapshot_savePortfolioSnapshot hLive
    (transformPortfolioData p.toJs)
    (PortfolioMongoListener.savePortfolioSnapshot_handlePortfolioRedisUpdated
      (PortfolioCacheListener.handlePortfolioUpdate s now chain address p.toJs provider none) now
      chain chainId address p.toJs provider (some PortfolioCacheListener.mongoTtlSeconds))
  have hSnapshot : getPortfolioSnapshot m.snapshots t chainId address provider = some d := by
    rw [hSnapshots]
    exact hFound
  simp [getPortfolioData, hGone, hSnapshot, hData, toBalanceResponse_spread]

theorem nativeView_mongoResponse (p : StoredPortfolio) (now : Nat) :
    nativeView (mongoResponse p now) = nativeView p.toJs := rfl

theorem nfts_mongoResponse (p : StoredPortfolio) (now : Nat) :
    (mongoResponse p now).get "nfts" = p.toJs.get "nfts" := rfl

/-- Converting a token loses its mint, so only an empty list survives. The conversion writes the
address of a token, and no reader finds a mint there. -/
theorem tokensView_mongoResponse (p : StoredPortfolio) (now : Nat) :
    tokensView (mongoResponse p now) = tokensView p.toJs ↔ p.tokens = [] := by
  have hMongo : tokensView (mongoResponse p now) = (p.tokens.map toToken).map tokenView := rfl
  have hRedis : tokensView p.toJs = p.tokens.map tokenView := rfl
  rw [hMongo, hRedis]
  constructor
  · intro hSame
    cases hTokens : p.tokens with
    | nil => rfl
    | cons t rest =>
        obtain ⟨m, hMint⟩ := p.mint t (by simp [hTokens])
        rw [hTokens] at hSame
        have hHead : tokenView (toToken t) = tokenView t := (List.cons.inj hSame).1
        have hLost : (toToken t).get "mint" = t.get "mint" := (List.cons.inj hHead).1
        rw [hMint] at hLost
        cases hLost
  · intro hEmpty
    rw [hEmpty]
    rfl

/-- Seconds and milliseconds of a running clock never coincide. The conversion takes the clock of
the read, which is later than the stamp of the portfolio. -/
theorem updatedAt_mongoResponse (p : StoredPortfolio) {now : Nat} (hNow : p.stamp < now) :
    (mongoResponse p now).get "updatedAt" ≠ p.toJs.get "updatedAt" := by
  have hMongo : (mongoResponse p now).get "updatedAt" = .num now := rfl
  have hRedis : p.toJs.get "updatedAt" = .num p.stamp := rfl
  rw [hMongo, hRedis]
  intro hSame
  have hStamp : now = p.stamp := by exact_mod_cast Js.num.inj hSame
  omega

section Reads
variable (s m : Stores) (chain : ChainName) (chainId : Nat) (address : String)
  (provider : Option String) (response : ChainResponse) (chainSymbol : String)
  {fetchedAt assembledAt now redisTime mongoTime : Nat} (ttlSeconds : Option Nat)

/-- The two paths agree on the native balance and the NFTs, and on the tokens
exactly when there are none. -/
theorem paths_agree_on (hRedisLive : redisTime < now + CacheService.defaultTtl * 1000)
    (hMongoLive : mongoTime < now + PortfolioCacheListener.mongoTtlSeconds * 1000)
    (hSnapshots : m.snapshots = (emitPortfolioUpdate s now chain chainId address
      (assembled response chainSymbol fetchedAt assembledAt) provider).snapshots)
    (hGone : CacheService.get m.redis mongoTime
      (CacheKeyService.createPortfolioKey chain address provider) = none) :
    ∃ a b, (getPortfolioData (emitPortfolioUpdate s now chain chainId address
          (assembled response chainSymbol fetchedAt assembledAt) provider) redisTime chain chainId
          address provider ttlSeconds).2 = .returned (some a) ∧
      (getPortfolioData m mongoTime chain chainId address provider ttlSeconds).2 = .returned (some b) ∧
      nativeView b = nativeView a ∧ b.get "nfts" = a.get "nfts" ∧
      (tokensView b = tokensView a ↔ (a.get "tokens").items = []) := by
  rw [assembled_eq] at hSnapshots ⊢
  exact ⟨_, _, redis_path s hRedisLive chain chainId address provider _ ttlSeconds,
    mongo_path s m hMongoLive chain chainId address provider _ ttlSeconds hSnapshots hGone,
    nativeView_mongoResponse _ mongoTime, nfts_mongoResponse _ mongoTime,
    tokensView_mongoResponse _ mongoTime⟩

/-- No stored portfolio reads back the same from both stores. -/
theorem not_samePortfolio (hFetched : fetchedAt ≤ assembledAt)
    (hAssembled : assembledAt ≤ mongoTime) (hClock : 0 < mongoTime)
    (hRedisLive : redisTime < now + CacheService.defaultTtl * 1000)
    (hMongoLive : mongoTime < now + PortfolioCacheListener.mongoTtlSeconds * 1000)
    (hSnapshots : m.snapshots = (emitPortfolioUpdate s now chain chainId address
      (assembled response chainSymbol fetchedAt assembledAt) provider).snapshots)
    (hGone : CacheService.get m.redis mongoTime
      (CacheKeyService.createPortfolioKey chain address provider) = none) :
    ∃ a b, (getPortfolioData (emitPortfolioUpdate s now chain chainId address
          (assembled response chainSymbol fetchedAt assembledAt) provider) redisTime chain chainId
          address provider ttlSeconds).2 = .returned (some a) ∧
      (getPortfolioData m mongoTime chain chainId address provider ttlSeconds).2 = .returned (some b) ∧
      ¬ SamePortfolio a b := by
  have hStamp : (storedPortfolio response fetchedAt assembledAt).stamp < mongoTime := by
    have := stampOf_le hFetched
    rw [stamp_storedPortfolio]
    omega
  rw [assembled_eq] at hSnapshots ⊢
  exact ⟨_, _, redis_path s hRedisLive chain chainId address provider _ ttlSeconds,
    mongo_path s m hMongoLive chain chainId address provider _ ttlSeconds hSnapshots hGone,
    fun hSame => updatedAt_mongoResponse _ hStamp hSame.2.2.2.symm⟩

end Reads

/-- A Solana wallet without tokens, fetched and stored ten seconds into the clock. -/
def emptyWallet : ChainResponse := .solana "mainnet-beta" ⟨"5000000000", [], []⟩

/-- An empty wallet is enough: the two answers disagree about the time of the update. -/
theorem not_samePortfolio_emptyWallet :
    ∃ a b, (getPortfolioData (emitPortfolioUpdate Stores.init 10000 .solana 101 "wallet"
          (assembled emptyWallet "SOL" 10000 10000) none) 20000 .solana 101 "wallet" none none).2 =
        .returned (some a) ∧
      (getPortfolioData ⟨[], (emitPortfolioUpdate Stores.init 10000 .solana 101 "wallet"
          (assembled emptyWallet "SOL" 10000 10000) none).snapshots⟩ 600000 .solana 101 "wallet"
          none none).2 = .returned (some b) ∧
      ¬ SamePortfolio a b :=
  not_samePortfolio Stores.init _ .solana 101 "wallet" none emptyWallet "SOL" none
    (by decide) (by decide) (by decide) (by decide) (by decide) rfl rfl

/-- An Ethereum wallet that holds one token. -/
def tokenWallet : ChainResponse :=
  .evm ⟨1, "ETH", some 18,
    ⟨"1", [⟨"0x6b175474e89094c44da98b954eedeac495271d0f", some ⟨some "DAI", some 18, none⟩, "7"⟩],
      []⟩⟩ none

/-- The token has lost its mint once the Redis entry is gone. -/
theorem tokenWallet_differs :
    ∃ a b, (getPortfolioData (emitPortfolioUpdate Stores.init 10000 .ethereum 1 "wallet"
          (assembled tokenWallet "ETH" 10000 10000) none) 20000 .ethereum 1 "wallet" none none).2 =
        .returned (some a) ∧
      (getPortfolioData ⟨[], (emitPortfolioUpdate Stores.init 10000 .ethereum 1 "wallet"
          (assembled tokenWallet "ETH" 10000 10000) none).snapshots⟩ 600000 .ethereum 1 "wallet"
          none none).2 = .returned (some b) ∧
      ¬ SamePortfolio a b := by
  rw [assembled_eq]
  refine ⟨_, _, redis_path Stores.init (by decide) .ethereum 1 "wallet" none _ none,
    mongo_path Stores.init ⟨[], _⟩ (by decide) .ethereum 1 "wallet" none _ none rfl rfl, ?_⟩
  intro hSame
  have hTokens := (tokensView_mongoResponse _ 600000).mp hSame.2.1.symm
  cases hTokens

end BalanceKit.StorePaths
