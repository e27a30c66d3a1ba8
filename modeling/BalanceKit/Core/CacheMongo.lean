import BalanceKit.Core.CacheKey
import BalanceKit.Core.DbService

/-! The two stores behind `getPortfolio`: the read path with its Redis fill, the
two handlers that store a fetched portfolio, and the handler that invalidates an
address. Each operation takes the time at which it runs. -/
namespace BalanceKit

structure Stores where
  redis : RedisStore Js
  snapshots : List PortfolioSnapshot

def Stores.init : Stores := ⟨[], []⟩

/-- The metadata of an address activity that the handlers read. -/
structure AddressActivityEvent where
  chain : ChainName
  chainId : Nat
  address : String
  action : Option String
  deriving DecidableEq

namespace CacheMongoService
open CacheKeyService

/-- One entry of the token list that a snapshot is converted to. -/
def toToken (token : Js) : Js :=
  .obj [("address", token.get "address"), ("symbol", token.get "symbol"),
    ("name", token.get "name"), ("balance", token.get "balance"),
    ("decimals", token.get "decimals"), ("usd", token.get "usd"), ("logo", token.get "logo")]

/-- The conversion of a snapshot to a balance response. The response is stamped
with the clock in milliseconds. A snapshot without a native balance, or with a token that is
null, makes the conversion throw. -/
def toBalanceResponse (now : Nat) (dbData : Js) : Option Js := do
  guard (!(dbData.get "native").isNullish)
  guard ((dbData.get "fungibles").items.all fun token => !token.isNullish)
  return .obj
    [("nativeBalance",
      .obj [("symbol", (dbData.get "native").get "symbol"),
        ("balance", (dbData.get "native").get "balance"),
        ("decimals", ((dbData.get "native").get "decimals").orElse (.num 18)),
        ("usd", (dbData.get "native").get "usd")]),
      ("tokens",
        if (dbData.get "fungibles").truthy then
          .arr ((dbData.get "fungibles").items.map toToken)
        else .arr []),
      ("nfts", (dbData.get "nfts").orElse (.arr [])),
      ("updatedAt", .num now)]

/-- How a lookup ends: with an error, or with the data that was found. -/
inductive Lookup where
  | thrown
  | returned (data : Option Js)

/-- Redis answers first; a snapshot is converted, written to Redis and returned. An error of
the conversion is thrown on, before anything is written. -/
def getPortfolioData (s : Stores) (now : Nat) (chain : ChainName) (chainId : Nat)
    (address : String) (provider : Option String) (ttlSeconds : Option Nat) :
    Stores × Lookup :=
  let cacheKey := createPortfolioKey chain address provider
  match (CacheService.get s.redis now cacheKey).filter Js.truthy with
  | some cachedData => (s, .returned (some cachedData))
  | none =>
      match DbService.getPortfolioSnapshot s.snapshots now chainId address provider with
      | some d =>
          match toBalanceResponse now d.data with
          | some balanceResponse =>
              ({ s with redis := CacheService.set s.redis now cacheKey balanceResponse ttlSeconds },
                .returned (some balanceResponse))
          | none => (s, .thrown)
      | none => (s, .returned none)

/-- A lookup does not change the snapshots. What it stores in Redis is a copy of what it has
found. -/
theorem snapshots_getPortfolioData (stores : Stores) (now : Nat) (chain : ChainName)
    (chainId : Nat) (address : String) (provider : Option String) (ttlSeconds : Option Nat) :
    (getPortfolioData stores now chain chainId address provider
      ttlSeconds).1.snapshots = stores.snapshots := by
  unfold getPortfolioData
  dsimp only
  split
  · rfl
  · split
    · split <;> rfl
    · rfl

/-- Both stores are invalidated unless the activity reports an invalidation. -/
def handleAddressActivity (s : Stores) (now : Nat) (event : AddressActivityEvent) : Stores :=
  if event.action = some "cache_invalidated" then s
  else
    { snapshots :=
        DbService.invalidateAddressSnapshot s.snapshots now event.chain event.chainId
          event.address
      redis := (invalidateChainAddressCache s.redis event.chain event.chainId event.address).1 }

end CacheMongoService

namespace PortfolioCacheListener

/-- The snapshot outlives the Redis entry: thirty minutes. -/
def mongoTtlSeconds : Nat := 30 * 60

def handlePortfolioUpdate (s : Stores) (now : Nat) (chain : ChainName) (address : String)
    (portfolioData : Js) (provider : Option String) (ttlSeconds : Option Nat) : Stores :=
  { s with
    redis := CacheService.set s.redis now
      (CacheKeyService.createPortfolioKey chain address provider) portfolioData ttlSeconds }

end PortfolioCacheListener

namespace PortfolioMongoListener

/-- The portfolio of an event has none of the document's own fields. An error of the save is
logged. -/
def handlePortfolioRedisUpdated (s : Stores) (now : Nat) (chain : ChainName) (chainId : Nat)
    (address : String) (portfolioData : Js) (provider : Option String)
    (mongoTtlSeconds : Option Nat) : Stores :=
  { s with
    snapshots := (DbService.savePortfolioSnapshot s.snapshots now chain chainId address
      (.ofPortfolio (DbService.transformPortfolioData portfolioData)) provider
      mongoTtlSeconds).getD s.snapshots }

/-- The save of an event does not fail. Its data is that of a portfolio and names no key, so the
unique index is not violated. -/
theorem savePortfolioSnapshot_handlePortfolioRedisUpdated (s : Stores) (now : Nat)
    (chain : ChainName) (chainId : Nat) (address : String) (portfolioData : Js)
    (provider : Option String) (mongoTtlSeconds : Option Nat) :
    DbService.savePortfolioSnapshot s.snapshots now chain chainId address
        (.ofPortfolio (DbService.transformPortfolioData portfolioData)) provider mongoTtlSeconds =
      some (handlePortfolioRedisUpdated s now chain chainId address portfolioData provider
        mongoTtlSeconds).snapshots := by
  rw [handlePortfolioRedisUpdated,
    DbService.savePortfolioSnapshot_of_plain (DbService.namedKey_ofPortfolio _)]
  rfl

end PortfolioMongoListener

/-- What `emitPortfolioUpdate` causes: the Redis handler and, after it, the
snapshot handler. -/
def emitPortfolioUpdate (s : Stores) (now : Nat) (chain : ChainName) (chainId : Nat)
    (address : String) (portfolioData : Js) (provider : Option String) : Stores :=
  PortfolioMongoListener.handlePortfolioRedisUpdated
    (PortfolioCacheListener.handlePortfolioUpdate s now chain address portfolioData provider none)
    now chain chainId address portfolioData provider
    (some PortfolioCacheListener.mongoTtlSeconds)

/-- One access to the stores on behalf of `getPortfolio`. -/
inductive CacheStep where
  | getPortfolioData (now : Nat) (chain : ChainName) (address : String) (provider : Option String)
  | emitPortfolioUpdate (now : Nat) (chain : ChainName) (address : String) (portfolioData : Js)
      (provider : Option String)
  | handleAddressActivity (now : Nat) (event : AddressActivityEvent)

def CacheStep.apply (s : Stores) : CacheStep → Stores
  | .getPortfolioData now chain address provider =>
      (CacheMongoService.getPortfolioData s now chain (chainInfo chain).id address provider
        none).1
  | .emitPortfolioUpdate now chain address portfolioData provider =>
      BalanceKit.emitPortfolioUpdate s now chain (chainInfo chain).id address portfolioData
        provider
  | .handleAddressActivity now event => CacheMongoService.handleAddressActivity s now event

/-- The stores after a history of accesses. -/
def Stores.after (history : List CacheStep) : Stores :=
  history.foldl CacheStep.apply Stores.init

/-- Every snapshot is filed under the id of its own chain. -/
def Stores.ChainIdsAgree (s : Stores) : Prop :=
  ∀ d ∈ s.snapshots, d.chainId = (chainInfo d.chain).id

/-- Every step keeps the chain ids of the snapshots those of their chains. A save takes the id from
the same constant as the chain. -/
theorem chainIdsAgree_apply {s : Stores} (h : s.ChainIdsAgree) (step : CacheStep) :
    (step.apply s).ChainIdsAgree := by
  cases step with
  | getPortfolioData now chain address provider =>
      intro d hd
      refine h d ?_
      rwa [CacheStep.apply, CacheMongoService.snapshots_getPortfolioData] at hd
  | emitPortfolioUpdate now chain address portfolioData provider =>
      intro d hd
      have hSaved := PortfolioMongoListener.savePortfolioSnapshot_handlePortfolioRedisUpdated
        (PortfolioCacheListener.handlePortfolioUpdate s now chain address portfolioData provider
          none) now chain (chainInfo chain).id address portfolioData provider
        (some PortfolioCacheListener.mongoTtlSeconds)
      rcases DbService.mem_savePortfolioSnapshot hSaved hd with rfl | ⟨old, hOld, hMatch, rfl⟩ | hKept
      · rfl
      · exact (DbService.snapshotFilter_iff.mp hMatch).1
      · exact h d hKept
  | handleAddressActivity now event =>
      simp only [CacheStep.apply, CacheMongoService.handleAddressActivity]
      split
      · exact h
      · intro d hd
        obtain ⟨old, hOld, rfl⟩ := DbService.mem_invalidateAddressSnapshot.mp hd
        have hOldAgrees := h old hOld
        split <;> exact hOldAgrees

theorem chainIdsAgree_after (history : List CacheStep) : (Stores.after history).ChainIdsAgree := by
  have hFold : ∀ s : Stores, s.ChainIdsAgree →
      (history.foldl CacheStep.apply s).ChainIdsAgree := by
    induction history with
    | nil => exact fun s h => h
    | cons step rest ih => exact fun s h => ih _ (chainIdsAgree_apply h step)
  exact hFold _ fun d hd => by cases hd

end BalanceKit
