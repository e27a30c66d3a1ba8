import BalanceKit.Balances.NftPipeline
import BalanceKit.Library.Conversion

/-! The native balance of a portfolio. It is a text from the strategy on, and every place that
a portfolio is read from still says the amount that the provider answered. -/
namespace BalanceKit.NativeBalance
open BalanceService CacheMongoService ProviderAnswers NftPipeline

/-- The amount that a provider answers. Solana answers with a number of the source language,
which holds whole amounts up to `2 ^ 53`. -/
def Answers (source : Source) (amount : Nat) : Prop :=
  match source with
  | .alchemy answers => answers .getBalance = some amount
  | .quickNode _ answers => answers .getBalance = some amount
  | .solana answers => answers .getBalance = some (amount : Rat) ∧ amount < 2 ^ 53

/-- The text of a portfolio, in the smallest unit of the chain. -/
def balanceOf (portfolio : Js) : Js := (portfolio.get "nativeBalance").get "balance"

theorem toText_natCast {amount : Nat} (hSafe : amount < 2 ^ 53) :
    Number.toText (.finite amount) = toString amount := by
  rcases Nat.eq_zero_or_pos amount with rfl | hPos
  · rfl
  · exact Number.toText_natCast hPos hSafe

/-- The strategy and the adapter hand on the amount as its digits. No arithmetic is done on it
before the readers convert it. -/
theorem nativeBalance_getBalances {source : Source} {balances : BalancesResponse} {amount : Nat}
    (h : source.getBalances = some balances) (hAmount : Answers source amount) :
    balances.nativeBalance = toString amount := by
  cases source with
  | alchemy answers =>
      obtain ⟨rawData, hRaw, rfl⟩ := Option.map_eq_some_iff.mp h
      simp only [ProviderAnswers.EvmAlchemyStrategy.getRawBalances, Option.bind_eq_bind,
        Option.bind_eq_some_iff, Option.pure_def, Option.some.injEq] at hRaw
      obtain ⟨nativeBalance, hNative, -, -, -, -, -, -, rfl⟩ := hRaw
      obtain rfl := Option.some.inj (hNative.symm.trans hAmount)
      rfl
  | quickNode offers answers =>
      obtain ⟨rawData, hRaw, rfl⟩ := Option.map_eq_some_iff.mp h
      simp only [ProviderAnswers.EvmQuickNodeStrategy.getRawBalances, Option.bind_eq_bind,
        Option.bind_eq_some_iff, Option.pure_def] at hRaw
      obtain ⟨nativeBalance, hNative, hLists⟩ := hRaw
      obtain rfl := Option.some.inj (hNative.symm.trans hAmount)
      -- an error in a list leaves the native balance as it was fetched
      cases hTokens : ProviderAnswers.EvmQuickNodeStrategy.fetchTokens offers answers <;>
        rw [hTokens] at hLists <;> obtain rfl := Option.some.inj hLists <;> rfl
  | solana answers =>
      obtain ⟨hAnswer, hSafe⟩ := hAmount
      obtain ⟨rawData, hRaw, rfl⟩ := Option.map_eq_some_iff.mp h
      simp only [ProviderAnswers.SolanaAlchemyStrategy.getRawBalances, Option.bind_eq_bind,
        Option.bind_eq_some_iff, Option.pure_def, Option.some.injEq] at hRaw
      obtain ⟨solBalance, hNative, -, -, -, -, rfl⟩ := hRaw
      obtain rfl := Option.some.inj (hNative.symm.trans hAnswer)
      exact toText_natCast hSafe

/-- The portfolio carries the text that the adapter has made of the amount. The portfolio is what
both stores are given, so both paths start from this text. -/
theorem balanceOf_storedPortfolio (source : Source) (service : Service)
    (balances : BalancesResponse) (fetchedAt assembledAt : Nat) :
    balanceOf (StorePaths.storedPortfolio (source.response service balances) fetchedAt
      assembledAt).toJs = .str balances.nativeBalance := by
  cases source with
  | alchemy answers =>
      cases hQuote : service.quote <;> simp only [Source.response, hQuote] <;> rfl
  | quickNode offers answers =>
      cases hQuote : service.quote <;> simp only [Source.response, hQuote] <;> rfl
  | solana answers => rfl

section Readers
variable {source : Source} {balances : BalancesResponse} {amount : Nat} (service : Service)
  (s m : Stores) (chain : ChainName) (chainId : Nat) (address : String)
  (provider : Option String) (chainSymbol : String)
  {fetchedAt assembledAt now redisTime mongoTime : Nat} (ttlSeconds : Option Nat)

/-- Whether a portfolio comes from the provider, from its entry in Redis or from its snapshot,
its native balance is one text, and `BigInt` reads from it the amount that was answered. -/
theorem native_everywhere (hAnswered : source.getBalances = some balances)
    (hAmount : Answers source amount)
    (hRedisLive : redisTime < now + CacheService.defaultTtl * 1000)
    (hMongoLive : mongoTime < now + PortfolioCacheListener.mongoTtlSeconds * 1000)
    (hSnapshots : m.snapshots = (emitPortfolioUpdate s now chain chainId address
      (assembled (source.response service balances) chainSymbol fetchedAt assembledAt)
        provider).snapshots)
    (hGone : CacheService.get m.redis mongoTime
      (CacheKeyService.createPortfolioKey chain address provider) = none) :
    ∃ text a b, BigInt.ofText text = some (amount : Int) ∧
      (getPortfolioData (emitPortfolioUpdate s now chain chainId address
          (assembled (source.response service balances) chainSymbol fetchedAt assembledAt)
            provider) redisTime chain chainId address provider ttlSeconds).2 = .returned (some a) ∧
      (getPortfolioData m mongoTime chain chainId address provider ttlSeconds).2 = .returned (some b) ∧
      ∀ portfolio ∈ [assembled (source.response service balances) chainSymbol fetchedAt assembledAt,
          a, b], balanceOf portfolio = .str text := by
  have hBalance := balanceOf_storedPortfolio source service balances fetchedAt assembledAt
  rw [StorePaths.assembled_eq] at hSnapshots ⊢
  refine ⟨balances.nativeBalance, _, _, ?_,
    StorePaths.redis_path s hRedisLive chain chainId address provider _ ttlSeconds,
    StorePaths.mongo_path s m hMongoLive chain chainId address provider _ ttlSeconds hSnapshots
      hGone, ?_⟩
  · rw [nativeBalance_getBalances hAnswered hAmount]
    exact BigInt.ofText_toString amount
  · intro portfolio hPortfolio
    simp only [List.mem_cons, List.not_mem_nil, or_false] at hPortfolio
    -- the snapshot keeps the text in a field of its own, and it is put back on reading
    rcases hPortfolio with rfl | rfl | rfl <;> exact hBalance

end Readers

theorem native_everywhere_collector :
    ∃ text a b, BigInt.ofText text = some ((1500000000000000000 : Nat) : Int) ∧
      (getPortfolioData (emitPortfolioUpdate Stores.init 10000 .ethereum 1 "wallet"
          (assembled (collector.response mainnet collectorBalances) "ETH" 10000 10000) none) 20000
            .ethereum 1 "wallet" none none).2 = .returned (some a) ∧
      (getPortfolioData ⟨[], (emitPortfolioUpdate Stores.init 10000 .ethereum 1 "wallet"
          (assembled (collector.response mainnet collectorBalances) "ETH" 10000 10000)
            none).snapshots⟩ 600000 .ethereum 1 "wallet" none none).2 = .returned (some b) ∧
      ∀ portfolio ∈ [assembled (collector.response mainnet collectorBalances) "ETH" 10000 10000,
          a, b], balanceOf portfolio = .str text :=
  native_everywhere mainnet Stores.init _ .ethereum 1 "wallet" none "ETH" none rfl rfl (by decide)
    (by decide) rfl rfl

end BalanceKit.NativeBalance
