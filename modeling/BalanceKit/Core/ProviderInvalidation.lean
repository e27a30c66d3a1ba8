import BalanceKit.Core.CacheBackends
import BalanceKit.Core.InvalidationScope

/-! The invalidation of a provider. Its pattern names the last part of a key and only
counts the delimiters before it. -/
namespace BalanceKit

/-- The pattern of both `invalidateProviderCache`. -/
def providerPattern (provider : ProviderType) : String := "*:*:*:*:" ++ provider.value

namespace CacheKeyService
variable {Value : Type*}

def invalidateProviderCache (scanIterator : RedisStore Value → String → List String)
    (store : RedisStore Value) (provider : ProviderType) : RedisStore Value × Nat :=
  CacheBackends.deleteByPattern .redis scanIterator store (providerPattern provider)

end CacheKeyService

namespace CacheMongoService
variable {Value : Type*}

/-- The snapshots are left to the next request. -/
def invalidateProviderCache (scanIterator : RedisStore Value → String → List String)
    (store : RedisStore Value) (provider : ProviderType) : RedisStore Value × Nat :=
  CacheBackends.deleteByPattern .redis scanIterator store (providerPattern provider)

end CacheMongoService

namespace ProviderInvalidation
open CacheKeyService InvalidationScope

/-- The keys that the program writes to Redis: portfolios of addresses without a
delimiter, and the locks on the creation of webhooks. -/
inductive WrittenKey where
  | portfolio (chain : ChainName) (address : String) (provider : Option ProviderType)
      (nonempty : address ≠ "") (delimited : ':' ∉ address.toList)
  | lock (chain : ChainName)

def lockKey (chain : ChainName) : String := "webhook:create:" ++ chain.value

def WrittenKey.text : WrittenKey → String
  | portfolio chain address provider _ _ =>
      createPortfolioKey chain address (provider.map ProviderType.value)
  | lock chain => lockKey chain

def WrittenKey.provider : WrittenKey → Option ProviderType
  | portfolio _ _ provider _ _ => provider
  | lock _ => none

theorem plain_providerValue (provider : ProviderType) :
    ∀ c ∈ provider.value.toList, Glob.Plain c := by
  have hAll : (provider.value.toList.all fun c => decide (Glob.Plain c)) = true := by
    cases provider <;> decide
  simpa using hAll

theorem providerValue_ne (provider : ProviderType) : provider.value ≠ "" := by
  cases provider <;> decide

theorem providerValue_injective {p q : ProviderType} (h : p.value = q.value) : p = q := by
  cases p <;> cases q <;> first | rfl | exact absurd h (by decide)

/-- What ends in the provider and has three delimiters before that. -/
theorem matches_providerPattern (provider : ProviderType) (key : String) :
    Glob.matchesPattern (providerPattern provider) key = true ↔
      ∃ stem, key.toList = stem ++ ':' :: provider.value.toList ∧ 3 ≤ stem.count ':' := by
  have hPattern : (providerPattern provider).toList =
      Glob.starred ':' provider.value.toList 4 := by
    rw [providerPattern, String.toList_append]
    rfl
  rw [Glob.matchesPattern, hPattern]
  exact Glob.matches_starred (by decide) (plain_providerValue provider) 3 key.toList

theorem three_delimiters {text : List Char} {provider : ProviderType} {stem : List Char}
    (h : text = stem ++ ':' :: provider.value.toList) : text.count ':' = stem.count ':' + 1 := by
  rw [h, List.count_append, List.count_cons_self,
    List.count_eq_zero_of_not_mem (not_mem_providerValue provider)]

section Delimiters
variable {chain : ChainName} {address : String}

/-- The prefix, the chain and its id, and the address. -/
theorem count_stem (hNonempty : address ≠ "") (hDelimited : ':' ∉ address.toList) :
    (createPortfolioKey chain address none).toList.count ':' = 3 := by
  have hHead : (head chain).toList.count ':' = 2 := by
    cases chain <;> decide
  have hId : (toString (chainInfo chain).id).toList.count ':' = 0 :=
    List.count_eq_zero_of_not_mem fun h => (plain_toString _ _ h).2 rfl
  have hNone : segment none = [] := rfl
  rw [toList_createPortfolioKey, segment_some hNonempty, hNone]
  simp only [List.count_append, List.count_cons_self, List.append_nil, hHead, hId,
    List.count_eq_zero_of_not_mem hDelimited]

theorem toList_key_provider (provider : ProviderType) :
    (createPortfolioKey chain address (some provider.value)).toList =
      (createPortfolioKey chain address none).toList ++ ':' :: provider.value.toList := by
  have hNone : segment none = [] := rfl
  simp only [toList_createPortfolioKey, segment_some (providerValue_ne provider), hNone,
    List.append_nil, List.append_assoc]

end Delimiters

/-- Only the keys of the provider have its name behind enough delimiters. A key without a provider
has too few of them. -/
theorem matches_text_iff (provider : ProviderType) (key : WrittenKey) :
    Glob.matchesPattern (providerPattern provider) key.text = true ↔
      key.provider = some provider := by
  rw [matches_providerPattern]
  cases key with
  | portfolio chain address own hNonempty hDelimited =>
      have hStem := @count_stem chain address hNonempty hDelimited
      cases own with
      | none =>
          refine iff_of_false ?_ (by simp [WrittenKey.provider])
          rintro ⟨stem, hKey, hCount⟩
          have hTotal : (createPortfolioKey chain address none).toList.count ':' = stem.count ':' + 1 :=
            three_delimiters hKey
          omega
      | some own =>
          simp only [WrittenKey.text, WrittenKey.provider, Option.map_some, Option.some.injEq,
            toList_key_provider]
          constructor
          · rintro ⟨stem, hKey, -⟩
            -- The name of a provider has no delimiter, so both texts end alike.
            have hReversed := congrArg List.reverse hKey
            simp only [List.reverse_append, List.reverse_cons, List.append_assoc,
              List.singleton_append] at hReversed
            obtain ⟨hName, -⟩ := Text.append_delimiter_inj
              (fun h => not_mem_providerValue own (List.mem_reverse.mp h))
              (fun h => not_mem_providerValue provider (List.mem_reverse.mp h)) hReversed
            exact providerValue_injective (String.toList_inj.mp (List.reverse_injective hName))
          · rintro rfl
            exact ⟨_, rfl, hStem.ge⟩
  | lock chain =>
      refine iff_of_false ?_ (by simp [WrittenKey.provider])
      rintro ⟨stem, hKey, hCount⟩
      have hTotal := three_delimiters hKey
      have hTwo : (lockKey chain).toList.count ':' = 2 := by
        cases chain <;> decide
      change (lockKey chain).toList.count ':' = stem.count ':' + 1 at hTotal
      omega

/-- An entry under one of the keys. -/
structure WrittenEntry (Value : Type*) where
  key : WrittenKey
  value : Value
  expiresAt : Nat

variable {Value : Type*}

def WrittenEntry.redis (e : WrittenEntry Value) : RedisEntry Value :=
  ⟨e.key.text, e.value, e.expiresAt⟩

/-- What is left of a content when the keys of a provider are gone. -/
def without (provider : ProviderType) (content : List (WrittenEntry Value)) : RedisStore Value :=
  (content.filter fun e => e.key.provider ≠ some provider).map WrittenEntry.redis

/-- A scan that yields the matching keys of every store, in any order and with
repetitions. -/
def Yields (scanIterator : RedisStore Value → String → List String) : Prop :=
  ∀ store pattern, ∀ e ∈ store,
    e.key ∈ scanIterator store pattern ↔ Glob.matchesPattern pattern e.key = true

variable {scanIterator : RedisStore Value → String → List String}

/-- Invalidating a provider removes its keys and no others. Neither the order of the scan nor a key
that is yielded twice matters. -/
theorem invalidateProviderCache_eq_without (hScan : Yields scanIterator)
    (content : List (WrittenEntry Value)) (provider : ProviderType) :
    (CacheKeyService.invalidateProviderCache scanIterator (content.map WrittenEntry.redis)
        provider).1 = without provider content ∧
      (CacheMongoService.invalidateProviderCache scanIterator (content.map WrittenEntry.redis)
        provider).1 = without provider content := by
  have hDeleted : (CacheBackends.deleteByPattern .redis scanIterator
      (content.map WrittenEntry.redis) (providerPattern provider)).1 =
        without provider content := by
    rw [CacheBackends.deleteByPattern_redis_fst (hScan _ _)]
    simp only [CacheService.deleteByPattern, without, List.filter_map]
    congr 1
    apply List.filter_congr
    intro e _
    have hMatch := matches_text_iff provider e.key
    simp only [Function.comp_apply, WrittenEntry.redis]
    by_cases hProvider : e.key.provider = some provider
    · simp [hMatch.mpr hProvider, hProvider]
    · simp [Bool.eq_false_iff.mpr (mt hMatch.mp hProvider), hProvider]
  exact ⟨hDeleted, hDeleted⟩

theorem yields_scanInOrder : Yields CacheBackends.scanInOrder := by
  intro store pattern e he
  unfold CacheBackends.scanInOrder
  rw [List.mem_filter]
  exact and_iff_right (List.mem_map.mpr ⟨e, he, rfl⟩)

/-- The keys of a wallet, and the lock on a webhook. -/
def walletContent : List (WrittenEntry Nat) :=
  [⟨.portfolio .ethereum wallet (some .alchemy) (by decide) (by decide), 1, 300000⟩,
    ⟨.portfolio .ethereum wallet (some .quicknode) (by decide) (by decide), 2, 300000⟩,
    ⟨.portfolio .ethereum wallet none (by decide) (by decide), 3, 300000⟩,
    ⟨.lock .ethereum, 4, 30000⟩]

theorem invalidateProviderCache_walletContent :
    (CacheKeyService.invalidateProviderCache CacheBackends.scanInOrder
        (walletContent.map WrittenEntry.redis) .alchemy).1.map RedisEntry.value = [2, 3, 4] := by
  rw [(invalidateProviderCache_eq_without yields_scanInOrder walletContent .alchemy).1]
  decide

end ProviderInvalidation

end BalanceKit
