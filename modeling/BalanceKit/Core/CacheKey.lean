import BalanceKit.Chains.Constants
import BalanceKit.Library.Glob

/-! Cache keys, the Redis store they index, and the deletion of keys by
pattern. Texts are joined by the delimiter `:`. -/
namespace BalanceKit

inductive CacheKeyPrefix where
  | portfolio | transaction | nft | price
  deriving DecidableEq, Repr

def CacheKeyPrefix.value : CacheKeyPrefix → String
  | portfolio => "portfolio"
  | transaction => "transaction"
  | nft => "nft"
  | price => "price"

/-- The provider is a string: at run time it is what the request context holds. -/
structure CacheKeyComponents where
  keyPrefix : CacheKeyPrefix
  chain : ChainName
  chainId : Option Nat
  address : Option String
  provider : Option String
  extra : List String

namespace CacheKeyService

def delimiter : String := ":"

/-- An optional string is left out when it is absent or empty. -/
def optionalPart (part : Option String) : List String := (Text.present part).toList

def resolvedChainId (components : CacheKeyComponents) : Nat :=
  (Text.nonzero components.chainId).getD (chainInfo components.chain).id

def keyParts (components : CacheKeyComponents) : List String :=
  [components.keyPrefix.value, components.chain.value]
    ++ (if resolvedChainId components = 0 then [] else [toString (resolvedChainId components)])
    ++ optionalPart components.address ++ optionalPart components.provider ++ components.extra

def generateKey (components : CacheKeyComponents) : String :=
  delimiter.intercalate (keyParts components)

def createPortfolioKey (chain : ChainName) (address : String) (provider : Option String) :
    String :=
  generateKey ⟨.portfolio, chain, none, some address, provider, []⟩

/-- The pattern of `invalidateChainAddressCache`. -/
def chainAddressPattern (chain : ChainName) (chainId : Nat) (address : String) : String :=
  CacheKeyPrefix.portfolio.value ++ ":" ++ chain.value ++ ":" ++ toString chainId ++ ":"
    ++ address ++ "*"

/-- The part of a portfolio key before the address. -/
def chainStem (chain : ChainName) : String :=
  CacheKeyPrefix.portfolio.value ++ ":" ++ chain.value ++ ":" ++ toString (chainInfo chain).id
    ++ ":"

/-- The part of a portfolio key after the address. -/
def providerSuffix (provider : Option String) : String :=
  match Text.present provider with
  | some p => ":" ++ p
  | none => ""

theorem createPortfolioKey_eq (chain : ChainName) {address : String} (hAddress : address ≠ "")
    (provider : Option String) :
    createPortfolioKey chain address provider =
      chainStem chain ++ address ++ providerSuffix provider := by
  have hId : (chainInfo chain).id ≠ 0 := (chainInfo_id_pos chain).ne'
  cases hProvider : Text.present provider with
  | none =>
      simp [createPortfolioKey, generateKey, keyParts, resolvedChainId, Text.nonzero, optionalPart,
        hId, Text.present_some hAddress, hProvider, delimiter, chainStem, providerSuffix,
        String.append_assoc, String.intercalate_cons_cons]
  | some p =>
      simp [createPortfolioKey, generateKey, keyParts, resolvedChainId, Text.nonzero, optionalPart,
        hId, Text.present_some hAddress, hProvider, delimiter, chainStem, providerSuffix,
        String.append_assoc, String.intercalate_cons_cons]

theorem chainAddressPattern_eq (chain : ChainName) (address : String) :
    chainAddressPattern chain (chainInfo chain).id address =
      chainStem chain ++ address ++ "*" := rfl

end CacheKeyService

/-- An entry of the Redis store. Times are milliseconds. -/
structure RedisEntry (Value : Type*) where
  key : String
  value : Value
  expiresAt : Nat
  deriving DecidableEq

abbrev RedisStore (Value : Type*) := List (RedisEntry Value)

namespace CacheService
variable {Value : Type*}

/-- `CACHE_TTL` in seconds when the configuration does not set it. -/
def defaultTtl : Nat := 300

def get (store : RedisStore Value) (now : Nat) (key : String) : Option Value :=
  (store.find? fun e => e.key = key ∧ now < e.expiresAt).map RedisEntry.value

def set (store : RedisStore Value) (now : Nat) (key : String) (value : Value)
    (ttlSeconds : Option Nat) : RedisStore Value :=
  ⟨key, value, now + ttlSeconds.getD defaultTtl * 1000⟩ :: store.filter fun e => e.key ≠ key

/-- Unlink every key that matches and count them. -/
def deleteByPattern (store : RedisStore Value) (pattern : String) : RedisStore Value × Nat :=
  (store.filter fun e => !Glob.matchesPattern pattern e.key,
    store.countP fun e => Glob.matchesPattern pattern e.key)

/-- A value is read back until it expires. -/
theorem get_set (store : RedisStore Value) (key : String) (value : Value)
    {now t : Nat} {ttlSeconds : Option Nat} (h : t < now + ttlSeconds.getD defaultTtl * 1000) :
    get (set store now key value ttlSeconds) t key = some value := by
  simp [get, set, h]

theorem mem_deleteByPattern {store : RedisStore Value} {pattern : String} {e : RedisEntry Value} :
    e ∈ (deleteByPattern store pattern).1 ↔
      e ∈ store ∧ Glob.matchesPattern pattern e.key = false := by
  simp [deleteByPattern]

end CacheService

namespace CacheKeyService
variable {Value : Type*}

def invalidateChainAddressCache (store : RedisStore Value) (chain : ChainName) (chainId : Nat)
    (address : String) : RedisStore Value × Nat :=
  CacheService.deleteByPattern store (chainAddressPattern chain chainId address)

end CacheKeyService

end BalanceKit
