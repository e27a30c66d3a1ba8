import BalanceKit.Core.CacheMongo
import BalanceKit.Chains.Addresses

/-! The three invalidators of an address and the keys that they reach. Each deletes
by a pattern of its own, while one builder forms all portfolio keys. -/
namespace BalanceKit

namespace CacheKeyService
variable {Value : Type*}

/-- The pattern of `invalidateAddressCache`. -/
def addressPattern (chain : ChainName) (address : String) : String :=
  CacheKeyPrefix.portfolio.value ++ ":" ++ chain.value ++ ":*:" ++ address ++ "*"

def invalidateAddressCache (store : RedisStore Value) (chain : ChainName) (address : String) :
    RedisStore Value × Nat :=
  CacheService.deleteByPattern store (addressPattern chain address)

end CacheKeyService

namespace CacheMongoService

/-- The pattern of `invalidateAddressCache`, which asks for a delimiter after the
address. -/
def addressPattern (chain : ChainName) (chainId : Nat) (address : String) : String :=
  CacheKeyPrefix.portfolio.value ++ ":" ++ chain.value ++ ":" ++ toString chainId ++ ":"
    ++ address ++ ":*"

def invalidateAddressCache (s : Stores) (now : Nat) (chain : ChainName) (chainId : Nat)
    (address : String) : Stores × Nat :=
  let (redis, deletedCount) :=
    CacheService.deleteByPattern s.redis (addressPattern chain chainId address)
  (⟨redis, DbService.invalidateAddressSnapshot s.snapshots now chain chainId address⟩,
    deletedCount)

end CacheMongoService

namespace InvalidationScope
open CacheKeyService

/-- A part of a key with the delimiter before it, or nothing for a part left out. -/
def segment (part : Option String) : List Char :=
  match Text.present part with
  | some text => ':' :: text.toList
  | none => []

/-- The part of a portfolio key before its chain id. -/
def head (chain : ChainName) : String :=
  CacheKeyPrefix.portfolio.value ++ ":" ++ chain.value ++ ":"

theorem segment_some {text : String} (h : text ≠ "") : segment (some text) = ':' :: text.toList := by
  rw [segment, Text.present_some h]

theorem segment_cases (part : Option String) :
    segment part = [] ∨ ∃ rest, segment part = ':' :: rest := by
  unfold segment
  split
  · exact .inr ⟨_, rfl⟩
  · exact .inl rfl

/-- Joining by the delimiter puts one in front of each part that is there. -/
theorem flatMap_optionalPart (part : Option String) :
    (optionalPart part).flatMap (fun text => ':' :: text.toList) = segment part := by
  unfold optionalPart segment
  cases Text.present part <;> simp

/-- The characters of any key: its prefix and chain, and then what is left of the
parts. -/
theorem toList_generateKey (components : CacheKeyComponents) :
    (generateKey components).toList = components.keyPrefix.value.toList ++
      ':' :: (components.chain.value.toList ++
        ':' :: ((toString (resolvedChainId components)).toList ++ segment components.address ++
          segment components.provider ++
          components.extra.flatMap fun part => ':' :: part.toList)) := by
  have hId : resolvedChainId components ≠ 0 := by
    have hInfo := chainInfo_id_pos components.chain
    unfold resolvedChainId Text.nonzero
    split
    · exact Nat.succ_ne_zero _
    · exact hInfo.ne'
  have hDelimiter : delimiter = String.singleton ':' := rfl
  rw [generateKey, keyParts, if_neg hId, hDelimiter]
  simp only [List.cons_append, List.nil_append, Text.toList_intercalate_cons, List.flatMap_cons,
    List.flatMap_append, flatMap_optionalPart, List.append_assoc]

/-- The characters of a portfolio key: the head of its chain, the chain id, and what address and
provider contribute. -/
theorem toList_createPortfolioKey (chain : ChainName) (address : String)
    (provider : Option String) :
    (createPortfolioKey chain address provider).toList = (head chain).toList ++
      ((toString (chainInfo chain).id).toList ++ (segment (some address) ++ segment provider)) := by
  rw [createPortfolioKey, toList_generateKey]
  simp [head, resolvedChainId, Text.nonzero]

/-- The names of prefix and chain hold no character that a pattern reads specially. The prefix is
one of the constants, and the chains are those of the enumeration. -/
theorem plain_head (chain : ChainName) : ∀ c ∈ (head chain).toList, Glob.Plain c := by
  have hAll : ((head chain).toList.all fun c => decide (Glob.Plain c)) = true := by
    cases chain <;> decide
  simpa using hAll

/-- Neither the special characters of patterns nor the delimiter are digits. -/
theorem plain_toString (n : Nat) : ∀ c ∈ (toString n).toList, Glob.Plain c ∧ c ≠ ':' := by
  intro c hc
  have hDigit := Text.isDigit_of_mem_toString hc
  refine ⟨⟨?_, ?_, ?_, ?_⟩, ?_⟩ <;>
    · rintro rfl
      exact absurd hDigit (by decide)

/-- An address that a pattern reads as itself and that does not hide a delimiter. -/
def PlainAddress (address : String) : Prop := ∀ c ∈ address.toList, Glob.Plain c ∧ c ≠ ':'

instance (address : String) : Decidable (PlainAddress address) :=
  decidable_of_iff ((address.toList.all fun c => decide (Glob.Plain c ∧ c ≠ ':')) = true)
    (by simp [PlainAddress])

theorem plain_delimiter : ∀ c ∈ ":".toList, Glob.Plain c := by
  intro c hc
  obtain rfl : c = ':' := by simpa using hc
  decide

section Patterns
variable {address : String} (hAddress : PlainAddress address) (chain : ChainName) (chainId : Nat)
  (key : String)
include hAddress

theorem plain_address : ∀ c ∈ address.toList, Glob.Plain c := fun c hc => (hAddress c hc).1

/-- The address holds no delimiter, so the place where it ends in a key can be told. -/
theorem not_mem_address : ':' ∉ address.toList := fun h => (hAddress ':' h).2 rfl

/-- The fixed part of the pattern of `invalidateChainAddressCache` is matched literally. Its address
is one that was accepted, so it has no special character either. -/
theorem plain_chainAddress :
    ∀ c ∈ (head chain ++ toString chainId ++ ":" ++ address).toList, Glob.Plain c := by
  have hId : ∀ c ∈ (toString chainId).toList, Glob.Plain c := fun c hc => (plain_toString chainId c hc).1
  exact Glob.plain_append (Glob.plain_append (Glob.plain_append (plain_head chain) hId)
    plain_delimiter) (plain_address hAddress)

/-- That pattern matches the keys that continue its fixed part in any way. The address need not
end there. -/
theorem matches_chainAddressPattern :
    Glob.matchesPattern (chainAddressPattern chain chainId address) key = true ↔
      (head chain).toList ++ ((toString chainId).toList ++ ':' :: address.toList) <+:
        key.toList := by
  have hPattern : chainAddressPattern chain chainId address =
      head chain ++ toString chainId ++ ":" ++ address ++ "*" := rfl
  rw [hPattern, Glob.matchesPattern_star (plain_chainAddress hAddress chain chainId)]
  simp

/-- The pattern of the Mongo listener asks for a delimiter behind the address. A key that ends in
the address is therefore not matched. -/
theorem matches_mongoPattern :
    Glob.matchesPattern (CacheMongoService.addressPattern chain chainId address) key = true ↔
      (head chain).toList ++ ((toString chainId).toList ++ ':' :: (address.toList ++ [':'])) <+:
        key.toList := by
  have hPattern : CacheMongoService.addressPattern chain chainId address =
      head chain ++ toString chainId ++ ":" ++ address ++ ":" ++ "*" := by
    have hStar : ":*" = ":" ++ "*" := rfl
    simp only [CacheMongoService.addressPattern, head, hStar, String.append_assoc]
  rw [hPattern, Glob.matchesPattern_star
    (Glob.plain_append (plain_chainAddress hAddress chain chainId) plain_delimiter)]
  simp

/-- The pattern without a chain id matches the keys of the chain that hold the address anywhere
behind a delimiter. -/
theorem matches_addressPattern :
    Glob.matchesPattern (CacheKeyService.addressPattern chain address) key = true ↔
      ∃ rest, key.toList = (head chain).toList ++ rest ∧ ':' :: address.toList <:+: rest := by
  have hPattern : CacheKeyService.addressPattern chain address =
      head chain ++ "*" ++ (":" ++ address) ++ "*" := by
    have hStar : ":*:" = ":" ++ "*" ++ ":" := rfl
    simp only [CacheKeyService.addressPattern, head, hStar, String.append_assoc]
  rw [hPattern, Glob.matchesPattern_star_star (plain_head chain)
    (Glob.plain_append plain_delimiter (plain_address hAddress))]
  simp

/-- Whatever chain id it names, the narrower pattern matches no more. -/
theorem matches_addressPattern_of_chainAddressPattern
    (h : Glob.matchesPattern (chainAddressPattern chain chainId address) key = true) :
    Glob.matchesPattern (CacheKeyService.addressPattern chain address) key = true := by
  obtain ⟨tail, hKey⟩ := (matches_chainAddressPattern hAddress chain chainId key).mp h
  refine (matches_addressPattern hAddress chain key).mpr
    ⟨(toString chainId).toList ++ ':' :: address.toList ++ tail, ?_,
      ⟨(toString chainId).toList, tail, rfl⟩⟩
  rw [← hKey]
  simp

variable (b : String) (provider : Option String)

/-- On a portfolio key of the chain the first pattern compares the address with the beginning of
what follows the chain id. -/
theorem matches_chainAddressPattern_key :
    Glob.matchesPattern (chainAddressPattern chain (chainInfo chain).id address)
        (createPortfolioKey chain b provider) = true ↔
      ':' :: address.toList <+: segment (some b) ++ segment provider := by
  rw [matches_chainAddressPattern hAddress, toList_createPortfolioKey,
    List.prefix_append_right_inj, List.prefix_append_right_inj]

theorem matches_mongoPattern_key :
    Glob.matchesPattern
        (CacheMongoService.addressPattern chain (chainInfo chain).id address)
        (createPortfolioKey chain b provider) = true ↔
      ':' :: (address.toList ++ [':']) <+: segment (some b) ++ segment provider := by
  rw [matches_mongoPattern hAddress, toList_createPortfolioKey,
    List.prefix_append_right_inj, List.prefix_append_right_inj]

theorem matches_addressPattern_key :
    Glob.matchesPattern (CacheKeyService.addressPattern chain address)
        (createPortfolioKey chain b provider) = true ↔
      ':' :: address.toList <:+: segment (some b) ++ segment provider := by
  have hId : ':' ∉ (toString (chainInfo chain).id).toList := fun h => (plain_toString _ _ h).2 rfl
  rw [matches_addressPattern hAddress, toList_createPortfolioKey,
    ← Text.infix_append_of_not_mem hId]
  constructor
  · rintro ⟨rest, hRest, hInfix⟩
    rwa [List.append_cancel_left hRest]
  · exact fun h => ⟨_, rfl, h⟩

end Patterns

/-- The three ways of invalidating an address. -/
inductive Invalidator where
  | cacheMongo
  | chainAddress
  | address
  deriving DecidableEq, Repr

/-- What is left in Redis once the deletion has succeeded. -/
def Invalidator.after (invalidator : Invalidator) (s : Stores) (now : Nat) (chain : ChainName)
    (address : String) : RedisStore Js :=
  match invalidator with
  | cacheMongo =>
      (CacheMongoService.invalidateAddressCache s now chain (chainInfo chain).id address).1.redis
  | chainAddress => (invalidateChainAddressCache s.redis chain (chainInfo chain).id address).1
  | .address => (CacheKeyService.invalidateAddressCache s.redis chain address).1

/-- No portfolio key of the address is left, of any provider or of none. -/
def Complete (chain : ChainName) (address : String) (redis : RedisStore Js) : Prop :=
  ∀ provider, ∀ e ∈ redis, e.key ≠ createPortfolioKey chain address provider

/-- The provider parts of portfolio keys that a pattern does not reach: none at all
where it asks for a further delimiter. The key of an empty address has no part for it. -/
def Invalidator.Misses (invalidator : Invalidator) (address : String) (provider : Option String) :
    Prop :=
  match invalidator with
  | cacheMongo =>
      segment provider = [] ∨ address = "" ∧ ¬ [':', ':'] <+: segment provider
  | chainAddress => address = "" ∧ segment provider = []
  | .address => address = "" ∧ segment provider = []

def Invalidator.pattern (invalidator : Invalidator) (chain : ChainName) (address : String) :
    String :=
  match invalidator with
  | cacheMongo => CacheMongoService.addressPattern chain (chainInfo chain).id address
  | chainAddress => chainAddressPattern chain (chainInfo chain).id address
  | .address => CacheKeyService.addressPattern chain address

/-- What is left of Redis are the entries whose keys the pattern of the invalidator does not
match. -/
theorem mem_after {invalidator : Invalidator} {s : Stores} {now : Nat} {chain : ChainName}
    {address : String} {e : RedisEntry Js} :
    e ∈ invalidator.after s now chain address ↔
      e ∈ s.redis ∧ Glob.matchesPattern (invalidator.pattern chain address) e.key = false := by
  cases invalidator <;> exact CacheService.mem_deleteByPattern

/-- A provider that is there, and only such a one, begins with a delimiter. Where it is absent the
key ends in the address. -/
theorem prefix_segment_iff (provider : Option String) :
    [':'] <+: segment provider ↔ segment provider ≠ [] := by
  rcases segment_cases provider with hNone | ⟨rest, hSome⟩
  · simp [hNone]
  · simp [hSome]

theorem infix_segment_iff (provider : Option String) :
    [':'] <:+: segment provider ↔ segment provider ≠ [] := by
  rcases segment_cases provider with hNone | ⟨rest, hSome⟩
  · simp [hNone]
  · rw [hSome]
    exact iff_of_true ⟨[], rest, rfl⟩ (List.cons_ne_nil _ _)

/-- Each pattern matches the keys of its own address except those that it misses. What the first two
miss is what the parts of the key make them miss. -/
theorem pattern_misses_iff {address : String} (hAddress : PlainAddress address)
    (invalidator : Invalidator) (chain : ChainName) (provider : Option String) :
    Glob.matchesPattern (invalidator.pattern chain address)
        (createPortfolioKey chain address provider) = false ↔
      invalidator.Misses address provider := by
  rw [← Bool.not_eq_true]
  by_cases hEmpty : address = ""
  · have hSegment : segment (some address) = [] := by
      rw [hEmpty]
      rfl
    cases invalidator with
    | cacheMongo =>
        rw [Invalidator.pattern, matches_mongoPattern_key hAddress, hSegment, hEmpty]
        constructor
        · exact fun h => .inr ⟨rfl, h⟩
        · rintro (hNone | ⟨-, h⟩)
          · rw [hNone]
            exact List.not_mem_nil ∘ fun h => h.subset List.mem_cons_self
          · exact h
    | chainAddress =>
        rw [Invalidator.pattern, matches_chainAddressPattern_key hAddress, hSegment]
        simp [Invalidator.Misses, hEmpty, prefix_segment_iff]
    | address =>
        rw [Invalidator.pattern, matches_addressPattern_key hAddress, hSegment]
        simp [Invalidator.Misses, hEmpty, infix_segment_iff]
  · have hSegment := segment_some hEmpty
    cases invalidator with
    | cacheMongo =>
        rw [Invalidator.pattern, matches_mongoPattern_key hAddress, hSegment, List.cons_append,
          List.cons_prefix_cons, List.prefix_append_right_inj, prefix_segment_iff]
        simp [Invalidator.Misses, hEmpty]
    | chainAddress =>
        rw [Invalidator.pattern, matches_chainAddressPattern_key hAddress, hSegment]
        simp [Invalidator.Misses, hEmpty]
    | address =>
        rw [Invalidator.pattern, matches_addressPattern_key hAddress, hSegment]
        refine iff_of_false (fun h => h ⟨[], segment provider, rfl⟩) ?_
        simp [Invalidator.Misses, hEmpty]

/-- An invalidator leaves no key of the address exactly when none of the keys that
its pattern misses is stored. -/
theorem complete_iff {address : String} (hAddress : PlainAddress address)
    (invalidator : Invalidator) (s : Stores) (now : Nat) (chain : ChainName) :
    Complete chain address (invalidator.after s now chain address) ↔
      ∀ provider, invalidator.Misses address provider →
        ∀ e ∈ s.redis, e.key ≠ createPortfolioKey chain address provider := by
  constructor
  · intro hComplete provider hMisses e he hKey
    refine hComplete provider e (mem_after.mpr ⟨he, ?_⟩) hKey
    rw [hKey]
    exact (pattern_misses_iff hAddress invalidator chain provider).mpr hMisses
  · intro hAbsent provider e he hKey
    obtain ⟨hStored, hKept⟩ := mem_after.mp he
    rw [hKey] at hKept
    exact hAbsent provider ((pattern_misses_iff hAddress invalidator chain provider).mp hKept) e
      hStored hKey

/-- A wallet, and what Redis holds of it. -/
def wallet : String := "0xd8da6bf26964af9d7eed9e03e53415d37aa96045"

def walletStores : Stores :=
  ⟨[⟨createPortfolioKey .ethereum wallet none, .null, 1⟩,
    ⟨createPortfolioKey .ethereum wallet (some "alchemy"), .null, 1⟩], []⟩

theorem complete_wallet :
    Complete .ethereum wallet (Invalidator.chainAddress.after walletStores 0 .ethereum wallet) :=
  (complete_iff (by decide) .chainAddress walletStores 0 .ethereum).mpr fun _ hMisses =>
    absurd hMisses.1 (by decide)

/-- The key without a provider is left. -/
theorem not_complete_wallet :
    PlainAddress wallet ∧
      ¬ Complete .ethereum wallet (Invalidator.cacheMongo.after walletStores 0 .ethereum wallet) := by
  refine ⟨by decide, ?_⟩
  intro hComplete
  exact hComplete none ⟨createPortfolioKey .ethereum wallet none, .null, 1⟩
    (mem_after.mpr ⟨List.mem_cons_self, by decide +kernel⟩) rfl

/-- The entries of a key are all kept. -/
def Untouched (before after : RedisStore Js) (key : String) : Prop :=
  ∀ e ∈ before, e.key = key → e ∈ after

/-- Invalidating `a` keeps the portfolio keys of `b`, whatever their provider, and all
keys of other chains. -/
def OnlyAddress (store : RedisStore Js) (chain : ChainName) (chainId : Nat) (a b : String) :
    Prop :=
  (∀ provider,
    Untouched store (CacheKeyService.invalidateAddressCache store chain a).1
        (createPortfolioKey chain b provider) ∧
      Untouched store (invalidateChainAddressCache store chain chainId a).1
        (createPortfolioKey chain b provider)) ∧
  ∀ components : CacheKeyComponents, components.chain ≠ chain →
    Untouched store (CacheKeyService.invalidateAddressCache store chain a).1
        (generateKey components) ∧
      Untouched store (invalidateChainAddressCache store chain chainId a).1
        (generateKey components)

/-- The text `a` begins `b`, or a delimited part of the provider. -/
def Reaches (a b : String) (provider : Option String) : Prop :=
  a.toList <+: b.toList ∨ ':' :: a.toList <:+: segment provider

/-- Letters and digits mean nothing special to a pattern, and the delimiter is not among them. -/
theorem plainAddress_of_alphanumeric {address : String} (h : Alphanumeric address) :
    PlainAddress address := by
  intro c hc
  have hAlphanumeric := h.2 c hc
  refine ⟨⟨?_, ?_, ?_, ?_⟩, ?_⟩ <;>
    · rintro rfl
      exact absurd hAlphanumeric (by decide)

/-- Between two addresses of letters and digits the loosest pattern reaches the key of the other
exactly when the deleted address begins the other one, or a delimited part of the provider. -/
theorem matches_addressPattern_other {a b : String} (ha : Alphanumeric a) (hb : Alphanumeric b)
    (chain : ChainName) (provider : Option String) :
    Glob.matchesPattern (CacheKeyService.addressPattern chain a)
        (createPortfolioKey chain b provider) = true ↔ Reaches a b provider := by
  have hPlainA := plainAddress_of_alphanumeric ha
  have hPlainB := plainAddress_of_alphanumeric hb
  rw [matches_addressPattern_key hPlainA, segment_some hb.1, List.cons_append,
    List.infix_cons_iff, List.cons_prefix_cons,
    Text.prefix_append_delimited (not_mem_address hPlainA) (segment_cases provider),
    Text.infix_append_of_not_mem (not_mem_address hPlainB)]
  simp [Reaches]

/-- Whatever a pattern of the chain matches begins with the head of the chain. The pattern begins
with it literally, before the first `*`. -/
theorem head_prefix_of_matches {address key : String} (hAddress : PlainAddress address)
    {chain : ChainName}
    (h : Glob.matchesPattern (CacheKeyService.addressPattern chain address) key = true) :
    (head chain).toList <+: key.toList := by
  obtain ⟨rest, hKey, -⟩ := (matches_addressPattern hAddress chain key).mp h
  exact ⟨rest, hKey.symm⟩

theorem not_mem_prefixValue (p : CacheKeyPrefix) : ':' ∉ p.value.toList := by
  cases p <;> decide

theorem not_mem_providerValue (p : ProviderType) : ':' ∉ p.value.toList := by
  cases p <;> decide

/-- The chain is read off the beginning of a key. Two heads of which one begins the other are the
same, since both end in a delimiter. -/
theorem chain_of_comparable_heads {components : CacheKeyComponents} {chain : ChainName}
    (h : (head chain).toList <+: (generateKey components).toList) : components.chain = chain := by
  obtain ⟨rest, hKey⟩ := h
  have hHead : (head chain).toList ++ rest = CacheKeyPrefix.portfolio.value.toList ++
      ':' :: (chain.value.toList ++ ':' :: rest) := by
    simp [head]
  rw [hHead, toList_generateKey] at hKey
  obtain ⟨-, hChain⟩ := Text.append_delimiter_inj (not_mem_prefixValue _)
    (not_mem_prefixValue _) hKey
  obtain ⟨hValue, -⟩ := Text.append_delimiter_inj (ChainName.colon_not_mem_value _)
    (ChainName.colon_not_mem_value _) hChain
  exact (ChainName.value_injective (String.toList_inj.mp hValue)).symm

section Reached
variable {libraries : AddressLibraries} (hLibraries : libraries.Documented) {chain : ChainName}
  {a b : String} (ha : libraries.isValidAddress chain a = true)
  (hb : libraries.isValidAddress chain b = true)
include hLibraries ha hb

/-- Invalidating an address keeps to it exactly when Redis holds no key of the other
address that the pattern reaches. -/
theorem onlyAddress_iff (store : RedisStore Js) (chainId : Nat) :
    OnlyAddress store chain chainId a b ↔ ∀ provider, Reaches a b provider →
      ∀ e ∈ store, e.key ≠ createPortfolioKey chain b provider := by
  have hA := alphanumeric_of_valid hLibraries ha
  have hB := alphanumeric_of_valid hLibraries hb
  have hPlain := plainAddress_of_alphanumeric hA
  constructor
  · intro hOnly provider hReaches e he hKey
    obtain ⟨-, hKept⟩ := CacheService.mem_deleteByPattern.mp ((hOnly.1 provider).1 e he hKey)
    rw [hKey] at hKept
    have hMatch := (matches_addressPattern_other hA hB chain provider).mpr hReaches
    exact absurd hMatch (by simp [hKept])
  · intro hAbsent
    -- The wildcard pattern is the wider one, so what it spares is spared by both.
    have hSpared : ∀ key, (∀ e ∈ store, e.key = key →
        Glob.matchesPattern (CacheKeyService.addressPattern chain a) key = false) →
        Untouched store (CacheKeyService.invalidateAddressCache store chain a).1 key ∧
          Untouched store (invalidateChainAddressCache store chain chainId a).1 key := by
      intro key hNoMatch
      refine ⟨fun e he hKey => CacheService.mem_deleteByPattern.mpr ⟨he, ?_⟩,
        fun e he hKey => CacheService.mem_deleteByPattern.mpr ⟨he, ?_⟩⟩
      · rw [hKey]
        exact hNoMatch e he hKey
      · apply Bool.eq_false_iff.mpr
        intro hMatch
        rw [hKey] at hMatch
        have hWide := matches_addressPattern_of_chainAddressPattern hPlain chain chainId key hMatch
        exact absurd hWide (by simp [hNoMatch e he hKey])
    refine ⟨fun provider => hSpared _ ?_, fun components hOther => hSpared _ ?_⟩
    · intro e he hKey
      apply Bool.eq_false_iff.mpr
      intro hMatch
      exact hAbsent provider ((matches_addressPattern_other hA hB chain provider).mp hMatch) e he
        hKey
    · intro e he hKey
      apply Bool.eq_false_iff.mpr
      intro hMatch
      exact hOther (chain_of_comparable_heads (head_prefix_of_matches hPlain hMatch))

end Reached

/-- A provider of the enumeration is shorter than any address. -/
theorem reaches_providerType_iff {a b : String} (hLength : 32 ≤ a.toList.length)
    (provider : ProviderType) : Reaches a b (some provider.value) ↔ a.toList <+: b.toList := by
  refine or_iff_left ?_
  intro hInfix
  have hLong := hInfix.length_le
  have hShort : (segment (some provider.value)).length ≤ 10 := by
    cases provider <;> decide
  simp at hLong
  omega

/-- Invalidating a hexadecimal address never reaches another one. -/
theorem not_reaches_isEvmHex {a b : String} (ha : isEvmHex a = true) (hb : isEvmHex b = true)
    (hOther : a ≠ b) (provider : ProviderType) : ¬ Reaches a b (some provider.value) := by
  have hLength := length_of_isEvmHex ha
  rw [reaches_providerType_iff (by omega)]
  exact fun hPrefix => hOther (eq_of_prefix_isEvmHex ha hb hPrefix)

/-- A public key reaches the longer ones that it begins. An accepted address may begin another one,
because public keys differ in their length. -/
theorem reaches_publicKey_iff {libraries : AddressLibraries} (hLibraries : libraries.Documented)
    {a b : String} (ha : libraries.isPublicKey a = true) (provider : ProviderType) :
    Reaches a b (some provider.value) ↔ a.toList <+: b.toList :=
  reaches_providerType_iff (length_of_publicKey hLibraries ha) provider

/-- Keys of one chain that agree are of one address. The delimiters behind the addresses are at the
same place then. -/
theorem address_of_createPortfolioKey {chain : ChainName} {a b : String} (ha : Alphanumeric a)
    (hb : Alphanumeric b) {p q : Option String}
    (h : createPortfolioKey chain a p = createPortfolioKey chain b q) : a = b := by
  have hList := congrArg String.toList h
  rw [toList_createPortfolioKey, toList_createPortfolioKey, segment_some ha.1,
    segment_some hb.1] at hList
  have hRest := (List.cons.inj (List.append_cancel_left (List.append_cancel_left hList))).2
  have hPrefixA : a.toList <+: b.toList ++ segment q := ⟨segment p, hRest⟩
  have hPrefixB : b.toList <+: a.toList ++ segment p := ⟨segment q, hRest.symm⟩
  rw [Text.prefix_append_delimited (not_mem_address (plainAddress_of_alphanumeric ha))
    (segment_cases q)] at hPrefixA
  rw [Text.prefix_append_delimited (not_mem_address (plainAddress_of_alphanumeric hb))
    (segment_cases p)] at hPrefixB
  exact String.toList_inj.mp (hPrefixA.eq_of_length
    (Nat.le_antisymm hPrefixA.length_le hPrefixB.length_le))

/-- Two public keys, the first of which begins the second. -/
def shorterKey : String := "5vxoRv2P12q2YwUWQHQj9pEQRAEXjz8VQFtdoqAR7j4"

def longerKey : String := "5vxoRv2P12q2YwUWQHQj9pEQRAEXjz8VQFtdoqAR7j4X"

def keyStore : RedisStore Js := [⟨createPortfolioKey .solana longerKey (some "alchemy"), .null, 1⟩]

/-- The shorter text has a length and alphabet that the check for Solana accepts. -/
theorem valid_shorterKey : uncheckedLibraries.isValidAddress .solana shorterKey = true := by
  decide +kernel

theorem valid_longerKey : uncheckedLibraries.isValidAddress .solana longerKey = true := by
  decide +kernel

theorem onlyAddress_longerKey : OnlyAddress keyStore .solana 101 longerKey shorterKey := by
  refine (onlyAddress_iff documented_uncheckedLibraries valid_longerKey valid_shorterKey keyStore
    101).mpr ?_
  intro provider _ e he hKey
  rw [List.mem_singleton.mp he] at hKey
  have hSame := address_of_createPortfolioKey
    (alphanumeric_of_valid documented_uncheckedLibraries valid_longerKey)
    (alphanumeric_of_valid documented_uncheckedLibraries valid_shorterKey) hKey
  exact absurd hSame (by decide)

/-- Deleting the shorter one takes the entry of the longer along, although the two are different
accounts. -/
theorem not_onlyAddress_shorterKey :
    uncheckedLibraries.isValidAddress .solana shorterKey = true ∧
      uncheckedLibraries.isValidAddress .solana longerKey = true ∧ shorterKey ≠ longerKey ∧
      ¬ OnlyAddress keyStore .solana 101 shorterKey longerKey := by
  refine ⟨valid_shorterKey, valid_longerKey, by decide, ?_⟩
  intro hOnly
  have hKept := (hOnly.1 (some "alchemy")).2 _ List.mem_cons_self rfl
  exact absurd (CacheService.mem_deleteByPattern.mp hKept).2 (by decide +kernel)

end InvalidationScope

end BalanceKit
