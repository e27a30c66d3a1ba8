import BalanceKit.Chains.Constants
import BalanceKit.Library.Js

/-! Portfolio snapshots: the transformation of a balance response into the
document format, and the three operations that the cache uses. -/
namespace BalanceKit

/-- A document of `portfolio_snapshot`. The fields that the code reads by name
are listed; `data` holds the portfolio itself. Times are milliseconds. -/
structure PortfolioSnapshot where
  chain : ChainName
  chainId : Nat
  address : String
  provider : Option String
  data : Js
  webhookMonitored : Bool
  expiresAt : Nat

/-- The fields of the unique index. -/
structure IndexKey where
  chainId : Nat
  address : String
  provider : Option String
  deriving DecidableEq

def PortfolioSnapshot.indexKey (d : PortfolioSnapshot) : IndexKey :=
  ⟨d.chainId, d.address, d.provider⟩

/-- `Partial<PortfolioSnapshot>`: what is given of the document's own fields, and the portfolio
with any other fields. -/
structure SnapshotData where
  chain : Option ChainName
  chainId : Option Nat
  address : Option String
  provider : Option String
  webhookMonitored : Option Bool
  expiresAt : Option Nat
  portfolio : Js

/-- Data without any of the document's own fields, such as the portfolios that `getPortfolio`
assembles. -/
def SnapshotData.ofPortfolio (portfolio : Js) : SnapshotData :=
  ⟨none, none, none, none, none, none, portfolio⟩

namespace DbService

def transformPortfolioData (data : Js) : Js :=
  if (data.get "native").truthy && !(data.get "nativeBalance").truthy then data
  else
    let transformed := Js.obj data.fields
    let transformed :=
      if (data.get "nativeBalance").truthy && !(data.get "native").truthy then
        (transformed.set "native" (.obj (data.get "nativeBalance").fields)).delete "nativeBalance"
      else transformed
    let transformed :=
      if !(transformed.get "blockNumber").truthy then transformed.set "blockNumber" (.num 0)
      else transformed
    if (data.get "tokens").truthy && !(data.get "fungibles").truthy then
      (transformed.set "fungibles" (data.get "tokens")).delete "tokens"
    else transformed

/-- The provider condition of a filter: none when the argument is falsy. -/
def providerMatches (provider : Option String) (d : PortfolioSnapshot) : Bool :=
  match Text.present provider with
  | some p => d.provider == some p
  | none => true

def snapshotFilter (chainId : Nat) (address : String) (provider : Option String)
    (d : PortfolioSnapshot) : Bool :=
  d.chainId == chainId && d.address == address && providerMatches provider d

/-- Only a snapshot that has not expired is returned. -/
def getPortfolioSnapshot (snapshots : List PortfolioSnapshot) (now chainId : Nat)
    (address : String) (provider : Option String) : Option PortfolioSnapshot :=
  snapshots.find? fun d => snapshotFilter chainId address provider d && decide (now < d.expiresAt)

/-- The schema's defaults for the fields inside `data`. -/
def defaultData : Js :=
  .obj [("fungibles", .arr []), ("nfts", .arr []), ("blockNumber", .num 0)]

/-- The schema's default for `expiresAt`: thirty minutes from now. -/
def defaultExpiry (now : Nat) : Nat := now + 30 * 60 * 1000

/-- `findOneAndUpdate` with `upsert`: the first document that matches takes the
update, and a new one is inserted when there is none. -/
def upsert (matching : PortfolioSnapshot → Bool) (update : PortfolioSnapshot → PortfolioSnapshot)
    (inserted : PortfolioSnapshot) : List PortfolioSnapshot → List PortfolioSnapshot
  | [] => [inserted]
  | d :: rest =>
      if matching d then update d :: rest else d :: upsert matching update inserted rest

section Save
variable (snapshots : List PortfolioSnapshot) (now : Nat) (chain : ChainName) (chainId : Nat)
  (address : String) (data : SnapshotData) (provider : Option String) (ttlSeconds : Option Nat)

/-- The lifetime that is given comes over an expiry in the data. -/
def expiryOf : Option Nat := (ttlSeconds.map fun ttl => now + ttl * 1000).or data.expiresAt

/-- The fields of the data are spread over the chain, and the provider over them. -/
def updateDocument (d : PortfolioSnapshot) : PortfolioSnapshot where
  chain := data.chain.getD chain
  chainId := data.chainId.getD d.chainId
  address := data.address.getD d.address
  provider := (Text.present provider).or (data.provider.or d.provider)
  data := d.data.spread (transformPortfolioData data.portfolio)
  webhookMonitored := data.webhookMonitored.getD d.webhookMonitored
  expiresAt := (expiryOf now data ttlSeconds).getD d.expiresAt

/-- A new document starts with the fields of the filter, and has defaults for what is not
given. -/
def insertDocument : PortfolioSnapshot where
  chain := data.chain.getD chain
  chainId := data.chainId.getD chainId
  address := data.address.getD address
  provider := (Text.present provider).or data.provider
  data := defaultData.spread (transformPortfolioData data.portfolio)
  webhookMonitored := data.webhookMonitored.getD false
  expiresAt := (expiryOf now data ttlSeconds).getD (defaultExpiry now)

/-- The document is given the key of another one, which the unique index does not allow. -/
def duplicateKey (found : Option PortfolioSnapshot) (written : PortfolioSnapshot) : Bool :=
  decide (found.map PortfolioSnapshot.indexKey ≠ some written.indexKey) &&
    snapshots.any fun d => d.indexKey = written.indexKey

/-- The snapshots afterwards. With a duplicate key the call throws, and nothing changes. -/
def savePortfolioSnapshot : Option (List PortfolioSnapshot) :=
  let filter := snapshotFilter chainId address provider
  let update := updateDocument now chain data provider ttlSeconds
  let inserted := insertDocument now chain chainId address data provider ttlSeconds
  let found := snapshots.find? filter
  if duplicateKey snapshots found ((found.map update).getD inserted) then none
  else some (upsert filter update inserted snapshots)

end Save

/-- Set `expiresAt` to now on the snapshots of the address, of every provider. -/
def invalidateAddressSnapshot (snapshots : List PortfolioSnapshot) (now : Nat)
    (chain : ChainName) (chainId : Nat) (address : String) : List PortfolioSnapshot :=
  snapshots.map fun d =>
    if d.chain = chain ∧ snapshotFilter chainId address none d = true then
      { d with expiresAt := now }
    else d

theorem snapshotFilter_iff {chainId : Nat} {address : String} {provider : Option String}
    {d : PortfolioSnapshot} :
    snapshotFilter chainId address provider d = true ↔
      d.chainId = chainId ∧ d.address = address ∧ providerMatches provider d = true := by
  simp [snapshotFilter, and_assoc]

/-- Every document after an upsert is the new one, an updated match, or untouched. Nothing is
removed, and at most one document is written. -/
theorem mem_upsert {matching : PortfolioSnapshot → Bool}
    {update : PortfolioSnapshot → PortfolioSnapshot} {inserted d : PortfolioSnapshot}
    {snapshots : List PortfolioSnapshot} (h : d ∈ upsert matching update inserted snapshots) :
    d = inserted ∨ (∃ old ∈ snapshots, matching old = true ∧ d = update old) ∨ d ∈ snapshots := by
  induction snapshots with
  | nil => exact .inl (List.mem_singleton.mp h)
  | cons e rest ih =>
      rw [upsert] at h
      split at h
      · rename_i hMatch
        rcases List.mem_cons.mp h with rfl | hRest
        · exact .inr (.inl ⟨e, by simp, hMatch, rfl⟩)
        · exact .inr (.inr (by simp [hRest]))
      · rcases List.mem_cons.mp h with rfl | hRest
        · exact .inr (.inr (by simp))
        · rcases ih hRest with hNew | ⟨old, hOld, hUpdated⟩ | hKept
          · exact .inl hNew
          · exact .inr (.inl ⟨old, by simp [hOld], hUpdated⟩)
          · exact .inr (.inr (by simp [hKept]))

/-- A search for what the filter matches finds the result of the upsert, which is an updated
document or the inserted one. -/
theorem find?_upsert {matching live : PortfolioSnapshot → Bool}
    {update : PortfolioSnapshot → PortfolioSnapshot} {inserted : PortfolioSnapshot}
    (hMatching : ∀ d, live d = true → matching d = true) (hInserted : live inserted = true)
    (hUpdate : ∀ old, matching old = true → live (update old) = true)
    (snapshots : List PortfolioSnapshot) :
    (upsert matching update inserted snapshots).find? live = some inserted ∨
      ∃ old, (upsert matching update inserted snapshots).find? live = some (update old) := by
  induction snapshots with
  | nil => exact .inl (by simp [upsert, hInserted])
  | cons e rest ih =>
      by_cases hMatch : matching e = true
      · exact .inr ⟨e, by simp [upsert, hMatch, hUpdate e hMatch]⟩
      · have hSkip : live e = false := Bool.eq_false_iff.mpr fun h => hMatch (hMatching e h)
        simpa [upsert, hMatch, hSkip] using ih

section Plain
variable {snapshots : List PortfolioSnapshot} {now : Nat} {chain : ChainName} {chainId : Nat}
  {address : String} {data : SnapshotData} {provider : Option String} {ttlSeconds : Option Nat}

/-- The key that a new document gets. -/
def namedKey (chainId : Nat) (address : String) (data : SnapshotData) (provider : Option String) :
    IndexKey :=
  ⟨data.chainId.getD chainId, data.address.getD address, (Text.present provider).or data.provider⟩

/-- A document under the key of the arguments is one that the filter finds. The filter asks for less
than the index, which also tells apart documents without a provider. -/
theorem snapshotFilter_of_indexKey {d : PortfolioSnapshot}
    (h : d.indexKey = ⟨chainId, address, Text.present provider⟩) :
    snapshotFilter chainId address provider d = true := by
  obtain ⟨hId, hAddress, hProvider⟩ := IndexKey.mk.inj h
  refine snapshotFilter_iff.mpr ⟨hId, hAddress, ?_⟩
  cases hPresent : Text.present provider with
  | none => simp [providerMatches, hPresent]
  | some p => simp [providerMatches, hPresent, hProvider]

/-- Data that names no other key leaves a document under the one that it has. A field of the key
that it does name is set to the value that is there. -/
theorem indexKey_updateDocument
    (hPlain : namedKey chainId address data provider = ⟨chainId, address, Text.present provider⟩)
    {d : PortfolioSnapshot} (hMatch : snapshotFilter chainId address provider d = true) :
    (updateDocument now chain data provider ttlSeconds d).indexKey = d.indexKey := by
  obtain ⟨hId, hAddress, hProvider⟩ := IndexKey.mk.inj hPlain
  obtain ⟨rfl, rfl, hFound⟩ := snapshotFilter_iff.mp hMatch
  unfold PortfolioSnapshot.indexKey updateDocument
  rw [hId, hAddress]
  cases hPresent : Text.present provider with
  | none =>
      rw [hPresent, Option.none_or] at hProvider
      rw [hProvider]
      rfl
  | some p =>
      simp only [providerMatches, hPresent, beq_iff_eq] at hFound
      rw [hFound]
      rfl

/-- Such data does not run into the unique index. A document that is updated keeps its key, and one
that is inserted has a key that none had. -/
theorem savePortfolioSnapshot_of_plain
    (hPlain : namedKey chainId address data provider =
      ⟨chainId, address, Text.present provider⟩) :
    savePortfolioSnapshot snapshots now chain chainId address data provider ttlSeconds =
      some (upsert (snapshotFilter chainId address provider)
        (updateDocument now chain data provider ttlSeconds)
        (insertDocument now chain chainId address data provider ttlSeconds) snapshots) := by
  refine if_neg ?_
  rw [Bool.not_eq_true]
  cases hFound : snapshots.find? (snapshotFilter chainId address provider) with
  | some d =>
      have hKey : (updateDocument now chain data provider ttlSeconds d).indexKey = d.indexKey :=
        indexKey_updateDocument hPlain (List.find?_some hFound)
      simp [duplicateKey, hKey]
  | none =>
      have hNone : (snapshots.any fun d => d.indexKey =
          (insertDocument now chain chainId address data provider ttlSeconds).indexKey) = false := by
        rw [List.any_eq_false]
        intro d hd hSame
        rw [decide_eq_true_eq] at hSame
        exact List.find?_eq_none.mp hFound d hd
          (snapshotFilter_of_indexKey (hSame.trans hPlain))
      simp [duplicateKey, hNone]

/-- Every document after a save is a new one, an updated match, or untouched. -/
theorem mem_savePortfolioSnapshot {saved : List PortfolioSnapshot} {d : PortfolioSnapshot}
    (hSaved : savePortfolioSnapshot snapshots now chain chainId address data provider ttlSeconds =
      some saved) (hd : d ∈ saved) :
    d = insertDocument now chain chainId address data provider ttlSeconds ∨
      (∃ old ∈ snapshots, snapshotFilter chainId address provider old = true ∧
        d = updateDocument now chain data provider ttlSeconds old) ∨ d ∈ snapshots := by
  simp only [savePortfolioSnapshot] at hSaved
  split at hSaved
  · cases hSaved
  · obtain rfl := Option.some.inj hSaved
    exact mem_upsert hd

/-- The data of a portfolio names no key, so it is that of the arguments. A portfolio has balances,
tokens and a time, and none of the fields of a key. -/
theorem namedKey_ofPortfolio (portfolio : Js) :
    namedKey chainId address (.ofPortfolio portfolio) provider =
      ⟨chainId, address, Text.present provider⟩ := by
  simp [namedKey, SnapshotData.ofPortfolio]

/-- What a portfolio on its own does to a document that the filter finds. -/
theorem updateDocument_ofPortfolio (portfolio : Js) (d : PortfolioSnapshot) :
    updateDocument now chain (.ofPortfolio portfolio) provider ttlSeconds d =
      { d with
        chain := chain
        data := d.data.spread (transformPortfolioData portfolio)
        provider := (Text.present provider).or d.provider
        expiresAt := (ttlSeconds.map fun ttl => now + ttl * 1000).getD d.expiresAt } := by
  simp [updateDocument, SnapshotData.ofPortfolio, expiryOf]

/-- A new document of a portfolio: the arguments, and the transformed data over the defaults. -/
theorem insertDocument_ofPortfolio (portfolio : Js) :
    insertDocument now chain chainId address (.ofPortfolio portfolio) provider ttlSeconds =
      ⟨chain, chainId, address, Text.present provider,
        defaultData.spread (transformPortfolioData portfolio), false,
        (ttlSeconds.map fun ttl => now + ttl * 1000).getD (defaultExpiry now)⟩ := by
  simp [insertDocument, SnapshotData.ofPortfolio, expiryOf]

/-- Until it expires, the saved portfolio is what a read with the same filter finds, over the
fields that an earlier document may have left behind. -/
theorem getPortfolioSnapshot_savePortfolioSnapshot {t ttl : Nat} (hLive : t < now + ttl * 1000)
    (portfolio : Js) {saved : List PortfolioSnapshot}
    (hSaved : savePortfolioSnapshot snapshots now chain chainId address (.ofPortfolio portfolio)
      provider (some ttl) = some saved) :
    ∃ d base, getPortfolioSnapshot saved t chainId address provider = some d ∧
      d.data = Js.spread base (transformPortfolioData portfolio) := by
  rw [savePortfolioSnapshot_of_plain (namedKey_ofPortfolio portfolio)] at hSaved
  obtain rfl := Option.some.inj hSaved
  have hFound := @find?_upsert (snapshotFilter chainId address provider)
    (fun d => snapshotFilter chainId address provider d && decide (t < d.expiresAt))
    (updateDocument now chain (.ofPortfolio portfolio) provider (some ttl))
    (insertDocument now chain chainId address (.ofPortfolio portfolio) provider (some ttl))
    (fun d h => (Bool.and_eq_true _ _ ▸ h).1) ?_ ?_ snapshots
  · rcases hFound with hInserted | ⟨old, hUpdated⟩
    · exact ⟨_, _, hInserted, rfl⟩
    · exact ⟨_, _, hUpdated, rfl⟩
  · rw [insertDocument_ofPortfolio]
    cases h : Text.present provider <;> simp [snapshotFilter, providerMatches, h, hLive]
  · intro old hOld
    obtain ⟨hId, hAddress, hProvider⟩ := snapshotFilter_iff.mp hOld
    rw [updateDocument_ofPortfolio]
    cases h : Text.present provider <;>
      simp [snapshotFilter, providerMatches, h, hLive, hId, hAddress]

end Plain

/-- An invalidation sets the expiry of what it matches to the present, and keeps the rest. The
documents of other addresses and chains are not touched. -/
theorem mem_invalidateAddressSnapshot {snapshots : List PortfolioSnapshot} {now chainId : Nat}
    {chain : ChainName} {address : String} {d : PortfolioSnapshot} :
    d ∈ invalidateAddressSnapshot snapshots now chain chainId address ↔
      ∃ old ∈ snapshots,
        (if old.chain = chain ∧ old.chainId = chainId ∧ old.address = address then
          { old with expiresAt := now } else old) = d := by
  simp [invalidateAddressSnapshot, snapshotFilter_iff, providerMatches, Text.present]

end DbService

end BalanceKit
