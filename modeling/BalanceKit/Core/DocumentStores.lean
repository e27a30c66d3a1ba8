import BalanceKit.Chains.Constants
import BalanceKit.Library.Documents
import BalanceKit.Library.Js
import BalanceKit.Library.Runs

/-! The collections that hold one document for each transaction, NFT and price. Every save
upserts by the fields of the unique index. Times are milliseconds. -/
namespace BalanceKit.DocumentStores
open TransitionSystem Documents

/-- A document of `tx_history`. The fields that queries read are listed; `data` holds the
others. -/
structure TxHistory where
  txHash : String
  chainId : Option Nat
  address : Option String
  blockTime : Option Nat
  data : Js

/-- The argument of `saveTxHistory`, any part of a transaction. -/
structure TxData where
  txHash : String
  chainId : Option Nat
  address : Option String
  blockTime : Option Nat
  data : Js

def txDefaults : Js :=
  .obj [("txType", .str "other"), ("tokenTransfers", .arr []), ("nftTransfers", .arr []),
    ("status", .bool true), ("schemaVer", .num 1)]

def txHistory : Keyed TxHistory TxData String where
  key := TxHistory.txHash
  target := TxData.txHash
  update c d := { d with
    chainId := c.chainId.or d.chainId
    address := c.address.or d.address
    blockTime := c.blockTime.or d.blockTime
    data := d.data.spread c.data }
  insert c := ⟨c.txHash, c.chainId, c.address, c.blockTime, txDefaults.spread c.data⟩
  key_update _ _ := rfl
  key_insert _ := rfl

structure NftKey where
  chainId : Nat
  contract : String
  tokenId : String
  deriving DecidableEq

/-- A document of `nft_owners`. -/
structure NftOwner where
  nft : NftKey
  chain : Option ChainName
  owner : Option String
  amount : String
  updatedAt : Nat

/-- The argument of `saveNftOwner`, any part of an owner, and the time of the call. -/
structure NftOwnerData where
  nft : NftKey
  chain : Option ChainName
  owner : Option String
  amount : Option String
  savedAt : Nat

def nftOwners : Keyed NftOwner NftOwnerData NftKey where
  key := NftOwner.nft
  target := NftOwnerData.nft
  update c d := { d with
    chain := c.chain.or d.chain
    owner := c.owner.or d.owner
    amount := c.amount.getD d.amount
    updatedAt := c.savedAt }
  insert c := ⟨c.nft, c.chain, c.owner, c.amount.getD "1", c.savedAt⟩
  key_update _ _ := rfl
  key_insert _ := rfl

/-- A document of `nft_meta`. -/
structure NftMeta where
  nft : NftKey
  data : Js

/-- The argument of `saveNftMeta`. -/
structure NftMetaData where
  nft : NftKey
  data : Js

def metaDefaults : Js := .obj [("attributes", .arr []), ("schemaVer", .num 1)]

def nftMeta : Keyed NftMeta NftMetaData NftKey where
  key := NftMeta.nft
  target := NftMetaData.nft
  update c d := { d with data := d.data.spread c.data }
  insert c := ⟨c.nft, metaDefaults.spread c.data⟩
  key_update _ _ := rfl
  key_insert _ := rfl

structure PriceKey where
  symbol : String
  chainId : Nat
  deriving DecidableEq

/-- A document of `price_cache`. -/
structure PriceCache where
  asset : PriceKey
  priceUsd : Rat
  metadata : Option Js
  updatedAt : Nat

/-- The arguments of `saveTokenPrice`, and the time of the call. -/
structure PriceData where
  asset : PriceKey
  priceUsd : Rat
  metadata : Option Js
  savedAt : Nat

def priceCache : Keyed PriceCache PriceData PriceKey where
  key := PriceCache.asset
  target := PriceData.asset
  update c d := { d with
    priceUsd := c.priceUsd
    metadata := c.metadata.or d.metadata
    updatedAt := c.savedAt }
  insert c := ⟨c.asset, c.priceUsd, c.metadata, c.savedAt⟩
  key_update _ _ := rfl
  key_insert _ := rfl

structure State where
  now : Nat
  transactions : List TxHistory
  owners : List NftOwner
  metas : List NftMeta
  prices : List PriceCache

def State.init : State := ⟨0, [], [], [], []⟩

inductive Action where
  | saveTxHistory (txData : TxData)
  | saveNftOwner (nftOwnerData : NftOwnerData)
  | saveNftMeta (nftMetaData : NftMetaData)
  | saveTokenPrice (price : PriceData)
  | removeExpired (i now : Nat)

/-- Prices live for five minutes; the index removes them at any later time. -/
def priceTtl : Nat := 300 * 1000

def step (s : State) : Action → Option State
  | .saveTxHistory txData => some { s with transactions := txHistory.put s.transactions txData }
  | .saveNftOwner nftOwnerData =>
      if s.now ≤ nftOwnerData.savedAt then
        some { s with
          now := nftOwnerData.savedAt
          owners := nftOwners.put s.owners nftOwnerData }
      else none
  | .saveNftMeta nftMetaData => some { s with metas := nftMeta.put s.metas nftMetaData }
  | .saveTokenPrice price =>
      if s.now ≤ price.savedAt then
        some { s with now := price.savedAt, prices := priceCache.put s.prices price }
      else none
  | .removeExpired i now =>
      match s.prices[i]? with
      | some d =>
          if s.now ≤ now ∧ d.updatedAt + priceTtl ≤ now then
            some { s with now := now, prices := s.prices.eraseIdx i }
          else none
      | none => none

/-- `getAddressTxHistory`. A document without a time comes last. -/
def getAddressTxHistory (chainId : Nat) (address : String) (limit offset : Option Nat) :
    Query TxHistory where
  matching d := d.chainId == some chainId && d.address == some address
  time d := d.blockTime.elim 0 (· + 1)
  skip := offset.getD 0
  limit := limit.getD 20

def getAddressNfts (chainId : Nat) (address : String) (limit offset : Option Nat) :
    Query NftOwner where
  matching d := d.nft.chainId == chainId && d.owner == some address
  time := NftOwner.updatedAt
  skip := offset.getD 0
  limit := limit.getD 50

def getNftMeta (s : State) (nft : NftKey) : Option NftMeta := nftMeta.find s.metas nft

def getTokenPrice (s : State) (symbol : String) (chainId : Nat) : Option PriceCache :=
  priceCache.find s.prices ⟨symbol, chainId⟩

/-- What a step writes to each collection. -/
def Action.txData : Action → Option TxData
  | .saveTxHistory txData => some txData
  | _ => none

def Action.nftOwnerData : Action → Option NftOwnerData
  | .saveNftOwner nftOwnerData => some nftOwnerData
  | _ => none

def Action.nftMetaData : Action → Option NftMetaData
  | .saveNftMeta nftMetaData => some nftMetaData
  | _ => none

def Action.price : Action → Option PriceData
  | .saveTokenPrice price => some price
  | _ => none

/-- What a step can do to the collections. A save puts a document into its own collection, and only
prices are removed. -/
theorem step_cases {s t : State} {a : Action} (hStep : step s a = some t) :
    s.now ≤ t.now ∧ t.transactions = a.txData.toList.foldl txHistory.put s.transactions ∧
      t.owners = a.nftOwnerData.toList.foldl nftOwners.put s.owners ∧
      t.metas = a.nftMetaData.toList.foldl nftMeta.put s.metas ∧
      ((∃ price, a.price = some price ∧ price.savedAt ≤ t.now ∧
          t.prices = priceCache.put s.prices price) ∨
        (a.price = none ∧ (t.prices = s.prices ∨ ∃ i d, s.prices[i]? = some d ∧
          d.updatedAt + priceTtl ≤ t.now ∧ t.prices = s.prices.eraseIdx i))) := by
  cases a with
  | saveTxHistory txData =>
      cases hStep
      exact ⟨Nat.le_refl _, rfl, rfl, rfl, .inr ⟨rfl, .inl rfl⟩⟩
  | saveNftMeta nftMetaData =>
      cases hStep
      exact ⟨Nat.le_refl _, rfl, rfl, rfl, .inr ⟨rfl, .inl rfl⟩⟩
  | saveNftOwner nftOwnerData =>
      simp only [step] at hStep
      split at hStep
      · rename_i hNow
        cases hStep
        exact ⟨hNow, rfl, rfl, rfl, .inr ⟨rfl, .inl rfl⟩⟩
      · cases hStep
  | saveTokenPrice price =>
      simp only [step] at hStep
      split at hStep
      · rename_i hNow
        cases hStep
        exact ⟨hNow, rfl, rfl, rfl, .inl ⟨price, rfl, Nat.le_refl _, rfl⟩⟩
      · cases hStep
  | removeExpired i now =>
      simp only [step] at hStep
      split at hStep
      · rename_i d hd
        split at hStep
        · rename_i hExpired
          cases hStep
          exact ⟨hExpired.1, rfl, rfl, rfl, .inr ⟨rfl, .inr ⟨i, d, hd, hExpired.2, rfl⟩⟩⟩
        · cases hStep
      · cases hStep

section Runs
variable {s t : State} {actions : List Action}

/-- The collection of transactions after a run is what its saves have made of it. Reads and the
other collections take no part. -/
theorem transactions_run (hRun : run step s actions = some t) :
    t.transactions = (actions.filterMap Action.txData).foldl txHistory.put s.transactions := by
  induction actions generalizing s with
  | nil =>
      cases hRun
      rfl
  | cons a rest ih =>
      obtain ⟨next, hStep, hRest⟩ := run_cons.mp hRun
      rw [ih hRest, (step_cases hStep).2.1, ← List.foldl_append]
      cases a <;> rfl

theorem owners_run (hRun : run step s actions = some t) :
    t.owners = (actions.filterMap Action.nftOwnerData).foldl nftOwners.put s.owners := by
  induction actions generalizing s with
  | nil =>
      cases hRun
      rfl
  | cons a rest ih =>
      obtain ⟨next, hStep, hRest⟩ := run_cons.mp hRun
      rw [ih hRest, (step_cases hStep).2.2.1, ← List.foldl_append]
      cases a <;> rfl

theorem metas_run (hRun : run step s actions = some t) :
    t.metas = (actions.filterMap Action.nftMetaData).foldl nftMeta.put s.metas := by
  induction actions generalizing s with
  | nil =>
      cases hRun
      rfl
  | cons a rest ih =>
      obtain ⟨next, hStep, hRest⟩ := run_cons.mp hRun
      rw [ih hRest, (step_cases hStep).2.2.2.1, ← List.foldl_append]
      cases a <;> rfl

end Runs

/-- The metadata of an NFT is what its own saves have left. Saves for other tokens have no influence
on it. -/
theorem getNftMeta_eq {actions : List Action} {t : State}
    (hRun : run step State.init actions = some t) (nft : NftKey) :
    getNftMeta t nft =
      nftMeta.merged ((actions.filterMap Action.nftMetaData).filter fun c => c.nft = nft) := by
  rw [getNftMeta, metas_run hRun]
  exact Keyed.find_foldl_put _ nft

/-- The owner that was named last for an NFT. -/
def lastOwner (actions : List Action) (nft : NftKey) : Option String :=
  (((actions.filterMap Action.nftOwnerData).filter fun c => c.nft = nft).filterMap
    NftOwnerData.owner).getLast?

theorem owner_merged (changes : List NftOwnerData) :
    (nftOwners.merged changes).bind NftOwner.owner =
      (changes.filterMap NftOwnerData.owner).getLast? := by
  induction changes using List.reverseRecOn with
  | nil => rfl
  | append_singleton earlier c ih =>
      rw [Keyed.merged_append, List.filterMap_append, List.getLast?_append, ← ih, Option.bind_some]
      cases hMerged : nftOwners.merged earlier with
      | none => cases hOwner : c.owner <;> simp [nftOwners, hOwner]
      | some d => cases hOwner : c.owner <;> simp [nftOwners, hOwner]

/-- An NFT is listed for the owner that was named last, once, and for nobody else. The documents are
keyed by the token and not by the owner, so a transfer moves the one that is there. -/
theorem nfts_of_last_owner {actions : List Action} {t : State}
    (hRun : run step State.init actions = some t) (chainId : Nat) (address : String)
    {answer : List NftOwner}
    (hAnswer : (getAddressNfts chainId address (some 0) none).Answers t.owners answer) :
    (answer.map NftOwner.nft).Nodup ∧ ∀ nft, nft ∈ answer.map NftOwner.nft ↔
      nft.chainId = chainId ∧ lastOwner actions nft = some address := by
  have hOwners : t.owners = (actions.filterMap Action.nftOwnerData).foldl nftOwners.put [] :=
    owners_run hRun
  have hKeys : (t.owners.map nftOwners.key).Nodup := by
    rw [hOwners]
    exact Keyed.nodup_foldl_put (by simp) _
  have hWhole := hAnswer.whole rfl rfl
  refine ⟨((hWhole.map NftOwner.nft).nodup_iff).mpr
    (hKeys.sublist (List.filter_sublist.map NftOwner.nft)), fun nft => ?_⟩
  have hFind := @Keyed.find_foldl_put _ _ _ nftOwners _ (actions.filterMap Action.nftOwnerData) nft
  rw [← hOwners] at hFind
  have hLast : (nftOwners.find t.owners nft).bind NftOwner.owner = lastOwner actions nft := by
    rw [hFind, owner_merged]
    rfl
  rw [(hWhole.map NftOwner.nft).mem_iff, List.mem_map]
  constructor
  · rintro ⟨d, hd, rfl⟩
    obtain ⟨hMember, hMatch⟩ := List.mem_filter.mp hd
    simp only [getAddressNfts, Bool.and_eq_true, beq_iff_eq] at hMatch
    have hFound := (Keyed.find_eq_some_iff hKeys).mpr ⟨hMember, rfl⟩
    refine ⟨hMatch.1, ?_⟩
    rw [← hLast, show nftOwners.find t.owners d.nft = some d from hFound]
    exact hMatch.2
  · rintro ⟨hChain, hOwner⟩
    rw [← hLast] at hOwner
    obtain ⟨d, hFound, hNamed⟩ := Option.bind_eq_some_iff.mp hOwner
    obtain ⟨hMember, hKey⟩ := (Keyed.find_eq_some_iff hKeys).mp hFound
    refine ⟨d, List.mem_filter.mpr ⟨hMember, ?_⟩, hKey⟩
    have hSame : d.nft = nft := hKey
    simp [getAddressNfts, hSame, hChain, hNamed]

/-- The pages of an address's transactions, put together, are its transactions, newest first
and each once, as all saves of its hash have left it. -/
theorem transactions_tile {actions : List Action} {t : State}
    (hRun : run step State.init actions = some t) (chainId : Nat) (address : String)
    {limit count : Nat} {pages : Nat → List TxHistory} (hLimit : limit ≠ 0)
    (hTimes : ((t.transactions.filter
      (getAddressTxHistory chainId address none none).matching).map TxHistory.blockTime).Nodup)
    (hPages : ∀ n < count, (getAddressTxHistory chainId address (some limit)
      (some (n * limit))).Answers t.transactions (pages n))
    (hCount : (t.transactions.filter
      (getAddressTxHistory chainId address none none).matching).length ≤ count * limit) :
    (((List.range count).flatMap pages).map TxHistory.txHash).Nodup ∧
      (((List.range count).flatMap pages).Pairwise fun a b =>
        b.blockTime.elim 0 (· + 1) ≤ a.blockTime.elim 0 (· + 1)) ∧
      ∀ d, d ∈ (List.range count).flatMap pages ↔
        d.chainId = some chainId ∧ d.address = some address ∧
          txHistory.merged ((actions.filterMap Action.txData).filter fun c =>
            c.txHash = d.txHash) = some d := by
  have hTransactions : t.transactions =
      (actions.filterMap Action.txData).foldl txHistory.put [] := transactions_run hRun
  have hKeys : (t.transactions.map txHistory.key).Nodup := by
    rw [hTransactions]
    exact Keyed.nodup_foldl_put (by simp) _
  have hDistinct : ((t.transactions.filter
      (getAddressTxHistory chainId address none none).matching).map
        (getAddressTxHistory chainId address none none).time).Nodup := by
    have hInjective : Function.Injective fun time : Option Nat => time.elim 0 (· + 1) := by
      intro first second hSame
      cases first <;> cases second <;> simp_all
    simpa [getAddressTxHistory, Function.comp_def] using hTimes.map hInjective
  obtain ⟨order, hOrder, hTile⟩ := @Query.pages_tile _
    (getAddressTxHistory chainId address (some limit) none) t.transactions pages count hLimit
    hDistinct hPages
  have hWhole : (List.range count).flatMap pages = order := by
    rw [hTile]
    apply List.take_of_length_le
    rw [hOrder.perm.length_eq]
    exact hCount
  rw [hWhole]
  refine ⟨((hOrder.perm.map TxHistory.txHash).nodup_iff).mpr
    (hKeys.sublist (List.filter_sublist.map TxHistory.txHash)), hOrder.newest, fun d => ?_⟩
  have hFind := @Keyed.find_foldl_put _ _ _ txHistory _ (actions.filterMap Action.txData) d.txHash
  rw [← hTransactions] at hFind
  have hStored : d ∈ t.transactions ↔ txHistory.find t.transactions d.txHash = some d :=
    ⟨fun h => (Keyed.find_eq_some_iff hKeys).mpr ⟨h, rfl⟩,
      fun h => ((Keyed.find_eq_some_iff hKeys).mp h).1⟩
  rw [hOrder.perm.mem_iff, List.mem_filter, hStored, hFind]
  simp only [getAddressTxHistory, Bool.and_eq_true, beq_iff_eq]
  constructor
  · rintro ⟨hMerged, hChain, hAddress⟩
    exact ⟨hChain, hAddress, hMerged⟩
  · rintro ⟨hChain, hAddress, hMerged⟩
    exact ⟨hMerged, hChain, hAddress⟩

/-- The price that was saved last for an asset. -/
def lastPrice (prices : List PriceData) (asset : PriceKey) : Option PriceData :=
  (prices.filter fun c => c.asset = asset).getLast?

/-- What is found of a price after these saves: the last one, or nothing once it is old. -/
structure PriceInv (saves : List PriceData) (s : State) : Prop where
  keys : (s.prices.map priceCache.key).Nodup
  found : ∀ asset d, priceCache.find s.prices asset = some d →
    ∃ c, lastPrice saves asset = some c ∧ d.priceUsd = c.priceUsd ∧ d.updatedAt = c.savedAt
  missing : ∀ asset, priceCache.find s.prices asset = none →
    ∀ c, lastPrice saves asset = some c → c.savedAt + priceTtl ≤ s.now

theorem lastPrice_append (saves : List PriceData) (price : PriceData) (asset : PriceKey) :
    lastPrice (saves ++ [price]) asset =
      if price.asset = asset then some price else lastPrice saves asset := by
  rw [lastPrice, List.filter_append, List.getLast?_append]
  by_cases h : price.asset = asset <;> simp [h, lastPrice]

/-- One step keeps what is known of the prices. A removal takes a document that is old enough. -/
theorem PriceInv.step {saves : List PriceData} {s t : State} {a : Action} (h : PriceInv saves s)
    (hStep : step s a = some t) : PriceInv (saves ++ a.price.toList) t := by
  obtain ⟨hNow, -, -, -, hPrices⟩ := step_cases hStep
  rcases hPrices with ⟨price, hPrice, hSaved, hPut⟩ | ⟨hPrice, hSame | ⟨i, d, hd, hOld, hErased⟩⟩
  · rw [hPrice, Option.toList_some]
    refine ⟨?_, fun asset d hFind => ?_, fun asset hFind c hLast => ?_⟩
    · rw [hPut]
      exact Keyed.nodup_put h.keys price
    · rw [hPut, Keyed.find_put] at hFind
      rw [lastPrice_append]
      by_cases hAsset : price.asset = asset
      · rw [if_pos hAsset]
        rw [if_pos (show priceCache.target price = asset from hAsset)] at hFind
        obtain rfl := Option.some.inj hFind
        refine ⟨price, rfl, ?_⟩
        cases priceCache.find s.prices asset <;> exact ⟨rfl, rfl⟩
      · rw [if_neg hAsset]
        rw [if_neg (show priceCache.target price ≠ asset from hAsset)] at hFind
        exact h.found asset d hFind
    · rw [hPut, Keyed.find_put] at hFind
      rw [lastPrice_append] at hLast
      by_cases hAsset : price.asset = asset
      · rw [if_pos (show priceCache.target price = asset from hAsset)] at hFind
        cases hFind
      · rw [if_neg hAsset] at hLast
        rw [if_neg (show priceCache.target price ≠ asset from hAsset)] at hFind
        exact (h.missing asset hFind c hLast).trans hNow
  · rw [hPrice, Option.toList_none, List.append_nil]
    refine ⟨hSame ▸ h.keys, hSame ▸ h.found, fun asset hFind c hLast => ?_⟩
    rw [hSame] at hFind
    exact (h.missing asset hFind c hLast).trans hNow
  · rw [hPrice, Option.toList_none, List.append_nil]
    refine ⟨hErased ▸ priceCache.nodup_eraseIdx h.keys i, fun asset e hFind => ?_,
      fun asset hFind c hLast => ?_⟩
    · rw [hErased, Keyed.find_eraseIdx h.keys hd] at hFind
      split at hFind
      · cases hFind
      · exact h.found asset e hFind
    · rw [hErased, Keyed.find_eraseIdx h.keys hd] at hFind
      split at hFind
      · rename_i hAsset
        -- the removed document was the last price, and it had expired
        have hFound := (Keyed.find_eq_some_iff h.keys).mpr
          ⟨List.mem_of_getElem? hd, hAsset⟩
        obtain ⟨own, hOwn, -, hTime⟩ := h.found asset d hFound
        obtain rfl := Option.some.inj (hLast.symm.trans hOwn)
        rw [← hTime]
        exact hOld
      · exact (h.missing asset hFind c hLast).trans hNow

theorem priceInv_run {saves : List PriceData} {s t : State} {actions : List Action}
    (h : PriceInv saves s) (hRun : run step s actions = some t) :
    PriceInv (saves ++ actions.filterMap Action.price) t := by
  induction actions generalizing s saves with
  | nil =>
      cases hRun
      simpa using h
  | cons a rest ih =>
      obtain ⟨next, hStep, hRest⟩ := run_cons.mp hRun
      have hAll := ih (h.step hStep) hRest
      rw [List.append_assoc] at hAll
      have hPrices : (a :: rest).filterMap Action.price =
          a.price.toList ++ rest.filterMap Action.price := by cases a <;> rfl
      rw [hPrices]
      exact hAll

/-- The price cache answers with the price that was saved last, never with an earlier one, and
it has no answer only if there was no price or the last one is five minutes old. -/
theorem getTokenPrice_last {actions : List Action} {t : State}
    (hRun : run step State.init actions = some t) (symbol : String) (chainId : Nat) :
    (∀ d, getTokenPrice t symbol chainId = some d →
      ∃ c, lastPrice (actions.filterMap Action.price) ⟨symbol, chainId⟩ = some c ∧
        d.priceUsd = c.priceUsd ∧ d.updatedAt = c.savedAt) ∧
      (getTokenPrice t symbol chainId = none →
        ∀ c, lastPrice (actions.filterMap Action.price) ⟨symbol, chainId⟩ = some c →
          c.savedAt + priceTtl ≤ t.now) := by
  have hInit : PriceInv [] State.init :=
    ⟨by simp [State.init], fun _ _ h => (by cases h), fun _ _ _ h => (by cases h)⟩
  have hInv := priceInv_run hInit hRun
  rw [List.nil_append] at hInv
  exact ⟨fun d hFind => hInv.found _ d hFind, fun hFind => hInv.missing _ hFind⟩

def token : NftKey := ⟨1, "0xc0de", "7"⟩

/-- An NFT that changes hands, two transactions of which one is completed later, and a price
that is replaced and expires. -/
def mixedRun : List Action :=
  [.saveNftOwner ⟨token, some .ethereum, some "0xab", none, 1⟩,
    .saveTxHistory ⟨"0x01", some 1, some "0xab", some 10, .obj []⟩,
    .saveTokenPrice ⟨⟨"ETH", 1⟩, 2000, none, 2⟩,
    .saveNftOwner ⟨token, none, some "0xcd", none, 3⟩,
    .saveTxHistory ⟨"0x02", some 1, some "0xab", none, .obj []⟩,
    .saveNftOwner ⟨token, none, none, some "2", 4⟩,
    .saveTxHistory ⟨"0x02", none, none, some 20, .obj [("status", .bool false)]⟩,
    .saveTokenPrice ⟨⟨"ETH", 1⟩, 2100, none, 5⟩, .removeExpired 0 300005]

/-- The token changes hands in this run, and is listed for its second owner. -/
theorem nfts_of_last_owner_mixedRun : ∃ t, ∃ answer : List NftOwner,
    run step State.init mixedRun = some t ∧ (answer.map NftOwner.nft).Nodup ∧
    (∀ nft, nft ∈ answer.map NftOwner.nft ↔
      nft.chainId = 1 ∧ lastOwner mixedRun nft = some "0xcd") ∧
        lastOwner mixedRun token = some "0xcd" := by
  have hRun : (run step State.init mixedRun).isSome := rfl
  obtain ⟨t, ht⟩ := Option.isSome_iff_exists.mp hRun
  obtain ⟨answer, hAnswer⟩ := Query.exists_answer (getAddressNfts 1 "0xcd" (some 0) none) t.owners
  obtain ⟨hOnce, hListed⟩ := nfts_of_last_owner ht 1 "0xcd" hAnswer
  exact ⟨t, answer, ht, hOnce, hListed, rfl⟩

/-- Two pages hold the transactions of the address, one of them merged from two saves. -/
theorem transactions_tile_mixedRun : ∃ t, ∃ pages : Nat → List TxHistory,
    run step State.init mixedRun = some t ∧
      (((List.range 2).flatMap pages).map TxHistory.txHash).Nodup ∧
      (((List.range 2).flatMap pages).Pairwise fun a b =>
        b.blockTime.elim 0 (· + 1) ≤ a.blockTime.elim 0 (· + 1)) ∧
      ∀ d, d ∈ (List.range 2).flatMap pages ↔ d.chainId = some 1 ∧ d.address = some "0xab" ∧
        txHistory.merged ((mixedRun.filterMap Action.txData).filter fun c =>
          c.txHash = d.txHash) = some d := by
  have hAnswers : ∀ n, ∃ page, (getAddressTxHistory 1 "0xab" (some 1) (some (n * 1))).Answers
      ((run step State.init mixedRun).getD State.init).transactions page :=
    fun n => Query.exists_answer _ _
  choose pages hPages using hAnswers
  exact ⟨_, pages, rfl, @transactions_tile mixedRun _ rfl 1 "0xab" 1 2 pages (by decide) (by decide)
    (fun n _ => hPages n) (by decide)⟩

/-- The price is saved twice, and removed when the later save is five minutes old. -/
theorem getTokenPrice_last_mixedRun : ∃ t, run step State.init mixedRun = some t ∧
    (∀ d, getTokenPrice t "ETH" 1 = some d →
      ∃ c, lastPrice (mixedRun.filterMap Action.price) ⟨"ETH", 1⟩ = some c ∧
        d.priceUsd = c.priceUsd ∧ d.updatedAt = c.savedAt) ∧
      (getTokenPrice t "ETH" 1 = none →
        ∀ c, lastPrice (mixedRun.filterMap Action.price) ⟨"ETH", 1⟩ = some c →
          c.savedAt + priceTtl ≤ t.now) := by
  have hRun : (run step State.init mixedRun).isSome := rfl
  obtain ⟨t, ht⟩ := Option.isSome_iff_exists.mp hRun
  exact ⟨t, ht, getTokenPrice_last ht "ETH" 1⟩

end BalanceKit.DocumentStores
