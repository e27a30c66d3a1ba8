import BalanceKit.Core.InvalidationScope
import BalanceKit.Library.Runs
import BalanceKit.Providers.NetworkRouting

/-! Which addresses the caches answer for. `getPortfolio` looks into them before it
validates the address, under a key that joins the address and the provider. A step is
the code between two awaits. -/
namespace BalanceKit.CachedAddresses
open TransitionSystem CacheKeyService InvalidationScope

/-- A request whose chain is normalised. -/
structure Request where
  chain : ChainName
  address : String
  provider : Option String

def Request.key (r : Request) : String := createPortfolioKey r.chain r.address r.provider

/-- The await at which a call is. The last two stages are the handlers that store a
fetched portfolio, after the call itself has answered. -/
inductive Stage where
  | redisGet | mongoGet
  | redisFill (balanceResponse : Js)
  | fetching
  | portfolioUpdate (portfolioData : Js)
  | portfolioRedisUpdated (portfolioData : Js)
  | finished

structure Call where
  request : Request
  stage : Stage
  answer : Option Js

/-- The clock is in milliseconds. -/
structure State where
  clock : Nat
  stores : Stores
  calls : List Call

def State.init : State := ⟨0, Stores.init, []⟩

def State.move (s : State) (i : Nat) (call : Call) : State :=
  { s with calls := s.calls.set i call }

inductive Action where
  | tick (elapsed : Nat)
  | getPortfolio (chainNameOrSymbol address : String) (providerFromContext : Option String)
  | redisGet (i : Nat)
  | mongoGet (i : Nat)
  | redisFill (i : Nat)
  /-- What the networks answer to this call, and what the adapters make of it. -/
  | fetch (i : Nat) (outside : Outside) (portfolioData : Js)
  | portfolioUpdate (i : Nat)
  | portfolioRedisUpdated (i : Nat)
  | fail (i : Nat)
  | handleAddressActivity (event : AddressActivityEvent)
  /-- The store dropping a key, or a document. -/
  | evict (key : String)
  | remove (i : Nat)

variable (libraries : AddressLibraries)

/-- The chain service validates and asks the provider. -/
def fetches (r : Request) (outside : Outside) : Bool :=
  (BalanceService.getPortfolio { outside with libraries := libraries } r.provider r.chain.value
    r.address).isSome

def step (s : State) : Action → Option State
  | .tick elapsed => some { s with clock := s.clock + elapsed }
  | .getPortfolio chainNameOrSymbol address providerFromContext =>
      match BalanceService.normalizeChainInput chainNameOrSymbol with
      | some chain =>
          some { s with
            calls := s.calls ++ [⟨⟨chain, address, providerFromContext⟩, .redisGet, none⟩] }
      | none => some s
  | .redisGet i =>
      match s.calls[i]? with
      | some ⟨r, .redisGet, _⟩ =>
          match (CacheService.get s.stores.redis s.clock r.key).filter Js.truthy with
          | some cachedData => some (s.move i ⟨r, .finished, some cachedData⟩)
          | none => some (s.move i ⟨r, .mongoGet, none⟩)
      | _ => none
  | .mongoGet i =>
      match s.calls[i]? with
      | some ⟨r, .mongoGet, _⟩ =>
          match DbService.getPortfolioSnapshot s.stores.snapshots s.clock (chainInfo r.chain).id
              r.address r.provider with
          | some d =>
              match CacheMongoService.toBalanceResponse s.clock d.data with
              | some balanceResponse => some (s.move i ⟨r, .redisFill balanceResponse, none⟩)
              -- the conversion throws, and the request fails
              | none => some (s.move i ⟨r, .finished, none⟩)
          | none => some (s.move i ⟨r, .fetching, none⟩)
      | _ => none
  | .redisFill i =>
      match s.calls[i]? with
      | some ⟨r, .redisFill balanceResponse, _⟩ =>
          let redis := CacheService.set s.stores.redis s.clock r.key balanceResponse none
          some ({ s with stores := { s.stores with redis := redis } }.move i
            ⟨r, .finished, some balanceResponse⟩)
      | _ => none
  | .fetch i outside portfolioData =>
      match s.calls[i]? with
      | some ⟨r, .fetching, _⟩ =>
          if fetches libraries r outside then
            some (s.move i ⟨r, .portfolioUpdate portfolioData, some portfolioData⟩)
          else some (s.move i ⟨r, .finished, none⟩)
      | _ => none
  | .portfolioUpdate i =>
      match s.calls[i]? with
      | some ⟨r, .portfolioUpdate portfolioData, answer⟩ =>
          some ({ s with
            stores := PortfolioCacheListener.handlePortfolioUpdate s.stores s.clock r.chain
              r.address portfolioData r.provider none }.move i
            ⟨r, .portfolioRedisUpdated portfolioData, answer⟩)
      | _ => none
  | .portfolioRedisUpdated i =>
      match s.calls[i]? with
      | some ⟨r, .portfolioRedisUpdated portfolioData, answer⟩ =>
          some ({ s with
            stores := PortfolioMongoListener.handlePortfolioRedisUpdated s.stores s.clock r.chain
              (chainInfo r.chain).id r.address portfolioData r.provider
              (some PortfolioCacheListener.mongoTtlSeconds) }.move i ⟨r, .finished, answer⟩)
      | _ => none
  | .fail i =>
      match s.calls[i]? with
      | some call => some (s.move i { call with stage := .finished })
      | none => none
  | .handleAddressActivity event =>
      some { s with stores := CacheMongoService.handleAddressActivity s.stores s.clock event }
  | .evict key =>
      some { s with
        stores := { s.stores with redis := s.stores.redis.filter fun e => e.key ≠ key } }
  | .remove i =>
      some { s with
        stores := { s.stores with snapshots := s.stores.snapshots.eraseIdx i } }

/-- Portfolios were returned for valid addresses only, and the key of a request that was
answered is the key of no other request. -/
def Safe (s : State) : Prop :=
  ∀ call ∈ s.calls, call.answer.isSome = true →
    libraries.isValidAddress call.request.chain call.request.address = true ∧
    ∀ other ∈ s.calls, call.request.key = other.request.key →
      call.request.chain = other.request.chain ∧ call.request.address = other.request.address ∧
        Text.present call.request.provider = Text.present other.request.provider

/-- The text reads like the end of a key of a provider that answers. -/
def NamesProvider (chain : ChainName) (text : String) : Prop :=
  ∃ address, libraries.isValidAddress chain address = true ∧
    ∃ providerClass : ProviderClass, text = address ++ ":" ++ providerClass.providerType.value

/-- Without a provider the address does not name one, and where the address is empty the
provider is not read in its place. -/
def Request.Plain (r : Request) : Prop :=
  (Text.present r.provider = none → ¬ NamesProvider libraries r.chain r.address) ∧
  ∀ provider, r.address = "" → Text.present r.provider = some provider →
    libraries.isValidAddress r.chain provider = false ∧ ¬ NamesProvider libraries r.chain provider

def requestsPlain (_ : State) : Action → Prop
  | .getPortfolio chainNameOrSymbol address providerFromContext =>
      ∀ chain, BalanceService.normalizeChainInput chainNameOrSymbol = some chain →
        Request.Plain libraries ⟨chain, address, providerFromContext⟩
  | _ => True

/-- The provider is absent, or the type of a registered one. -/
def Known (provider : Option String) : Prop :=
  ∀ text, Text.present provider = some text →
    ∃ providerClass : ProviderClass, text = providerClass.providerType.value

/-- What a request that was answered has in common with an empty cache's. -/
structure Request.Sound (r : Request) : Prop where
  valid : libraries.isValidAddress r.chain r.address = true
  known : Known r.provider

section Fetching
variable {outside : Outside} {service : ChainService} {address : String} {chainId : Nat}
  {provider : Option String} {balances : RawBalances}

/-- A provider that the registry finds was asked for by its own type, so the text of the request
is that of a registered provider. -/
theorem known_of_selected {c : ChainName} {providerClass : ProviderClass}
    (h : ProviderFactory.getProvider c.value (service.selectedProviderType outside provider) =
      some providerClass) : Known provider := by
  intro text hText
  have hType := (NetworkRouting.getProvider_spec h).1
  unfold ChainService.selectedProviderType at hType
  rw [hText] at hType
  exact ⟨providerClass, hType⟩

/-- The EVM services look the provider up before anything else, and fail without one. So nothing is
stored under a key with another name. -/
theorem known_of_abstractEvmChainService
    (h : AbstractEvmChainService.getBalances outside service address chainId provider =
      some balances) : Known provider := by
  simp only [AbstractEvmChainService.getBalances, ProviderFactory.getEvmProvider,
    Option.bind_eq_bind, Option.bind_eq_some_iff] at h
  obtain ⟨-, -, providerClass, ⟨c, -, hProvider⟩, -⟩ := h
  exact known_of_selected hProvider

/-- Only a registered provider is asked. -/
theorem known_of_getBalances (h : service.getBalances outside address chainId provider =
    some balances) : Known provider := by
  cases service with
  | ethereumService =>
      simp only [ChainService.getBalances, PriceableEvmChainService.getBalances,
        Option.bind_eq_bind, Option.bind_eq_some_iff] at h
      obtain ⟨fetched, hFetched, -⟩ := h
      exact known_of_abstractEvmChainService hFetched
  | polygonService => exact known_of_abstractEvmChainService h
  | bscService => exact known_of_abstractEvmChainService h
  | solanaService =>
      simp only [ChainService.getBalances, SolanaService.getBalances, Option.bind_eq_bind,
        Option.bind_eq_some_iff] at h
      obtain ⟨-, -, providerClass, hProvider, -⟩ := h
      exact known_of_selected hProvider

end Fetching

theorem normalizeChainInput_value (c : ChainName) :
    BalanceService.normalizeChainInput c.value = some c := by
  cases c <;> decide

variable {libraries}

/-- What is fetched belongs to a valid address and a known provider, because the chain service
checks the one and the registry the other. -/
theorem sound_of_fetches {r : Request} {outside : Outside}
    (h : fetches libraries r outside = true) : r.Sound libraries := by
  obtain ⟨⟨chain, balances⟩, hPortfolio⟩ := Option.isSome_iff_exists.mp h
  obtain ⟨hChain, hValid, service, -, hBalances⟩ := NetworkRouting.getPortfolio_eq_some.mp hPortfolio
  rw [normalizeChainInput_value] at hChain
  obtain rfl := Option.some.inj hChain
  exact ⟨hValid, known_of_getBalances hBalances⟩

section Keys

/-- What the provider adds to a key. -/
def Request.ending (r : Request) : List Char := InvalidationScope.segment r.provider

theorem Request.ending_none {r : Request} (h : Text.present r.provider = none) : r.ending = [] := by
  rw [Request.ending, InvalidationScope.segment, h]

theorem Request.ending_some {r : Request} {provider : String}
    (h : Text.present r.provider = some provider) : r.ending = ':' :: provider.toList := by
  rw [Request.ending, InvalidationScope.segment, h]

/-- A key tells its chain, and what follows the chain. The parts are split off at the delimiters,
and the chain has none in its name. -/
theorem segments_of_key {r other : Request} (h : r.key = other.key) :
    r.chain = other.chain ∧
      InvalidationScope.segment (some r.address) ++ r.ending =
        InvalidationScope.segment (some other.address) ++ other.ending := by
  have hPrefix : (head r.chain).toList <+: (generateKey
      ⟨.portfolio, other.chain, none, some other.address, other.provider, []⟩).toList := by
    have hKey : r.key = generateKey
      ⟨.portfolio, other.chain, none, some other.address, other.provider, []⟩ := h
    rw [← hKey, Request.key, toList_createPortfolioKey]
    exact List.prefix_append _ _
  have hChain : other.chain = r.chain := chain_of_comparable_heads hPrefix
  refine ⟨hChain.symm, ?_⟩
  have hList := congrArg String.toList h
  rw [Request.key, Request.key, toList_createPortfolioKey, toList_createPortfolioKey, hChain] at hList
  exact List.append_cancel_left (List.append_cancel_left hList)

/-- A key of a valid address ends in the address, and in the provider if there is one. -/
theorem Request.Sound.ending_cases {r : Request} (h : r.Sound libraries) :
    r.ending = [] ∧ Text.present r.provider = none ∨
      ∃ providerClass : ProviderClass,
        r.ending = ':' :: providerClass.providerType.value.toList ∧
          Text.present r.provider = some providerClass.providerType.value := by
  cases hProvider : Text.present r.provider with
  | none => exact .inl ⟨r.ending_none hProvider, rfl⟩
  | some text =>
      obtain ⟨providerClass, rfl⟩ := h.known text hProvider
      exact .inr ⟨providerClass, r.ending_some hProvider, rfl⟩

/-- A text that reads like the end of such a key. What stands before a provider of the enumeration
is the address, which hides no delimiter. -/
theorem Request.Sound.text_cases {r : Request} (h : r.Sound libraries) {text : String}
    (hText : text.toList = r.address.toList ++ r.ending) :
    Text.present r.provider = none ∧ text = r.address ∨ NamesProvider libraries r.chain text := by
  rcases h.ending_cases with ⟨hNone, hAbsent⟩ | ⟨providerClass, hSome, -⟩
  · rw [hNone, List.append_nil] at hText
    exact .inl ⟨hAbsent, String.toList_inj.mp hText⟩
  · refine .inr ⟨r.address, h.valid, providerClass, String.toList_inj.mp ?_⟩
    rw [hText, hSome]
    simp

/-- Two addresses with providers are told apart by their only delimiter. The address before it is
compared first, and the provider is what remains. -/
theorem eq_of_ending {r : Request} (h : r.Sound libraries) (hAddress : ':' ∉ r.address.toList)
    {address provider : String}
    (hSegments : r.address.toList ++ r.ending = address.toList ++ ':' :: provider.toList) :
    r.address = address ∧ Text.present r.provider = some provider := by
  rcases h.ending_cases with ⟨hNone, -⟩ | ⟨providerClass, hSome, hPresent⟩
  · rw [hNone, List.append_nil] at hSegments
    exact absurd (by simp [hSegments]) hAddress
  · rw [hSome] at hSegments
    have hCount := congrArg (List.count ':') hSegments
    simp only [List.count_append, List.count_cons_self, List.count_eq_zero_of_not_mem hAddress,
      List.count_eq_zero_of_not_mem (not_mem_providerValue providerClass.providerType)] at hCount
    have hOther : ':' ∉ address.toList := List.count_eq_zero.mp (by omega)
    obtain ⟨hSame, hType⟩ := Text.append_delimiter_inj hAddress hOther hSegments
    refine ⟨String.toList_inj.mp hSame, ?_⟩
    rw [hPresent, String.toList_inj.mp hType]

/-- The key of an answered request is the key of no other plain request. This is where a provider
that is hidden in an address would do harm. -/
theorem eq_of_key (hLibraries : libraries.Documented) {r other : Request}
    (hSound : r.Sound libraries) (hPlain : other.Plain libraries) (h : r.key = other.key) :
    r.chain = other.chain ∧ r.address = other.address ∧
      Text.present r.provider = Text.present other.provider := by
  obtain ⟨hChain, hSegments⟩ := segments_of_key h
  refine ⟨hChain, ?_⟩
  have hAlphanumeric := alphanumeric_of_valid hLibraries hSound.valid
  have hAddress := not_mem_address (plainAddress_of_alphanumeric hAlphanumeric)
  rw [segment_some hAlphanumeric.1, List.cons_append] at hSegments
  by_cases hEmpty : other.address = ""
  · -- The part behind the chain id is then the provider of the other request.
    have hNone : InvalidationScope.segment (some other.address) = [] := by
      rw [hEmpty]
      rfl
    rw [hNone, List.nil_append] at hSegments
    cases hOther : Text.present other.provider with
    | none =>
        rw [other.ending_none hOther] at hSegments
        cases hSegments
    | some text =>
        rw [other.ending_some hOther, List.cons.injEq] at hSegments
        obtain ⟨hInvalid, hNot⟩ := hPlain.2 text hEmpty hOther
        rw [← hChain] at hInvalid hNot
        rcases hSound.text_cases hSegments.2.symm with ⟨-, hSame⟩ | hNamed
        · rw [hSame, hSound.valid] at hInvalid
          cases hInvalid
        · exact absurd hNamed hNot
  · rw [segment_some hEmpty, List.cons_append, List.cons.injEq] at hSegments
    cases hOther : Text.present other.provider with
    | none =>
        rw [other.ending_none hOther, List.append_nil] at hSegments
        rcases hSound.text_cases hSegments.2.symm with ⟨hAbsent, hSame⟩ | hNamed
        · exact ⟨hSame.symm, hAbsent⟩
        · exact absurd (hChain ▸ hNamed) (hPlain.1 hOther)
    | some text =>
        rw [other.ending_some hOther] at hSegments
        exact eq_of_ending hSound hAddress hSegments.2

end Keys

section Invariant
variable (libraries)

/-- The call stores what it has, or will. -/
def Stage.storing : Stage → Bool
  | .redisFill _ | .portfolioUpdate _ | .portfolioRedisUpdated _ => true
  | .redisGet | .mongoGet | .fetching | .finished => false

structure Call.Sound (call : Call) : Prop where
  plain : call.request.Plain libraries
  storing : call.stage.storing = true → call.request.Sound libraries
  answered : call.answer.isSome = true → call.request.Sound libraries

/-- Both stores hold only what belongs to requests for valid addresses. -/
structure Stores.Sound (stores : Stores) : Prop where
  redis : ∀ e ∈ stores.redis, ∃ r : Request, r.Sound libraries ∧ e.key = r.key
  snapshots : ∀ d ∈ stores.snapshots, ∃ chain,
    d.chainId = (chainInfo chain).id ∧ libraries.isValidAddress chain d.address = true ∧
      ∀ text, d.provider = some text →
        ∃ providerClass : ProviderClass, text = providerClass.providerType.value

structure Inv (s : State) : Prop where
  stores : Stores.Sound libraries s.stores
  calls : ∀ call ∈ s.calls, call.Sound libraries

variable {libraries}

theorem inv_init : Inv libraries State.init where
  stores := ⟨fun _ he => (List.not_mem_nil he).elim, fun _ hd => (List.not_mem_nil hd).elim⟩
  calls _ hCall := (List.not_mem_nil hCall).elim

/-- A step of one call keeps the others, so the stores and the moved call are all that has to be
checked. -/
theorem inv_move {s : State} {stores : Stores} {i : Nat} {call : Call} (h : Inv libraries s)
    (hStores : Stores.Sound libraries stores) (hCall : call.Sound libraries) :
    Inv libraries ({ s with stores := stores }.move i call) :=
  ⟨hStores, ProcessTable.forall_mem_set h.calls hCall⟩

/-- Storing under the key of a sound request keeps Redis sound, whatever the value. Soundness is
about the keys, so only the one that is set has to be checked. -/
theorem sound_set {stores : Stores} (h : Stores.Sound libraries stores) {r : Request}
    (hSound : r.Sound libraries) (now : Nat) (value : Js) (ttlSeconds : Option Nat) :
    Stores.Sound libraries
      { stores with redis := CacheService.set stores.redis now r.key value ttlSeconds } where
  redis e he := by
    rcases List.mem_cons.mp he with rfl | hOld
    · exact ⟨r, hSound, rfl⟩
    · exact h.redis e (List.mem_filter.mp hOld).1
  snapshots := h.snapshots

/-- The listener saves under the chain, address and provider of a sound request. An update of an
old snapshot may leave it the provider that it had. -/
theorem sound_handlePortfolioRedisUpdated {stores : Stores} (h : Stores.Sound libraries stores)
    {r : Request} (hSound : r.Sound libraries) (now : Nat) (portfolioData : Js)
    (ttlSeconds : Option Nat) :
    Stores.Sound libraries (PortfolioMongoListener.handlePortfolioRedisUpdated stores now r.chain
      (chainInfo r.chain).id r.address portfolioData r.provider ttlSeconds) where
  redis := h.redis
  snapshots d hd := by
    have hSaved := PortfolioMongoListener.savePortfolioSnapshot_handlePortfolioRedisUpdated stores
      now r.chain (chainInfo r.chain).id r.address portfolioData r.provider ttlSeconds
    rcases DbService.mem_savePortfolioSnapshot hSaved hd with rfl | ⟨old, hOld, hMatch, rfl⟩ | hKept
    · refine ⟨r.chain, rfl, hSound.valid, ?_⟩
      rw [DbService.insertDocument_ofPortfolio]
      exact hSound.known
    · obtain ⟨hId, hAddress, -⟩ := DbService.snapshotFilter_iff.mp hMatch
      obtain ⟨-, -, -, hProvider⟩ := h.snapshots old hOld
      refine ⟨r.chain, hId, hAddress ▸ hSound.valid, ?_⟩
      rw [DbService.updateDocument_ofPortfolio]
      intro text hText
      rcases Option.or_eq_some_iff.mp hText with hNew | ⟨-, hOldProvider⟩
      · exact hSound.known text hNew
      · exact hProvider text hOldProvider
    · exact h.snapshots d hKept

/-- An invalidation removes entries and expires snapshots, and puts nothing under another key. -/
theorem sound_handleAddressActivity {stores : Stores} (h : Stores.Sound libraries stores)
    (now : Nat) (event : AddressActivityEvent) :
    Stores.Sound libraries (CacheMongoService.handleAddressActivity stores now event) := by
  unfold CacheMongoService.handleAddressActivity
  split
  · exact h
  · refine ⟨fun e he => h.redis e (CacheService.mem_deleteByPattern.mp he).1, ?_⟩
    intro d hd
    obtain ⟨old, hOld, rfl⟩ := DbService.mem_invalidateAddressSnapshot.mp hd
    have hOldSound := h.snapshots old hOld
    split <;> exact hOldSound

/-- A hit in Redis is under the key of a sound request, and so of this one. The entry was stored for
a request with this key, and that request is for the same address. -/
theorem sound_of_hit (hLibraries : libraries.Documented) {stores : Stores}
    (h : Stores.Sound libraries stores) {r : Request} (hPlain : r.Plain libraries) {now : Nat}
    {cachedData : Js}
    (hHit : (CacheService.get stores.redis now r.key).filter Js.truthy = some cachedData) :
    r.Sound libraries := by
  obtain ⟨hGet, -⟩ := Option.filter_eq_some_iff.mp hHit
  obtain ⟨e, hFound, -⟩ := Option.map_eq_some_iff.mp hGet
  have hKey : e.key = r.key := by
    have hCondition := List.find?_some hFound
    simp only [decide_eq_true_eq] at hCondition
    exact hCondition.1
  obtain ⟨stored, hStored, hSame⟩ := h.redis e (List.mem_of_find?_eq_some hFound)
  obtain ⟨hChain, hAddress, hProvider⟩ :=
    eq_of_key hLibraries hStored hPlain (hSame.symm.trans hKey)
  refine ⟨by rw [← hChain, ← hAddress]; exact hStored.valid, ?_⟩
  unfold Known
  rw [← hProvider]
  exact hStored.known

/-- A snapshot is found by the id of the chain and the address themselves. The key of a document
plays no part in it, so nothing has to be told apart. -/
theorem sound_of_snapshot {stores : Stores} (h : Stores.Sound libraries stores) {r : Request}
    {now : Nat} {d : PortfolioSnapshot}
    (hFound : DbService.getPortfolioSnapshot stores.snapshots now (chainInfo r.chain).id r.address
      r.provider = some d) : r.Sound libraries := by
  obtain ⟨chain, hId, hValid, hProvider⟩ := h.snapshots d (List.mem_of_find?_eq_some hFound)
  have hCondition := List.find?_some hFound
  simp only [Bool.and_eq_true, decide_eq_true_eq] at hCondition
  obtain ⟨hOwnId, hAddress, hMatch⟩ := DbService.snapshotFilter_iff.mp hCondition.1
  have hChain : chain = r.chain := chainInfo_id_injective (hId.symm.trans hOwnId)
  refine ⟨by rw [← hChain, ← hAddress]; exact hValid, ?_⟩
  intro text hText
  simp only [DbService.providerMatches, hText, beq_iff_eq] at hMatch
  exact hProvider text hMatch

section Step
variable {s t : State} {i : Nat}

theorem Inv.call_sound (h : Inv libraries s) {call : Call} (hCall : s.calls[i]? = some call) :
    call.Sound libraries := h.calls _ (List.mem_of_getElem? hCall)

/-- A new request has stored and answered nothing. -/
theorem inv_getPortfolio (h : Inv libraries s) {chainNameOrSymbol address : String}
    {providerFromContext : Option String}
    (hPlain : requestsPlain libraries s
      (.getPortfolio chainNameOrSymbol address providerFromContext))
    (hStep : step libraries s (.getPortfolio chainNameOrSymbol address providerFromContext) =
      some t) : Inv libraries t := by
  simp only [step] at hStep
  split at hStep
  · rename_i chain hChain
    cases hStep
    refine ⟨h.stores, fun call hCall => ?_⟩
    rcases List.mem_append.mp hCall with hOld | hNew
    · exact h.calls call hOld
    · rw [List.mem_singleton.mp hNew]
      exact ⟨hPlain chain hChain, nofun, nofun⟩
  · cases hStep
    exact h

/-- A hit answers the request, which is then sound because its key is. -/
theorem inv_redisGet (hLibraries : libraries.Documented) (h : Inv libraries s)
    (hStep : step libraries s (.redisGet i) = some t) : Inv libraries t := by
  simp only [step] at hStep
  split at hStep
  · rename_i r answer hCall
    have hRequest := (h.call_sound hCall).plain
    split at hStep
    · rename_i cachedData hHit
      cases hStep
      have hSound := sound_of_hit hLibraries h.stores hRequest hHit
      exact inv_move h h.stores ⟨hRequest, nofun, fun _ => hSound⟩
    · cases hStep
      exact inv_move h h.stores ⟨hRequest, nofun, nofun⟩
  · cases hStep

/-- A snapshot that is found is about to be stored for its own address. -/
theorem inv_mongoGet (h : Inv libraries s) (hStep : step libraries s (.mongoGet i) = some t) :
    Inv libraries t := by
  simp only [step] at hStep
  split at hStep
  · rename_i r answer hCall
    have hRequest := (h.call_sound hCall).plain
    split at hStep
    · rename_i d hFound
      have hSound := sound_of_snapshot h.stores hFound
      split at hStep
      · cases hStep
        exact inv_move h h.stores ⟨hRequest, fun _ => hSound, nofun⟩
      · cases hStep
        exact inv_move h h.stores ⟨hRequest, nofun, nofun⟩
    · cases hStep
      exact inv_move h h.stores ⟨hRequest, nofun, nofun⟩
  · cases hStep

/-- The read-through writes under the key of the request, for which Mongo has just answered. The
portfolio is that of its own address, so Redis stays sound. -/
theorem inv_redisFill (h : Inv libraries s) (hStep : step libraries s (.redisFill i) = some t) :
    Inv libraries t := by
  simp only [step] at hStep
  split at hStep
  · rename_i r balanceResponse answer hCall
    cases hStep
    have hSound := (h.call_sound hCall).storing rfl
    exact inv_move h (sound_set h.stores hSound s.clock balanceResponse none)
      ⟨(h.call_sound hCall).plain, nofun, fun _ => hSound⟩
  · cases hStep

/-- The chain service checks the address before it fetches. A portfolio that is fetched is one of a
valid address, and the request is sound from then on. -/
theorem inv_fetch (h : Inv libraries s) {outside : Outside} {portfolioData : Js}
    (hStep : step libraries s (.fetch i outside portfolioData) = some t) : Inv libraries t := by
  simp only [step] at hStep
  split at hStep
  · rename_i r answer hCall
    have hRequest := (h.call_sound hCall).plain
    split at hStep
    · rename_i hFetched
      cases hStep
      have hSound := sound_of_fetches hFetched
      exact inv_move h h.stores ⟨hRequest, fun _ => hSound, fun _ => hSound⟩
    · cases hStep
      exact inv_move h h.stores ⟨hRequest, nofun, nofun⟩
  · cases hStep

theorem inv_portfolioUpdate (h : Inv libraries s)
    (hStep : step libraries s (.portfolioUpdate i) = some t) : Inv libraries t := by
  simp only [step] at hStep
  split at hStep
  · rename_i r portfolioData answer hCall
    cases hStep
    have hSound := (h.call_sound hCall).storing rfl
    exact inv_move h (sound_set h.stores hSound s.clock portfolioData none)
      ⟨(h.call_sound hCall).plain, fun _ => hSound, fun _ => hSound⟩
  · cases hStep

theorem inv_portfolioRedisUpdated (h : Inv libraries s)
    (hStep : step libraries s (.portfolioRedisUpdated i) = some t) : Inv libraries t := by
  simp only [step] at hStep
  split at hStep
  · rename_i r portfolioData answer hCall
    cases hStep
    have hSound := (h.call_sound hCall).storing rfl
    exact inv_move h (sound_handlePortfolioRedisUpdated h.stores hSound s.clock portfolioData _)
      ⟨(h.call_sound hCall).plain, nofun, fun _ => hSound⟩
  · cases hStep

/-- A call that fails keeps the answer that it has given, if any, and stores nothing more. -/
theorem inv_fail (h : Inv libraries s) (hStep : step libraries s (.fail i) = some t) :
    Inv libraries t := by
  simp only [step] at hStep
  split at hStep
  · rename_i call hCall
    cases hStep
    exact inv_move h h.stores ⟨(h.call_sound hCall).plain, nofun, (h.call_sound hCall).answered⟩
  · cases hStep

/-- The steps of the stores on their own touch no call and add nothing that is cached. An expiry, an
invalidation and an eviction are such steps. -/
theorem inv_stores {stores : Stores} {clock : Nat} (h : Inv libraries s)
    (hStores : Stores.Sound libraries stores) :
    Inv libraries { s with clock := clock, stores := stores } := ⟨hStores, h.calls⟩

/-- One step keeps the invariant. The request itself is restricted only where it is made. -/
theorem inv_step (hLibraries : libraries.Documented) {a : Action} (h : Inv libraries s)
    (hPlain : requestsPlain libraries s a) (hStep : step libraries s a = some t) :
    Inv libraries t := by
  cases a with
  | tick elapsed =>
      cases hStep
      exact inv_stores h h.stores
  | getPortfolio chainNameOrSymbol address providerFromContext =>
      exact inv_getPortfolio h hPlain hStep
  | redisGet i => exact inv_redisGet hLibraries h hStep
  | mongoGet i => exact inv_mongoGet h hStep
  | redisFill i => exact inv_redisFill h hStep
  | fetch i outside portfolioData => exact inv_fetch h hStep
  | portfolioUpdate i => exact inv_portfolioUpdate h hStep
  | portfolioRedisUpdated i => exact inv_portfolioRedisUpdated h hStep
  | fail i => exact inv_fail h hStep
  | handleAddressActivity event =>
      cases hStep
      exact inv_stores h (sound_handleAddressActivity h.stores s.clock event)
  | evict key =>
      cases hStep
      exact inv_stores h
        ⟨fun e he => h.stores.redis e (List.mem_filter.mp he).1, h.stores.snapshots⟩
  | remove i =>
      cases hStep
      have hSubset := (List.eraseIdx_sublist s.stores.snapshots i).subset
      exact inv_stores h ⟨h.stores.redis, fun d hd => h.stores.snapshots d (hSubset hd)⟩

end Step

/-- An answered request is sound, and the key of a sound request is the key of no other plain
one. -/
theorem Inv.safe (hLibraries : libraries.Documented) {s : State} (h : Inv libraries s) :
    Safe libraries s := by
  intro call hCall hAnswered
  have hSound := (h.calls call hCall).answered hAnswered
  exact ⟨hSound.valid, fun other hOther hKey =>
    eq_of_key hLibraries hSound (h.calls other hOther).plain hKey⟩

/-- In every run whose requests are all plain, the caches answer for valid addresses
only, and no two addresses or providers share a key. -/
theorem safe_of_requestsPlain (hLibraries : libraries.Documented) {actions : List Action}
    {s : State} (hRun : run (step libraries) State.init actions = some s)
    (hPlain : Meets (step libraries) (requestsPlain libraries) State.init actions) :
    Safe libraries s :=
  (run_invariant_of_meets (fun _ _ _ hInv hOk hStep => inv_step hLibraries hInv hOk hStep) hRun
    hPlain inv_init).safe hLibraries

end Invariant

/-- Most addresses are plain: those that hide no delimiter. -/
theorem plain_of_not_mem {r : Request} (hNonempty : r.address ≠ "")
    (hDelimiter : ':' ∉ r.address.toList) : r.Plain libraries := by
  refine ⟨?_, fun provider hEmpty => absurd hEmpty hNonempty⟩
  rintro - ⟨address, -, providerClass, hAddress⟩
  apply hDelimiter
  rw [hAddress]
  simp

/-- A wallet is fetched and cached for Alchemy. -/
def cachingRun : List Action :=
  [.getPortfolio "ethereum" wallet (some "alchemy"), .redisGet 0, .mongoGet 0,
    .fetch 0 NetworkRouting.answeringOutside
      (.obj [("nativeBalance", .obj [("balance", .str "1500000000000000000")])]),
    .portfolioUpdate 0, .portfolioRedisUpdated 0]

/-- Another call has no provider and is answered from the snapshot. -/
def plainRun : List Action :=
  cachingRun ++ [.getPortfolio "ETH" wallet none, .redisGet 1, .mongoGet 1, .redisFill 1]

/-- Both requests are for one wallet, with and without a provider, and their keys differ. Each of
them is answered under its own key and finds nothing of the other. -/
theorem safe_plainRun :
    ∃ s, run (step uncheckedLibraries) State.init plainRun = some s ∧
      Safe uncheckedLibraries s := by
  have hDefined : (run (step uncheckedLibraries) State.init plainRun).isSome = true := by
    decide +kernel
  obtain ⟨s, hRun⟩ := Option.isSome_iff_exists.mp hDefined
  refine ⟨s, hRun, safe_of_requestsPlain documented_uncheckedLibraries hRun ?_⟩
  have hWallet : ∀ input address provider,
      Action.getPortfolio input address provider ∈ plainRun → address = wallet := by
    intro input address provider hMember
    simp only [plainRun, cachingRun, List.cons_append, List.nil_append, List.mem_cons,
      Action.getPortfolio.injEq, reduceCtorEq, List.not_mem_nil, false_or, or_false] at hMember
    rcases hMember with ⟨-, hAddress, -⟩ | ⟨-, hAddress, -⟩ <;> exact hAddress
  apply meets_of_forall
  intro a ha s
  cases a with
  | getPortfolio input address provider =>
      obtain rfl := hWallet input address provider ha
      intro chain _
      exact plain_of_not_mem (show wallet ≠ "" by decide) (show ':' ∉ wallet.toList by decide)
  | tick | redisGet | mongoGet | redisFill | fetch | portfolioUpdate | portfolioRedisUpdated
    | fail | handleAddressActivity | evict | remove => trivial

/-- A call without a provider spells it into the address. -/
def spelledRun : List Action :=
  cachingRun ++ [.getPortfolio "ethereum" (wallet ++ ":alchemy") none, .redisGet 1]

/-- The portfolio of the wallet is the answer. It was asked for a text that spells the wallet and
the provider together. -/
theorem spelledRun_not_safe :
    ∃ s, run (step uncheckedLibraries) State.init spelledRun = some s ∧
      ¬ Safe uncheckedLibraries s := by
  have hAnswered : (run (step uncheckedLibraries) State.init spelledRun).any (fun s =>
      s.calls.any fun call => call.answer.isSome &&
        !uncheckedLibraries.isValidAddress call.request.chain call.request.address) = true := by
    decide +kernel
  obtain ⟨s, hRun, hAny⟩ := (Option.any_eq_true _ _).mp hAnswered
  obtain ⟨call, hCall, hInvalid⟩ := List.any_eq_true.mp hAny
  simp only [Bool.and_eq_true, Bool.not_eq_true'] at hInvalid
  refine ⟨s, hRun, fun hSafe => ?_⟩
  have hValid := (hSafe call hCall hInvalid.1).1
  rw [hInvalid.2] at hValid
  cases hValid

end BalanceKit.CachedAddresses
