import BalanceKit.Balances.StorePaths
import BalanceKit.Core.InvalidationScope
import BalanceKit.Core.SnapshotIndex
import BalanceKit.Library.Runs

/-! How old a portfolio can be when it is returned. It ages in the snapshot first and
may then be copied to Redis for another lifetime of the cache. -/
namespace BalanceKit.BoundedStaleness
open TransitionSystem DbService CacheKeyService StorePaths

/-- What `getPortfolio` is asked for. The provider is the one of the request context. -/
structure Request where
  chain : ChainName
  address : String
  provider : Option String
  deriving DecidableEq

/-- A portfolio that was fetched from the chain. -/
structure Fetch where
  fetchedAt : Nat
  request : Request
  portfolio : StoredPortfolio

structure Answer where
  answeredAt : Nat
  request : Request
  portfolio : Js

/-- `pending` are the requests that found nothing cached. `invalidated` are the keys of
the documents that were invalidated and not written since. -/
structure State where
  clock : Nat
  stores : Stores
  pending : List Request
  fetches : List Fetch
  answers : List Answer
  invalidated : List IndexKey

def State.init : State := ⟨0, Stores.init, [], [], [], []⟩

inductive Action where
  | tick (elapsed : Nat)
  | getPortfolio (request : Request)
  | fetch (i : Nat) (response : ChainResponse) (chainSymbol : String)
  | handleAddressActivity (event : AddressActivityEvent)
  | invalidateAddressCache (chain : ChainName) (chainId : Nat) (address : String)
  | deleteByPattern (pattern : String)
  | remove (i : Nat)

/-- The save of the snapshot handler. -/
def Request.save (request : Request) (portfolio : Js) : Save :=
  ⟨request.chain, (chainInfo request.chain).id, request.address,
    .ofPortfolio (transformPortfolioData portfolio), request.provider,
    some PortfolioCacheListener.mongoTtlSeconds⟩

/-- The request saves what it fetched, and that names no other document than its own. -/
theorem Request.plain_save (request : Request) (portfolio : Js) : (request.save portfolio).Plain :=
  namedKey_ofPortfolio _

/-- The documents that an invalidation of the address expires. -/
def invalidatedKeys (snapshots : List PortfolioSnapshot) (chain : ChainName) (chainId : Nat)
    (address : String) : List IndexKey :=
  (snapshots.filter fun d => d.chain = chain ∧ snapshotFilter chainId address none d = true).map
    PortfolioSnapshot.indexKey

/-- The two handlers of a fetched portfolio. Redis entries get the default lifetime. -/
def store (defaultTtl : Nat) (stores : Stores) (now : Nat) (request : Request) (portfolio : Js) :
    Stores :=
  PortfolioMongoListener.handlePortfolioRedisUpdated
    (PortfolioCacheListener.handlePortfolioUpdate stores now request.chain request.address
      portfolio request.provider (some defaultTtl))
    now request.chain (chainInfo request.chain).id request.address portfolio request.provider
    (some PortfolioCacheListener.mongoTtlSeconds)

/-- The snapshots are those after the save of the handler. No other document changes, because the
filter of the save names the key of the request. -/
theorem run_save (defaultTtl : Nat) (stores : Stores) (now : Nat) (request : Request)
    (portfolio : Js) : (request.save portfolio).run stores.snapshots now =
      some (store defaultTtl stores now request portfolio).snapshots :=
  PortfolioMongoListener.savePortfolioSnapshot_handlePortfolioRedisUpdated _ now request.chain _ _
    portfolio request.provider _

/-- With the configuration's default this is what an emitted update causes. The two spans of the
theorem are those of this update. -/
theorem store_default (stores : Stores) (now : Nat) (request : Request) (portfolio : Js) :
    store CacheService.defaultTtl stores now request portfolio =
      emitPortfolioUpdate stores now request.chain (chainInfo request.chain).id request.address
        portfolio request.provider := rfl

/-- A request is answered from the stores or waits for its fetch, which stores and
returns the portfolio at once. `remove` drops a document that has outlived an expiry
index. -/
def step (defaultTtl : Nat) (s : State) : Action → Option State
  | .tick elapsed => some { s with clock := s.clock + elapsed }
  | .getPortfolio request =>
      let (stores, cached) := CacheMongoService.getPortfolioData s.stores s.clock request.chain
        (chainInfo request.chain).id request.address request.provider (some defaultTtl)
      match cached with
      | .returned (some portfolio) =>
          some { s with
            stores := stores
            answers := s.answers ++ [⟨s.clock, request, portfolio⟩] }
      | .returned none => some { s with stores := stores, pending := s.pending ++ [request] }
      -- the request fails, and nothing is fetched for it
      | .thrown => some { s with stores := stores }
  | .fetch i response chainSymbol =>
      match s.pending[i]? with
      | some request =>
          let portfolio := BalanceService.assembled response chainSymbol s.clock s.clock
          some { s with
            stores := store defaultTtl s.stores s.clock request portfolio
            pending := s.pending.eraseIdx i
            fetches := s.fetches ++
              [⟨s.clock, request, storedPortfolio response s.clock s.clock⟩]
            answers := s.answers ++ [⟨s.clock, request, portfolio⟩]
            invalidated := s.invalidated.filter fun key =>
              key ≠ (request.save portfolio).writtenKey s.stores.snapshots }
      | none => none
  | .handleAddressActivity event =>
      if event.action = some "cache_invalidated" then some s
      else
        some { s with
          stores := CacheMongoService.handleAddressActivity s.stores s.clock event
          invalidated := s.invalidated ++
            invalidatedKeys s.stores.snapshots event.chain event.chainId event.address }
  | .invalidateAddressCache chain chainId address =>
      some { s with
        stores :=
          (CacheMongoService.invalidateAddressCache s.stores s.clock chain chainId address).1
        invalidated := s.invalidated ++ invalidatedKeys s.stores.snapshots chain chainId address }
  | .deleteByPattern pattern =>
      some { s with
        stores := { s.stores with
          redis := (CacheService.deleteByPattern s.stores.redis pattern).1 } }
  | .remove i =>
      some { s with
        stores := { s.stores with snapshots := s.stores.snapshots.eraseIdx i } }

/-- The response shows the fetched portfolio: as it was assembled, or converted from
its snapshot at some time. -/
def Shows (p : StoredPortfolio) (response : Js) : Prop :=
  response = p.toJs ∨ ∃ readAt, response = mongoResponse p readAt

/-- The cache key is one of the fetched portfolio, of some provider. -/
def Fetch.HasKey (f : Fetch) (key : String) : Prop :=
  ∃ provider, key = createPortfolioKey f.request.chain f.request.address provider

/-- The lifetime of a snapshot in milliseconds. -/
def snapshotLifetime : Nat := PortfolioCacheListener.mongoTtlSeconds * 1000

/-- The document holds the fetched portfolio over fields of earlier ones. -/
def Fetch.WrittenTo (f : Fetch) (d : PortfolioSnapshot) : Prop :=
  d.chainId = (chainInfo f.request.chain).id ∧ d.address = f.request.address ∧
    ∃ base : Js,
      d.data = base.spread (transformPortfolioData (transformPortfolioData f.portfolio.toJs))

section Ages
variable (defaultTtl clock : Nat) (fetches : List Fetch)

/-- The entry expires no later than both lifetimes after the fetch of its portfolio. -/
def EntryOk (e : RedisEntry Js) : Prop :=
  ∃ f ∈ fetches, Shows f.portfolio e.value ∧ f.HasKey e.key ∧
    e.expiresAt ≤ f.fetchedAt + snapshotLifetime + defaultTtl * 1000

/-- The document has expired, or expires within its lifetime after the fetch. -/
def DocumentOk (d : PortfolioSnapshot) : Prop :=
  d.expiresAt ≤ clock ∨
    ∃ f ∈ fetches, f.WrittenTo d ∧ d.expiresAt ≤ f.fetchedAt + snapshotLifetime

/-- The answer shows a portfolio fetched at most both lifetimes before. -/
def AnswerOk (a : Answer) : Prop :=
  ∃ f ∈ fetches, Shows f.portfolio a.portfolio ∧
    f.HasKey (createPortfolioKey a.request.chain a.request.address a.request.provider) ∧
    f.fetchedAt ≤ a.answeredAt ∧
    a.answeredAt ≤ f.fetchedAt + snapshotLifetime + defaultTtl * 1000

end Ages

structure Invariant (defaultTtl : Nat) (s : State) : Prop where
  unique : (s.stores.snapshots.map PortfolioSnapshot.indexKey).Nodup
  past : ∀ f ∈ s.fetches, f.fetchedAt ≤ s.clock
  entries : ∀ e ∈ s.stores.redis, EntryOk defaultTtl s.fetches e
  documents : ∀ d ∈ s.stores.snapshots, DocumentOk s.clock s.fetches d
  expired : ∀ d ∈ s.stores.snapshots, d.indexKey ∈ s.invalidated → d.expiresAt ≤ s.clock
  answers : ∀ a ∈ s.answers, AnswerOk defaultTtl s.fetches a

variable {defaultTtl : Nat} {s t : State}

theorem mem_set {store : RedisStore Js} {now : Nat} {key : String} {value : Js}
    {ttlSeconds : Option Nat} {e : RedisEntry Js}
    (h : e ∈ CacheService.set store now key value ttlSeconds) :
    e = ⟨key, value, now + ttlSeconds.getD CacheService.defaultTtl * 1000⟩ ∨ e ∈ store := by
  rcases List.mem_cons.mp h with rfl | hOld
  · exact .inl rfl
  · exact .inr (List.mem_filter.mp hOld).1

/-- What some fetch explains is still explained after another one. The invariant speaks of fetches
only in this way, so a new fetch cannot break it. -/
theorem exists_fetch_append {fetches : List Fetch} {P : Fetch → Prop} (h : ∃ f ∈ fetches, P f)
    (g : Fetch) : ∃ f ∈ fetches ++ [g], P f := by
  obtain ⟨f, hf, hP⟩ := h
  exact ⟨f, List.mem_append_left _ hf, hP⟩

/-- An entry that shows an earlier fetch still does so when there are more fetches. -/
theorem entryOk_append {fetches : List Fetch} {e : RedisEntry Js}
    (h : EntryOk defaultTtl fetches e) (f : Fetch) : EntryOk defaultTtl (fetches ++ [f]) e :=
  exists_fetch_append h f

theorem documentOk_append {fetches : List Fetch} {clock : Nat} {d : PortfolioSnapshot}
    (h : DocumentOk clock fetches d) (f : Fetch) : DocumentOk clock (fetches ++ [f]) d :=
  h.imp_right fun hLive => exists_fetch_append hLive f

theorem answerOk_append {fetches : List Fetch} {a : Answer} (h : AnswerOk defaultTtl fetches a)
    (f : Fetch) : AnswerOk defaultTtl (fetches ++ [f]) a :=
  exists_fetch_append h f

theorem documentOk_later {fetches : List Fetch} {clock later : Nat} {d : PortfolioSnapshot}
    (h : DocumentOk clock fetches d) (hLater : clock ≤ later) : DocumentOk later fetches d :=
  h.imp_left fun hExpired => hExpired.trans hLater

/-- What a lookup answers from the cache, and the entry that it may leave there. -/
theorem lookup_ok (h : Invariant defaultTtl s) (request : Request) :
    (∀ e ∈ (CacheMongoService.getPortfolioData s.stores s.clock request.chain
        (chainInfo request.chain).id request.address request.provider (some defaultTtl)).1.redis,
      EntryOk defaultTtl s.fetches e) ∧
    ∀ portfolio, (CacheMongoService.getPortfolioData s.stores s.clock request.chain
        (chainInfo request.chain).id request.address request.provider (some defaultTtl)).2 =
          .returned (some portfolio) →
      AnswerOk defaultTtl s.fetches ⟨s.clock, request, portfolio⟩ := by
  unfold CacheMongoService.getPortfolioData
  dsimp only
  split
  · rename_i cachedData hCached
    refine ⟨h.entries, ?_⟩
    rintro portfolio hAnswer
    cases hAnswer
    obtain ⟨hGet, -⟩ := Option.filter_eq_some_iff.mp hCached
    obtain ⟨e, hFound, rfl⟩ := Option.map_eq_some_iff.mp hGet
    have hLive := List.find?_some hFound
    simp only [decide_eq_true_eq] at hLive
    obtain ⟨f, hf, hShows, hKey, hExpiry⟩ := h.entries e (List.mem_of_find?_eq_some hFound)
    rw [hLive.1] at hKey
    refine ⟨f, hf, hShows, hKey, h.past f hf, ?_⟩
    show s.clock ≤ _
    omega
  · split
    · rename_i d hFound
      have hLive := List.find?_some hFound
      simp only [Bool.and_eq_true, decide_eq_true_eq] at hLive
      obtain ⟨hId, hAddress, -⟩ := snapshotFilter_iff.mp hLive.1
      obtain ⟨f, hf, ⟨hChain, hOwner, base, hData⟩, hExpiry⟩ :=
        (h.documents d (List.mem_of_find?_eq_some hFound)).resolve_left (by omega)
      have hSame : f.request.chain = request.chain :=
        chainInfo_id_injective (hChain.symm.trans hId)
      have hKey : f.HasKey
          (createPortfolioKey request.chain request.address request.provider) :=
        ⟨request.provider, by rw [hSame, ← hOwner, hAddress]⟩
      have hShows : Shows f.portfolio (mongoResponse f.portfolio s.clock) := .inr ⟨s.clock, rfl⟩
      rw [hData, toBalanceResponse_spread]
      refine ⟨?_, ?_⟩
      · intro e he
        rcases mem_set he with rfl | hOld
        · refine ⟨f, hf, hShows, hKey, ?_⟩
          show s.clock + defaultTtl * 1000 ≤ _
          omega
        · exact h.entries e hOld
      · rintro portfolio hAnswer
        cases hAnswer
        refine ⟨f, hf, hShows, hKey, h.past f hf, ?_⟩
        show s.clock ≤ _
        omega
    · exact ⟨h.entries, fun portfolio hAnswer => by cases hAnswer⟩

/-- A request that a store answers takes over the age of what it found. A read-through puts the
snapshot into Redis for another span, which is what the bound adds up. -/
theorem invariant_getPortfolio (h : Invariant defaultTtl s) {request : Request}
    (hStep : step defaultTtl s (.getPortfolio request) = some t) : Invariant defaultTtl t := by
  obtain ⟨hEntries, hAnswer⟩ := lookup_ok h request
  have hSnapshots := CacheMongoService.snapshots_getPortfolioData s.stores s.clock request.chain
    (chainInfo request.chain).id request.address request.provider (some defaultTtl)
  simp only [step] at hStep
  split at hStep
  · rename_i portfolio hCached
    obtain rfl := Option.some.inj hStep
    refine ⟨hSnapshots ▸ h.unique, h.past, hEntries, ?_, ?_, ?_⟩
    · exact fun d hd => h.documents d (hSnapshots ▸ hd)
    · exact fun d hd => h.expired d (hSnapshots ▸ hd)
    · intro a ha
      rcases List.mem_append.mp ha with hOld | hNew
      · exact h.answers a hOld
      · rw [List.mem_singleton.mp hNew]
        exact hAnswer portfolio hCached
  all_goals
    obtain rfl := Option.some.inj hStep
    refine ⟨hSnapshots ▸ h.unique, h.past, hEntries, ?_, ?_, h.answers⟩
    · exact fun d hd => h.documents d (hSnapshots ▸ hd)
    · exact fun d hd => h.expired d (hSnapshots ▸ hd)

/-- The snapshot that the handler writes has the fetched portfolio and its lifetime, which begins at
the fetch, whether the document is a new one or an updated one. -/
theorem documentOk_written {fetches : List Fetch} {f : Fetch} {d : PortfolioSnapshot}
    (hFetch : f ∈ fetches)
    (hWritten : (∃ old, (f.request.save f.portfolio.toJs).filter old = true ∧
        d = (f.request.save f.portfolio.toJs).update f.fetchedAt old) ∨
      d = (f.request.save f.portfolio.toJs).insert f.fetchedAt) (clock : Nat) :
    DocumentOk clock fetches d := by
  refine .inr ⟨f, hFetch, ?_⟩
  rcases hWritten with ⟨old, hMatch, rfl⟩ | rfl
  · obtain ⟨hId, hAddress, -⟩ := Save.filter_iff.mp hMatch
    exact ⟨⟨hId, hAddress, old.data, rfl⟩, Nat.le_refl _⟩
  · exact ⟨⟨rfl, rfl, defaultData, rfl⟩, Nat.le_refl _⟩

/-- A fetch is fresh by itself. It is answered and stored at once, so the entry and the document
expire their two spans after the fetch. -/
theorem invariant_fetch (h : Invariant defaultTtl s) {i : Nat} {response : ChainResponse}
    {chainSymbol : String} (hStep : step defaultTtl s (.fetch i response chainSymbol) = some t) :
    Invariant defaultTtl t := by
  simp only [step] at hStep
  split at hStep
  · rename_i request hPending
    obtain rfl := Option.some.inj hStep
    rw [assembled_eq]
    have hFetch : (⟨s.clock, request, storedPortfolio response s.clock s.clock⟩ : Fetch) ∈
        s.fetches ++ [⟨s.clock, request, storedPortfolio response s.clock s.clock⟩] := by simp
    have hRun := run_save defaultTtl s.stores s.clock request
      (storedPortfolio response s.clock s.clock).toJs
    have hPlain := request.plain_save (storedPortfolio response s.clock s.clock).toJs
    refine ⟨?_, ?_, ?_, ?_, ?_, ?_⟩
    · exact Save.nodup_run h.unique hRun
    · intro f hf
      rcases List.mem_append.mp hf with hOld | hNew
      · exact h.past f hOld
      · rw [List.mem_singleton.mp hNew]
    · intro e he
      rcases mem_set he with rfl | hOld
      · refine ⟨_, hFetch, .inl rfl, ⟨request.provider, rfl⟩, ?_⟩
        show s.clock + defaultTtl * 1000 ≤ s.clock + snapshotLifetime + defaultTtl * 1000
        omega
      · exact entryOk_append (h.entries e hOld) _
    · intro d hd
      rcases Save.mem_run hPlain h.unique hRun hd with ⟨hOld, -⟩ | ⟨-, ⟨old, -, hMatch, rfl⟩ | rfl⟩
      · exact documentOk_append (h.documents d hOld) _
      · exact documentOk_written hFetch (.inl ⟨old, hMatch, rfl⟩) s.clock
      · exact documentOk_written hFetch (.inr rfl) s.clock
    · intro d hd hInvalidated
      obtain ⟨hBefore, hNotWritten⟩ := List.mem_filter.mp hInvalidated
      rcases Save.mem_run hPlain h.unique hRun hd with ⟨hOld, -⟩ | ⟨hWritten, -⟩
      · exact h.expired d hOld hBefore
      · exact absurd hWritten (by simpa using hNotWritten)
    · intro a ha
      rcases List.mem_append.mp ha with hOld | hNew
      · exact answerOk_append (h.answers a hOld) _
      · rw [List.mem_singleton.mp hNew]
        refine ⟨_, hFetch, .inl rfl, ⟨request.provider, rfl⟩, Nat.le_refl _, ?_⟩
        show s.clock ≤ s.clock + snapshotLifetime + defaultTtl * 1000
        omega
  · cases hStep

/-- Expiring the documents of an address, whatever becomes of some Redis entries. -/
theorem invariant_invalidate (h : Invariant defaultTtl s) {redis : RedisStore Js}
    (hRedis : ∀ e ∈ redis, e ∈ s.stores.redis) (chain : ChainName) (chainId : Nat)
    (address : String) :
    Invariant defaultTtl { s with
      stores := ⟨redis,
        invalidateAddressSnapshot s.stores.snapshots s.clock chain chainId address⟩
      invalidated := s.invalidated ++
        invalidatedKeys s.stores.snapshots chain chainId address } := by
  refine ⟨?_, h.past, fun e he => h.entries e (hRedis e he), ?_, ?_, h.answers⟩
  · show (List.map _ (invalidateAddressSnapshot _ _ _ _ _)).Nodup
    rw [map_indexKey_invalidateAddressSnapshot]
    exact h.unique
  · intro d hd
    obtain ⟨old, hOld, rfl | rfl⟩ := invalidateAddressSnapshot_cases hd
    · exact h.documents d hOld
    · exact .inl (Nat.le_refl _)
  · intro d hd hInvalidated
    obtain ⟨old, hOld, rfl⟩ := mem_invalidateAddressSnapshot.mp hd
    split at hInvalidated
    · rename_i hMatch
      rw [if_pos hMatch]
    · rename_i hOther
      rw [if_neg hOther]
      rcases List.mem_append.mp hInvalidated with hBefore | hNow
      · exact h.expired old hOld hBefore
      · -- The index is unique, so the matched document would be this one.
        obtain ⟨e, he, hKey⟩ := List.mem_map.mp hNow
        obtain ⟨hStored, hMatch⟩ := List.mem_filter.mp he
        obtain rfl := List.inj_on_of_nodup_map h.unique hStored hOld hKey
        simp only [decide_eq_true_eq, snapshotFilter_iff] at hMatch
        exact absurd ⟨hMatch.1, hMatch.2.1, hMatch.2.2.1⟩ hOther

theorem invariant_step {a : Action} (h : Invariant defaultTtl s)
    (hStep : step defaultTtl s a = some t) : Invariant defaultTtl t := by
  cases a with
  | tick elapsed =>
      obtain rfl := Option.some.inj hStep
      have hLater : s.clock ≤ s.clock + elapsed := Nat.le_add_right _ _
      exact ⟨h.unique, fun f hf => (h.past f hf).trans hLater, h.entries,
        fun d hd => documentOk_later (h.documents d hd) hLater,
        fun d hd hKey => (h.expired d hd hKey).trans hLater, h.answers⟩
  | getPortfolio request => exact invariant_getPortfolio h hStep
  | fetch i response chainSymbol => exact invariant_fetch h hStep
  | handleAddressActivity event =>
      simp only [step] at hStep
      split at hStep
      · obtain rfl := Option.some.inj hStep
        exact h
      · rename_i hAction
        obtain rfl := Option.some.inj hStep
        rw [CacheMongoService.handleAddressActivity, if_neg hAction]
        exact invariant_invalidate h
          (fun e he => (CacheService.mem_deleteByPattern.mp he).1) _ _ _
  | invalidateAddressCache chain chainId address =>
      obtain rfl := Option.some.inj hStep
      exact invariant_invalidate h (fun e he => (CacheService.mem_deleteByPattern.mp he).1) _ _ _
  | deleteByPattern pattern =>
      obtain rfl := Option.some.inj hStep
      exact ⟨h.unique, h.past,
        fun e he => h.entries e (CacheService.mem_deleteByPattern.mp he).1, h.documents,
        h.expired, h.answers⟩
  | remove i =>
      obtain rfl := Option.some.inj hStep
      have hSub := List.eraseIdx_sublist s.stores.snapshots i
      exact ⟨h.unique.sublist (hSub.map _), h.past, h.entries,
        fun d hd => h.documents d (hSub.subset hd), fun d hd => h.expired d (hSub.subset hd),
        h.answers⟩

theorem invariant_run {actions : List Action}
    (hRun : run (step defaultTtl) State.init actions = some s) : Invariant defaultTtl s := by
  refine run_invariant (fun s a t h hStep => invariant_step h hStep) hRun ?_
  refine ⟨List.nodup_nil, ?_, ?_, ?_, ?_, ?_⟩ <;>
    · intro x hx
      cases hx

/-- Every returned portfolio was fetched under its cache key at most thirty minutes and
the default lifetime before, and no read finds a document that was invalidated and not
written since. -/
theorem bounded_staleness {actions : List Action}
    (hRun : run (step defaultTtl) State.init actions = some s) :
    (∀ a ∈ s.answers, ∃ f ∈ s.fetches, Shows f.portfolio a.portfolio ∧
      f.HasKey (createPortfolioKey a.request.chain a.request.address a.request.provider) ∧
        f.fetchedAt ≤ a.answeredAt ∧
          a.answeredAt ≤ f.fetchedAt + (1800 + defaultTtl) * 1000) ∧
    ∀ chainId address provider d,
      getPortfolioSnapshot s.stores.snapshots s.clock chainId address provider = some d →
        d.indexKey ∉ s.invalidated := by
  have h := invariant_run hRun
  constructor
  · intro a ha
    obtain ⟨f, hf, hShows, hKey, hPast, hAge⟩ := h.answers a ha
    have hLifetime : snapshotLifetime = 1800 * 1000 := rfl
    exact ⟨f, hf, hShows, hKey, hPast, by omega⟩
  · intro chainId address provider d hFound hInvalidated
    have hLive := List.find?_some hFound
    simp only [Bool.and_eq_true, decide_eq_true_eq] at hLive
    have hExpired := h.expired d (List.mem_of_find?_eq_some hFound) hInvalidated
    omega

/-- A wallet is fetched, its snapshot is copied to Redis just before it expires, and the
copy is answered as late as it can be. -/
def agingRun : List Action :=
  [.getPortfolio ⟨.solana, "wallet", none⟩, .fetch 0 emptyWallet "SOL", .tick 1799999,
    .getPortfolio ⟨.solana, "wallet", none⟩, .tick 299999,
    .getPortfolio ⟨.solana, "wallet", none⟩]

def stateAfter (actions : List Action) : State :=
  (run (step 300) State.init actions).getD State.init

/-- The second answer comes from a snapshot just before its expiry, and the third one from the
copy of it that the second left in Redis. This is as old as an answer gets. -/
theorem bounded_staleness_agingRun :
    (stateAfter agingRun).answers.map Answer.answeredAt = [0, 1799999, 2099998] ∧
      ∀ a ∈ (stateAfter agingRun).answers,
        ∃ f ∈ (stateAfter agingRun).fetches, Shows f.portfolio a.portfolio ∧
          f.HasKey (createPortfolioKey a.request.chain a.request.address a.request.provider) ∧
            f.fetchedAt ≤ a.answeredAt ∧ a.answeredAt ≤ f.fetchedAt + (1800 + 300) * 1000 :=
  ⟨by decide +kernel, (@bounded_staleness 300 _ agingRun rfl).1⟩

end BalanceKit.BoundedStaleness
