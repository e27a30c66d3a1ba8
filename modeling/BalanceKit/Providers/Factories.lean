import BalanceKit.Balances.RawData
import BalanceKit.Library.Runs
import BalanceKit.Providers.Registry

/-! The two factories with their caches. Both caches are filled under texts made of a chain
and a provider type, and what they give out for a chain and a type has to fit together: the
raw balances of the strategy are an object that the adapter can read. -/
namespace BalanceKit.Factories
open TransitionSystem

inductive Adapter where
  | evmBalanceAdapter | evmQuickNodeAdapter | solanaBalanceAdapter
  deriving DecidableEq

/-- The strategies with the arguments that they were constructed from. -/
inductive Strategy where
  | evmAlchemyStrategy (apiKey : String) (network : Network)
  | solanaAlchemyStrategy (apiKey : String) (isDevnet : Bool)
  | evmQuickNodeStrategy (mainnetEndpointUrl testnetEndpointUrl : Option String)
  deriving DecidableEq

namespace Strategy

/-- What the calls of a strategy are answered with, and for QuickNode which of them its client
offers. -/
def Answered : Strategy → Type
  | evmAlchemyStrategy .. => Calls.Answers ProviderAnswers.EvmAlchemyStrategy.Answer
  | solanaAlchemyStrategy .. => Calls.Answers ProviderAnswers.SolanaAlchemyStrategy.Answer
  | evmQuickNodeStrategy .. =>
      (ProviderAnswers.EvmQuickNodeStrategy.Call → Bool) ×
        Calls.Answers ProviderAnswers.EvmQuickNodeStrategy.Answer

/-- The raw balances, a plain object, unless a call that is needed fails. -/
def getRawBalances : (strategy : Strategy) → strategy.Answered → Option Js
  | evmAlchemyStrategy .., answers =>
      (ProviderAnswers.EvmAlchemyStrategy.getRawBalances answers).map EvmAlchemyStrategy.toJs
  | solanaAlchemyStrategy .., answers =>
      (ProviderAnswers.SolanaAlchemyStrategy.getRawBalances answers).map SolanaAlchemyStrategy.toJs
  | evmQuickNodeStrategy .., answers =>
      (ProviderAnswers.EvmQuickNodeStrategy.getRawBalances answers.1 answers.2).map
        EvmQuickNodeStrategy.toJs

/-- The response that a provider is to make of the answers. -/
def getBalances : (strategy : Strategy) → strategy.Answered → Option BalancesResponse
  | evmAlchemyStrategy .., answers => ProviderAnswers.EvmAlchemyStrategy.getBalances answers
  | solanaAlchemyStrategy .., answers => ProviderAnswers.SolanaAlchemyStrategy.getBalances answers
  | evmQuickNodeStrategy .., answers =>
      ProviderAnswers.EvmQuickNodeStrategy.getBalances answers.1 answers.2

end Strategy

/-- The response, unless the object does not have what the adapter reads. -/
def Adapter.toBalancesResponse : Adapter → Js → Option Js
  | evmBalanceAdapter => EvmBalanceAdapter.read
  | evmQuickNodeAdapter => EvmQuickNodeAdapter.read
  | solanaBalanceAdapter => SolanaBalanceAdapter.read

/-- The adapter makes the response of whatever the strategy returns, and no other adapter makes
any response of it. -/
structure Adapter.Reads (adapter : Adapter) (strategy : Strategy) : Prop where
  response : ∀ answers, (strategy.getRawBalances answers).bind adapter.toBalancesResponse =
    (strategy.getBalances answers).map BalancesResponse.toJs
  alone : ∀ other, other ≠ adapter → ∀ answers,
    (strategy.getRawBalances answers).bind other.toBalancesResponse = none

/-- The lists that both factories have. -/
def evmChains : List ChainName :=
  [.ethereum, .ethereumGoerli, .ethereumSepolia, .polygon, .polygonMumbai, .bsc, .bscTestnet]

def solanaChains : List ChainName := [.solana, .solanaDevnet]

structure State where
  strategies : List (String × Strategy)
  adapters : List (String × Adapter)

def init : State := ⟨[], []⟩

namespace BalanceStrategyFactory

def getStrategyKey (chainName : ChainName) (providerType : ProviderType) : String :=
  chainName.value ++ ":" ++ providerType.value

/-- Look the key up, or construct the strategy and keep it; an error is thrown. -/
def cached (s : State) (key : String) (construct : Except String Strategy) :
    Except String Strategy × State :=
  match s.strategies.lookup key with
  | some strategy => (.ok strategy, s)
  | none =>
      match construct with
      | .error message => (.error message, s)
      | .ok strategy =>
          (.ok strategy, { s with strategies := OrderedMap.set s.strategies key strategy })

def newAlchemyStrategy (chainName : ChainName) (apiKey : String) (network : Option Network) :
    Except String Strategy :=
  if evmChains.contains chainName then
    match network with
    | none =>
        .error ("Network configuration is required for EVM chain: " ++ chainName.value)
    | some network => .ok (.evmAlchemyStrategy apiKey network)
  else if solanaChains.contains chainName then
    .ok (.solanaAlchemyStrategy apiKey (chainName == .solanaDevnet))
  else .error ("Unsupported chain: " ++ chainName.value)

def createAlchemyStrategy (s : State) (chainName : ChainName) (apiKey : String)
    (network : Option Network) : Except String Strategy × State :=
  cached s (getStrategyKey chainName .alchemy) (newAlchemyStrategy chainName apiKey network)

/-- A client is constructed for each endpoint that is given. -/
def newQuickNodeStrategy (chainName : ChainName) (mainnetEndpointUrl : String)
    (testnetEndpointUrl : Option String) : Except String Strategy :=
  if evmChains.contains chainName then
    .ok (.evmQuickNodeStrategy (Text.present (some mainnetEndpointUrl))
      (Text.present testnetEndpointUrl))
  else .error ("QuickNode does not support chain: " ++ chainName.value)

def createQuickNodeStrategy (s : State) (chainName : ChainName) (mainnetEndpointUrl : String)
    (testnetEndpointUrl : Option String) : Except String Strategy × State :=
  cached s (getStrategyKey chainName .quicknode)
    (newQuickNodeStrategy chainName mainnetEndpointUrl testnetEndpointUrl)

def getStrategy (s : State) (chainName : ChainName) (providerType : ProviderType) :
    Option Strategy :=
  s.strategies.lookup (getStrategyKey chainName providerType)

def setStrategy (s : State) (chainName : ChainName) (providerType : ProviderType)
    (strategy : Strategy) : State :=
  { s with strategies :=
      OrderedMap.set s.strategies (getStrategyKey chainName providerType) strategy }

def clearStrategies (s : State) : State := { s with strategies := [] }

end BalanceStrategyFactory

namespace BalanceAdapterFactory

def getAdapterKey (chainName : ChainName) : Option ProviderType → String
  | some providerType => chainName.value ++ ":" ++ providerType.value
  | none => chainName.value

def newAdapter (chainName : ChainName) (providerType : Option ProviderType) :
    Except String Adapter :=
  if evmChains.contains chainName then
    if providerType = some .quicknode then .ok .evmQuickNodeAdapter else .ok .evmBalanceAdapter
  else if solanaChains.contains chainName then .ok .solanaBalanceAdapter
  else .error ("No adapter available for chain: " ++ chainName.value)

def forProvider (s : State) (chainName : ChainName) (providerType : Option ProviderType) :
    Except String Adapter × State :=
  match s.adapters.lookup (getAdapterKey chainName providerType) with
  | some adapter => (.ok adapter, s)
  | none =>
      match newAdapter chainName providerType with
      | .error message => (.error message, s)
      | .ok adapter => (.ok adapter, { s with
          adapters := OrderedMap.set s.adapters (getAdapterKey chainName providerType) adapter })

def forChain (s : State) (chainName : ChainName) : Except String Adapter × State :=
  forProvider s chainName none

end BalanceAdapterFactory

open BalanceStrategyFactory BalanceAdapterFactory

inductive Action where
  | createAlchemyStrategy (chainName : ChainName) (apiKey : String) (network : Option Network)
  | createQuickNodeStrategy (chainName : ChainName) (mainnetEndpointUrl : String)
      (testnetEndpointUrl : Option String)
  | setStrategy (chainName : ChainName) (providerType : ProviderType) (strategy : Strategy)
  | clearStrategies
  | forProvider (chainName : ChainName) (providerType : Option ProviderType)

def step (s : State) : Action → Option State
  | .createAlchemyStrategy chainName apiKey network =>
      some (BalanceStrategyFactory.createAlchemyStrategy s chainName apiKey network).2
  | .createQuickNodeStrategy chainName mainnetEndpointUrl testnetEndpointUrl =>
      some (BalanceStrategyFactory.createQuickNodeStrategy s chainName mainnetEndpointUrl
        testnetEndpointUrl).2
  | .setStrategy chainName providerType strategy =>
      some (BalanceStrategyFactory.setStrategy s chainName providerType strategy)
  | .clearStrategies => some (BalanceStrategyFactory.clearStrategies s)
  | .forProvider chainName providerType =>
      some (BalanceAdapterFactory.forProvider s chainName providerType).2

/-- There is an adapter for the chain and the type, and it reads what the strategy returns. -/
def Fits (chainName : ChainName) (providerType : ProviderType) (strategy : Strategy) : Prop :=
  ∃ adapter, newAdapter chainName (some providerType) = .ok adapter ∧ adapter.Reads strategy

/-- A strategy that is set from outside fits its place. -/
def SetsFitting (_ : State) : Action → Prop
  | .setStrategy chainName providerType strategy => Fits chainName providerType strategy
  | _ => True

/-- Every entry of the two caches is what its chain and type ask for. -/
structure Inv (s : State) : Prop where
  strategies : ∀ chainName providerType strategy,
    getStrategy s chainName providerType = some strategy → Fits chainName providerType strategy
  adapters : ∀ chainName providerType adapter,
    s.adapters.lookup (getAdapterKey chainName providerType) = some adapter →
      newAdapter chainName providerType = .ok adapter

section Reading
open RawData

/-- What is read after a function that gives something is read of what it gives. The strategies are
such functions: they give raw data or fail. -/
theorem bind_map_of_forall {α β γ δ : Type} {f : α → β} {g : β → Option δ} {h : α → γ}
    {toJs : γ → δ} (hAll : ∀ a, g (f a) = some (toJs (h a))) (given : Option α) :
    (given.map f).bind g = (given.map h).map toJs := by
  cases given with
  | none => rfl
  | some a => exact hAll a

/-- An adapter that reads none of the raw data of one kind reads nothing that a strategy of this
kind returns. -/
theorem bind_map_of_none {α β γ : Type} {f : α → β} {g : β → Option γ} (hAll : ∀ a, g (f a) = none)
    (given : Option α) : (given.map f).bind g = none := by
  cases given with
  | none => rfl
  | some a => exact hAll a

/-- The EVM adapter reads what the Alchemy strategy for EVM chains returns. The other two miss a
field in it and throw. -/
theorem evmBalanceAdapter_reads (apiKey : String) (network : Network) :
    Adapter.evmBalanceAdapter.Reads (.evmAlchemyStrategy apiKey network) := by
  constructor
  · intro answers
    exact bind_map_of_forall EvmBalanceAdapter.read_toJs _
  · intro other hOther answers
    apply bind_map_of_none
    intro rawData
    cases other with
    | evmBalanceAdapter => exact absurd rfl hOther
    | evmQuickNodeAdapter => exact toBalancesResponse_of_missing rfl
    | solanaBalanceAdapter => exact toBalancesResponse_of_missing rfl

/-- The QuickNode adapter reads what the QuickNode strategy returns, and no other adapter does. -/
theorem evmQuickNodeAdapter_reads (mainnetEndpointUrl testnetEndpointUrl : Option String) :
    Adapter.evmQuickNodeAdapter.Reads
      (.evmQuickNodeStrategy mainnetEndpointUrl testnetEndpointUrl) := by
  constructor
  · rintro ⟨offers, answers⟩
    exact bind_map_of_forall EvmQuickNodeAdapter.read_toJs _
  · intro other hOther answers
    apply bind_map_of_none
    intro rawData
    cases other with
    | evmBalanceAdapter => exact toBalancesResponse_of_missing rfl
    | evmQuickNodeAdapter => exact absurd rfl hOther
    | solanaBalanceAdapter => exact toBalancesResponse_of_missing rfl

/-- The Solana adapter reads what the Solana strategy returns, lamports and accounts as they are,
and no other adapter does. -/
theorem solanaBalanceAdapter_reads (apiKey : String) (isDevnet : Bool) :
    Adapter.solanaBalanceAdapter.Reads (.solanaAlchemyStrategy apiKey isDevnet) := by
  constructor
  · intro answers
    exact bind_map_of_forall SolanaBalanceAdapter.read_toJs _
  · intro other hOther answers
    apply bind_map_of_none
    intro rawData
    cases other with
    | evmBalanceAdapter => exact toBalancesResponse_of_missing rfl
    | evmQuickNodeAdapter => exact toBalancesResponse_of_missing rfl
    | solanaBalanceAdapter => exact absurd rfl hOther

end Reading

section Keys
variable {c d : ChainName}

theorem value_inj {p q : ProviderType} (h : p.value = q.value) : p = q := by
  cases p <;> cases q <;> first | rfl | exact absurd h (by decide)

/-- No chain name has the character between the two parts of a key. -/
theorem getStrategyKey_inj {p q : ProviderType} (h : getStrategyKey c p = getStrategyKey d q) :
    c = d ∧ p = q := by
  have hTexts : c.value.toList ++ ':' :: p.value.toList =
      d.value.toList ++ ':' :: q.value.toList := by
    have := congrArg String.toList h
    simpa [getStrategyKey] using this
  obtain ⟨hChain, hType⟩ :=
    Text.append_delimiter_inj c.colon_not_mem_value d.colon_not_mem_value hTexts
  exact ⟨ChainName.value_injective (String.toList_inj.mp hChain),
    value_inj (String.toList_inj.mp hType)⟩

/-- No two pairs of a chain and an optional type share a key in the cache of the adapters. -/
theorem getAdapterKey_inj {p q : Option ProviderType} (h : getAdapterKey c p = getAdapterKey d q) :
    c = d ∧ p = q := by
  have hColon : ∀ (a b : ChainName) (t : ProviderType), getStrategyKey a t ≠ b.value := by
    intro a b t hSame
    refine b.colon_not_mem_value ?_
    rw [← hSame]
    simp [getStrategyKey]
  match p, q with
  | none, none => exact ⟨ChainName.value_injective h, rfl⟩
  | some p, some q =>
      obtain ⟨hChain, hType⟩ := getStrategyKey_inj h
      exact ⟨hChain, congrArg some hType⟩
  | some p, none => exact absurd h (hColon c d p)
  | none, some q => exact absurd h.symm (hColon d c q)

end Keys

section Construction
variable {c : ChainName} {strategy : Strategy}

/-- The Alchemy strategy for a chain is of the kind that the adapter for this chain reads. -/
theorem newAlchemyStrategy_fits {apiKey : String} {network : Option Network}
    (h : newAlchemyStrategy c apiKey network = .ok strategy) : Fits c .alchemy strategy := by
  unfold newAlchemyStrategy at h
  unfold Fits newAdapter
  by_cases hEvm : evmChains.contains c = true
  · rw [if_pos hEvm] at h ⊢
    cases network with
    | none => cases h
    | some network =>
        cases h
        exact ⟨_, rfl, evmBalanceAdapter_reads apiKey network⟩
  · rw [if_neg hEvm] at h ⊢
    by_cases hSolana : solanaChains.contains c = true
    · rw [if_pos hSolana] at h ⊢
      cases h
      exact ⟨_, rfl, solanaBalanceAdapter_reads apiKey _⟩
    · rw [if_neg hSolana] at h
      cases h

theorem newQuickNodeStrategy_fits {mainnetEndpointUrl : String} {testnetEndpointUrl : Option String}
    (h : newQuickNodeStrategy c mainnetEndpointUrl testnetEndpointUrl = .ok strategy) :
    Fits c .quicknode strategy := by
  unfold newQuickNodeStrategy at h
  unfold Fits newAdapter
  by_cases hEvm : evmChains.contains c = true
  · rw [if_pos hEvm] at h ⊢
    cases h
    exact ⟨_, rfl, evmQuickNodeAdapter_reads _ _⟩
  · rw [if_neg hEvm] at h
    cases h

/-- Only for QuickNode does the type make a difference. Every other type is served by the adapter of
the chain. -/
theorem newAdapter_alchemy (c : ChainName) : newAdapter c (some .alchemy) = newAdapter c none := rfl

end Construction

section Caches
variable {s : State} {c : ChainName} {p : ProviderType} {strategy : Strategy}

/-- A strategy that fits is kept under its key. What was cached for the key before is no longer
given out. -/
theorem Inv.setStrategy (h : Inv s) (hFits : Fits c p strategy) :
    Inv (BalanceStrategyFactory.setStrategy s c p strategy) := by
  refine ⟨?_, h.adapters⟩
  intro d q found hFound
  unfold getStrategy BalanceStrategyFactory.setStrategy at hFound
  by_cases hKey : getStrategyKey d q = getStrategyKey c p
  · obtain ⟨rfl, rfl⟩ := getStrategyKey_inj hKey
    rw [OrderedMap.lookup_set] at hFound
    obtain rfl := Option.some.inj hFound
    exact hFits
  · rw [OrderedMap.lookup_set_of_ne hKey] at hFound
    exact h.strategies d q found hFound

/-- What a construction fits, the cache gives out. The keys of two requests differ, so no request is
given the construction of another. -/
theorem Inv.cached (h : Inv s) {construct : Except String Strategy}
    (hConstruct : ∀ strategy, construct = .ok strategy → Fits c p strategy) :
    Inv (cached s (getStrategyKey c p) construct).2 ∧
      ∀ strategy, (BalanceStrategyFactory.cached s (getStrategyKey c p) construct).1 = .ok strategy →
        Fits c p strategy := by
  unfold BalanceStrategyFactory.cached
  cases hKept : s.strategies.lookup (getStrategyKey c p) with
  | some kept =>
      refine ⟨h, fun strategy hReturned => ?_⟩
      cases hReturned
      exact h.strategies c p _ hKept
  | none =>
      cases construct with
      | error message =>
          refine ⟨h, fun strategy hReturned => ?_⟩
          cases hReturned
      | ok built =>
          refine ⟨h.setStrategy (hConstruct built rfl), fun strategy hReturned => ?_⟩
          cases hReturned
          exact hConstruct _ rfl

/-- The cache of adapters is not to be seen from outside. -/
theorem Inv.forProvider (h : Inv s) (c : ChainName) (p : Option ProviderType) :
    (forProvider s c p).1 = newAdapter c p ∧ Inv (BalanceAdapterFactory.forProvider s c p).2 := by
  unfold BalanceAdapterFactory.forProvider
  cases hKept : s.adapters.lookup (getAdapterKey c p) with
  | some kept => exact ⟨(h.adapters c p kept hKept).symm, h⟩
  | none =>
      cases hNew : newAdapter c p with
      | error message => exact ⟨rfl, h⟩
      | ok adapter =>
          refine ⟨rfl, h.strategies, ?_⟩
          intro d q found hFound
          by_cases hKey : getAdapterKey d q = getAdapterKey c p
          · obtain ⟨rfl, rfl⟩ := getAdapterKey_inj hKey
            simp only [OrderedMap.lookup_set] at hFound
            obtain rfl := Option.some.inj hFound
            exact hNew
          · simp only [OrderedMap.lookup_set_of_ne hKey] at hFound
            exact h.adapters d q found hFound

/-- Each call keeps what is cached fitting. Only a strategy that is set from outside has to fit by
assumption. -/
theorem Inv.step {a : Action} {t : State} (h : Inv s) (hSets : SetsFitting s a)
    (hStep : Factories.step s a = some t) : Inv t := by
  cases a with
  | createAlchemyStrategy c apiKey network =>
      obtain rfl := Option.some.inj hStep
      exact (h.cached fun _ => newAlchemyStrategy_fits).1
  | createQuickNodeStrategy c mainnetEndpointUrl testnetEndpointUrl =>
      obtain rfl := Option.some.inj hStep
      exact (h.cached fun _ => newQuickNodeStrategy_fits).1
  | setStrategy c p strategy =>
      obtain rfl := Option.some.inj hStep
      exact h.setStrategy hSets
  | clearStrategies =>
      obtain rfl := Option.some.inj hStep
      exact ⟨fun _ _ _ hFound => (nomatch hFound), h.adapters⟩
  | forProvider c p =>
      obtain rfl := Option.some.inj hStep
      exact (h.forProvider c p).2

theorem inv_init : Inv init :=
  ⟨fun _ _ _ hFound => (nomatch hFound), fun _ _ _ hFound => (nomatch hFound)⟩

end Caches

/-- After any calls of both factories, an adapter is the one that would be made anew. Whatever
the calls of a strategy for a chain and a type are answered with, the adapter for them makes
the response of the raw balances, and any other adapter throws on them. An Alchemy strategy is
read by the adapter for its chain alone as well. -/
theorem factories_fit {s : State} {actions : List Action} (hRun : run step init actions = some s)
    (hMeets : Meets step SetsFitting init actions) :
    (∀ c p, (forProvider s c p).1 = newAdapter c p) ∧
    (∀ c p strategy, getStrategy s c p = some strategy →
      ∃ adapter, (forProvider s c (some p)).1 = .ok adapter ∧ adapter.Reads strategy) ∧
    (∀ c apiKey network strategy, (createAlchemyStrategy s c apiKey network).1 = .ok strategy →
      ∃ adapter, (forChain s c).1 = .ok adapter ∧ adapter.Reads strategy) ∧
    ∀ c mainnetEndpointUrl testnetEndpointUrl strategy,
      (createQuickNodeStrategy s c mainnetEndpointUrl testnetEndpointUrl).1 = .ok strategy →
        ∃ adapter, (forProvider s c (some .quicknode)).1 = .ok adapter ∧
          adapter.Reads strategy := by
  have hInv : Inv s :=
    run_invariant_of_meets (fun _ _ _ h hSets hStep => h.step hSets hStep) hRun hMeets inv_init
  have hAdapter : ∀ c p, (forProvider s c p).1 = newAdapter c p := fun c p => (hInv.forProvider c p).1
  refine ⟨hAdapter, ?_, ?_, ?_⟩
  · intro c p strategy hKept
    rw [hAdapter]
    exact hInv.strategies c p strategy hKept
  · intro c apiKey network strategy hReturned
    rw [forChain, hAdapter, ← newAdapter_alchemy]
    exact (hInv.cached fun _ => newAlchemyStrategy_fits).2 strategy hReturned
  · intro c mainnetEndpointUrl testnetEndpointUrl strategy hReturned
    rw [hAdapter]
    exact (hInv.cached fun _ => newQuickNodeStrategy_fits).2 strategy hReturned

/-- Calls of both factories, with a strategy set in between and all of them cleared. -/
def restart : List Action :=
  [.createAlchemyStrategy .ethereum "key" (some .ethMainnet),
    .setStrategy .solana .alchemy (.solanaAlchemyStrategy "key" false),
    .forProvider .solana none, .clearStrategies, .createAlchemyStrategy .solana "other" none,
    .createQuickNodeStrategy .ethereum "endpoint" none]

/-- The QuickNode strategy that is created last is read by the adapter that the other factory
gives for its chain and type. -/
theorem factories_fit_restart :
    ∃ s, run step init restart = some s ∧
      ∃ adapter, (forProvider s .ethereum (some .quicknode)).1 = .ok adapter ∧
        adapter.Reads (.evmQuickNodeStrategy (some "endpoint") none) := by
  refine ⟨_, rfl, ?_⟩
  have hMeets : Meets step SetsFitting init restart :=
    ⟨trivial, ⟨_, rfl, solanaBalanceAdapter_reads _ _⟩, trivial, trivial, trivial, trivial,
      trivial⟩
  exact (factories_fit rfl hMeets).2.2.2 .ethereum "endpoint" none _ rfl

section FirstConfiguration
variable {s t : State} {c : ChainName} {p : ProviderType} {strategy : Strategy}

/-- The call leaves the strategy for the chain and the type in its place. -/
def Keeps (c : ChainName) (p : ProviderType) (_ : State) : Action → Prop
  | .setStrategy d q _ => ¬ (d = c ∧ q = p)
  | .clearStrategies => False
  | _ => True

/-- Creating a strategy under another key leaves the kept one, and under its own key the kept one
is returned. -/
theorem getStrategy_cached (hKept : getStrategy s c p = some strategy) (key : String)
    (construct : Except String Strategy) :
    getStrategy (cached s key construct).2 c p = some strategy := by
  unfold cached
  cases hFound : s.strategies.lookup key with
  | some found => exact hKept
  | none =>
      cases construct with
      | error message => exact hKept
      | ok built =>
          have hKey : getStrategyKey c p ≠ key := by
            rintro rfl
            rw [getStrategy, hFound] at hKept
            cases hKept
          exact (OrderedMap.lookup_set_of_ne hKey).trans hKept

theorem getStrategy_step {a : Action} (hKept : getStrategy s c p = some strategy)
    (hKeeps : Keeps c p s a) (hStep : step s a = some t) : getStrategy t c p = some strategy := by
  cases a with
  | createAlchemyStrategy d apiKey network =>
      obtain rfl := Option.some.inj hStep
      exact getStrategy_cached hKept _ _
  | createQuickNodeStrategy d mainnetEndpointUrl testnetEndpointUrl =>
      obtain rfl := Option.some.inj hStep
      exact getStrategy_cached hKept _ _
  | setStrategy d q other =>
      obtain rfl := Option.some.inj hStep
      have hKey : getStrategyKey c p ≠ getStrategyKey d q := by
        intro hSame
        obtain ⟨rfl, rfl⟩ := getStrategyKey_inj hSame
        exact hKeeps ⟨rfl, rfl⟩
      exact (OrderedMap.lookup_set_of_ne hKey).trans hKept
  | clearStrategies => exact hKeeps.elim
  | forProvider d q =>
      obtain rfl := Option.some.inj hStep
      unfold forProvider
      split
      · exact hKept
      · split <;> exact hKept

/-- The first configuration of a chain stays: later calls with another key or another network
are given the strategy that is there. -/
theorem createAlchemyStrategy_of_kept (hKept : getStrategy s c .alchemy = some strategy)
    {actions : List Action} (hRun : run step s actions = some t)
    (hMeets : Meets step (Keeps c .alchemy) s actions) (apiKey : String)
    (network : Option Network) :
    (createAlchemyStrategy t c apiKey network).1 = .ok strategy := by
  have hStill : t.strategies.lookup (getStrategyKey c .alchemy) = some strategy :=
    run_invariant_of_meets (fun _ _ _ h hKeeps hStep => getStrategy_step h hKeeps hStep) hRun
      hMeets hKept
  simp only [createAlchemyStrategy, cached, hStill]

end FirstConfiguration

end BalanceKit.Factories
