import BalanceKit.Library.FirstAnswer
import BalanceKit.Library.Runs
import BalanceKit.Providers.Registry
import Mathlib.Data.Option.Basic

/-! The registrations of providers and the two caches of their instances. The instance of a
class is its only one, and stands for it below. -/
namespace BalanceKit.ProviderResolution

/-- `blockchainType` of the metadata of a class. -/
inductive Metadata where
  | chain (blockchainType : String)
  | chains (blockchainTypes : List String)

/-- The registrations, the most recent first, and what the two caches hold. -/
structure State (Class : Type) where
  providers : List ((String × String) × Class)
  instances : List ((String × String) × Class)
  multiChainProviders : List (String × Class)

/-- What the factory reads: the metadata of the classes, and what the configuration names as
default provider of a chain, which is empty if it names none. -/
structure Application (Class : Type) where
  metadata : Class → Option Metadata
  configured : String → String

/-- An empty provider type asks for the default of the chain. -/
inductive Action (Class : Type) where
  | registerProvider (blockchainType providerType : String) (providerClass : Class)
  | getProvider (blockchainType providerType : String)

inductive Outcome (Class : Type) where
  | notFound
  | typeError
  | returned (providerClass : Class)

def chainToDefaultProviderMap : List (String × ProviderType) :=
  [ChainName.ethereum, .solana, .polygon, .bsc, .ethereumGoerli, .ethereumSepolia,
    .solanaDevnet].map fun c => (c.value, .alchemy)

variable {Class : Type} (app : Application Class)

def getDefaultProviderType (blockchain : String) : String :=
  let envProvider := app.configured blockchain
  if envProvider ≠ "" then envProvider
  else ((chainToDefaultProviderMap.lookup blockchain).getD .alchemy).value

/-- `providerType || this.getDefaultProviderType(blockchain)`. -/
def providerOf (blockchain providerType : String) : String :=
  if providerType = "" then getDefaultProviderType app blockchain else providerType

def isMultiChainProvider (providerClass : Class) : Bool :=
  match app.metadata providerClass with
  | some (.chains blockchainTypes) => decide (1 < blockchainTypes.length)
  | _ => false

/-- Without metadata a class supports no chain, except under a test runner. -/
def chainSupportedByProvider (blockchain : String) (providerClass : Class) : Bool :=
  match app.metadata providerClass with
  | none => false
  | some (.chains blockchainTypes) => blockchainTypes.contains blockchain
  | some (.chain blockchainType) => blockchainType == blockchain

namespace State
variable (s : State Class)

def registerProvider (blockchainType providerType : String) (providerClass : Class) : State Class :=
  { s with providers := ((blockchainType, providerType), providerClass) :: s.providers }

/-- An inherited member of the symbol table has no `toUpperCase`, which the default needs. -/
def getProvider (blockchainType providerType : String) : Outcome Class × State Class :=
  match ProviderFactory.normalizeBlockchainType blockchainType with
  | none => (if providerType = "" then .typeError else .notFound, s)
  | some blockchain =>
      let provider := providerOf app blockchain providerType
      match s.providers.lookup (blockchain, provider) with
      | none => (.notFound, s)
      | some providerClass =>
          if !chainSupportedByProvider app blockchain providerClass then (.notFound, s)
          else if isMultiChainProvider app providerClass then
            match s.multiChainProviders.lookup provider with
            | some cached => (.returned cached, s)
            | none => (.returned providerClass, { s with
                multiChainProviders := (provider, providerClass) :: s.multiChainProviders })
          else
            match s.instances.lookup (blockchain, provider) with
            | some cached => (.returned cached, s)
            | none => (.returned providerClass, { s with
                instances := ((blockchain, provider), providerClass) :: s.instances })

end State

def init : State Class := ⟨[], [], []⟩

def step (s : State Class) : Action Class → Option (State Class)
  | .registerProvider blockchainType providerType providerClass =>
      some (s.registerProvider blockchainType providerType providerClass)
  | .getProvider blockchainType providerType =>
      some (s.getProvider app blockchainType providerType).2

/-- A call finds nothing, or returns the class that is registered for exactly the chain and
the type, which lists the chain. -/
def Correct (s : State Class) : Action Class → Prop
  | .registerProvider .. => True
  | .getProvider blockchainType providerType =>
      let outcome := (s.getProvider app blockchainType providerType).1
      outcome = .notFound ∨ ∃ blockchain providerClass,
        ProviderFactory.normalizeBlockchainType blockchainType = some blockchain ∧
          s.providers.lookup (blockchain, providerOf app blockchain providerType) =
            some providerClass ∧
          chainSupportedByProvider app blockchain providerClass = true ∧
            outcome = .returned providerClass

/-- A call for the default of a chain names no inherited member. -/
def NamesType (blockchainType providerType : String) : Prop :=
  providerType = "" → ProviderFactory.normalizeBlockchainType blockchainType ≠ none

def HasType : Action Class → Prop
  | .registerProvider .. => True
  | .getProvider blockchainType providerType => NamesType blockchainType providerType

/-- The place of an instance in the caches: by type for a class of several chains, and by
chain and type for the others. -/
inductive Slot where
  | ofType (provider : String)
  | ofChain (blockchain provider : String)
  deriving DecidableEq

/-- The place of the instance of a class. -/
def slotOf (blockchain provider : String) (providerClass : Class) : Slot :=
  if isMultiChainProvider app providerClass then .ofType provider
  else .ofChain blockchain provider

/-- The class that a call finds registered, and the place of its instance. -/
def resolve (providers : List ((String × String) × Class)) (blockchainType providerType : String) :
    Option (Slot × Class) := do
  let blockchain ← ProviderFactory.normalizeBlockchainType blockchainType
  let provider := providerOf app blockchain providerType
  let providerClass ← providers.lookup (blockchain, provider)
  guard (chainSupportedByProvider app blockchain providerClass)
  return (slotOf app blockchain provider providerClass, providerClass)

/-- What the calls of a run find registered. -/
def resolutions (providers : List ((String × String) × Class)) :
    List (Action Class) → List (Slot × Class)
  | [] => []
  | .registerProvider blockchainType providerType providerClass :: rest =>
      resolutions (((blockchainType, providerType), providerClass) :: providers) rest
  | .getProvider blockchainType providerType :: rest =>
      (resolve app providers blockchainType providerType).toList ++ resolutions providers rest

/-- The two caches as one table. -/
def State.cached (s : State Class) : Slot → Option Class
  | .ofType provider => s.multiChainProviders.lookup provider
  | .ofChain blockchain provider => s.instances.lookup (blockchain, provider)

section Calls
variable {app} {s : State Class} {blockchainType providerType : String}

/-- What a call finds registered. -/
theorem resolve_eq_some_iff {slot : Slot} {providerClass : Class} :
    resolve app s.providers blockchainType providerType = some (slot, providerClass) ↔
      ∃ blockchain, ProviderFactory.normalizeBlockchainType blockchainType = some blockchain ∧
        s.providers.lookup (blockchain, providerOf app blockchain providerType) =
          some providerClass ∧
        chainSupportedByProvider app blockchain providerClass = true ∧
          slotOf app blockchain (providerOf app blockchain providerType) providerClass = slot := by
  simp only [resolve, Option.bind_eq_bind, Option.bind_eq_some_iff]
  constructor
  · rintro ⟨blockchain, hName, found, hRegistered, _, hSupported, hRequest⟩
    obtain ⟨hSlot, rfl⟩ := Prod.mk.inj (Option.some.inj hRequest)
    exact ⟨blockchain, hName, hRegistered, (Option.guard_eq_some' _).mp hSupported, hSlot⟩
  · rintro ⟨blockchain, hName, hRegistered, hSupported, rfl⟩
    exact ⟨blockchain, hName, providerClass, hRegistered, (),
      (Option.guard_eq_some' ()).mpr hSupported, rfl⟩

/-- A call that finds no class leaves the caches, and fails. A failed call caches nothing. -/
theorem getProvider_of_none
    (h : resolve app s.providers blockchainType providerType = none) :
    s.getProvider app blockchainType providerType =
      (if providerType = "" ∧ ProviderFactory.normalizeBlockchainType blockchainType = none
        then .typeError else .notFound, s) := by
  unfold State.getProvider
  cases hName : ProviderFactory.normalizeBlockchainType blockchainType with
  | none => simp
  | some blockchain =>
      have hName' : ¬ (providerType = "" ∧ some blockchain = none) := by simp
      rw [if_neg hName']
      cases hRegistered :
          s.providers.lookup (blockchain, providerOf app blockchain providerType) with
      | none => simp only [hRegistered]
      | some providerClass =>
          have hUnsupported : chainSupportedByProvider app blockchain providerClass ≠ true := by
            intro hSupported
            have hSome : ∃ request,
                resolve app s.providers blockchainType providerType = some request :=
              ⟨(_, providerClass), resolve_eq_some_iff.mpr
                ⟨blockchain, hName, hRegistered, hSupported, rfl⟩⟩
            simp [h] at hSome
          simp only [hRegistered]
          exact if_pos (by simpa using hUnsupported)

/-- A new entry of either cache is kept by the table of first answers, and the entries of the other
cache stay as they are. -/
theorem cached_ofType {provider : String} {providerClass : Class}
    (hCached : s.cached (.ofType provider) = none) :
    State.cached { s with
        multiChainProviders := (provider, providerClass) :: s.multiChainProviders } =
      FirstAnswer.keep s.cached (.ofType provider, providerClass) := by
  funext other
  unfold FirstAnswer.keep
  rw [FirstAnswer.answer_of_none hCached]
  cases other with
  | ofType otherProvider => simp [State.cached, OrderedMap.lookup_cons_eq]
  | ofChain otherChain otherProvider => rfl

theorem cached_ofChain {blockchain provider : String} {providerClass : Class}
    (hCached : s.cached (.ofChain blockchain provider) = none) :
    State.cached { s with instances := ((blockchain, provider), providerClass) :: s.instances } =
      FirstAnswer.keep s.cached (.ofChain blockchain provider, providerClass) := by
  funext other
  unfold FirstAnswer.keep
  rw [FirstAnswer.answer_of_none hCached]
  cases other with
  | ofType otherProvider => rfl
  | ofChain otherChain otherProvider =>
      simp only [State.cached, Slot.ofChain.injEq, ← Prod.mk.injEq]
      exact OrderedMap.lookup_cons_eq (blockchain, provider) (otherChain, otherProvider) _ _

/-- A call that finds a class is a request to the table. The cache answers for the key, and the
registrations for what is not cached. -/
theorem getProvider_of_some {request : Slot × Class}
    (h : resolve app s.providers blockchainType providerType = some request) :
    let next := s.getProvider app blockchainType providerType
    next.1 = .returned (FirstAnswer.answer s.cached request) ∧
      next.2.cached = FirstAnswer.keep s.cached request ∧ next.2.providers = s.providers := by
  obtain ⟨slot, providerClass⟩ := request
  obtain ⟨blockchain, hName, hRegistered, hSupported, hSlot⟩ := resolve_eq_some_iff.mp h
  subst hSlot
  unfold State.getProvider
  simp only [hName, hRegistered, hSupported, Bool.not_true, Bool.false_eq_true, if_false]
  generalize providerOf app blockchain providerType = provider
  by_cases hMulti : isMultiChainProvider app providerClass = true
  · rw [if_pos hMulti, slotOf, if_pos hMulti]
    cases hCached : s.cached (.ofType provider) with
    | some cached =>
        have hLookup : s.multiChainProviders.lookup provider = some cached := hCached
        rw [hLookup, FirstAnswer.answer_of_some hCached, FirstAnswer.keep_of_some hCached]
        exact ⟨rfl, rfl, rfl⟩
    | none =>
        have hLookup : s.multiChainProviders.lookup provider = none := hCached
        rw [hLookup, FirstAnswer.answer_of_none hCached]
        exact ⟨rfl, cached_ofType hCached, rfl⟩
  · rw [if_neg hMulti, slotOf, if_neg hMulti]
    cases hCached : s.cached (.ofChain blockchain provider) with
    | some cached =>
        have hLookup : s.instances.lookup (blockchain, provider) = some cached := hCached
        rw [hLookup, FirstAnswer.answer_of_some hCached, FirstAnswer.keep_of_some hCached]
        exact ⟨rfl, rfl, rfl⟩
    | none =>
        have hLookup : s.instances.lookup (blockchain, provider) = none := hCached
        rw [hLookup, FirstAnswer.answer_of_none hCached]
        exact ⟨rfl, cached_ofChain hCached, rfl⟩

theorem correct_of_none (h : resolve app s.providers blockchainType providerType = none) :
    Correct app s (.getProvider blockchainType providerType) ↔
      NamesType blockchainType providerType := by
  have hOutcome := congrArg Prod.fst (getProvider_of_none h)
  simp only [Correct, NamesType, hOutcome, ← not_and]
  by_cases hNone : providerType = "" ∧ ProviderFactory.normalizeBlockchainType blockchainType = none
  · simp [hNone]
  · simp [hNone]

/-- A call that finds a class is correct if it is given that class. -/
theorem correct_of_some {request : Slot × Class}
    (h : resolve app s.providers blockchainType providerType = some request) :
    Correct app s (.getProvider blockchainType providerType) ↔
      FirstAnswer.answer s.cached request = request.2 := by
  obtain ⟨hOutcome, -⟩ := getProvider_of_some h
  obtain ⟨blockchain, hName, hRegistered, hSupported, -⟩ := resolve_eq_some_iff.mp h
  simp only [Correct, hOutcome, reduceCtorEq, false_or]
  constructor
  · rintro ⟨other, providerClass, hOtherName, hOtherClass, -, hReturned⟩
    obtain rfl := Option.some.inj (hName.symm.trans hOtherName)
    obtain rfl := Option.some.inj (hRegistered.symm.trans hOtherClass)
    exact Outcome.returned.inj hReturned
  · intro hOwn
    exact ⟨blockchain, request.2, hName, hRegistered, hSupported, congrArg _ hOwn⟩

theorem hasType_of_some {request : Slot × Class}
    (h : resolve app s.providers blockchainType providerType = some request) :
    NamesType blockchainType providerType := by
  obtain ⟨blockchain, hName, -⟩ := resolve_eq_some_iff.mp h
  intro _ hNone
  rw [hNone] at hName
  cases hName

end Calls

section Runs
variable {app}

/-- A run is correct where its calls have types, and the table gives every call the class
that it finds. -/
theorem meets_correct_iff (s : State Class) (actions : List (Action Class)) :
    TransitionSystem.Meets (step app) (Correct app) s actions ↔
      FirstAnswer.Own s.cached (resolutions app s.providers actions) ∧
        ∀ action ∈ actions, HasType action := by
  induction actions generalizing s with
  | nil => simp [TransitionSystem.Meets, FirstAnswer.Own, resolutions]
  | cons action rest ih =>
      rw [List.forall_mem_cons]
      cases action with
      | registerProvider blockchainType providerType providerClass =>
          have hRest := ih (s.registerProvider blockchainType providerType providerClass)
          rw [HasType, true_and]
          exact (and_iff_right trivial).trans hRest
      | getProvider blockchainType providerType =>
          have hRest := ih (s.getProvider app blockchainType providerType).2
          refine (and_congr_right fun _ => hRest).trans ?_
          cases hRequest : resolve app s.providers blockchainType providerType with
          | none =>
              rw [correct_of_none hRequest, getProvider_of_none hRequest, resolutions, hRequest]
              exact and_left_comm
          | some request =>
              obtain ⟨-, hCached, hProviders⟩ := getProvider_of_some hRequest
              have hType := hasType_of_some hRequest
              rw [correct_of_some hRequest, hCached, hProviders, resolutions, hRequest]
              simp only [List.singleton_append, Option.toList_some, FirstAnswer.Own, HasType,
                hType, true_and, and_assoc]

/-- Every call of a run follows the current registration just where calls that share a place
in the caches find the same class registered, and calls for the default of a chain name no
inherited member. -/
theorem resolution_iff (actions : List (Action Class)) :
    TransitionSystem.Meets (step app) (Correct app) init actions ↔
      FirstAnswer.Agree (resolutions app [] actions) ∧ ∀ action ∈ actions, HasType action := by
  rw [meets_correct_iff, FirstAnswer.own_iff]
  refine and_congr_left' (and_iff_right fun request _ => ?_)
  obtain ⟨slot, providerClass⟩ := request
  cases slot with
  | ofType provider => rfl
  | ofChain blockchain provider => rfl

/-- Two classes of several chains under one type. -/
def twoFacades : Application Bool :=
  ⟨fun providerClass => some (.chains (bif providerClass then ["ethereum", "polygon"]
    else ["polygon", "bsc"])), fun _ => ""⟩

def twoFacadesRun : List (Action Bool) :=
  [.registerProvider "ethereum" "alchemy" true, .getProvider "ethereum" "alchemy",
    .registerProvider "polygon" "alchemy" false, .getProvider "polygon" "alchemy"]

/-- The second call is given the class of the first. The cache is keyed by the type, and both
facades have one type. -/
theorem not_correct_twoFacades :
    ¬ TransitionSystem.Meets (step twoFacades) (Correct twoFacades) init twoFacadesRun := by
  have hFound : resolutions twoFacades [] twoFacadesRun =
      [(.ofType "alchemy", true), (.ofType "alchemy", false)] := by
    decide +kernel
  intro hCorrect
  obtain ⟨hOwn, -⟩ := (meets_correct_iff init twoFacadesRun).mp hCorrect
  change FirstAnswer.Own _ (resolutions twoFacades [] twoFacadesRun) at hOwn
  rw [hFound] at hOwn
  simp [FirstAnswer.Own, FirstAnswer.answer, FirstAnswer.keep, State.cached, init] at hOwn

end Runs

end BalanceKit.ProviderResolution
