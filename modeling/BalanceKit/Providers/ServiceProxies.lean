import BalanceKit.Providers.ChainInput
import Mathlib.Logic.Function.Basic

/-! The chain services that the factory gives out: the instances of the container, and a copy
of one for each provider that is asked for. -/
namespace BalanceKit.ServiceProxies

/-- The properties of a service that its methods read. A copy has methods of its own, which
hold the provider type that it was made for. -/
structure Service where
  prototype : ChainService
  defaultProviderType : Option String
  currentChainId : Int
  ownProvider : Option String
  deriving DecidableEq

def getDefaultChainId : ChainService → Int
  | .ethereumService => 1
  | .polygonService => 137
  | .bscService => 56
  | .solanaService => 101

namespace Service
variable (service : Service)

/-- The service as its constructor leaves it. -/
def create (config : String → Option String) (prototype : ChainService) : Service :=
  ⟨prototype, some ((config prototype.providerKey).getD "alchemy"), getDefaultChainId prototype,
    none⟩

def setDefaultProvider (providerType : String) : Service :=
  match service.ownProvider with
  | some _ => service
  | none => { service with defaultProviderType := some providerType }

def getDefaultProvider : Option String :=
  match service.ownProvider with
  | some providerType => some providerType
  | none => service.defaultProviderType

def setChainId (chainId : Int) : Service := { service with currentChainId := chainId }

/-- `Object.assign` to a new object, with the two methods replaced. -/
def copyFor (providerType : String) : Service :=
  { service with ownProvider := some providerType }

end Service

/-- An object: the instance of a class in the container, or one that the factory made. -/
inductive Ref where
  | instance (prototype : ChainService)
  | made (index : Nat)
  deriving DecidableEq

structure State where
  object : Ref → Option Service
  objectsMade : Nat
  chainServices : List (String × Ref)
  providerSpecificServices : List ((String × String) × Ref)

inductive Outcome where
  | returned (service : Ref)
  | notFound
  | typeError
  | done
  deriving DecidableEq

namespace State
variable (s : State)

def getDefaultProvider (service : Ref) : Option String :=
  (s.object service).bind Service.getDefaultProvider

def getChainId (service : Ref) : Option Int := (s.object service).map Service.currentChainId

/-- Replace the object by its new state, if there is one. -/
def update (service : Ref) (f : Service → Service) : State :=
  { s with object := Function.update s.object service ((s.object service).map f) }

def setDefaultProvider (service : Ref) (providerType : String) : State :=
  s.update service fun object => object.setDefaultProvider providerType

def setChainId (service : Ref) (chainId : Int) : State :=
  s.update service fun object => object.setChainId chainId

def getChainService (chainNameOrSymbol : String) : Outcome × State :=
  match ChainServiceFactory.normalizeChainInput chainNameOrSymbol with
  | none => (.typeError, s)
  | some normalizedChainName =>
      match s.chainServices.lookup normalizedChainName with
      | some service => (.returned service, s)
      | none =>
          match ChainServiceFactory.chainServiceTypes.lookup normalizedChainName with
          | none => (.notFound, s)
          | some serviceType => (.returned (.instance serviceType), { s with
              chainServices := (normalizedChainName, .instance serviceType) :: s.chainServices })

/-- Make a copy of the service for the provider, and store it. -/
def makeProxy (baseService : Ref) (normalizedChainName providerType : String) : State :=
  let proxyService := (s.object baseService).map fun object => object.copyFor providerType
  { s with
    object := Function.update s.object (.made s.objectsMade) proxyService
    objectsMade := s.objectsMade + 1
    providerSpecificServices :=
      ((normalizedChainName, providerType), .made s.objectsMade) :: s.providerSpecificServices }

/-- Every service has the two methods that make it aware of providers. -/
def getChainServiceWithProvider (chainNameOrSymbol providerType : String) : Outcome × State :=
  match ChainServiceFactory.normalizeChainInput chainNameOrSymbol with
  | none => (.typeError, s)
  | some normalizedChainName =>
      match s.providerSpecificServices.lookup (normalizedChainName, providerType) with
      | some service => (.returned service, s)
      | none =>
          match s.getChainService normalizedChainName with
          | (.returned baseService, next) =>
              (.returned (.made next.objectsMade),
                next.makeProxy baseService normalizedChainName providerType)
          | failed => failed

end State

/-- The container has made its instances, and nothing has been asked for. -/
def init (config : String → Option String) : State where
  object
    | .instance prototype => some (Service.create config prototype)
    | .made _ => none
  objectsMade := 0
  chainServices := []
  providerSpecificServices := []

inductive Action where
  | getChainServiceWithProvider (chainNameOrSymbol providerType : String)
  | getChainService (chainNameOrSymbol : String)
  | setDefaultProvider (service : Ref) (providerType : String)
  | setChainId (service : Ref) (chainId : Int)
  deriving DecidableEq

def step (s : State) : Action → Outcome × State
  | .getChainServiceWithProvider chainNameOrSymbol providerType =>
      s.getChainServiceWithProvider chainNameOrSymbol providerType
  | .getChainService chainNameOrSymbol => s.getChainService chainNameOrSymbol
  | .setDefaultProvider service providerType => (.done, s.setDefaultProvider service providerType)
  | .setChainId service chainId => (.done, s.setChainId service chainId)

/-- What each action of a run answers. -/
def answers (s : State) : List Action → List (Action × Outcome)
  | [] => []
  | action :: rest => (action, (step s action).1) :: answers (step s action).2 rest

def after (s : State) : List Action → State
  | [] => s
  | action :: rest => after (step s action).2 rest

/-- The default provider of an object by what is set on this object. -/
def lastDefault (service : Ref) (initial : Option String) : List Action → Option String
  | [] => initial
  | .setDefaultProvider object providerType :: rest =>
      lastDefault service (if object = service then some providerType else initial) rest
  | _ :: rest => lastDefault service initial rest

/-- The text is the name of the chain, or a symbol that stands for it, in any letter case. -/
def Spells (text : String) (c : ChainName) : Prop :=
  Text.toLowerCase text = c.value ∨
    coinSymbolToChainMap.lookup (Text.toLowerCase text) = some c

def Registered (c : ChainName) : Prop :=
  ∃ serviceType : ChainService, c ∈ serviceType.chains

/-- The copies of a run are isolated from each other and from what they are copies of. -/
structure Isolated (config : String → Option String) (run : List Action) : Prop where
  /-- Every copy for a provider answers that provider. -/
  fixed : ∀ chain providerType proxy,
    (.getChainServiceWithProvider chain providerType, .returned proxy) ∈ answers (init config) run →
      (after (init config) run).getDefaultProvider proxy = some providerType
  /-- Requests for one chain and provider are given one object, however the chain is spelled. -/
  shared : ∀ c, Registered c → ∀ x y, Spells x c → Spells y c → ∀ providerType first second,
    (.getChainServiceWithProvider x providerType, first) ∈ answers (init config) run →
      (.getChainServiceWithProvider y providerType, second) ∈ answers (init config) run →
        ∃ proxy, first = .returned proxy ∧ second = .returned proxy
  /-- The default of a base service is the one that was last set on it. -/
  base : ∀ chain service, (.getChainService chain, .returned service) ∈ answers (init config) run →
    (after (init config) run).getDefaultProvider service =
      lastDefault service ((init config).getDefaultProvider service) run
  /-- The chain id of a copy is set on the copy alone. -/
  chainId : ∀ x providerType proxy chainId,
    (.getChainServiceWithProvider x providerType, .returned proxy) ∈ answers (init config) run →
      (∀ y service, (.getChainService y, .returned service) ∈ answers (init config) run →
        ((after (init config) run).setChainId proxy chainId).getChainId service =
          (after (init config) run).getChainId service) ∧
      ∀ y otherType other,
        (.getChainServiceWithProvider y otherType, .returned other) ∈ answers (init config) run →
          ¬ (ChainServiceFactory.normalizeChainInput y = ChainServiceFactory.normalizeChainInput x ∧
            otherType = providerType) →
          ((after (init config) run).setChainId proxy chainId).getChainId other =
            (after (init config) run).getChainId other

/-- What the maps of the factory refer to. -/
structure Inv (s : State) : Prop where
  instances : ∀ prototype, ∃ object,
    s.object (.instance prototype) = some object ∧ object.ownProvider = none
  services : ∀ name service, s.chainServices.lookup name = some service →
    ∃ serviceType, ChainServiceFactory.chainServiceTypes.lookup name = some serviceType ∧
      service = .instance serviceType
  proxies : ∀ name providerType proxy,
    s.providerSpecificServices.lookup (name, providerType) = some proxy →
      ChainServiceFactory.chainServiceTypes.lookup name ≠ none ∧
        ∃ index < s.objectsMade, proxy = .made index ∧
          ∃ object, s.object proxy = some object ∧ object.ownProvider = some providerType
  apart : ∀ key other proxy, s.providerSpecificServices.lookup key = some proxy →
    s.providerSpecificServices.lookup other = some proxy → key = other

section Names
variable {x name : String} {c : ChainName}

/-- The normal form of a name is its own. -/
theorem normalizeChainInput_normal (h : ChainServiceFactory.normalizeChainInput x = some name) :
    ChainServiceFactory.normalizeChainInput name = some name := by
  unfold ChainServiceFactory.normalizeChainInput at h
  cases hSymbol : Text.lookup coinSymbolToChainMap (Text.toLowerCase x) with
  | own c =>
      obtain rfl : Text.toLowerCase c.value = name := by simpa [hSymbol] using h
      cases c <;> decide
  | inherited => simp [hSymbol] at h
  | missing =>
      obtain rfl : Text.toLowerCase x = name := by simpa [hSymbol] using h
      simp [ChainServiceFactory.normalizeChainInput, Text.toLowerCase_toLowerCase, hSymbol]

theorem normalizeChainInput_of_spells (h : Spells x c) :
    ChainServiceFactory.normalizeChainInput x = some c.value := by
  unfold ChainServiceFactory.normalizeChainInput
  rcases h with hName | hSymbol
  · rw [hName]
    cases c <;> decide
  · simp only [Text.lookup, hSymbol]
    exact congrArg some (ChainInput.toLowerCase_value c)

theorem lookup_chainServiceTypes (h : Registered c) :
    ∃ serviceType, ChainServiceFactory.chainServiceTypes.lookup c.value = some serviceType := by
  obtain ⟨serviceType, hChain⟩ := h
  refine ⟨serviceType, ?_⟩
  revert hChain
  cases serviceType <;> cases c <;> decide

end Names

section Steps
variable {s : State} {x name providerType : String}

theorem getDefaultProvider_setDefaultProvider (service : Service) :
    (service.setDefaultProvider providerType).getDefaultProvider =
      match service.ownProvider with
      | some own => some own
      | none => some providerType := by
  unfold Service.setDefaultProvider Service.getDefaultProvider
  cases hOwn : service.ownProvider with
  | some own => simp [hOwn]
  | none => simp

@[simp] theorem ownProvider_setDefaultProvider (service : Service) :
    (service.setDefaultProvider providerType).ownProvider = service.ownProvider := by
  unfold Service.setDefaultProvider
  cases hOwn : service.ownProvider with
  | some own => simp [hOwn]
  | none => rfl

/-- A change of one object that leaves its methods keeps the invariant. The copies are separate
objects, so a change of one of them is seen by no other. -/
theorem inv_update (h : Inv s) (service : Ref) {f : Service → Service}
    (hOwn : ∀ object, (f object).ownProvider = object.ownProvider) : Inv (s.update service f) := by
  have hObject : ∀ other object, s.object other = some object → ∃ changed,
      (s.update service f).object other = some changed ∧
        changed.ownProvider = object.ownProvider := by
    intro other object hOther
    by_cases hSame : other = service
    · refine ⟨f object, ?_, hOwn object⟩
      rw [hSame] at hOther ⊢
      simp [State.update, hOther]
    · exact ⟨object, by simp [State.update, Function.update_of_ne hSame, hOther], rfl⟩
  constructor
  case instances =>
    intro prototype
    obtain ⟨object, hInstance, hNone⟩ := h.instances prototype
    obtain ⟨changed, hChanged, hSame⟩ := hObject _ object hInstance
    exact ⟨changed, hChanged, hSame.trans hNone⟩
  case services => exact h.services
  case proxies =>
    intro name providerType proxy hProxy
    obtain ⟨hKnown, index, hIndex, hMade, object, hThere, hType⟩ := h.proxies name _ proxy hProxy
    obtain ⟨changed, hChanged, hSame⟩ := hObject _ object hThere
    exact ⟨hKnown, index, hIndex, hMade, changed, hChanged, hSame.trans hType⟩
  case apart => exact h.apart

/-- A name without a service is answered by an error, and nothing is created. -/
theorem getChainService_of_unknown (h : Inv s)
    (hName : ChainServiceFactory.normalizeChainInput x = some name)
    (hUnknown : ChainServiceFactory.chainServiceTypes.lookup name = none) :
    s.getChainService x = (.notFound, s) := by
  have hService : s.chainServices.lookup name = none := by
    cases hFound : s.chainServices.lookup name with
    | none => rfl
    | some service =>
        obtain ⟨serviceType, hKnown, -⟩ := h.services name service hFound
        rw [hUnknown] at hKnown
        cases hKnown
  simp [State.getChainService, hName, hService, hUnknown]

/-- A known name is answered with the instance of its class. -/
theorem getChainService_of_known (h : Inv s) {serviceType : ChainService}
    (hName : ChainServiceFactory.normalizeChainInput x = some name)
    (hKnown : ChainServiceFactory.chainServiceTypes.lookup name = some serviceType) :
    ∃ chainServices, s.getChainService x =
        (.returned (.instance serviceType), { s with chainServices := chainServices }) ∧
      Inv { s with chainServices := chainServices } := by
  cases hFound : s.chainServices.lookup name with
  | some service =>
      obtain ⟨foundType, hFoundType, rfl⟩ := h.services name service hFound
      obtain rfl : serviceType = foundType := Option.some.inj (hKnown.symm.trans hFoundType)
      exact ⟨s.chainServices, by simp [State.getChainService, hName, hFound], h⟩
  | none =>
      refine ⟨(name, .instance serviceType) :: s.chainServices,
        by simp [State.getChainService, hName, hFound, hKnown],
        ⟨h.instances, ?_, h.proxies, h.apart⟩⟩
      intro other service hOther
      rw [OrderedMap.lookup_cons_eq] at hOther
      by_cases hSame : other = name
      · rw [if_pos hSame] at hOther
        exact ⟨serviceType, hSame ▸ hKnown, (Option.some.inj hOther).symm⟩
      · rw [if_neg hSame] at hOther
        exact h.services other service hOther

/-- The place of a new copy is that of no stored one. -/
theorem lookup_ne_new (h : Inv s) (key : String × String) :
    s.providerSpecificServices.lookup key ≠ some (.made s.objectsMade) := by
  intro hProxy
  obtain ⟨-, index, hIndex, hMade, -⟩ := h.proxies key.1 key.2 _ hProxy
  obtain rfl := Ref.made.inj hMade
  exact Nat.lt_irrefl _ hIndex

/-- A new proxy is a copy of the instance and leaves the instance as it is, so the copies that were
made before are not affected. -/
theorem inv_makeProxy (h : Inv s) {serviceType : ChainService}
    (hKnown : ChainServiceFactory.chainServiceTypes.lookup name = some serviceType) :
    Inv (s.makeProxy (.instance serviceType) name providerType) := by
  constructor
  case instances =>
    intro prototype
    obtain ⟨object, hInstance, hNone⟩ := h.instances prototype
    exact ⟨object, by simp [State.makeProxy, hInstance], hNone⟩
  case services => exact h.services
  case proxies =>
    intro otherName otherType proxy hProxy
    replace hProxy := (OrderedMap.lookup_cons_eq _ _ _ _).symm.trans hProxy
    by_cases hSame : (otherName, otherType) = (name, providerType)
    · rw [if_pos hSame] at hProxy
      obtain ⟨rfl, rfl⟩ := Prod.mk.inj hSame
      obtain rfl := Option.some.inj hProxy
      obtain ⟨object, hInstance, -⟩ := h.instances serviceType
      refine ⟨by simp [hKnown], s.objectsMade, Nat.lt_succ_self _, rfl,
        object.copyFor otherType, ?_, rfl⟩
      simp [State.makeProxy, hInstance]
    · rw [if_neg hSame] at hProxy
      obtain ⟨hOther, index, hIndex, rfl, object, hThere, hType⟩ := h.proxies _ _ _ hProxy
      have hNe : Ref.made index ≠ .made s.objectsMade := by
        intro hMade
        exact absurd (Ref.made.inj hMade) (Nat.ne_of_lt hIndex)
      refine ⟨hOther, index, Nat.lt_succ_of_lt hIndex, rfl, object, ?_, hType⟩
      simpa [State.makeProxy, Function.update_of_ne hNe] using hThere
  case apart => exact OrderedMap.key_unique_cons (lookup_ne_new h) h.apart

/-- A request of a known name is answered with the copy that is stored afterwards. A later request
for the same name and provider is given the same copy. -/
theorem getChainServiceWithProvider_of_known (h : Inv s) {serviceType : ChainService}
    (hName : ChainServiceFactory.normalizeChainInput x = some name)
    (hKnown : ChainServiceFactory.chainServiceTypes.lookup name = some serviceType) :
    ∃ proxy next, s.getChainServiceWithProvider x providerType = (.returned proxy, next) ∧
      Inv next ∧ next.providerSpecificServices.lookup (name, providerType) = some proxy ∧
      (∀ key other, s.providerSpecificServices.lookup key = some other →
        next.providerSpecificServices.lookup key = some other) ∧
      ∀ prototype, next.object (.instance prototype) = s.object (.instance prototype) := by
  unfold State.getChainServiceWithProvider
  cases hFound : s.providerSpecificServices.lookup (name, providerType) with
  | some proxy =>
      exact ⟨proxy, s, by simp only [hName, hFound], h, hFound, fun _ _ hOther => hOther,
        fun _ => rfl⟩
  | none =>
      obtain ⟨chainServices, hService, hNext⟩ :=
        getChainService_of_known h (normalizeChainInput_normal hName) hKnown
      refine ⟨.made s.objectsMade, _, by simp only [hName, hFound, hService],
        @inv_makeProxy _ name providerType hNext _ hKnown, ?_, ?_, ?_⟩
      · exact (OrderedMap.lookup_cons_eq _ _ _ _).trans (if_pos rfl)
      · intro key other hOther
        have hNe : key ≠ (name, providerType) := by
          intro hKey
          rw [hKey, hFound] at hOther
          cases hOther
        exact ((OrderedMap.lookup_cons_eq _ _ _ _).trans (if_neg hNe)).trans hOther
      · intro prototype
        simp [State.makeProxy]

/-- A request of any other name fails, and leaves the maps alone. -/
theorem getChainServiceWithProvider_of_unknown (h : Inv s)
    (hUnknown : ∀ name, ChainServiceFactory.normalizeChainInput x = some name →
      ChainServiceFactory.chainServiceTypes.lookup name = none) :
    ∃ failure, s.getChainServiceWithProvider x providerType = (failure, s) ∧
      ∀ service, failure ≠ .returned service := by
  unfold State.getChainServiceWithProvider
  cases hName : ChainServiceFactory.normalizeChainInput x with
  | none => exact ⟨.typeError, rfl, by simp⟩
  | some name =>
      have hNone := hUnknown name hName
      have hProxy : s.providerSpecificServices.lookup (name, providerType) = none := by
        cases hFound : s.providerSpecificServices.lookup (name, providerType) with
        | none => rfl
        | some proxy => exact absurd hNone (h.proxies name providerType proxy hFound).1
      have hService := getChainService_of_unknown h (normalizeChainInput_normal hName) hNone
      exact ⟨.notFound, by simp only [hProxy, hService], by simp⟩

/-- Every name is of a class, or of none. -/
theorem known_or_unknown (x : String) :
    (∃ name serviceType, ChainServiceFactory.normalizeChainInput x = some name ∧
      ChainServiceFactory.chainServiceTypes.lookup name = some serviceType) ∨
    ∀ name, ChainServiceFactory.normalizeChainInput x = some name →
      ChainServiceFactory.chainServiceTypes.lookup name = none := by
  cases hName : ChainServiceFactory.normalizeChainInput x with
  | none => exact .inr (by simp)
  | some name =>
      cases hType : ChainServiceFactory.chainServiceTypes.lookup name with
      | none => exact .inr fun other hOther => Option.some.inj hOther ▸ hType
      | some serviceType => exact .inl ⟨name, serviceType, rfl, hType⟩

/-- A request for a base service is answered with an instance, and changes no object. -/
theorem getChainService_keeps (h : Inv s) (x : String) :
    ∃ chainServices, (s.getChainService x).2 = { s with chainServices := chainServices } ∧
      Inv { s with chainServices := chainServices } ∧
      ∀ service, (s.getChainService x).1 = .returned service →
        ∃ serviceType, service = .instance serviceType := by
  rcases known_or_unknown x with ⟨name, serviceType, hName, hKnown⟩ | hUnknown
  · obtain ⟨chainServices, hService, hNext⟩ := getChainService_of_known h hName hKnown
    refine ⟨chainServices, by rw [hService], hNext, fun service hReturned => ⟨serviceType, ?_⟩⟩
    rw [hService] at hReturned
    exact (Outcome.returned.inj hReturned).symm
  · cases hName : ChainServiceFactory.normalizeChainInput x with
    | none =>
        have hFailed : s.getChainService x = (.typeError, s) := by
          simp [State.getChainService, hName]
        exact ⟨s.chainServices, by rw [hFailed], h, by simp [hFailed]⟩
    | some name =>
        have hFailed := getChainService_of_unknown h hName (hUnknown name hName)
        exact ⟨s.chainServices, by rw [hFailed], h, by simp [hFailed]⟩

/-- What every step keeps: the invariant, the copies that are stored, and the default of an
instance if it is not set. -/
theorem step_keeps (h : Inv s) (action : Action) :
    Inv (step s action).2 ∧
      (∀ key proxy, s.providerSpecificServices.lookup key = some proxy →
        (step s action).2.providerSpecificServices.lookup key = some proxy) ∧
      ∀ prototype, (step s action).2.getDefaultProvider (.instance prototype) =
        lastDefault (.instance prototype) (s.getDefaultProvider (.instance prototype))
          [action] := by
  cases action with
  | getChainServiceWithProvider x providerType =>
      rcases known_or_unknown x with ⟨name, serviceType, hName, hKnown⟩ | hUnknown
      · obtain ⟨proxy, next, hAnswer, hNext, -, hOld, hObject⟩ :=
          getChainServiceWithProvider_of_known h hName hKnown
        rw [step, hAnswer]
        refine ⟨hNext, hOld, fun prototype => ?_⟩
        simp [State.getDefaultProvider, hObject, lastDefault]
      · obtain ⟨failure, hAnswer, -⟩ := getChainServiceWithProvider_of_unknown h hUnknown
        rw [step, hAnswer]
        exact ⟨h, fun _ _ hOld => hOld, fun _ => rfl⟩
  | getChainService x =>
      obtain ⟨chainServices, hAnswer, hNext, -⟩ := getChainService_keeps h x
      rw [step, hAnswer]
      exact ⟨hNext, fun _ _ hOld => hOld, fun _ => rfl⟩
  | setDefaultProvider service providerType =>
      refine ⟨inv_update h service ownProvider_setDefaultProvider, fun _ _ hOld => hOld, ?_⟩
      intro prototype
      obtain ⟨object, hObject, hNone⟩ := h.instances prototype
      by_cases hSame : service = .instance prototype
      · simp [step, State.setDefaultProvider, State.update, State.getDefaultProvider, hSame,
          hObject, getDefaultProvider_setDefaultProvider, hNone, lastDefault]
      · simp [step, State.setDefaultProvider, State.update, State.getDefaultProvider, lastDefault,
          Function.update_of_ne (Ne.symm hSame), if_neg hSame]
  | setChainId service chainId =>
      refine ⟨inv_update h service fun _ => rfl, fun _ _ hOld => hOld, fun prototype => ?_⟩
      obtain ⟨object, hObject, -⟩ := h.instances prototype
      by_cases hSame : service = .instance prototype
      · simp [step, State.setChainId, State.update, State.getDefaultProvider, lastDefault, hSame,
          hObject, Service.setChainId, Service.getDefaultProvider]
      · simp [step, State.setChainId, State.update, State.getDefaultProvider, lastDefault,
          Function.update_of_ne (Ne.symm hSame)]

end Steps

section Runs
variable {s : State} {run : List Action}

theorem inv_init (config : String → Option String) : Inv (init config) where
  instances prototype := ⟨_, rfl, rfl⟩
  services name service h := by cases h
  proxies name providerType proxy h := by cases h
  apart key other proxy h := by cases h

theorem lastDefault_cons (service : Ref) (initial : Option String) (action : Action)
    (rest : List Action) : lastDefault service initial (action :: rest) =
      lastDefault service (lastDefault service initial [action]) rest := by
  cases action with
  | getChainServiceWithProvider x providerType => rfl
  | getChainService x => rfl
  | setDefaultProvider object providerType => rfl
  | setChainId object chainId => rfl

/-- What a whole run keeps. -/
theorem after_keeps (h : Inv s) (run : List Action) :
    Inv (after s run) ∧
      (∀ key proxy, s.providerSpecificServices.lookup key = some proxy →
        (after s run).providerSpecificServices.lookup key = some proxy) ∧
      ∀ prototype, (after s run).getDefaultProvider (.instance prototype) =
        lastDefault (.instance prototype) (s.getDefaultProvider (.instance prototype)) run := by
  induction run generalizing s with
  | nil => exact ⟨h, fun _ _ hOld => hOld, fun _ => rfl⟩
  | cons action rest ih =>
      obtain ⟨hNext, hOld, hDefault⟩ := step_keeps h action
      obtain ⟨hEnd, hLater, hLast⟩ := ih hNext
      refine ⟨hEnd, fun key proxy hProxy => hLater key proxy (hOld key proxy hProxy), ?_⟩
      intro prototype
      rw [lastDefault_cons, ← hDefault prototype]
      exact hLast prototype

/-- An answer is the answer of one step of the run. -/
theorem exists_of_mem_answers (h : Inv s) {action : Action} {outcome : Outcome}
    (hAnswer : (action, outcome) ∈ answers s run) :
    ∃ before rest, Inv before ∧ outcome = (step before action).1 ∧
      after s run = after (step before action).2 rest := by
  induction run generalizing s with
  | nil => cases hAnswer
  | cons first rest ih =>
      rcases List.mem_cons.mp hAnswer with hFirst | hRest
      · obtain ⟨rfl, rfl⟩ := Prod.mk.inj hFirst
        exact ⟨s, rest, h, rfl, rfl⟩
      · exact ih (step_keeps h first).1 hRest

/-- The answer to a request of a known name is stored at the end of the run. Nothing removes a copy
from the maps. -/
theorem stored_of_answered (h : Inv s) {x name providerType : String} {serviceType : ChainService}
    {outcome : Outcome}
    (hAnswer : (.getChainServiceWithProvider x providerType, outcome) ∈ answers s run)
    (hName : ChainServiceFactory.normalizeChainInput x = some name)
    (hKnown : ChainServiceFactory.chainServiceTypes.lookup name = some serviceType) :
    ∃ proxy, outcome = .returned proxy ∧
      (after s run).providerSpecificServices.lookup (name, providerType) = some proxy := by
  obtain ⟨before, rest, hBefore, rfl, hAfter⟩ := exists_of_mem_answers h hAnswer
  obtain ⟨proxy, next, hStep, hNext, hStored, -⟩ :=
    @getChainServiceWithProvider_of_known before x name providerType hBefore serviceType hName
      hKnown
  rw [hAfter, step, hStep]
  exact ⟨proxy, rfl, (after_keeps hNext rest).2.1 _ _ hStored⟩

/-- Only a request of a known name is answered with a copy. -/
theorem known_of_returned (h : Inv s) {x providerType : String} {proxy : Ref}
    (hAnswer : (.getChainServiceWithProvider x providerType, .returned proxy) ∈ answers s run) :
    ∃ name, ChainServiceFactory.normalizeChainInput x = some name ∧
      (after s run).providerSpecificServices.lookup (name, providerType) = some proxy := by
  rcases known_or_unknown x with ⟨name, serviceType, hName, hKnown⟩ | hUnknown
  · obtain ⟨stored, hReturned, hStored⟩ := stored_of_answered h hAnswer hName hKnown
    obtain rfl := Outcome.returned.inj hReturned
    exact ⟨name, hName, hStored⟩
  · obtain ⟨before, rest, hBefore, hReturned, -⟩ := exists_of_mem_answers h hAnswer
    obtain ⟨failure, hStep, hFailure⟩ :=
      @getChainServiceWithProvider_of_unknown before x providerType hBefore hUnknown
    rw [step, hStep] at hReturned
    exact absurd hReturned.symm (hFailure proxy)

theorem instance_of_returned (h : Inv s) {x : String} {service : Ref}
    (hAnswer : (.getChainService x, .returned service) ∈ answers s run) :
    ∃ serviceType, service = .instance serviceType := by
  obtain ⟨before, rest, hBefore, hReturned, -⟩ := exists_of_mem_answers h hAnswer
  obtain ⟨-, -, -, hInstance⟩ := getChainService_keeps hBefore x
  exact hInstance service hReturned.symm

theorem getChainId_setChainId_of_ne {service other : Ref} (h : other ≠ service) (chainId : Int) :
    (s.setChainId service chainId).getChainId other = s.getChainId other := by
  simp [State.setChainId, State.update, State.getChainId, Function.update_of_ne h]

end Runs

/-- The copies of every run are isolated. -/
theorem proxies_isolated (config : String → Option String) (run : List Action) :
    Isolated config run := by
  have hInit := inv_init config
  obtain ⟨hEnd, -, hDefault⟩ := after_keeps hInit run
  constructor
  case fixed =>
    intro chain providerType proxy hAnswer
    obtain ⟨name, -, hStored⟩ := known_of_returned hInit hAnswer
    obtain ⟨-, index, -, -, object, hObject, hType⟩ := hEnd.proxies name providerType proxy hStored
    simp [State.getDefaultProvider, hObject, Service.getDefaultProvider, hType]
  case shared =>
    intro c hRegistered x y hX hY providerType first second hFirst hSecond
    obtain ⟨serviceType, hKnown⟩ := lookup_chainServiceTypes hRegistered
    obtain ⟨proxy, hProxy, hStored⟩ :=
      stored_of_answered hInit hFirst (normalizeChainInput_of_spells hX) hKnown
    obtain ⟨other, hOther, hOtherStored⟩ :=
      stored_of_answered hInit hSecond (normalizeChainInput_of_spells hY) hKnown
    obtain rfl := Option.some.inj (hStored.symm.trans hOtherStored)
    exact ⟨proxy, hProxy, hOther⟩
  case base =>
    intro chain service hAnswer
    obtain ⟨serviceType, rfl⟩ := instance_of_returned hInit hAnswer
    exact hDefault serviceType
  case chainId =>
    intro x providerType proxy chainId hAnswer
    obtain ⟨name, hName, hStored⟩ := known_of_returned hInit hAnswer
    obtain ⟨-, index, -, hMade, -⟩ := hEnd.proxies name providerType proxy hStored
    constructor
    · intro y service hService
      obtain ⟨serviceType, rfl⟩ := instance_of_returned hInit hService
      have hNe : Ref.instance serviceType ≠ proxy := by
        rw [hMade]
        exact Ref.noConfusion
      exact getChainId_setChainId_of_ne hNe chainId
    · intro y otherType other hOther hDifferent
      obtain ⟨otherName, hOtherName, hOtherStored⟩ := known_of_returned hInit hOther
      have hNe : other ≠ proxy := by
        rintro rfl
        obtain ⟨rfl, rfl⟩ := Prod.mk.inj (hEnd.apart _ _ _ hOtherStored hStored)
        exact hDifferent ⟨hOtherName.trans hName.symm, rfl⟩
      exact getChainId_setChainId_of_ne hNe chainId

/-- Two spellings of a chain, and a base service that is set afterwards. -/
example : (answers (init fun _ => none)
    [.getChainServiceWithProvider "ETH" "quicknode", .getChainService "ethereum",
      .setDefaultProvider (.instance .ethereumService) "infura",
      .getChainServiceWithProvider "Ethereum" "quicknode"]).map Prod.snd =
    [.returned (.made 0), .returned (.instance .ethereumService), .done, .returned (.made 0)] := by
  decide +kernel

end BalanceKit.ServiceProxies
