import BalanceKit.Balances.Portfolio
import BalanceKit.Library.Runs

/-! Interleavings of `getBalances` and `setChainId` on one EVM chain service. The
current chain is one field of the service; a call writes it when it starts and
reads it again after each await. -/
namespace BalanceKit.ConcurrentQueries
open TransitionSystem AbstractEvmChainService PriceableEvmChainService

/-- The concrete service: its own chain, and whether it looks up prices. -/
structure Service where
  evmChain : ChainName
  priceable : Bool
  deriving DecidableEq

def getChainInfoByChainId (chainId : Nat) : Option BaseChainInfo :=
  (ChainName.all.map chainInfo).find? fun info => info.id == chainId

/-- An id that no chain has counts as a mainnet. -/
def isTestnet (chainId : Nat) : Bool :=
  match getChainInfoByChainId chainId with
  | some info => !info.isMainnet
  | none => false

inductive NetworkType where
  | mainnet | testnet
  deriving DecidableEq, Repr

/-- The network and chain name that are passed to the provider. -/
structure ProviderRequest where
  networkType : NetworkType
  chainName : ChainName
  deriving DecidableEq

namespace Service
variable (svc : Service)

def getChainSymbol (chainId : Nat) : String :=
  match (getChainInfoByChainId chainId).bind fun info => evmChainInfo info.name with
  | some info => info.symbol
  | none => ((evmChainInfo svc.evmChain).map EvmChainInfo.symbol).getD ""

def decimals : Option Nat := (evmChainInfo svc.evmChain).map EvmChainInfo.decimals

def providerRequest (chainId : Nat) : ProviderRequest :=
  ⟨if isTestnet chainId then .testnet else .mainnet,
    ((getChainInfoByChainId chainId).map BaseChainInfo.name).getD svc.evmChain⟩

/-- The chain id of the price request, if prices are requested at all. -/
def priceRequest (chainId : Nat) : Option Nat :=
  if svc.priceable && !isTestnet chainId then some chainId else none

end Service

/-- One `getBalances(address, chainId)` call at its await points. It waits for
the provider, then for the inherited method, then for the prices. -/
inductive Call where
  | fetching (chainId : Nat) (request : ProviderRequest)
  | assembled (chainId : Nat) (request : ProviderRequest) (response : Response)
  | pricing (chainId : Nat) (request : ProviderRequest) (response : Response) (pricedFor : Nat)
  | answered (chainId : Nat) (request : ProviderRequest) (response : Response)
      (pricedFor : Option Nat) (quote : Option Quote)
  | failed

structure State where
  currentChainId : Nat
  calls : List Call

/-- The constructor sets the service's own chain. -/
def State.init (svc : Service) : State := ⟨(chainInfo svc.evmChain).id, []⟩

inductive Action where
  | getBalances (chainId : Nat) (accepted : Bool)
  | setChainId (chainId : Nat)
  | provide (i : Nat) (balances : BalancesResponse)
  | resume (i : Nat)
  | getPrices (i : Nat) (quote : Quote)
  | fail (i : Nat)

def State.move (s : State) (i : Nat) (call : Call) : State :=
  { s with calls := s.calls.set i call }

variable (svc : Service)

/-- One step between two awaits. A call for an invalid address or an unsupported
provider throws, after it has set the chain. -/
def step (s : State) : Action → Option State
  | .getBalances chainId accepted =>
      some ⟨chainId, s.calls ++
        [if accepted then .fetching chainId (svc.providerRequest chainId) else .failed]⟩
  | .setChainId chainId => some { s with currentChainId := chainId }
  | .provide i balances =>
      match s.calls[i]? with
      | some (.fetching chainId request) =>
          some (s.move i (.assembled chainId request
            ⟨s.currentChainId, svc.getChainSymbol s.currentChainId, svc.decimals, balances⟩))
      | _ => none
  | .resume i =>
      match s.calls[i]? with
      | some (.assembled chainId request response) =>
          match svc.priceRequest s.currentChainId with
          | some pricedFor => some (s.move i (.pricing chainId request response pricedFor))
          | none => some (s.move i (.answered chainId request response none none))
      | _ => none
  | .getPrices i quote =>
      match s.calls[i]? with
      | some (.pricing chainId request response pricedFor) =>
          some (s.move i (.answered chainId request response (some pricedFor) (some quote)))
      | _ => none
  | .fail i =>
      match s.calls[i]? with
      | some (.fetching _ _) => some (s.move i .failed)
      | some (.pricing _ _ _ _) => some (s.move i .failed)
      | _ => none

/-- An answer of the call belongs to the chain that the call asked for. -/
def Call.Unmixed : Call → Prop
  | .answered chainId request response pricedFor quote =>
      response.chainId = chainId ∧ response.symbol = svc.getChainSymbol chainId ∧
        request = svc.providerRequest chainId ∧ pricedFor = svc.priceRequest chainId ∧
        quote.isSome = pricedFor.isSome
  | _ => True

/-- No response mixes chains. -/
def NoMixing (s : State) : Prop := ∀ call ∈ s.calls, call.Unmixed svc

/-- When a call resumes, the service is still set to the call's own chain; for
the quote decision it is enough that the chain in place asks for the same prices. -/
def resumesOnOwnChain (s : State) : Action → Bool
  | .provide i _ =>
      match s.calls[i]? with
      | some (.fetching chainId _) => s.currentChainId == chainId
      | _ => true
  | .resume i =>
      match s.calls[i]? with
      | some (.assembled chainId _ _) =>
          svc.priceRequest s.currentChainId == svc.priceRequest chainId
      | _ => true
  | _ => true

/-- What a call has gathered so far belongs to its own chain. -/
def Call.Sound : Call → Prop
  | .fetching chainId request => request = svc.providerRequest chainId
  | .assembled chainId request response =>
      request = svc.providerRequest chainId ∧ response.chainId = chainId ∧
        response.symbol = svc.getChainSymbol chainId
  | .pricing chainId request response pricedFor =>
      request = svc.providerRequest chainId ∧ response.chainId = chainId ∧
        response.symbol = svc.getChainSymbol chainId ∧ svc.priceRequest chainId = some pricedFor
  | .answered chainId request response pricedFor quote =>
      Call.Unmixed svc (.answered chainId request response pricedFor quote)
  | .failed => True

def Inv (s : State) : Prop := ∀ call ∈ s.calls, call.Sound svc

variable {svc}

theorem inv_init : Inv svc (State.init svc) := by
  intro call h
  cases h

theorem inv_move {s : State} {i : Nat} {call : Call} (h : Inv svc s) (hCall : call.Sound svc) :
    Inv svc (s.move i call) :=
  ProcessTable.forall_mem_set h hCall

theorem inv_getBalances {s t : State} {chainId : Nat} {accepted : Bool} (h : Inv svc s)
    (hStep : step svc s (.getBalances chainId accepted) = some t) : Inv svc t := by
  cases hStep
  intro call hCall
  rcases List.mem_append.mp hCall with hOld | hNew
  · exact h call hOld
  · rw [List.mem_singleton.mp hNew]
    cases accepted with
    | true => exact rfl
    | false => trivial

/-- The response takes the chain id that the service holds after the await, so the call's own
chain must still be in place. -/
theorem inv_provide {s t : State} {i : Nat} {balances : BalancesResponse} (h : Inv svc s)
    (hOwn : resumesOnOwnChain svc s (.provide i balances) = true)
    (hStep : step svc s (.provide i balances) = some t) : Inv svc t := by
  simp only [step] at hStep
  split at hStep
  · rename_i chainId request hCall
    have hSound : request = svc.providerRequest chainId := h _ (List.mem_of_getElem? hCall)
    have hCurrent : s.currentChainId = chainId := by
      simpa [resumesOnOwnChain, hCall] using hOwn
    cases hStep
    refine inv_move h ⟨hSound, hCurrent, ?_⟩
    rw [hCurrent]
  · cases hStep

/-- The prices are asked for with the chain id in place, which must ask for the same ones. -/
theorem inv_resume {s t : State} {i : Nat} (h : Inv svc s)
    (hOwn : resumesOnOwnChain svc s (.resume i) = true)
    (hStep : step svc s (.resume i) = some t) : Inv svc t := by
  simp only [step] at hStep
  split at hStep
  · rename_i chainId request response hCall
    obtain ⟨hRequest, hChain, hSymbol⟩ :
        request = svc.providerRequest chainId ∧ response.chainId = chainId ∧
          response.symbol = svc.getChainSymbol chainId := h _ (List.mem_of_getElem? hCall)
    have hSame : svc.priceRequest s.currentChainId = svc.priceRequest chainId := by
      simpa [resumesOnOwnChain, hCall] using hOwn
    rw [hSame] at hStep
    split at hStep
    · rename_i pricedFor hPriced
      cases hStep
      exact inv_move h ⟨hRequest, hChain, hSymbol, hPriced⟩
    · rename_i hUnpriced
      cases hStep
      exact inv_move h ⟨hChain, hSymbol, hRequest, hUnpriced.symm, rfl⟩
  · cases hStep

theorem inv_getPrices {s t : State} {i : Nat} {quote : Quote} (h : Inv svc s)
    (hStep : step svc s (.getPrices i quote) = some t) : Inv svc t := by
  simp only [step] at hStep
  split at hStep
  · rename_i chainId request response pricedFor hCall
    obtain ⟨hRequest, hChain, hSymbol, hPriced⟩ :
        request = svc.providerRequest chainId ∧ response.chainId = chainId ∧
          response.symbol = svc.getChainSymbol chainId ∧
          svc.priceRequest chainId = some pricedFor := h _ (List.mem_of_getElem? hCall)
    cases hStep
    exact inv_move h ⟨hChain, hSymbol, hRequest, hPriced.symm, rfl⟩
  · cases hStep

theorem inv_fail {s t : State} {i : Nat} (h : Inv svc s)
    (hStep : step svc s (.fail i) = some t) : Inv svc t := by
  simp only [step] at hStep
  split at hStep
  · cases hStep
    exact inv_move h trivial
  · cases hStep
    exact inv_move h trivial
  · cases hStep

/-- Each step keeps what the calls have gathered on their own chains. A call that goes on while
another one has set the chain id is what the condition excludes. -/
theorem inv_step {s t : State} {a : Action} (h : Inv svc s)
    (hOwn : resumesOnOwnChain svc s a = true) (hStep : step svc s a = some t) : Inv svc t := by
  cases a with
  | getBalances => exact inv_getBalances h hStep
  | setChainId =>
      cases hStep
      exact h
  | provide => exact inv_provide h hOwn hStep
  | resume => exact inv_resume h hOwn hStep
  | getPrices => exact inv_getPrices h hStep
  | fail => exact inv_fail h hStep

theorem Inv.noMixing {s : State} (h : Inv svc s) : NoMixing svc s := by
  intro call hCall
  have hSound := h call hCall
  cases call with
  | answered => exact hSound
  | fetching | assembled | pricing | failed => trivial

/-- In every run whose calls resume on their own chain no response mixes chains. The chain id that
the service holds is then the one that every call has set itself. -/
theorem noMixing_of_resumesOnOwnChain {actions : List Action} {s : State}
    (hRun : run (step svc) (State.init svc) actions = some s)
    (hOwn : Meets (step svc) (fun s a => resumesOnOwnChain svc s a = true) (State.init svc)
      actions) : NoMixing svc s :=
  (run_invariant_of_meets (fun _ _ _ h hOk hStep => inv_step h hOk hStep) hRun hOwn
    inv_init).noMixing

/-- An answer without prices shows zero for the native balance and every token. -/
theorem usd_of_unquoted (response : Response) (seconds : Nat) :
    (((quoted none (response.toJs seconds)).get "nativeBalance").get "usd") = .num 0 ∧
      ∀ f ∈ ((quoted none (response.toJs seconds)).get "fungibles").items,
        f.get "usd" = .num 0 := by
  refine ⟨rfl, ?_⟩
  intro f hf
  obtain ⟨token, -, rfl⟩ := List.mem_map.mp hf
  rfl

def ethereumService : Service := ⟨.ethereum, true⟩

/-- A Sepolia query completes before a mainnet query starts. -/
def sequentialRun : List Action :=
  [.getBalances 11155111 true, .provide 0 ⟨"7", [], []⟩, .resume 0, .getBalances 1 true,
    .provide 1 ⟨"5", [], []⟩, .resume 1, .getPrices 1 ⟨2, fun _ => 0⟩]

theorem noMixing_sequentialRun :
    ∃ s, run (step ethereumService) (State.init ethereumService) sequentialRun = some s ∧
      NoMixing ethereumService s :=
  ⟨_, rfl, @noMixing_of_resumesOnOwnChain ethereumService sequentialRun _ rfl (by decide)⟩

/-- A Sepolia query starts while a mainnet query waits for its provider. -/
def overlappingRun : List Action :=
  [.getBalances 1 true, .getBalances 11155111 true, .provide 0 ⟨"5", [], []⟩, .resume 0]

/-- The mainnet answer is labelled with Sepolia and carries no prices. The second call sets its
chain id while the first one waits for the balances. -/
theorem overlappingRun_mixes :
    ∃ s, run (step ethereumService) (State.init ethereumService) overlappingRun = some s ∧
      ¬ NoMixing ethereumService s := by
  refine ⟨_, rfl, fun h => ?_⟩
  have hFirst := (h _ (List.mem_cons_self ..)).1
  exact absurd hFirst (by decide)

end BalanceKit.ConcurrentQueries
