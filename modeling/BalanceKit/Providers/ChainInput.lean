import BalanceKit.Providers.NetworkRouting

/-! The three readings of a chain name or coin symbol, with every way in which they can end.
The symbol table is a plain object, which also answers for the members of its prototype. -/
namespace BalanceKit.ChainInput

/-- A text, an inherited member, the exception for what is not a chain, or another error. -/
inductive Outcome where
  | returned (text : String)
  | member (key : String)
  | notSupported
  | typeError
  deriving DecidableEq, Repr

def BalanceService.normalizeChainInput (chainNameOrSymbol : String) : Outcome :=
  let lowerCaseInput := Text.toLowerCase chainNameOrSymbol
  if ChainName.all.any fun c => c.value == lowerCaseInput then .returned lowerCaseInput
  else
    match Text.lookup coinSymbolToChainMap lowerCaseInput with
    | .own c => .returned c.value
    | .inherited => .member lowerCaseInput
    | .missing => .notSupported

/-- What is not a chain is returned in lower case. -/
def ProviderFactory.normalizeBlockchainType (input : String) : Outcome :=
  let inputStr := Text.toLowerCase input
  if ChainName.all.any fun c => c.value == inputStr then .returned inputStr
  else
    match Text.lookup coinSymbolToChainMap inputStr with
    | .own c => .returned c.value
    | .inherited => .member inputStr
    | .missing => .returned inputStr

namespace ChainServiceFactory

/-- An inherited member has no `toLowerCase`. -/
def normalizeChainInput (input : String) : Outcome :=
  let lowercaseInput := Text.toLowerCase input
  match Text.lookup coinSymbolToChainMap lowercaseInput with
  | .own c => .returned (Text.toLowerCase c.value)
  | .inherited => .typeError
  | .missing => .returned lowercaseInput

/-- The keys of the two maps decide, unless the name cannot be read. -/
def isChainAvailable (chainServices chainServiceTypes : List String) (chainNameOrSymbol : String) :
    Option Bool :=
  match normalizeChainInput chainNameOrSymbol with
  | .returned normalizedChainName =>
      some (chainServices.contains normalizedChainName ||
        chainServiceTypes.contains normalizedChainName)
  | _ => none

end ChainServiceFactory

def outcomes (s : String) : List Outcome :=
  [BalanceService.normalizeChainInput s, ProviderFactory.normalizeBlockchainType s,
    ChainServiceFactory.normalizeChainInput s]

/-- The text is treated as no chain. -/
def Outcome.NoChain : Outcome → Prop
  | returned text => ∀ c : ChainName, text ≠ c.value
  | notSupported => True
  | member _ | typeError => False

/-- A text, or the exception that is meant for what is not a chain. -/
def Outcome.Proper (outcome : Outcome) : Prop :=
  (∃ text, outcome = .returned text) ∨ outcome = .notSupported

/-- The three agree on the text, whatever chain services there are. -/
structure Agree (chainServices chainServiceTypes : List String) (s : String) : Prop where
  same : (∃ c : ChainName, ∀ outcome ∈ outcomes s, outcome = .returned c.value) ∨
    ∀ outcome ∈ outcomes s, outcome.NoChain
  available : ∃ b,
    ChainServiceFactory.isChainAvailable chainServices chainServiceTypes s = some b
  proper : ∀ outcome ∈ outcomes s, outcome.Proper

section Readings
variable {s text : String} {c : ChainName}

theorem find?_value_iff : (ChainName.all.find? fun d => d.value == text) = some c ↔ c.value = text := by
  constructor
  · intro hFound
    simpa using List.find?_some hFound
  · rintro rfl
    cases c <;> decide

theorem any_value_iff : (ChainName.all.any fun d => d.value == text) = true ↔
    ∃ c : ChainName, c.value = text := by
  constructor
  · intro hAny
    obtain ⟨c, -, hName⟩ := List.any_eq_true.mp hAny
    exact ⟨c, beq_iff_eq.mp hName⟩
  · rintro ⟨c, hName⟩
    exact List.any_eq_true.mpr
      ⟨c, List.mem_of_find?_eq_some (find?_value_iff.mpr hName), beq_iff_eq.mpr hName⟩

/-- A name is read as its own chain. All the entry points agree on such an input. -/
theorem outcomes_of_value (h : Text.toLowerCase s = c.value) :
    ∀ outcome ∈ outcomes s, outcome = .returned c.value := by
  have hAny := any_value_iff.mpr ⟨c, h.symm⟩
  have hSymbol : ChainServiceFactory.normalizeChainInput s = .returned c.value := by
    rw [ChainServiceFactory.normalizeChainInput, h]
    cases c <;> decide
  have hBalance : BalanceService.normalizeChainInput s = .returned c.value := by
    rw [BalanceService.normalizeChainInput, if_pos hAny, h]
  have hProvider : ProviderFactory.normalizeBlockchainType s = .returned c.value := by
    rw [ProviderFactory.normalizeBlockchainType, if_pos hAny, h]
  simp [outcomes, hBalance, hProvider, hSymbol]

/-- What is no name is read by the symbol table alone. The entry points may differ in what they make
of an inherited member and of a missing one. -/
theorem outcomes_of_no_value (h : ¬ ∃ c : ChainName, c.value = Text.toLowerCase s) :
    outcomes s =
      match Text.lookup coinSymbolToChainMap (Text.toLowerCase s) with
      | .own c => [.returned c.value, .returned c.value, .returned (Text.toLowerCase c.value)]
      | .inherited =>
          [.member (Text.toLowerCase s), .member (Text.toLowerCase s), .typeError]
      | .missing =>
          [.notSupported, .returned (Text.toLowerCase s), .returned (Text.toLowerCase s)] := by
  have hAny := mt any_value_iff.mp h
  simp only [outcomes, BalanceService.normalizeChainInput, ProviderFactory.normalizeBlockchainType,
    ChainServiceFactory.normalizeChainInput, if_neg hAny]
  cases Text.lookup coinSymbolToChainMap (Text.toLowerCase s) with
  | own d => rfl
  | inherited => rfl
  | missing => rfl

/-- The portfolio takes an inherited member for no chain, so it reads the same inputs as chains in
both models. -/
theorem balanceService_eq_some_iff :
    BalanceKit.BalanceService.normalizeChainInput s = some c ↔
      BalanceService.normalizeChainInput s = .returned c.value := by
  have hInjective : ∀ d : ChainName, d = c ↔ d.value = c.value := fun d =>
    ⟨congrArg ChainName.value, ChainName.value_injective⟩
  simp only [BalanceKit.BalanceService.normalizeChainInput, BalanceService.normalizeChainInput]
  by_cases hKnown : ∃ d : ChainName, d.value = Text.toLowerCase s
  · obtain ⟨d, hName⟩ := hKnown
    rw [find?_value_iff.mpr hName, if_pos (any_value_iff.mpr ⟨d, hName⟩), ← hName]
    simp [hInjective]
  · have hNone : (ChainName.all.find? fun d => d.value == Text.toLowerCase s) = none := by
      cases hFound : ChainName.all.find? fun d => d.value == Text.toLowerCase s with
      | none => rfl
      | some d => exact absurd ⟨d, find?_value_iff.mp hFound⟩ hKnown
    rw [hNone, if_neg (mt any_value_iff.mp hKnown)]
    cases Text.lookup coinSymbolToChainMap (Text.toLowerCase s) with
    | own d => simp [hInjective]
    | inherited => simp
    | missing => simp

/-- The registry reads the name and the symbol like the portfolio service, and takes an inherited
member for no chain either. -/
theorem providerFactory_eq_some_iff :
    BalanceKit.ProviderFactory.normalizeBlockchainType s = some text ↔
      ProviderFactory.normalizeBlockchainType s = .returned text := by
  simp only [BalanceKit.ProviderFactory.normalizeBlockchainType,
    ProviderFactory.normalizeBlockchainType]
  by_cases hAny : (ChainName.all.any fun c => c.value == Text.toLowerCase s) = true
  · simp [hAny]
  · rw [if_neg hAny, if_neg hAny]
    cases Text.lookup coinSymbolToChainMap (Text.toLowerCase s) with
    | own d => simp
    | inherited => simp
    | missing => simp

theorem chainServiceFactory_eq_some_iff :
    BalanceKit.ChainServiceFactory.normalizeChainInput s = some text ↔
      ChainServiceFactory.normalizeChainInput s = .returned text := by
  simp only [BalanceKit.ChainServiceFactory.normalizeChainInput,
    ChainServiceFactory.normalizeChainInput]
  cases Text.lookup coinSymbolToChainMap (Text.toLowerCase s) with
  | own d => simp
  | inherited => simp
  | missing => simp

end Readings

section Agreement
variable {s : String}

/-- Most inherited names have capitals, and so are no lower case. These two are the ones that an
input can reach. -/
theorem lookup_toLowerCase_inherited_iff :
    Text.lookup coinSymbolToChainMap (Text.toLowerCase s) = .inherited ↔
      Text.toLowerCase s = "constructor" ∨ Text.toLowerCase s = "__proto__" := by
  constructor
  · intro hInherited
    have hMember : Text.toLowerCase s ∈ Text.objectPrototype := by
      unfold Text.lookup at hInherited
      cases hOwn : coinSymbolToChainMap.lookup (Text.toLowerCase s) with
      | some c => simp [hOwn] at hInherited
      | none =>
          by_contra hNot
          simp [hOwn, hNot] at hInherited
    have hLower : ∀ name ∈ Text.objectPrototype, Text.toLowerCase name = name →
        name = "constructor" ∨ name = "__proto__" := by decide +kernel
    exact hLower _ hMember (Text.toLowerCase_toLowerCase s)
  · rintro (hName | hName) <;> rw [hName] <;> decide

theorem not_value_of_inherited
    (h : Text.lookup coinSymbolToChainMap (Text.toLowerCase s) = .inherited) :
    ¬ ∃ c : ChainName, c.value = Text.toLowerCase s := by
  rintro ⟨c, hName⟩
  rw [← hName] at h
  revert h
  cases c <;> decide

theorem toLowerCase_value (c : ChainName) : Text.toLowerCase c.value = c.value := by
  cases c <;> decide

/-- The normalisers agree on every text whose lower case is not one of the two inherited
names in lower case. -/
theorem normalizers_agree_iff (chainServices chainServiceTypes : List String) (s : String) :
    Agree chainServices chainServiceTypes s ↔
      Text.toLowerCase s ≠ "constructor" ∧ Text.toLowerCase s ≠ "__proto__" := by
  rw [← not_or, ← lookup_toLowerCase_inherited_iff]
  constructor
  · intro hAgree hInherited
    have hThrows : Outcome.typeError ∈ outcomes s := by
      rw [outcomes_of_no_value (not_value_of_inherited hInherited), hInherited]
      simp
    rcases hAgree.proper _ hThrows with ⟨text, hText⟩ | hNot
    · cases hText
    · cases hNot
  · intro hOwn
    have hTexts : (∃ c : ChainName, ∀ outcome ∈ outcomes s, outcome = .returned c.value) ∨
        outcomes s = [.notSupported, .returned (Text.toLowerCase s),
          .returned (Text.toLowerCase s)] ∧ ¬ ∃ c : ChainName, c.value = Text.toLowerCase s := by
      by_cases hKnown : ∃ c : ChainName, c.value = Text.toLowerCase s
      · obtain ⟨c, hName⟩ := hKnown
        exact .inl ⟨c, outcomes_of_value hName.symm⟩
      · have hOutcomes := outcomes_of_no_value hKnown
        cases hSymbol : Text.lookup coinSymbolToChainMap (Text.toLowerCase s) with
        | own c =>
            refine .inl ⟨c, ?_⟩
            simp [hOutcomes, hSymbol, toLowerCase_value]
        | inherited => exact absurd hSymbol hOwn
        | missing =>
            rw [hSymbol] at hOutcomes
            exact .inr ⟨hOutcomes, hKnown⟩
    have hReturned : ∃ text, ChainServiceFactory.normalizeChainInput s = .returned text := by
      rcases hTexts with ⟨c, hAll⟩ | ⟨hOutcomes, -⟩
      · exact ⟨c.value, hAll _ (by simp [outcomes])⟩
      · exact ⟨Text.toLowerCase s, (List.cons.inj (List.cons.inj (List.cons.inj hOutcomes).2).2).1⟩
    constructor
    · rcases hTexts with ⟨c, hAll⟩ | ⟨hOutcomes, hUnknown⟩
      · exact .inl ⟨c, hAll⟩
      · have hText : ∀ c : ChainName, Text.toLowerCase s ≠ c.value := fun c hName =>
          hUnknown ⟨c, hName.symm⟩
        refine .inr ?_
        simpa [hOutcomes, Outcome.NoChain] using hText
    · obtain ⟨text, hText⟩ := hReturned
      exact ⟨_, by rw [ChainServiceFactory.isChainAvailable, hText]⟩
    · rcases hTexts with ⟨c, hAll⟩ | ⟨hOutcomes, -⟩
      · exact fun outcome hMember => .inl ⟨c.value, hAll outcome hMember⟩
      · simp [hOutcomes, Outcome.Proper]

/-- The portfolio service returns a function, and the factory of the services throws. -/
theorem not_agree_constructor : ¬ Agree []
    (BalanceKit.ChainServiceFactory.chainServiceTypes.map Prod.fst) "constructor" := by
  rintro ⟨-, ⟨b, hAvailable⟩, -⟩
  have hThrows : ChainServiceFactory.isChainAvailable []
      (BalanceKit.ChainServiceFactory.chainServiceTypes.map Prod.fst) "constructor" = none := by
    decide +kernel
  rw [hThrows] at hAvailable
  cases hAvailable

end Agreement

end BalanceKit.ChainInput
