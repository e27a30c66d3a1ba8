import BalanceKit.Core.InvalidationScope
import BalanceKit.Library.Number

/-! Reading cache keys back. The parser tells the optional parts of a key apart by
their place and by their text. -/
namespace BalanceKit

/-- `Partial<CacheKeyComponents>`. The parser casts without checking, so the
enumerations are strings here. -/
structure PartialKey where
  keyPrefix : Option String
  chain : Option String
  chainId : Option Number
  address : Option String
  provider : Option String
  extra : Option (List String)
  deriving DecidableEq

namespace PartialKey

def empty : PartialKey := ⟨none, none, none, none, none, none⟩

/-- The components of a typed key. Empty extra parts are as good as none. -/
def ofComponents (components : CacheKeyComponents) : PartialKey where
  keyPrefix := some components.keyPrefix.value
  chain := some components.chain.value
  chainId := components.chainId.map fun n : Nat => .finite n
  address := components.address
  provider := components.provider
  extra := if components.extra = [] then none else some components.extra

end PartialKey

namespace CacheKeyService

section Parsing

/-- The number is kept when it prints as the part that it was read from. -/
def isNumeric (part : String) : Bool :=
  Number.ofText part != .nan && (Number.ofText part).toText == part

def providerTypes : List ProviderType := [.alchemy, .rpc, .infura, .quicknode, .okx]

/-- The letter case of a provider does not matter. -/
def isValidProvider (providerValue : String) : Bool :=
  providerTypes.any fun value => Text.toLowerCase value.value == Text.toLowerCase providerValue

def parseChainId : List String → Option Number × List String
  | part :: rest =>
      if isNumeric part then (some (Number.ofText part), rest) else (none, part :: rest)
  | [] => (none, [])

def parseAddress : List String → Option String × List String
  | part :: rest => (some part, rest)
  | [] => (none, [])

def parseProvider : List String → Option String × List String
  | part :: rest => if isValidProvider part then (some part, rest) else (none, part :: rest)
  | [] => (none, [])

def parseExtra (rest : List String) : Option (List String) := if rest = [] then none else some rest

def parseKey (key : String) : PartialKey :=
  match Text.split key ':' with
  | keyPrefix :: chain :: rest =>
      let (chainId, rest) := parseChainId rest
      let (address, rest) := parseAddress rest
      let (provider, rest) := parseProvider rest
      ⟨some keyPrefix, some chain, chainId, address, provider, parseExtra rest⟩
  | _ => .empty

end Parsing

section Partial

/-- Zero and `NaN` are falsy. -/
def truthyNumber (n : Number) : Bool := n != .nan && n != .finite 0

/-- `CHAIN_INFO_MAP[chain]?.id`. An inherited member has no id. -/
def tableId (chain : String) : Option Number :=
  match Text.lookup (ChainName.all.map fun c => (c.value, (chainInfo c).id)) chain with
  | .own id => some (.finite id)
  | .inherited => none
  | .missing => none

def resolvedChainIdOf (key : PartialKey) : Option Number :=
  (key.chainId.filter truthyNumber).or (key.chain.bind tableId)

/-- A missing prefix or chain is joined as an empty text. -/
def keyPartsOf (key : PartialKey) : List String :=
  [key.keyPrefix.getD "", key.chain.getD ""]
    ++ (((resolvedChainIdOf key).filter truthyNumber).map Number.toText).toList
    ++ optionalPart key.address ++ optionalPart key.provider ++ key.extra.getD []

/-- `generateKey` on parsed components. -/
def generateKeyOf (key : PartialKey) : String := delimiter.intercalate (keyPartsOf key)

end Partial

end CacheKeyService

namespace KeyParsing
open CacheKeyService

section Numbers
variable {n : Nat} (hPos : 0 < n) (hSafe : n < 2 ^ 53)
include hPos

/-- A positive chain id is truthy, so the parser does not take it for a missing one. -/
theorem truthyNumber_natCast : truthyNumber (.finite n) = true := by
  have hNonzero : (n : Rat) ≠ 0 := by exact_mod_cast hPos.ne'
  simp [truthyNumber, hNonzero]

include hSafe

theorem isNumeric_toString : isNumeric (toString n) = true := by
  unfold isNumeric
  rw [Number.ofText_toString hPos hSafe, Number.toText_natCast hPos hSafe]
  simp

theorem parseChainId_toString (rest : List String) :
    parseChainId (toString n :: rest) = (some (.finite n), rest) := by
  rw [parseChainId, if_pos (isNumeric_toString hPos hSafe), Number.ofText_toString hPos hSafe]

end Numbers

theorem tableId_value (chain : ChainName) :
    tableId chain.value = some (.finite (chainInfo chain).id) := by
  cases chain <;> rfl

theorem id_lt (chain : ChainName) : (chainInfo chain).id < 2 ^ 53 := by
  cases chain <;> decide

theorem optionalPart_some {text : String} (h : text ≠ "") : optionalPart (some text) = [text] := by
  rw [optionalPart, Text.present_some h]
  rfl

/-- What is left after the chain id is put back in order. The parser joins the remaining parts by
the delimiter that it has split at. -/
theorem parts_of_rest {rest : List String} (h : ∀ part ∈ rest, part ≠ "") :
    optionalPart (parseAddress rest).1 ++ optionalPart (parseProvider (parseAddress rest).2).1 ++
      (parseExtra (parseProvider (parseAddress rest).2).2).getD [] = rest := by
  have hExtra : ∀ parts, (parseExtra parts).getD [] = parts := by
    intro parts
    unfold parseExtra
    split
    · rename_i hEmpty
      exact hEmpty.symm
    · rfl
  rw [hExtra]
  cases rest with
  | nil => rfl
  | cons address rest =>
      rw [parseAddress, optionalPart_some (h address (by simp))]
      cases rest with
      | nil => rfl
      | cons part rest =>
          by_cases hValid : isValidProvider part = true
          · rw [parseProvider, if_pos hValid, optionalPart_some (h part (by simp))]
            rfl
          · rw [parseProvider, if_neg hValid]
            rfl

/-- A key is put together again from the components that it is parsed to, whichever
parts the parser takes for an address or a provider. -/
theorem generateKeyOf_parseKey {key : String} (hParts : ∀ part ∈ Text.split key ':', part ≠ "")
    {n : Nat} (hPos : 0 < n) (hSafe : n < 2 ^ 53)
    (hChainId : (Text.split key ':')[2]? = some (toString n)) :
    generateKeyOf (parseKey key) = key := by
  have hSplit : ∃ keyPrefix chain rest,
      Text.split key ':' = keyPrefix :: chain :: toString n :: rest := by
    match hForm : Text.split key ':', hChainId with
    | keyPrefix :: chain :: _ :: rest, hId =>
        simp only [List.getElem?_cons_succ, List.getElem?_cons_zero, Option.some.injEq] at hId
        exact ⟨keyPrefix, chain, rest, by rw [hId]⟩
  obtain ⟨keyPrefix, chain, rest, hForm⟩ := hSplit
  have hRest : ∀ part ∈ rest, part ≠ "" := fun part hPart => hParts part (by simp [hForm, hPart])
  have hKeyParts : keyPartsOf (parseKey key) = Text.split key ':' := by
    have hOrder := parts_of_rest hRest
    have hTruthy := truthyNumber_natCast hPos
    simp only [parseKey, hForm, parseChainId_toString hPos hSafe, keyPartsOf, resolvedChainIdOf,
      Option.filter_some, hTruthy, if_true, Option.some_or, Option.map_some,
      Number.toText_natCast hPos hSafe, Option.getD_some, Option.toList_some]
    rw [List.append_assoc, List.append_assoc, ← List.append_assoc (optionalPart _), hOrder]
    rfl
  rw [generateKeyOf, hKeyParts]
  exact Text.intercalate_split key ':'

/-- A provider in capitals, and a further part that looks like a provider. -/
theorem generateKeyOf_parseKey_capitals :
    generateKeyOf (parseKey "portfolio:ethereum:1:0xab:ALCHEMY:okx") =
      "portfolio:ethereum:1:0xab:ALCHEMY:okx" :=
  generateKeyOf_parseKey (by decide +kernel) (by decide : 0 < 1) (by decide) (by decide +kernel)

section RoundTrip

/-- A part of a key that is neither empty nor split up again. -/
def Part (text : String) : Prop := text ≠ "" ∧ ':' ∉ text.toList

structure WellFormed (components : CacheKeyComponents) : Prop where
  chainId : ∀ n, components.chainId = some n → 0 < n ∧ n < 2 ^ 53
  address : ∀ text, components.address = some text → Part text
  provider : ∀ text, components.provider = some text → Part text
  extra : ∀ text ∈ components.extra, Part text

/-- The components with the chain id filled in and empty extra parts dropped. -/
def completed (components : CacheKeyComponents) : PartialKey :=
  { PartialKey.ofComponents components with
    chainId := some (.finite (resolvedChainId components)) }

/-- The first part after the chain id is read as the address, and the second as the
provider if it is the name of one. -/
def Unambiguous (components : CacheKeyComponents) : Prop :=
  match components.address, components.provider with
  | none, provider => provider = none ∧ components.extra = []
  | some _, some provider => isValidProvider provider = true
  | some _, none => ∀ part ∈ components.extra.head?, isValidProvider part = false

theorem optionalPart_toList {part : Option String} (hPart : ∀ text, part = some text → Part text) :
    optionalPart part = part.toList := by
  cases part with
  | none => rfl
  | some text => exact optionalPart_some (hPart text rfl).1

variable {components : CacheKeyComponents} (h : WellFormed components)
include h

/-- The chain id that is written is positive and exact, whether it was given or comes from the
table. -/
theorem resolvedChainId_bounds :
    0 < resolvedChainId components ∧ resolvedChainId components < 2 ^ 53 := by
  unfold resolvedChainId
  cases hId : components.chainId with
  | none => exact ⟨chainInfo_id_pos _, id_lt _⟩
  | some n =>
      obtain ⟨hPos, hSafe⟩ := h.chainId n hId
      cases n with
      | zero => exact absurd hPos (Nat.lt_irrefl 0)
      | succ n => exact ⟨hPos, hSafe⟩

/-- The parts of a typed key, with the optional ones in their order. An absent part leaves no empty
part behind. -/
theorem split_generateKey :
    Text.split (generateKey components) ':' =
      components.keyPrefix.value :: components.chain.value ::
        toString (resolvedChainId components) ::
          (components.address.toList ++ components.provider.toList ++ components.extra) := by
  have hParts : keyParts components = components.keyPrefix.value :: components.chain.value ::
      toString (resolvedChainId components) ::
        (components.address.toList ++ components.provider.toList ++ components.extra) := by
    rw [keyParts, if_neg (resolvedChainId_bounds h).1.ne', optionalPart_toList h.address,
      optionalPart_toList h.provider]
    simp
  have hDelimiter : delimiter = String.singleton ':' := rfl
  rw [generateKey, hParts, hDelimiter]
  apply Text.split_intercalate (by simp)
  intro part hPart
  simp only [List.mem_cons, List.mem_append, Option.mem_toList] at hPart
  rcases hPart with rfl | rfl | rfl | (hAddress | hProvider) | hExtra
  · exact InvalidationScope.not_mem_prefixValue _
  · exact ChainName.colon_not_mem_value _
  · exact fun hMember => (InvalidationScope.plain_toString _ _ hMember).2 rfl
  · exact (h.address part hAddress).2
  · exact (h.provider part hProvider).2
  · exact (h.extra part hExtra).2

/-- A typed key is a key of parsed components. -/
theorem generateKeyOf_ofComponents :
    generateKeyOf (PartialKey.ofComponents components) = generateKey components := by
  obtain ⟨hPos, hSafe⟩ := resolvedChainId_bounds h
  have hResolved : resolvedChainIdOf (PartialKey.ofComponents components) =
      some (.finite (resolvedChainId components)) := by
    unfold resolvedChainIdOf resolvedChainId PartialKey.ofComponents
    cases hId : components.chainId with
    | none => simp [Text.nonzero, tableId_value]
    | some n =>
        have hBounds := (h.chainId n hId).1
        cases n with
        | zero => exact absurd hBounds (Nat.lt_irrefl 0)
        | succ n =>
            rw [Option.map_some, Option.filter_some, if_pos (truthyNumber_natCast hBounds),
              Option.some_or]
            rfl
  have hExtra : (PartialKey.ofComponents components).extra.getD [] = components.extra := by
    unfold PartialKey.ofComponents
    by_cases hEmpty : components.extra = [] <;> simp [hEmpty]
  rw [generateKeyOf, generateKey, keyPartsOf, keyParts, hResolved, hExtra,
    if_neg hPos.ne', Option.filter_some, if_pos (truthyNumber_natCast hPos), Option.map_some,
    Number.toText_natCast hPos hSafe]
  rfl

/-- The parts of a generated key come back in order, with the chain id in the place where it was
written. What the last three fields become depends on which of them were there. -/
theorem parseKey_generateKey :
    parseKey (generateKey components) =
      let rest := components.address.toList ++ components.provider.toList ++ components.extra
      ⟨some components.keyPrefix.value, some components.chain.value,
        some (.finite (resolvedChainId components)), (parseAddress rest).1,
        (parseProvider (parseAddress rest).2).1,
        parseExtra (parseProvider (parseAddress rest).2).2⟩ := by
  obtain ⟨hPos, hSafe⟩ := resolvedChainId_bounds h
  simp only [parseKey, split_generateKey h, parseChainId_toString hPos hSafe]

/-- The parser finds the components again exactly when none of the optional parts can be
taken for another. -/
theorem parseKey_generateKey_iff :
    parseKey (generateKey components) = completed components ↔ Unambiguous components := by
  rw [parseKey_generateKey h]
  unfold completed PartialKey.ofComponents Unambiguous
  obtain ⟨keyPrefix, chain, chainId, address, provider, extra⟩ := components
  cases address with
  | none =>
      cases provider with
      | none =>
          cases extra with
          | nil => simp [parseAddress, parseProvider, parseExtra]
          | cons part rest => simp [parseAddress]
      | some provider => simp [parseAddress]
  | some address =>
      cases provider with
      | none =>
          cases extra with
          | nil => simp [parseAddress, parseProvider, parseExtra]
          | cons part rest =>
              by_cases hValid : isValidProvider part = true
              · simp [parseAddress, parseProvider, hValid]
              · simp [parseAddress, parseProvider, parseExtra, hValid]
      | some provider =>
          by_cases hValid : isValidProvider provider = true
          · simp [parseAddress, parseProvider, parseExtra, hValid]
          · simp [parseAddress, parseProvider, hValid]

end RoundTrip

/-- A wallet at a provider, with and without its address. -/
def walletComponents (address : Option String) : CacheKeyComponents :=
  ⟨.portfolio, .ethereum, none, address, some "alchemy", ["token", "test"]⟩

/-- The components of a wallet are well formed with any address of one part. -/
theorem wellFormed_walletComponents {address : Option String}
    (hAddress : ∀ text, address = some text → Part text) :
    WellFormed (walletComponents address) where
  chainId n hId := by cases hId
  address := hAddress
  provider text hProvider := by
    obtain rfl := Option.some.inj hProvider
    exact ⟨by decide, by decide⟩
  extra text hExtra := by
    have hEach : text = "token" ∨ text = "test" := by simpa [walletComponents] using hExtra
    rcases hEach with rfl | rfl <;> exact ⟨by decide, by decide⟩

theorem parseKey_generateKey_wallet :
    parseKey (generateKey (walletComponents (some "0xab"))) =
      completed (walletComponents (some "0xab")) := by
  have hWellFormed : WellFormed (walletComponents (some "0xab")) :=
    wellFormed_walletComponents fun text hText => by
      obtain rfl := Option.some.inj hText
      exact ⟨by decide, by decide⟩
  refine (parseKey_generateKey_iff hWellFormed).mpr ?_
  show isValidProvider "alchemy" = true
  decide +kernel

/-- Without an address, the provider is read as one. -/
theorem parseKey_generateKey_no_address :
    WellFormed (walletComponents none) ∧
      (parseKey (generateKey (walletComponents none))).address = some "alchemy" ∧
      parseKey (generateKey (walletComponents none)) ≠ completed (walletComponents none) := by
  refine ⟨wellFormed_walletComponents (by simp), by decide +kernel, by decide +kernel⟩

end KeyParsing

end BalanceKit
