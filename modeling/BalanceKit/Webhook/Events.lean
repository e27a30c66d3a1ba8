import BalanceKit.Chains.Constants

/-! The webhooks of the Alchemy team with the search for the one of a chain, their payloads, and
the events that `processWebhookEvent` emits for a payload. A handler runs to completion between
awaits; an emission may throw when one of its synchronous listeners does. -/
namespace BalanceKit

/-- A webhook as a listing of the team's webhooks shows it. -/
structure AlchemyWebhookResponse where
  id : String
  network : String
  webhookType : String
  webhookUrl : String
  isActive : Bool
  signingKey : String
  deriving DecidableEq

namespace WebhookManagementService
variable (webhookUrl : String) (chain : ChainName)

/-- The webhook that a creation for the chain would duplicate. -/
def matchesChain (webhook : AlchemyWebhookResponse) : Bool :=
  webhook.network == getNetworkIdForChain chain && webhook.webhookType == "ADDRESS_ACTIVITY" &&
    webhook.isActive && webhook.webhookUrl == webhookUrl

def getExistingWebhookIdForChain (webhooks : List AlchemyWebhookResponse) : Option String :=
  (webhooks.find? (matchesChain webhookUrl chain)).map AlchemyWebhookResponse.id

end WebhookManagementService

inductive WebhookEventType where
  | addressActivity | tokenActivity | nftActivity | minedTransaction | droppedTransaction
  | graphql
  deriving DecidableEq, Repr

namespace WebhookEventType

def value : WebhookEventType → String
  | addressActivity => "ADDRESS_ACTIVITY"
  | tokenActivity => "TOKEN_ACTIVITY"
  | nftActivity => "NFT_ACTIVITY"
  | minedTransaction => "MINED_TRANSACTION"
  | droppedTransaction => "DROPPED_TRANSACTION"
  | graphql => "GRAPHQL"

/-- The member that `===` finds for a type string, in the order of the switch. -/
def ofString (type : String) : Option WebhookEventType :=
  [addressActivity, tokenActivity, nftActivity, minedTransaction, droppedTransaction,
    graphql].find? fun t => t.value == type

end WebhookEventType

/-- An item of the activity list of an address or NFT event. -/
structure ActivityItem where
  fromAddress : Option String
  toAddress : Option String
  hash : Option String
  contractAddress : Option String
  erc721TokenId : Option String
  erc1155TokenId : Option String
  deriving DecidableEq

/-- The fields that the handlers read from the event object of any type. The
field `from` of a mined transaction is `sender` here. -/
structure WebhookEvent where
  network : Option String
  activity : List ActivityItem
  hash : Option String
  sender : Option String
  recipient : Option String
  deriving DecidableEq

structure WebhookEventDto where
  webhookId : String
  id : String
  type : String
  event : WebhookEvent
  deriving DecidableEq

/-- The metadata of an address activity. -/
structure ActivityMetadata where
  action : Option String
  txHash : Option String
  eventType : Option String
  contractAddress : Option String
  tokenId : Option String
  deriving DecidableEq

/-- A call of the notification service. -/
inductive Emission where
  | addressActivity (chain : ChainName) (chainId : Nat) (address : String)
      (metadata : ActivityMetadata)
  | nftActivity (chain : ChainName) (contractAddress : Option String) (tokenId : String)
      (fromAddress toAddress : Option String)
  | transactionMined (chain : ChainName) (txHash sender recipient : Option String)
  | customEvent (webhookId eventId : String)
  deriving DecidableEq

namespace WebhookService

/-- What a handler emitted and whether it threw. -/
structure Outcome where
  emitted : List Emission
  threw : Bool
  deriving DecidableEq

variable (throws : Emission → Bool)

/-- Emit one after the other; the first that throws ends the handler. -/
def emitAll : List Emission → Outcome
  | [] => ⟨[], false⟩
  | e :: rest =>
      if throws e then ⟨[e], true⟩
      else ⟨e :: (emitAll rest).emitted, (emitAll rest).threw⟩

/-- The network as a key of the chain table. -/
def networkKey (event : WebhookEvent) : String := event.network.getD "undefined"

/-- The chain and id of the event, or how the handler ends without them. -/
def resolveChain (event : WebhookEvent) : Except Bool (ChainName × Nat) :=
  match getChainNameFromNetworkId (networkKey event),
      getChainIdFromNetworkId (networkKey event) with
  | .missing, _ => .error false
  | _, .error () => .error true
  | .own chain, .ok (some chainId) => .ok (chain, chainId)
  | _, .ok _ => .error false

/-- The non-empty addresses of an item. -/
def activityAddresses (item : ActivityItem) : List String :=
  (Text.present item.fromAddress).toList ++ (Text.present item.toAddress).toList

def withChain (event : WebhookEvent) (body : ChainName → Nat → Outcome) : Outcome :=
  match resolveChain event with
  | .ok (chain, chainId) => body chain chainId
  | .error threw => ⟨[], threw⟩

/-- Each emission has its own catch, so none stops the others. -/
def handleAddressActivity (payload : WebhookEventDto) : Outcome :=
  withChain payload.event fun chain chainId =>
    ⟨payload.event.activity.flatMap fun item =>
      (activityAddresses item).map fun address =>
        .addressActivity chain chainId address
          ⟨none, item.hash, some payload.type, none, none⟩, false⟩

def nftEmissions (chain : ChainName) (chainId : Nat) (item : ActivityItem) : List Emission :=
  let tokenId :=
    ((Text.present item.erc721TokenId).or (Text.present item.erc1155TokenId)).getD "0"
  .nftActivity chain item.contractAddress tokenId item.fromAddress item.toAddress ::
    (activityAddresses item).map fun address =>
      .addressActivity chain chainId address
        ⟨some "nft_transfer", none, none, item.contractAddress, some tokenId⟩

def handleNftActivity (payload : WebhookEventDto) : Outcome :=
  withChain payload.event fun chain chainId =>
    emitAll throws (payload.event.activity.flatMap (nftEmissions chain chainId))

def handleMinedTransaction (payload : WebhookEventDto) : Outcome :=
  withChain payload.event fun chain chainId =>
    emitAll throws
      (.transactionMined chain payload.event.hash payload.event.sender payload.event.recipient ::
        ((Text.present payload.event.sender).toList ++
            (Text.present payload.event.recipient).toList).map fun address =>
          .addressActivity chain chainId address
            ⟨some "transaction_mined", payload.event.hash, none, none, none⟩)

def handleGraphqlEvent (payload : WebhookEventDto) : Outcome :=
  emitAll throws [.customEvent payload.webhookId payload.id]

/-- Nothing is emitted when the event cannot be saved. -/
def processWebhookEvent (saved : Bool) (payload : WebhookEventDto) : Outcome :=
  if !saved then ⟨[], true⟩
  else
    match WebhookEventType.ofString payload.type with
    | some .addressActivity => handleAddressActivity payload
    | some .nftActivity => handleNftActivity throws payload
    | some .minedTransaction => handleMinedTransaction throws payload
    | some .graphql => handleGraphqlEvent throws payload
    | some .tokenActivity => ⟨[], false⟩
    | some .droppedTransaction => ⟨[], false⟩
    | none => ⟨[], false⟩

variable {throws}

theorem mem_emitAll {emissions : List Emission} {e : Emission}
    (h : e ∈ (emitAll throws emissions).emitted) : e ∈ emissions := by
  induction emissions with
  | nil => cases h
  | cons first rest ih =>
      rw [emitAll] at h
      split at h
      · exact List.mem_cons.mpr (.inl (List.mem_singleton.mp h))
      · rcases List.mem_cons.mp h with rfl | hRest
        · exact List.mem_cons.mpr (.inl rfl)
        · exact List.mem_cons.mpr (.inr (ih hRest))

/-- A handler gets past the chain lookup only for an own entry of the table. With an inherited
member of the table it gets no further. -/
theorem resolveChain_ok {event : WebhookEvent} {chain : ChainName} {chainId : Nat} :
    resolveChain event = .ok (chain, chainId) ↔
      getChainNameFromNetworkId (networkKey event) = .own chain ∧
        chainId = (chainInfo chain).id := by
  cases hName : getChainNameFromNetworkId (networkKey event) with
  | own c =>
      simp only [resolveChain, hName, getChainIdFromNetworkId_of_own hName]
      constructor
      · intro h
        cases h
        exact ⟨rfl, rfl⟩
      · rintro ⟨h, rfl⟩
        cases h
        rfl
  | inherited =>
      have hId : getChainIdFromNetworkId (networkKey event) = .error () := by
        unfold getChainNameFromNetworkId at hName
        simp [getChainIdFromNetworkId, hName]
      simp [resolveChain, hName, hId]
  | missing => simp [resolveChain, hName]

theorem mem_withChain {event : WebhookEvent} {body : ChainName → Nat → Outcome} {e : Emission}
    (h : e ∈ (withChain event body).emitted) :
    ∃ chain, getChainNameFromNetworkId (networkKey event) = .own chain ∧
      e ∈ (body chain (chainInfo chain).id).emitted := by
  unfold withChain at h
  cases hChain : resolveChain event with
  | error threw => simp [hChain] at h
  | ok pair =>
      obtain ⟨chain, chainId⟩ := pair
      obtain ⟨hOwn, rfl⟩ := resolveChain_ok.mp hChain
      exact ⟨chain, hOwn, by simpa [hChain] using h⟩

/-- An address activity is about the chain and id that the payload resolves to. Nothing of the
activity itself decides about them. -/
theorem chain_of_addressActivity {saved : Bool} {payload : WebhookEventDto} {chain : ChainName}
    {chainId : Nat} {address : String} {metadata : ActivityMetadata}
    (h : .addressActivity chain chainId address metadata ∈
      (processWebhookEvent throws saved payload).emitted) :
    getChainNameFromNetworkId (networkKey payload.event) = .own chain ∧
      chainId = (chainInfo chain).id ∧
      WebhookEventType.ofString payload.type ∈
        [some .addressActivity, some .nftActivity, some .minedTransaction] := by
  unfold processWebhookEvent at h
  split at h
  · cases h
  split at h
  · rename_i hType
    obtain ⟨c, hOwn, hEmitted⟩ := mem_withChain h
    simp only [List.mem_flatMap, List.mem_map] at hEmitted
    obtain ⟨item, -, found, -, hEvent⟩ := hEmitted
    cases hEvent
    exact ⟨hOwn, rfl, by simp [hType]⟩
  · rename_i hType
    obtain ⟨c, hOwn, hEmitted⟩ := mem_withChain h
    obtain ⟨item, -, hItem⟩ := List.mem_flatMap.mp (mem_emitAll hEmitted)
    simp only [nftEmissions, List.mem_cons, List.mem_map, reduceCtorEq, false_or] at hItem
    obtain ⟨found, -, hEvent⟩ := hItem
    cases hEvent
    exact ⟨hOwn, rfl, by simp [hType]⟩
  · rename_i hType
    obtain ⟨c, hOwn, hEmitted⟩ := mem_withChain h
    have hMember := mem_emitAll hEmitted
    simp only [List.mem_cons, List.mem_map, reduceCtorEq, false_or] at hMember
    obtain ⟨found, -, hEvent⟩ := hMember
    cases hEvent
    exact ⟨hOwn, rfl, by simp [hType]⟩
  · have hMember := mem_emitAll h
    simp at hMember
  all_goals cases h

end WebhookService

end BalanceKit
