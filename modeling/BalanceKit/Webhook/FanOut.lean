import BalanceKit.Library.Emitting
import BalanceKit.Webhook.Events

/-! The handlers of webhook payloads as programs, statement by statement, where any call of the
notification service may throw, and what becomes of the addresses of a payload. -/
namespace BalanceKit.FanOut
open Emitting WebhookService

abbrev Handler := Emitter Emission Unit

section Programs
variable (fails : List Emission → Emission → Bool)

/-- Run the statements for a text that is not empty. -/
def whenPresent (text : Option String) (body : String → Handler) : Handler :=
  match Text.present text with
  | some s => body s
  | none => pure ()

/-- The start of every handler. It returns where the network is not known. -/
def withChain (event : WebhookEvent) (body : ChainName → Nat → Handler) : Handler :=
  match resolveChain event with
  | .ok (chain, chainId) => body chain chainId
  | .error true => throw ()
  | .error false => pure ()

def handleAddressActivity (payload : WebhookEventDto) : Handler :=
  withChain payload.event fun chain chainId =>
    payload.event.activity.forM fun activity =>
      let addresses := activityAddresses activity
      addresses.forM fun address =>
        attempt (emit fails (.addressActivity chain chainId address
          ⟨none, activity.hash, some payload.type, none, none⟩))

def handleNftActivity (payload : WebhookEventDto) : Handler :=
  withChain payload.event fun chain chainId =>
    payload.event.activity.forM fun activity => do
      let tokenId :=
        ((Text.present activity.erc721TokenId).or (Text.present activity.erc1155TokenId)).getD "0"
      let metadata : ActivityMetadata :=
        ⟨some "nft_transfer", none, none, activity.contractAddress, some tokenId⟩
      emit fails (.nftActivity chain activity.contractAddress tokenId activity.fromAddress
        activity.toAddress)
      whenPresent activity.fromAddress fun address =>
        emit fails (.addressActivity chain chainId address metadata)
      whenPresent activity.toAddress fun address =>
        emit fails (.addressActivity chain chainId address metadata)

def handleMinedTransaction (payload : WebhookEventDto) : Handler :=
  withChain payload.event fun chain chainId => do
    let event := payload.event
    let metadata : ActivityMetadata := ⟨some "transaction_mined", event.hash, none, none, none⟩
    emit fails (.transactionMined chain event.hash event.sender event.recipient)
    whenPresent event.sender fun address =>
      emit fails (.addressActivity chain chainId address metadata)
    whenPresent event.recipient fun address =>
      emit fails (.addressActivity chain chainId address metadata)

def handleGraphqlEvent (payload : WebhookEventDto) : Handler :=
  emit fails (.customEvent payload.webhookId payload.id)

/-- The payload is saved before its type is looked at. -/
def processWebhookEvent (saved : Bool) (payload : WebhookEventDto) : Handler := do
  if !saved then throw ()
  match WebhookEventType.ofString payload.type with
  | some .addressActivity => handleAddressActivity fails payload
  | some .nftActivity => handleNftActivity fails payload
  | some .minedTransaction => handleMinedTransaction fails payload
  | some .graphql => handleGraphqlEvent fails payload
  | some .tokenActivity | some .droppedTransaction | none => pure ()

end Programs

section Deliveries
variable {fails : List Emission → Emission → Bool} {payload : WebhookEventDto}
  {chain : ChainName} {chainId : Nat}

/-- A statement for an optional text delivers one event, or none where the text is absent or
empty. -/
theorem delivers_whenPresent {text : Option String} {event : String → Emission} :
    Delivers fails (whenPresent text fun s => emit fails (event s))
      ((Text.present text).toList.map event) := by
  unfold whenPresent
  cases Text.present text with
  | none => exact delivers_pure
  | some s => exact delivers_emit (event s)

theorem withChain_of_ok {body : ChainName → Nat → Handler}
    (h : resolveChain payload.event = .ok (chain, chainId)) :
    withChain payload.event body = body chain chainId := by
  rw [withChain, h]

/-- The calls that each handler makes when none of them throws. -/
def calls (chain : ChainName) (chainId : Nat) (payload : WebhookEventDto) :
    WebhookEventType → List Emission
  | .addressActivity => payload.event.activity.flatMap fun item =>
      (activityAddresses item).map fun address => .addressActivity chain chainId address
        ⟨none, item.hash, some payload.type, none, none⟩
  | .nftActivity => payload.event.activity.flatMap (nftEmissions chain chainId)
  | .minedTransaction =>
      .transactionMined chain payload.event.hash payload.event.sender payload.event.recipient ::
        ((Text.present payload.event.sender).toList ++
            (Text.present payload.event.recipient).toList).map fun address =>
          .addressActivity chain chainId address
            ⟨some "transaction_mined", payload.event.hash, none, none, none⟩
  | .graphql => [.customEvent payload.webhookId payload.id]
  | .tokenActivity | .droppedTransaction => []

/-- Each emission has its own catch, so none of them stops the others. -/
theorem delivers_handleAddressActivity
    (h : resolveChain payload.event = .ok (chain, chainId)) :
    Delivers (fun _ _ => false) (handleAddressActivity fails payload)
      (calls chain chainId payload .addressActivity) := by
  rw [handleAddressActivity, withChain_of_ok h]
  refine delivers_forM fun item _ => ?_
  rw [List.map_eq_flatMap]
  exact delivers_forM fun address _ => delivers_attempt_emit _

/-- The NFT handler delivers its events one after the other. It has no catch of its own, so the
first that throws is the last one. -/
theorem delivers_handleNftActivity (h : resolveChain payload.event = .ok (chain, chainId)) :
    Delivers fails (handleNftActivity fails payload)
      (calls chain chainId payload .nftActivity) := by
  rw [handleNftActivity, withChain_of_ok h]
  refine delivers_forM fun item _ => ?_
  rw [nftEmissions, activityAddresses, List.map_append]
  exact delivers_seq (delivers_emit _) (delivers_seq delivers_whenPresent delivers_whenPresent)

/-- A mined transaction emits up to three events, each with a catch of its own as well. -/
theorem delivers_handleMinedTransaction
    (h : resolveChain payload.event = .ok (chain, chainId)) :
    Delivers fails (handleMinedTransaction fails payload)
      (calls chain chainId payload .minedTransaction) := by
  rw [handleMinedTransaction, withChain_of_ok h, calls, List.map_append]
  exact delivers_seq (delivers_emit _) (delivers_seq delivers_whenPresent delivers_whenPresent)

end Deliveries

section Results
variable {fails : List Emission → Emission → Bool} {saved : Bool} {payload : WebhookEventDto}
  {chain : ChainName} {type : WebhookEventType}

def isAddressActivity : Emission → Bool
  | .addressActivity .. => true
  | _ => false

/-- One event for each of the two addresses that is not empty. -/
def notices (chain : ChainName) (metadata : ActivityMetadata)
    (fromAddress toAddress : Option String) : List Emission :=
  ([fromAddress, toAddress].filterMap Text.present).map fun address =>
    .addressActivity chain (chainInfo chain).id address metadata

/-- The token of an NFT activity. -/
def tokenOf (item : ActivityItem) : String :=
  ([item.erc721TokenId, item.erc1155TokenId].findSome? Text.present).getD "0"

/-- The address activities that a payload of the type reports. -/
def reported (chain : ChainName) (payload : WebhookEventDto) : WebhookEventType → List Emission
  | .addressActivity => payload.event.activity.flatMap fun item =>
      notices chain ⟨none, item.hash, some "ADDRESS_ACTIVITY", none, none⟩ item.fromAddress
        item.toAddress
  | .nftActivity => payload.event.activity.flatMap fun item =>
      notices chain ⟨some "nft_transfer", none, none, item.contractAddress, some (tokenOf item)⟩
        item.fromAddress item.toAddress
  | .minedTransaction =>
      notices chain ⟨some "transaction_mined", payload.event.hash, none, none, none⟩
        payload.event.sender payload.event.recipient
  | _ => []

/-- The addresses of a transfer are notified in the order of sender and recipient, as far as they
are there. -/
theorem notices_eq {metadata : ActivityMetadata} {fromAddress toAddress : Option String} :
    notices chain metadata fromAddress toAddress =
      ((Text.present fromAddress).toList ++ (Text.present toAddress).toList).map fun address =>
        .addressActivity chain (chainInfo chain).id address metadata := by
  unfold notices
  cases hFrom : Text.present fromAddress <;> cases hTo : Text.present toAddress <;>
    simp [hFrom, hTo]

/-- The token id of an item is that of its ERC-721 part, else that of its ERC-1155 part, else
zero. -/
theorem tokenOf_eq {item : ActivityItem} : tokenOf item =
    ((Text.present item.erc721TokenId).or (Text.present item.erc1155TokenId)).getD "0" := by
  unfold tokenOf
  cases h721 : Text.present item.erc721TokenId <;>
    cases h1155 : Text.present item.erc1155TokenId <;> simp [h721, h1155]

theorem filter_notices {metadata : ActivityMetadata} {fromAddress toAddress : Option String} :
    (notices chain metadata fromAddress toAddress).filter isAddressActivity =
      notices chain metadata fromAddress toAddress := by
  refine List.filter_eq_self.mpr fun e hEmission => ?_
  obtain ⟨address, -, rfl⟩ := List.mem_map.mp hEmission
  rfl

theorem calls_addressActivity (hType : payload.type = "ADDRESS_ACTIVITY") :
    calls chain (chainInfo chain).id payload .addressActivity =
      reported chain payload .addressActivity := by
  rw [calls, hType]
  refine List.flatMap_congr fun item _ => ?_
  rw [activityAddresses, notices_eq]

/-- Among the calls of a handler are exactly the reported address activities. -/
theorem filter_calls (hType : payload.type = type.value)
    (hReports : type ∈ [.addressActivity, .nftActivity, .minedTransaction]) :
    (calls chain (chainInfo chain).id payload type).filter isAddressActivity =
      reported chain payload type := by
  simp only [List.mem_cons, List.not_mem_nil, or_false] at hReports
  rcases hReports with rfl | rfl | rfl
  · rw [calls_addressActivity hType, reported, List.filter_flatMap]
    exact List.flatMap_congr fun item _ => filter_notices
  · rw [calls, List.filter_flatMap]
    refine List.flatMap_congr fun item _ => ?_
    rw [nftEmissions, ← tokenOf_eq, activityAddresses, ← notices_eq]
    exact (List.filter_cons_of_neg (by simp [isAddressActivity])).trans filter_notices
  · rw [calls, ← notices_eq]
    exact (List.filter_cons_of_neg (by simp [isAddressActivity])).trans filter_notices

/-- The handler that the type selects. -/
theorem start_processWebhookEvent (hType : payload.type = type.value) (log : List Emission) :
    start (processWebhookEvent fails true payload) log =
      start (match type with
        | .addressActivity => handleAddressActivity fails payload
        | .nftActivity => handleNftActivity fails payload
        | .minedTransaction => handleMinedTransaction fails payload
        | .graphql => handleGraphqlEvent fails payload
        | .tokenActivity | .droppedTransaction => pure ()) log := by
  have hMember : WebhookEventType.ofString payload.type = some type := by
    rw [hType]
    cases type <;> decide
  show start (match WebhookEventType.ofString payload.type with
    | some .addressActivity => _ | some .nftActivity => _ | some .minedTransaction => _
    | some .graphql => _ | some .tokenActivity | some .droppedTransaction | none => _) log = _
  rw [hMember]
  cases type <;> rfl

/-- A payload of a known network is processed as far as its emissions go. What is lost is only what
comes behind an emission that throws. -/
theorem start_of_known (hType : payload.type = type.value)
    (hReports : type ∈ [.addressActivity, .nftActivity, .minedTransaction])
    (hNetwork : payload.event.network = some (chainInfo chain).networkIdentifier) :
    start (processWebhookEvent fails true payload) [] =
      deliver (if type = .addressActivity then fun _ _ => false else fails) []
        (calls chain (chainInfo chain).id payload type) := by
  have hKey : networkKey payload.event = (chainInfo chain).networkIdentifier := by
    rw [networkKey, hNetwork]
    rfl
  have hChain : resolveChain payload.event = .ok (chain, (chainInfo chain).id) :=
    resolveChain_ok.mpr ⟨getChainNameFromNetworkId_eq_own.mpr hKey, rfl⟩
  rw [start_processWebhookEvent hType]
  simp only [List.mem_cons, List.not_mem_nil, or_false] at hReports
  rcases hReports with rfl | rfl | rfl
  · exact delivers_handleAddressActivity hChain []
  · exact delivers_handleNftActivity hChain []
  · exact delivers_handleMinedTransaction hChain []

/-- No reported address is lost without a trace. A payload that cannot be saved is rejected
before anything is emitted. Address activities are all emitted whatever throws, and the other
two types emit everything unless they are rejected, which the last emission has caused. -/
theorem fanOut_complete (fails : List Emission → Emission → Bool) (saved : Bool)
    (hType : payload.type = type.value)
    (hReports : type ∈ [.addressActivity, .nftActivity, .minedTransaction])
    (hNetwork : payload.event.network = some (chainInfo chain).networkIdentifier) :
    let (outcome, emitted) := start (processWebhookEvent fails saved payload) []
    let activities := emitted.filter isAddressActivity
    (saved = false → outcome = .error () ∧ emitted = []) ∧
    (saved = true →
      ((∀ log e, fails log e = false) → outcome = .ok ()) ∧
      (type = .addressActivity → outcome = .ok ()) ∧
      (outcome = .ok () → activities = reported chain payload type) ∧
      (outcome = .error () → activities <+: reported chain payload type ∧
        ∃ before e, emitted = before ++ [e] ∧ fails before e = true)) := by
  cases saved with
  | false => exact ⟨fun _ => ⟨rfl, rfl⟩, fun hSaved => nomatch hSaved⟩
  | true =>
      have hStart := @start_of_known fails payload chain type hType hReports hNetwork
      have hReported := @filter_calls payload chain type hType hReports
      rw [hStart]
      refine ⟨fun hSaved => (nomatch hSaved), fun _ => ⟨?_, ?_, ?_, ?_⟩⟩
      · intro hNever
        rw [deliver_of_never]
        intro log e
        split
        · rfl
        · exact hNever log e
      · rintro rfl
        rw [if_pos rfl, deliver_of_never fun _ _ => rfl]
      · intro hOk
        rw [deliver_of_ok hOk]
        exact hReported
      · intro hError
        obtain ⟨delivered, hPrefix, hLog⟩ := @exists_deliver_eq_append Emission
          (if type = .addressActivity then fun _ _ => false else fails) []
          (calls chain (chainInfo chain).id payload type)
        obtain ⟨before, e, hLast, hFails⟩ := exists_of_error hError
        refine ⟨?_, before, e, hLast, ?_⟩
        · rw [hLog, ← hReported]
          exact hPrefix.filter isAddressActivity
        · by_cases hAddress : type = .addressActivity
          · rw [if_pos hAddress] at hFails
            cases hFails
          · rwa [if_neg hAddress] at hFails

/-- A transfer from an address to itself, with a listener that fails at the first event. -/
def selfTransfer : WebhookEventDto :=
  ⟨"wh_1", "evt_1", "ADDRESS_ACTIVITY",
    ⟨some "ETH_MAINNET", [⟨some "0xab", some "0xab", some "0x01", none, none, none⟩,
      ⟨some "", some "0xcd", some "0x02", none, none, none⟩], none, none, none⟩⟩

/-- The first emission throws, and the other two are made all the same. One of the addresses is
both sender and recipient, and is reported twice. -/
theorem fanOut_complete_selfTransfer :
    (start (processWebhookEvent (fun log _ => log.isEmpty) true selfTransfer) []).2.filter
        isAddressActivity = reported .ethereum selfTransfer .addressActivity ∧
      (reported .ethereum selfTransfer .addressActivity).length = 3 := by
  have hComplete := @fanOut_complete selfTransfer .ethereum .addressActivity
    (fun log _ => log.isEmpty) true rfl (by decide) rfl
  exact ⟨(hComplete.2 rfl).2.2.1 ((hComplete.2 rfl).2.1 rfl), rfl⟩

end Results

section Refinement
variable {throws : Emission → Bool} {payload : WebhookEventDto}

/-- What an outcome says about a program that starts with an empty log. -/
def resultOf (outcome : Outcome) : Result Emission :=
  (if outcome.threw then .error () else .ok (), outcome.emitted)

/-- Delivering a list of events to listeners is `emitAll` on that list, behind what was emitted
before. -/
theorem deliver_eq_emitAll (log events : List Emission) :
    deliver (fun _ e => throws e) log events =
      ((resultOf (emitAll throws events)).1, log ++ (emitAll throws events).emitted) := by
  induction events generalizing log with
  | nil => simp [deliver, emitAll, resultOf]
  | cons e rest ih =>
      rw [deliver, emitAll]
      cases hThrows : throws e with
      | true => rfl
      | false =>
          rw [if_neg Bool.false_ne_true, if_neg Bool.false_ne_true, ih, List.append_assoc]
          rfl

/-- A program that delivers a list of events ends as `emitAll` does on that list. This connects the
handlers to the list of their events. -/
theorem start_of_delivers {p : Handler} {events : List Emission}
    (h : Delivers (fun _ e => throws e) p events) :
    start p [] = resultOf (emitAll throws events) := by
  rw [h, deliver_eq_emitAll]
  rfl

theorem start_withChain {event : WebhookEvent} {body : ChainName → Nat → Handler}
    {outcome : ChainName → Nat → Outcome}
    (h : ∀ chain chainId, resolveChain event = .ok (chain, chainId) →
      start (body chain chainId) [] = resultOf (outcome chain chainId)) :
    start (withChain event body) [] = resultOf (WebhookService.withChain event outcome) := by
  unfold withChain WebhookService.withChain
  cases hChain : resolveChain event with
  | error threw => cases threw <;> rfl
  | ok pair => exact h pair.1 pair.2 hChain

/-- Where only the event decides whether its emission throws, the programs end as the
outcomes of the handlers say. -/
theorem start_processWebhookEvent_eq (saved : Bool) (payload : WebhookEventDto) :
    start (processWebhookEvent (fun _ e => throws e) saved payload) [] =
      resultOf (WebhookService.processWebhookEvent throws saved payload) := by
  cases saved with
  | false => rfl
  | true =>
      show start (match WebhookEventType.ofString payload.type with
        | some .addressActivity => _ | some .nftActivity => _ | some .minedTransaction => _
        | some .graphql => _ | some .tokenActivity | some .droppedTransaction | none => _) [] =
        resultOf (match WebhookEventType.ofString payload.type with
        | some .addressActivity => _ | some .nftActivity => _ | some .minedTransaction => _
        | some .graphql => _ | some .tokenActivity => _ | some .droppedTransaction => _
        | none => _)
      cases WebhookEventType.ofString payload.type with
      | none => rfl
      | some type =>
          cases type with
          | addressActivity =>
              refine start_withChain fun chain chainId hChain => ?_
              have hDelivered := @delivers_handleAddressActivity (fun _ e => throws e) payload
                chain chainId hChain []
              rw [handleAddressActivity, withChain_of_ok hChain] at hDelivered
              rw [hDelivered, deliver_of_never fun _ _ => rfl]
              rfl
          | nftActivity =>
              refine start_withChain fun chain chainId hChain => start_of_delivers ?_
              have hDelivers := @delivers_handleNftActivity (fun _ e => throws e) payload chain
                chainId hChain
              rwa [handleNftActivity, withChain_of_ok hChain] at hDelivers
          | minedTransaction =>
              refine start_withChain fun chain chainId hChain => start_of_delivers ?_
              have hDelivers := @delivers_handleMinedTransaction (fun _ e => throws e) payload chain
                chainId hChain
              rwa [handleMinedTransaction, withChain_of_ok hChain] at hDelivers
          | graphql => exact start_of_delivers (delivers_emit _)
          | tokenActivity => rfl
          | droppedTransaction => rfl

end Refinement

end BalanceKit.FanOut
