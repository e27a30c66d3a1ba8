import BalanceKit.Webhook.Authentication

/-! Which authentic events the webhook endpoint lets through. The key of an event is
looked up under the network that the event names, in the first webhook of the list
that serves this network at the configured address. -/
namespace BalanceKit.Acceptance
open Authentication Signature

variable (webhookUrl : String) (hmac : String → List UInt8 → Digest)

section Handling
variable (webhooks : List AlchemyWebhookResponse) (request : WebhookRequest) (now receivedAt : Nat)

/-- The only request of a service that has cached no signing key. -/
def started : State :=
  State.init.spawn ⟨request, now, 0, firstPhase webhookUrl State.init request now, []⟩

/-- If the request waits for a listing, it receives this one. -/
def listed : State :=
  (step webhookUrl hmac (started webhookUrl request now)
    (.receive 0 (some webhooks) receivedAt)).getD (started webhookUrl request now)

/-- The request after its signature was checked, or as it was answered before. -/
def verified : State :=
  (step webhookUrl hmac (listed webhookUrl hmac webhooks request now receivedAt)
    (.verify 0)).getD (listed webhookUrl hmac webhooks request now receivedAt)

/-- The event is passed to `processWebhookEvent`. -/
def Processed : Prop :=
  ∃ h, (verified webhookUrl hmac webhooks request now receivedAt).handlings[0]? = some h ∧
    h.phase = .saving

end Handling

/-- The types whose network the controller reads. -/
def readsNetwork : WebhookEventType → Bool
  | .addressActivity => true
  | .nftActivity => true
  | .minedTransaction => true
  | .droppedTransaction => true
  | .tokenActivity => false
  | .graphql => false

/-- From the network of an event to the network of the webhook whose key is used:
through the chain table and back through the table of Alchemy networks. -/
def searchedNetwork (network : String) : Option String :=
  (chainKeyOf network).map ChainKey.networkId

/-- The event names its network where the controller reads it, and the first active
webhook at the configured address on the network that this leads to signs the body
as `webhook` does. -/
def Recognised (webhooks : List AlchemyWebhookResponse) (type : WebhookEventType)
    (event : WebhookEvent) (webhook : AlchemyWebhookResponse) (body : List UInt8) : Prop :=
  readsNetwork type = true ∧ event.network = some webhook.network ∧ webhook.network ≠ "" ∧
    ∃ network ∈ searchedNetwork webhook.network,
      ∃ first ∈ webhooks.find? fun w =>
          w.webhookUrl == webhookUrl && w.network == network && w.isActive,
        first.signingKey ≠ "" ∧ hmac first.signingKey body = hmac webhook.signingKey body

/-- Only three networks lead back to themselves. The table that is searched has other identifiers
for the rest. -/
theorem searchedNetwork_self_iff {network : String} :
    searchedNetwork network = some network ↔
      network ∈ ["ETH_MAINNET", "ETH_GOERLI", "ETH_SEPOLIA"] := by
  constructor
  · intro h
    obtain ⟨chain, hChain, hNetwork⟩ := Option.map_eq_some_iff.mp h
    cases chain with
    | named c =>
        have hOwn : getChainNameFromNetworkId network = .own c := by
          unfold chainKeyOf at hChain
          split at hChain <;> simp_all
        have hTable := getChainNameFromNetworkId_eq_own.mp hOwn
        subst hTable
        cases c <;> revert hNetwork <;> decide
    | member key =>
        obtain rfl : "ETH_MAINNET" = network := hNetwork
        decide
  · intro h
    simp only [List.mem_cons, List.not_mem_nil, or_false] at h
    rcases h with rfl | rfl | rfl <;> decide

variable {webhookUrl hmac} {webhooks : List AlchemyWebhookResponse} {request : WebhookRequest}
  {now receivedAt : Nat}

/-- The network that the controller reads from an event of a known type. -/
theorem requestNetwork_of_type {payload : WebhookEventDto} {type : WebhookEventType}
    (hType : WebhookEventType.ofString payload.type = some type) :
    requestNetwork payload = if readsNetwork type then payload.event.network else none := by
  unfold requestNetwork
  rw [hType]
  cases type <;> rfl

section Phases
variable {s : State} {h : Handling}

/-- The request that waited for the listing holds the key that was found in it. A request that was
answered from the cache does not wait here. -/
theorem handlings_receiveListing {chain : ChainKey} (hAlone : s.handlings = [h]) :
    (receiveListing webhookUrl s 0 h chain webhooks receivedAt).handlings =
      [h.setPhase (.keyed ((findWebhook webhookUrl chain webhooks).map
        AlchemyWebhookResponse.signingKey))] := by
  unfold receiveListing
  cases findWebhook webhookUrl chain webhooks with
  | none => simp [State.move, State.addListing, hAlone]
  | some webhook =>
      simp only
      split <;> simp [State.move, State.addListing, State.setCache, hAlone]

/-- A request gets past the check with a key under which its signature is valid. Without a key it is
refused before any signature is computed. -/
theorem verify_saving_iff {key : Option String} (hAlone : s.handlings = [h])
    (hPhase : h.phase = .keyed key) :
    (∃ g, ((step webhookUrl hmac s (.verify 0)).getD s).handlings[0]? = some g ∧
        g.phase = .saving) ↔
      ∃ signingKey, Text.present key = some signingKey ∧
        validateAlchemySignature hmac (h.request.signature.getD "") h.request.rawBody
          signingKey = .valid := by
  have hStep : step webhookUrl hmac s (.verify 0) = some (verifyRequest hmac s 0 h key) := by
    simp [step, hAlone, hPhase]
  rw [hStep, Option.getD_some, verifyRequest]
  cases Text.present key with
  | none => simp [State.move, hAlone, Handling.setPhase]
  | some signingKey =>
      simp only [Option.some.injEq, exists_eq_left']
      cases validateAlchemySignature hmac (h.request.signature.getD "") h.request.rawBody
          signingKey <;>
        simp [State.move, State.setCache, hAlone, Handling.setPhase]

variable {header : String} (hUrl : webhookUrl ≠ "") (hHeader : request.signature = some header)
  (hPresent : header ≠ "")
include hUrl hHeader hPresent

theorem handlings_started :
    (started webhookUrl request now).handlings =
      [⟨request, now, 0,
        match requestChain request.payload with
        | none => .keyed none
        | some chain => .listing chain, []⟩] := by
  have hSigned : Text.present request.signature ≠ none := by
    simp [hHeader, Text.present_some hPresent]
  rw [started, firstPhase, if_neg hSigned, if_neg hUrl]
  cases requestChain request.payload <;> rfl

/-- The key that the request holds when its signature is checked. -/
theorem handlings_listed :
    (listed webhookUrl hmac webhooks request now receivedAt).handlings =
      [⟨request, now, 0, .keyed ((requestChain request.payload).bind fun chain =>
        (findWebhook webhookUrl chain webhooks).map AlchemyWebhookResponse.signingKey), []⟩] := by
  have hStarted := @handlings_started webhookUrl request now header hUrl hHeader hPresent
  unfold listed
  cases hChain : requestChain request.payload with
  | none =>
      rw [hChain] at hStarted
      simp [step, hStarted]
  | some chain =>
      rw [hChain] at hStarted
      simp only [step, hStarted, List.getElem?_cons_zero, Option.getD_some]
      rw [handlings_receiveListing hStarted]
      rfl

/-- The event is processed when the first webhook found for its chain signs it. An empty cache is no
restriction, because the key is looked up by the listing then. -/
theorem processed_iff_find :
    Processed webhookUrl hmac webhooks request now receivedAt ↔
      ∃ chain ∈ requestChain request.payload, ∃ first ∈ findWebhook webhookUrl chain webhooks,
        first.signingKey ≠ "" ∧
          validateAlchemySignature hmac header request.rawBody first.signingKey = .valid := by
  have hListed := @handlings_listed webhookUrl hmac webhooks request now receivedAt header hUrl
    hHeader hPresent
  rw [Processed, verified, verify_saving_iff hListed rfl, hHeader, Option.getD_some]
  cases requestChain request.payload with
  | none => simp [Text.present]
  | some chain =>
      cases hFind : findWebhook webhookUrl chain webhooks with
      | none => simp [hFind, Text.present]
      | some first =>
          by_cases hKey : first.signingKey = ""
          · simp [hFind, hKey, Text.present]
          · simp [hFind, hKey, Text.present]

end Phases

/-- An authentic event is processed exactly when it is recognised. Of the request it is only assumed
what holds of every request of Alchemy. -/
theorem processed_iff_recognised {type : WebhookEventType} {webhook : AlchemyWebhookResponse}
    {header : String} {body : List UInt8} (hUrl : webhookUrl ≠ "")
    (hType : WebhookEventType.ofString request.payload.type = some type)
    (hNetwork : ∀ network ∈ request.payload.event.network, network = webhook.network)
    (hHeader : request.signature = some header) (hBody : request.rawBody = some body)
    (hSigned : normalize header = signatureOf hmac webhook.signingKey body) :
    Processed webhookUrl hmac webhooks request now receivedAt ↔
      Recognised webhookUrl hmac webhooks type request.payload.event webhook body := by
  rw [processed_iff_find hUrl hHeader (ne_empty_of_signed hSigned), hBody]
  simp only [validateAlchemySignature_of_signed hSigned]
  rw [requestChain, requestNetwork_of_type hType, Recognised]
  cases hReads : readsNetwork type with
  | false => simp [Text.present]
  | true =>
      cases hEvent : request.payload.event.network with
      | none => simp [Text.present]
      | some network =>
          obtain rfl := hNetwork network hEvent
          by_cases hEmpty : webhook.network = ""
          · simp [hEmpty, Text.present]
          · simp [hEmpty, Text.present, searchedNetwork, findWebhook]

/-- The webhook of the event after an inactive one and one of another network. -/
def mixedWebhooks : List AlchemyWebhookResponse :=
  [⟨"wh_0", "ETH_MAINNET", "ADDRESS_ACTIVITY", "https://kit.example/webhook", false, "whsec_old"⟩,
    ⟨"wh_2", "ETH_SEPOLIA", "NFT_ACTIVITY", "https://kit.example/webhook", true, "whsec_nft"⟩,
    ⟨"wh_1", "ETH_MAINNET", "ADDRESS_ACTIVITY", "https://kit.example/webhook", true, "whsec_kit"⟩]

theorem processed_mainnetEvent :
    Processed "https://kit.example/webhook" bodyHmac mixedWebhooks signedRequest 0 5 :=
  (@processed_iff_recognised "https://kit.example/webhook" bodyHmac mixedWebhooks signedRequest 0 5
    .addressActivity
    ⟨"wh_1", "ETH_MAINNET", "ADDRESS_ACTIVITY", "https://kit.example/webhook", true, "whsec_kit"⟩
    "sha256=20bea11ef308d9cde9efeb5afe3428c6115183784c3a72c2fa1c5d7740b9f317" signedBody
    (by decide) rfl (by decide) rfl rfl (by decide)).mpr
    ⟨rfl, rfl, by decide, "ETH_MAINNET", by decide, _, rfl, by decide, rfl⟩

def polygonWebhook : AlchemyWebhookResponse :=
  ⟨"wh_1", "MATIC_MAINNET", "ADDRESS_ACTIVITY", "https://kit.example/webhook", true, "whsec_kit"⟩

def polygonBody : List UInt8 :=
  ("\x7b\"webhookId\":\"wh_1\",\"id\":\"evt_1\",\"createdAt\":\"2025-01-01\",\"type\":\"ADDR" ++
    "ESS_ACTIVITY\",\"event\":\x7b\"network\":\"MATIC_MAINNET\",\"activity\":[\x7b\"fromAddre" ++
    "ss\":\"0xab\",\"toAddress\":\"0xcd\",\"hash\":\"0x01\"\x7d]\x7d\x7d").toUTF8.toList

/-- The HMAC-SHA256 of the polygon body under the key of the polygon webhook. -/
def polygonHmac (_ : String) (_ : List UInt8) : Digest :=
  ⟨[15, 207, 249, 240, 129, 254, 35, 94, 80, 205, 186, 236, 40, 15, 20, 59, 224, 214, 166, 25,
    113, 76, 42, 67, 154, 63, 21, 190, 16, 254, 142, 204], by decide⟩

def polygonRequest : WebhookRequest :=
  ⟨some "0fcff9f081fe235e50cdbaec280f143be0d6a619714c2a439a3f15be10fe8ecc",
    ⟨"wh_1", "evt_1", "ADDRESS_ACTIVITY",
      ⟨some "MATIC_MAINNET", [⟨some "0xab", some "0xcd", some "0x01", none, none, none⟩], none,
        none, none⟩⟩,
    some polygonBody⟩

/-- The event of the only webhook, signed with its key, is answered 401: the chain
table calls polygon's network by another name. -/
theorem polygonEvent_not_processed :
    polygonWebhook.isActive = true ∧ polygonWebhook.webhookUrl = "https://kit.example/webhook" ∧
      WebhookEventType.ofString polygonRequest.payload.type = some .addressActivity ∧
      polygonRequest.payload.event.network = some polygonWebhook.network ∧
      normalize (polygonRequest.signature.getD "") =
        signatureOf polygonHmac polygonWebhook.signingKey polygonBody ∧
      ¬ Processed "https://kit.example/webhook" polygonHmac [polygonWebhook] polygonRequest 0 5 := by
  refine ⟨rfl, rfl, rfl, rfl, by decide, ?_⟩
  rintro ⟨h, hHandling, hPhase⟩
  obtain rfl := Option.some.inj hHandling
  cases hPhase

end BalanceKit.Acceptance
