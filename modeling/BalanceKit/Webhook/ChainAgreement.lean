import BalanceKit.Webhook.Authentication

/-! The chain of a webhook as its three consumers see it. The management service
searches by `getNetworkIdForChain`; the reconciliation and the event handlers read
`NETWORK_ID_TO_CHAIN_MAP` the other way. -/
namespace BalanceKit.ChainAgreement
open Authentication WebhookManagementService

variable (webhookUrl : String) (webhooks : List AlchemyWebhookResponse)

/-- The webhook of the list that `getWebhookIdForChain` returns instead of
creating one. -/
def existingWebhook (c : ChainName) : Option AlchemyWebhookResponse :=
  webhooks.find? (matchesChain webhookUrl c)

/-- An active webhook of this environment. -/
def servesEnvironment (webhook : AlchemyWebhookResponse) : Bool :=
  webhook.isActive && webhook.webhookUrl == webhookUrl

/-- The webhooks that `reconcileWebhookAddresses` passes on to
`reconcileChainAddresses`, each with the chain that it takes it for. -/
def reconcileWebhookAddresses : List (ChainKey × AlchemyWebhookResponse) :=
  if webhookUrl = "" then []
  else (webhooks.filter (servesEnvironment webhookUrl)).filterMap fun webhook =>
    (chainKeyOf webhook.network).map fun chain => (chain, webhook)

/-- What an address-activity handler emits when it takes the event for one of the
chain: one activity for each address of each item. -/
def activitiesOf (c : ChainName) (payload : WebhookEventDto) : List Emission :=
  payload.event.activity.flatMap fun item =>
    (WebhookService.activityAddresses item).map fun address =>
      .addressActivity c (chainInfo c).id address
        ⟨none, item.hash, some payload.type, none, none⟩

/-- Every address-activity event that names the network is handled as one of the
chain. -/
def EmitsFor (c : ChainName) (network : String) : Prop :=
  ∀ (throws : Emission → Bool) (payload : WebhookEventDto),
    WebhookEventType.ofString payload.type = some .addressActivity →
      payload.event.network = some network →
        WebhookService.processWebhookEvent throws true payload = ⟨activitiesOf c payload, false⟩

/-- The webhook that management uses for the chain is reconciled as this chain and
as no other, and its events are handled as the chain's; whatever is reconciled as
the chain is on the network that management searches for. -/
def Agree (c : ChainName) : Prop :=
  (∀ webhook ∈ existingWebhook webhookUrl webhooks c,
    (.named c, webhook) ∈ reconcileWebhookAddresses webhookUrl webhooks ∧
      (∀ chain, (chain, webhook) ∈ reconcileWebhookAddresses webhookUrl webhooks →
        chain = .named c) ∧
      EmitsFor c webhook.network) ∧
  ∀ webhook, (.named c, webhook) ∈ reconcileWebhookAddresses webhookUrl webhooks →
    webhook.network = getNetworkIdForChain c

/-- The two tables have the same network identifier for the chain. -/
def SameIdentifier (c : ChainName) : Prop :=
  (chainInfo c).networkIdentifier = getNetworkIdForChain c

/-- No webhook of the list is one that management would use for the chain, nor one
of this environment on the network of the chain table. -/
def Unused (c : ChainName) : Prop :=
  (∀ webhook ∈ webhooks, matchesChain webhookUrl c webhook = false) ∧
    (webhookUrl = "" ∨ ∀ webhook ∈ webhooks, servesEnvironment webhookUrl webhook = true →
      webhook.network ≠ (chainInfo c).networkIdentifier)

instance (c : ChainName) : Decidable (SameIdentifier c) :=
  inferInstanceAs (Decidable ((chainInfo c).networkIdentifier = getNetworkIdForChain c))

/-- Only three chains have one identifier. For the others the two tables spell the network
differently. -/
theorem sameIdentifier_iff (c : ChainName) :
    SameIdentifier c ↔ c ∈ [.ethereum, .ethereumGoerli, .ethereumSepolia] := by
  cases c <;> decide

variable {webhookUrl webhooks} {c : ChainName} {webhook : AlchemyWebhookResponse}

theorem chainKeyOf_eq_named {network : String} :
    chainKeyOf network = some (.named c) ↔ network = (chainInfo c).networkIdentifier := by
  rw [← getChainNameFromNetworkId_eq_own]
  unfold chainKeyOf
  cases getChainNameFromNetworkId network <;> simp

theorem mem_reconcileWebhookAddresses {chain : ChainKey} :
    (chain, webhook) ∈ reconcileWebhookAddresses webhookUrl webhooks ↔
      webhookUrl ≠ "" ∧ webhook ∈ webhooks ∧ servesEnvironment webhookUrl webhook = true ∧
        chainKeyOf webhook.network = some chain := by
  unfold reconcileWebhookAddresses
  by_cases hUrl : webhookUrl = ""
  · simp [hUrl]
  · simp [hUrl, and_assoc]

/-- Reconciled as a chain means on the network of the chain table. -/
theorem mem_reconcile_named :
    (.named c, webhook) ∈ reconcileWebhookAddresses webhookUrl webhooks ↔
      webhookUrl ≠ "" ∧ webhook ∈ webhooks ∧ servesEnvironment webhookUrl webhook = true ∧
        webhook.network = (chainInfo c).networkIdentifier := by
  rw [mem_reconcileWebhookAddresses, chainKeyOf_eq_named]

theorem emitsFor_of_own (h : (chainInfo c).networkIdentifier = webhook.network) :
    EmitsFor c webhook.network := by
  intro throws payload hType hNetwork
  have hOwn : getChainNameFromNetworkId (WebhookService.networkKey payload.event) = .own c := by
    rw [getChainNameFromNetworkId_eq_own, h, WebhookService.networkKey, hNetwork]
    rfl
  have hChain := WebhookService.resolveChain_ok.mpr ⟨hOwn, rfl⟩
  simp [WebhookService.processWebhookEvent, hType, WebhookService.handleAddressActivity,
    WebhookService.withChain, hChain, activitiesOf]

/-- What a webhook that management would use looks like. It watches addresses on the network of the
chain and serves this environment. -/
theorem matchesChain_iff :
    matchesChain webhookUrl c webhook = true ↔
      webhook.network = getNetworkIdForChain c ∧ webhook.webhookType = "ADDRESS_ACTIVITY" ∧
        servesEnvironment webhookUrl webhook = true := by
  simp [matchesChain, servesEnvironment, and_assoc]

theorem existingWebhook_eq_none :
    existingWebhook webhookUrl webhooks c = none ↔
      ∀ webhook ∈ webhooks, matchesChain webhookUrl c webhook = false := by
  simp [existingWebhook]

/-- The first webhook of the list that management would use. -/
theorem existingWebhook_eq_some :
    existingWebhook webhookUrl webhooks c = some webhook ↔
      ∃ before after, webhooks = before ++ webhook :: after ∧
        matchesChain webhookUrl c webhook = true ∧
          ∀ v ∈ before, matchesChain webhookUrl c v = false := by
  rw [existingWebhook, List.find?_eq_some_iff_append]
  constructor
  · rintro ⟨hMatch, before, after, hSplit, hBefore⟩
    exact ⟨before, after, hSplit, hMatch, by simpa using hBefore⟩
  · rintro ⟨before, after, hSplit, hMatch, hBefore⟩
    exact ⟨hMatch, before, after, hSplit, by simpa using hBefore⟩

/-- With one identifier in a configured environment the consumers agree. Each of them then picks the
same webhooks from the list. -/
theorem agree_of_sameIdentifier (hSame : SameIdentifier c) (hUrl : webhookUrl ≠ "") :
    Agree webhookUrl webhooks c := by
  refine ⟨fun webhook hExisting => ?_, fun webhook hReconciled => ?_⟩
  · have hMember := List.mem_of_find?_eq_some hExisting
    obtain ⟨hNetwork, -, hServes⟩ := matchesChain_iff.mp (List.find?_some hExisting)
    have hOwn : webhook.network = (chainInfo c).networkIdentifier := hNetwork.trans hSame.symm
    refine ⟨mem_reconcile_named.mpr ⟨hUrl, hMember, hServes, hOwn⟩, ?_, emitsFor_of_own hOwn.symm⟩
    intro chain hOther
    have hChain := (mem_reconcileWebhookAddresses.mp hOther).2.2.2
    rw [chainKeyOf_eq_named.mpr hOwn] at hChain
    exact (Option.some.inj hChain).symm
  · exact (mem_reconcile_named.mp hReconciled).2.2.2.trans hSame

/-- The consumers agree exactly where the tables have one identifier, or where no
webhook of the list concerns the chain. -/
theorem agree_iff (webhookUrl : String) (webhooks : List AlchemyWebhookResponse) (c : ChainName) :
    Agree webhookUrl webhooks c ↔
      SameIdentifier c ∧ webhookUrl ≠ "" ∨ Unused webhookUrl webhooks c := by
  constructor
  · intro hAgree
    obtain ⟨hUsed, hReconciled⟩ := hAgree
    by_cases hGood : SameIdentifier c ∧ webhookUrl ≠ ""
    · exact .inl hGood
    refine .inr ⟨?_, ?_⟩
    · rw [← existingWebhook_eq_none]
      cases hExisting : existingWebhook webhookUrl webhooks c with
      | none => rfl
      | some webhook =>
          obtain ⟨hMember, -, -⟩ := hUsed webhook hExisting
          obtain ⟨hUrl, -, -, hOwn⟩ := mem_reconcile_named.mp hMember
          have hNetwork := (matchesChain_iff.mp (List.find?_some hExisting)).1
          exact absurd ⟨hOwn.symm.trans hNetwork, hUrl⟩ hGood
    · by_cases hUrl : webhookUrl = ""
      · exact .inl hUrl
      · refine .inr fun webhook hMember hServes hOwn => hGood ⟨?_, hUrl⟩
        exact hOwn.symm.trans
          (hReconciled webhook (mem_reconcile_named.mpr ⟨hUrl, hMember, hServes, hOwn⟩))
  · rintro (⟨hSame, hUrl⟩ | ⟨hNoMatch, hNoTable⟩)
    · exact agree_of_sameIdentifier hSame hUrl
    · refine ⟨fun webhook hExisting => ?_, fun webhook hReconciled => ?_⟩
      · rw [existingWebhook_eq_none.mpr hNoMatch] at hExisting
        cases hExisting
      · obtain ⟨hUrl, hMember, hServes, hOwn⟩ := mem_reconcile_named.mp hReconciled
        exact absurd hOwn (hNoTable.resolve_left hUrl webhook hMember hServes)

def polygonWebhook : AlchemyWebhookResponse :=
  ⟨"wh_1", "MATIC_MAINNET", "ADDRESS_ACTIVITY", "https://kit.example/webhook", true, "whsec_kit"⟩

/-- Management uses a polygon webhook that the reconciliation passes over. The removal of stale
addresses therefore never reaches it. -/
theorem not_agree_polygon :
    ¬ Agree "https://kit.example/webhook" [polygonWebhook] .polygon := by
  intro hAgree
  obtain ⟨hMember, -, -⟩ := hAgree.1 polygonWebhook (by decide)
  exact absurd (mem_reconcile_named.mp hMember).2.2.2 (by decide)

end BalanceKit.ChainAgreement
