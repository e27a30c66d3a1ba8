import BalanceKit.Webhook.ChainAgreement

/-! The webhook that gives the signing key of a chain, beside the one whose addresses
are updated. The two searches ask for different fields. -/
namespace BalanceKit.SigningKey
open Authentication WebhookManagementService ChainAgreement

/-- `getSigningKeyByUrl` with what the list request answers. -/
def getSigningKeyByUrl (webhookUrl : String) (chain : ChainKey) (forceRefresh : Bool)
    (cache : List (String × SigningKeyCache)) (now : Nat)
    (webhooks : Option (List AlchemyWebhookResponse)) : Option String :=
  let cachedData :=
    if forceRefresh then none else cachedSigningKey cache (cacheKey webhookUrl chain) now
  match cachedData with
  | some key => some key
  | none =>
      (webhooks.bind (findWebhook webhookUrl chain)).map AlchemyWebhookResponse.signingKey

variable (webhookUrl : String) (webhooks : List AlchemyWebhookResponse) (c : ChainName)

/-- The key comes from the webhook whose addresses are updated. -/
def SameWebhook : Prop :=
  ∀ webhook, existingWebhook webhookUrl webhooks c = some webhook →
    ∀ (cache : List (String × SigningKeyCache)) (now : Nat),
      getSigningKeyByUrl webhookUrl (.named c) true cache now (some webhooks) =
        some webhook.signingKey

/-- An active webhook of the address and the network, of any type. -/
def onNetwork (webhook : AlchemyWebhookResponse) : Bool :=
  servesEnvironment webhookUrl webhook && webhook.network == getNetworkIdForChain c

/-- What comes before the first webhook for address activities: if a webhook of another
type is there, the first such has the same key. -/
def KeyInFront : Prop :=
  ∀ before webhook after, webhooks = before ++ webhook :: after →
    matchesChain webhookUrl c webhook = true →
      (∀ v ∈ before, matchesChain webhookUrl c v = false) →
        ∀ earlier other later, before = earlier ++ other :: later →
          onNetwork webhookUrl c other = true → (∀ v ∈ earlier, onNetwork webhookUrl c v = false) →
            other.signingKey = webhook.signingKey

variable {webhookUrl webhooks c} {webhook : AlchemyWebhookResponse}

theorem findWebhook_eq :
    findWebhook webhookUrl (.named c) webhooks = webhooks.find? (onNetwork webhookUrl c) := by
  unfold findWebhook onNetwork servesEnvironment
  congr 1
  funext v
  rw [ChainKey.networkId]
  cases v.isActive <;> simp

theorem onNetwork_of_matchesChain (h : matchesChain webhookUrl c webhook = true) :
    onNetwork webhookUrl c webhook = true := by
  obtain ⟨hNetwork, -, hServes⟩ := matchesChain_iff.mp h
  simp [onNetwork, hNetwork, hServes]

theorem getSigningKeyByUrl_refreshed (cache : List (String × SigningKeyCache)) (now : Nat) :
    getSigningKeyByUrl webhookUrl (.named c) true cache now (some webhooks) =
      (webhooks.find? (onNetwork webhookUrl c)).map AlchemyWebhookResponse.signingKey := by
  rw [getSigningKeyByUrl, if_pos rfl, Option.bind_some, findWebhook_eq]

/-- Keys and updates concern one webhook exactly when no webhook of another type and with
another key comes first. -/
theorem sameWebhook_iff (webhookUrl : String) (webhooks : List AlchemyWebhookResponse)
    (c : ChainName) : SameWebhook webhookUrl webhooks c ↔ KeyInFront webhookUrl webhooks c := by
  unfold SameWebhook
  simp only [getSigningKeyByUrl_refreshed]
  constructor
  · rintro h before webhook after rfl hMatch hFirst earlier other later rfl hOther hEarlier
    have hExisting : existingWebhook webhookUrl (earlier ++ other :: later ++ webhook :: after) c =
        some webhook :=
      existingWebhook_eq_some.mpr ⟨_, _, rfl, hMatch, hFirst⟩
    have hFound : (earlier ++ other :: later ++ webhook :: after).find? (onNetwork webhookUrl c) =
        some other :=
      List.find?_eq_some_iff_append.mpr
        ⟨hOther, earlier, later ++ webhook :: after, by simp, by simpa using hEarlier⟩
    have hKey := h webhook hExisting [] 0
    rw [hFound] at hKey
    exact Option.some.inj hKey
  · intro h webhook hExisting _ _
    obtain ⟨before, after, hSplit, hMatch, hFirst⟩ := existingWebhook_eq_some.mp hExisting
    rw [hSplit, List.find?_append]
    cases hFound : before.find? (onNetwork webhookUrl c) with
    | none =>
        rw [Option.none_or, List.find?_cons_of_pos (onNetwork_of_matchesChain hMatch)]
        rfl
    | some other =>
        obtain ⟨hOther, earlier, later, hBefore, hEarlier⟩ :=
          List.find?_eq_some_iff_append.mp hFound
        have hKey := h before webhook after hSplit hMatch hFirst earlier other later hBefore hOther
          (by simpa using hEarlier)
        rw [Option.some_or, Option.map_some, hKey]

def nftWebhook : AlchemyWebhookResponse :=
  ⟨"wh_1", "ETH_MAINNET", "NFT_ACTIVITY", "https://kit.example/webhook", true, "whsec_nft"⟩

def addressWebhook : AlchemyWebhookResponse :=
  ⟨"wh_2", "ETH_MAINNET", "ADDRESS_ACTIVITY", "https://kit.example/webhook", true, "whsec_kit"⟩

/-- The signatures of `addressWebhook` are checked with the key of the webhook before it. -/
theorem not_sameWebhook_nftWebhook :
    ¬ SameWebhook "https://kit.example/webhook" [nftWebhook, addressWebhook] .ethereum := by
  intro h
  have hKey := h addressWebhook (by decide) [] 0
  exact absurd hKey (by decide)

end BalanceKit.SigningKey
