import BalanceKit.Library.Runs
import BalanceKit.Webhook.Events
import BalanceKit.Webhook.Signature

/-! The webhook endpoint: which signing key a request is checked against, and what
a request that passes the check emits. Requests interleave at their awaits and
share one cache of signing keys. -/
namespace BalanceKit.Authentication
open TransitionSystem Signature

/-- What `NETWORK_ID_TO_CHAIN_MAP` gives for a network when it is truthy: a chain,
or a member that every object inherits. -/
inductive ChainKey where
  | named (c : ChainName)
  | member (key : String)
  deriving DecidableEq

/-- The text of the value in a template string. -/
def ChainKey.text : ChainKey → String
  | .named c => c.value
  | .member key =>
      if key = "__proto__" then "[object Object]"
      else "function " ++ (if key = "constructor" then "Object" else key) ++ "() { [native code] }"

/-- `getNetworkIdForChain` of the management service. -/
def ChainKey.networkId : ChainKey → String
  | .named c => getNetworkIdForChain c
  | .member _ => "ETH_MAINNET"

def chainKeyOf (networkId : String) : Option ChainKey :=
  match getChainNameFromNetworkId networkId with
  | .own c => some (.named c)
  | .inherited => some (.member networkId)
  | .missing => none

structure WebhookRequest where
  signature : Option String
  payload : WebhookEventDto
  rawBody : Option (List UInt8)

/-- The network that the controller reads, which depends on the type. -/
def requestNetwork (payload : WebhookEventDto) : Option String :=
  match WebhookEventType.ofString payload.type with
  | some .addressActivity => payload.event.network
  | some .nftActivity => payload.event.network
  | some .minedTransaction => payload.event.network
  | some .droppedTransaction => payload.event.network
  | _ => none

def requestChain (payload : WebhookEventDto) : Option ChainKey :=
  (Text.present (requestNetwork payload)).bind chainKeyOf

structure SigningKeyCache where
  key : String
  expiresAt : Nat

/-- The answer to a request. An error that is no HTTP exception is answered by the
exception filter. -/
inductive Reply where
  | success
  | exception (status : Nat) (message : String)
  | crashed

def missingSignature : Reply := .exception 401 "Missing signature"
def urlNotConfigured : Reply := .exception 400 "Webhook URL is not configured"
def signingKeyNotFound : Reply := .exception 401 "Cannot verify webhook: signing key not found"
def invalidSignature : Reply := .exception 401 "Invalid webhook signature"

inductive Phase where
  | listing (chain : ChainKey)
  | keyed (signingKey : Option String)
  | saving
  | answered (reply : Reply)

/-- A request in progress, with the clock and the number of listings at the moment
at which it looked up its key. -/
structure Handling where
  request : WebhookRequest
  lookedUpAt : Nat
  listedBefore : Nat
  phase : Phase
  emitted : List Emission

/-- A listing as the service received it. -/
structure Listing where
  webhooks : List AlchemyWebhookResponse
  receivedAt : Nat

structure State where
  signingKeyCache : List (String × SigningKeyCache)
  listings : List Listing
  handlings : List Handling

def State.init : State := ⟨[], [], []⟩

def cacheTTL : Nat := 30 * 60 * 1000

def cacheKey (webhookUrl : String) (chain : ChainKey) : String := webhookUrl ++ ":" ++ chain.text

/-- The key that is cached and has not expired. -/
def cachedSigningKey (cache : List (String × SigningKeyCache)) (key : String) (now : Nat) :
    Option String :=
  (cache.lookup key).bind fun cached => if cached.expiresAt > now then some cached.key else none

/-- The webhook that gives the signing key of a chain. -/
def findWebhook (webhookUrl : String) (chain : ChainKey)
    (webhooks : List AlchemyWebhookResponse) : Option AlchemyWebhookResponse :=
  webhooks.find? fun webhook => webhook.webhookUrl == webhookUrl &&
    webhook.network == chain.networkId && webhook.isActive

def setSigningKey (cache : List (String × SigningKeyCache)) (key : String)
    (entry : SigningKeyCache) : List (String × SigningKeyCache) :=
  (key, entry) :: cache.filter fun cached => cached.1 != key

/-- `clearSigningKeyCache`, by address and chain, by either, or altogether. -/
def clearSigningKeyCache (url : Option String) (chain : Option ChainKey)
    (cache : List (String × SigningKeyCache)) : List (String × SigningKeyCache) :=
  match Text.present url, chain with
  | some url, some chain => cache.filter fun cached => cached.1 != cacheKey url chain
  | some url, none => cache.filter fun cached =>
      !(cached.1 == url || (url ++ ":").toList.isPrefixOf cached.1.toList)
  | none, some chain => cache.filter fun cached => !Text.includes cached.1 (":" ++ chain.text)
  | none, none => []

namespace State
variable (s : State)

def move (i : Nat) (handling : Handling) : State :=
  { s with handlings := s.handlings.set i handling }

def setCache (cache : List (String × SigningKeyCache)) : State :=
  { s with signingKeyCache := cache }

def addListing (listing : Listing) : State := { s with listings := s.listings ++ [listing] }

def spawn (handling : Handling) : State := { s with handlings := s.handlings ++ [handling] }

end State

def Handling.setPhase (h : Handling) (phase : Phase) : Handling := { h with phase := phase }

variable (webhookUrl : String) (hmac : String → List UInt8 → Digest)

/-- `handleWebhook` up to its first await: the first check that fails answers, a
cached key is used, and otherwise the webhooks are listed. -/
def firstPhase (s : State) (request : WebhookRequest) (now : Nat) : Phase :=
  if Text.present request.signature = none then .answered missingSignature
  else if webhookUrl = "" then .answered urlNotConfigured
  else
    match requestChain request.payload with
    | none => .keyed none
    | some chain =>
        match cachedSigningKey s.signingKeyCache (cacheKey webhookUrl chain) now with
        | some signingKey => .keyed (some signingKey)
        | none => .listing chain

inductive Action where
  | handleWebhook (request : WebhookRequest) (now : Nat)
  | receive (i : Nat) (webhooks : Option (List AlchemyWebhookResponse)) (now : Nat)
  | verify (i : Nat)
  | process (i : Nat) (saved : Bool) (throws : Emission → Bool)
  | clearSigningKeyCache (url : Option String) (chain : Option ChainKey)

/-- The rest of `getSigningKeyByUrl` after the listing was received. -/
def receiveListing (s : State) (i : Nat) (h : Handling) (chain : ChainKey)
    (webhooks : List AlchemyWebhookResponse) (now : Nat) : State :=
  let listed := s.addListing ⟨webhooks, now⟩
  match findWebhook webhookUrl chain webhooks with
  | none => listed.move i (h.setPhase (.keyed none))
  | some webhook =>
      if webhook.signingKey = "" then listed.move i (h.setPhase (.keyed (some webhook.signingKey)))
      else
        (listed.setCache (setSigningKey s.signingKeyCache (cacheKey webhookUrl chain)
          ⟨webhook.signingKey, now + cacheTTL⟩)).move i
            (h.setPhase (.keyed (some webhook.signingKey)))

/-- The rest of `handleWebhook` up to `processWebhookEvent`. -/
def verifyRequest (s : State) (i : Nat) (h : Handling) (signingKey : Option String) : State :=
  match Text.present signingKey with
  | none => s.move i (h.setPhase (.answered signingKeyNotFound))
  | some signingKey =>
      match validateAlchemySignature hmac (h.request.signature.getD "") h.request.rawBody
          signingKey with
      | .valid => s.move i (h.setPhase .saving)
      | .invalid =>
          (s.setCache (clearSigningKeyCache none none s.signingKeyCache)).move i
            (h.setPhase (.answered invalidSignature))
      | .threw => s.move i (h.setPhase (.answered .crashed))

def processRequest (s : State) (i : Nat) (h : Handling) (saved : Bool) (throws : Emission → Bool) :
    State :=
  let outcome := WebhookService.processWebhookEvent throws saved h.request.payload
  s.move i { h with
    phase := .answered (if outcome.threw then .crashed else .success)
    emitted := outcome.emitted }

/-- A listing that fails counts as none; one that arrives is recorded. -/
def step (s : State) : Action → Option State
  | .handleWebhook request now =>
      some (s.spawn
        ⟨request, now, s.listings.length, firstPhase webhookUrl s request now, []⟩)
  | .receive i answer now =>
      match s.handlings[i]? with
      | some h =>
          match h.phase, answer with
          | .listing _, none => some (s.move i (h.setPhase (.keyed none)))
          | .listing chain, some webhooks => some (receiveListing webhookUrl s i h chain webhooks now)
          | _, _ => none
      | none => none
  | .verify i =>
      match s.handlings[i]? with
      | some h =>
          match h.phase with
          | .keyed signingKey => some (verifyRequest hmac s i h signingKey)
          | _ => none
      | none => none
  | .process i saved throws =>
      match s.handlings[i]? with
      | some h =>
          match h.phase with
          | .saving => some (processRequest s i h saved throws)
          | _ => none
      | none => none
  | .clearSigningKeyCache url chain =>
      some (s.setCache (clearSigningKeyCache url chain s.signingKeyCache))

/-- The listing gives the key for an active webhook of the chain at the configured
address. -/
def Gives (listing : Listing) (c : ChainName) (signingKey : String) : Prop :=
  ∃ webhook ∈ listing.webhooks, webhook.isActive = true ∧ webhook.webhookUrl = webhookUrl ∧
    webhook.network = getNetworkIdForChain c ∧ webhook.signingKey = signingKey

/-- A listing gave the key after the request looked it up, or at most half an hour
before. -/
def Provided (listings : List Listing) (h : Handling) (c : ChainName) (signingKey : String) : Prop :=
  ∃ n : Nat, ∃ listing, listings[n]? = some listing ∧ Gives webhookUrl listing c signingKey ∧
    (h.listedBefore ≤ n ∨ h.lookedUpAt ≤ listing.receivedAt + cacheTTL)

/-- The request is signed with a key that was provided for the chain. -/
def Authentic (listings : List Listing) (h : Handling) (c : ChainName) : Prop :=
  ∃ signingKey header body, Provided webhookUrl listings h c signingKey ∧
    h.request.signature = some header ∧ h.request.rawBody = some body ∧
    normalize header = signatureOf hmac signingKey body

/-- Every address activity that a request emitted is authentic. -/
def NoForgery (s : State) : Prop :=
  ∀ h ∈ s.handlings, ∀ c chainId address metadata,
    .addressActivity c chainId address metadata ∈ h.emitted →
      chainId = (chainInfo c).id ∧ Authentic webhookUrl hmac s.listings h c

/-- What a request has established when it reaches an await. -/
def PhaseSound (listings : List Listing) (h : Handling) : Prop :=
  match h.phase with
  | .listing chain => h.listedBefore ≤ listings.length ∧
      (∃ header, h.request.signature = some header) ∧
        requestChain h.request.payload = some chain
  | .keyed signingKey => ∀ key, Text.present signingKey = some key →
      (∃ header, h.request.signature = some header) ∧
        ∃ chain, requestChain h.request.payload = some chain ∧
          ∀ c, chain = .named c → Provided webhookUrl listings h c key
  | .saving => ∃ chain, requestChain h.request.payload = some chain ∧
      ∀ c, chain = .named c → Authentic webhookUrl hmac listings h c
  | .answered _ => True

/-- A cached key of a chain came from a listing half an hour before it expires. -/
def CacheSound (listings : List Listing) (cache : List (String × SigningKeyCache)) : Prop :=
  ∀ cached ∈ cache, ∀ c, cached.1 = cacheKey webhookUrl (.named c) →
    ∃ listing ∈ listings, Gives webhookUrl listing c cached.2.key ∧
      cached.2.expiresAt = listing.receivedAt + cacheTTL

structure Inv (s : State) : Prop where
  cache : CacheSound webhookUrl s.listings s.signingKeyCache
  phases : ∀ h ∈ s.handlings, PhaseSound webhookUrl hmac s.listings h
  emissions : NoForgery webhookUrl hmac s

variable {webhookUrl hmac}

theorem Inv.init : Inv webhookUrl hmac State.init :=
  ⟨fun _ h => (by cases h), fun _ h => (by cases h), fun _ h => (by cases h)⟩

section Chains

/-- An inherited member never reads like a chain. -/
theorem eq_named_of_text {chain : ChainKey} {c : ChainName} (h : chain.text = c.value) :
    chain = .named c := by
  cases chain with
  | named d => rw [ChainName.value_injective h]
  | member key =>
      have hHead := congrArg (fun text => text.toList.head?) h
      have hFirst : (ChainKey.member key).text.toList.head? = some '[' ∨
          (ChainKey.member key).text.toList.head? = some 'f' := by
        by_cases hProto : key = "__proto__"
        · subst hProto
          exact .inl (by decide)
        · exact .inr (by simp [ChainKey.text, hProto, String.toList_append])
      have hOther : c.value.toList.head? ≠ some '[' ∧ c.value.toList.head? ≠ some 'f' := by
        cases c <;> decide
      rcases hFirst with hFirst | hFirst
      · exact absurd (hHead.symm.trans hFirst) hOther.1
      · exact absurd (hHead.symm.trans hFirst) hOther.2

/-- The cache keys of one address tell the chains apart, the inherited members included. The chain
stands behind the last colon of the key. -/
theorem eq_named_of_cacheKey {chain : ChainKey} {c : ChainName}
    (h : cacheKey webhookUrl chain = cacheKey webhookUrl (.named c)) : chain = .named c := by
  refine eq_named_of_text ?_
  have hTexts := congrArg String.toList h
  simp only [cacheKey, String.toList_append] at hTexts
  exact String.toList_inj.mp (List.append_cancel_left hTexts)

/-- The service resolves the network to the chain whose key the controller used. Controller and
service use one table for it. -/
theorem chain_of_emitted {payload : WebhookEventDto} {saved : Bool} {throws : Emission → Bool}
    {c : ChainName} {chainId : Nat} {address : String} {metadata : ActivityMetadata}
    {chain : ChainKey} (hChain : requestChain payload = some chain)
    (hEmitted : .addressActivity c chainId address metadata ∈
      (WebhookService.processWebhookEvent throws saved payload).emitted) :
    chain = .named c ∧ chainId = (chainInfo c).id := by
  obtain ⟨hOwn, hId, hType⟩ := WebhookService.chain_of_addressActivity hEmitted
  have hNetwork : requestNetwork payload = payload.event.network := by
    simp only [List.mem_cons, List.not_mem_nil, or_false] at hType
    rcases hType with hType | hType | hType <;> simp [requestNetwork, hType]
  unfold requestChain at hChain
  rw [hNetwork] at hChain
  obtain ⟨networkId, hPresent, hKey⟩ := Option.bind_eq_some_iff.mp hChain
  have hKnown : payload.event.network = some networkId := Text.eq_some_of_present hPresent
  rw [WebhookService.networkKey, hKnown, Option.getD_some] at hOwn
  rw [chainKeyOf, hOwn] at hKey
  exact ⟨(Option.some.inj hKey).symm, hId⟩

end Chains

section Listings
variable {listings : List Listing} {h : Handling} {c : ChainName} {signingKey : String}

/-- A listing that gave the key stays in the record when more listings arrive. -/
theorem Provided.append (hProvided : Provided webhookUrl listings h c signingKey)
    (more : List Listing) : Provided webhookUrl (listings ++ more) h c signingKey := by
  obtain ⟨n, listing, hListing, hRest⟩ := hProvided
  refine ⟨n, listing, ?_, hRest⟩
  rw [List.getElem?_append_left (List.getElem?_eq_some_iff.mp hListing).1]
  exact hListing

theorem Authentic.append (hAuthentic : Authentic webhookUrl hmac listings h c)
    (more : List Listing) : Authentic webhookUrl hmac (listings ++ more) h c := by
  obtain ⟨signingKey, header, body, hProvided, hRest⟩ := hAuthentic
  exact ⟨signingKey, header, body, hProvided.append more, hRest⟩

theorem PhaseSound.append (hSound : PhaseSound webhookUrl hmac listings h) (more : List Listing) :
    PhaseSound webhookUrl hmac (listings ++ more) h := by
  unfold PhaseSound at hSound ⊢
  split
  · rename_i hPhase
    rw [hPhase] at hSound
    refine ⟨?_, hSound.2⟩
    rw [List.length_append]
    exact Nat.le_add_right_of_le hSound.1
  · rename_i hPhase
    rw [hPhase] at hSound
    intro key hKey
    obtain ⟨hSigned, chain, hChain, hProvided⟩ := hSound key hKey
    exact ⟨hSigned, chain, hChain, fun c hNamed => (hProvided c hNamed).append more⟩
  · rename_i hPhase
    rw [hPhase] at hSound
    obtain ⟨chain, hChain, hAuthentic⟩ := hSound
    exact ⟨chain, hChain, fun c hNamed => (hAuthentic c hNamed).append more⟩
  · trivial

/-- The webhook that is found is active, at the configured address and on the network of the
chain. -/
theorem gives_of_findWebhook {listing : Listing} {webhook : AlchemyWebhookResponse}
    (hFind : findWebhook webhookUrl (.named c) listing.webhooks = some webhook) :
    Gives webhookUrl listing c webhook.signingKey := by
  have hMatch := List.find?_some hFind
  simp only [Bool.and_eq_true, beq_iff_eq] at hMatch
  exact ⟨webhook, List.mem_of_find?_eq_some hFind, hMatch.2, hMatch.1.1, hMatch.1.2, rfl⟩

end Listings

section Cache
variable {listings : List Listing} {cache : List (String × SigningKeyCache)}

/-- Clearing removes entries, by whichever of its four rules, and adds none. -/
theorem clearSigningKeyCache_subset (url : Option String) (chain : Option ChainKey) :
    clearSigningKeyCache url chain cache ⊆ cache := by
  unfold clearSigningKeyCache
  split
  · exact List.filter_subset_self _
  · exact List.filter_subset_self _
  · exact List.filter_subset_self _
  · exact List.nil_subset _

theorem CacheSound.clear (hCache : CacheSound webhookUrl listings cache) (url : Option String)
    (chain : Option ChainKey) :
    CacheSound webhookUrl listings (clearSigningKeyCache url chain cache) :=
  fun cached hCached => hCache cached (clearSigningKeyCache_subset url chain hCached)

theorem CacheSound.append (hCache : CacheSound webhookUrl listings cache) (more : List Listing) :
    CacheSound webhookUrl (listings ++ more) cache := by
  intro cached hCached c hKey
  obtain ⟨listing, hListing, hRest⟩ := hCache cached hCached c hKey
  exact ⟨listing, List.mem_append_left _ hListing, hRest⟩

/-- A key that was just listed is cached for half an hour from its receipt. The entry speaks of no
other chain, because the cache keys differ. -/
theorem CacheSound.set (hCache : CacheSound webhookUrl listings cache) {chain : ChainKey}
    {listing : Listing} (hListing : listing ∈ listings) {signingKey : String}
    (hGives : ∀ c, chain = .named c → Gives webhookUrl listing c signingKey) :
    CacheSound webhookUrl listings (setSigningKey cache (cacheKey webhookUrl chain)
      ⟨signingKey, listing.receivedAt + cacheTTL⟩) := by
  intro cached hCached c hKey
  rcases List.mem_cons.mp hCached with rfl | hOld
  · exact ⟨listing, hListing, hGives c (eq_named_of_cacheKey hKey), rfl⟩
  · exact hCache cached (List.mem_of_mem_filter hOld) c hKey

/-- A key that is still cached came from a listing at most half an hour ago. After that time the
entry is passed over and the key is listed again. -/
theorem CacheSound.provided (hCache : CacheSound webhookUrl listings cache) {c : ChainName}
    {now : Nat} {signingKey : String} {h : Handling} (hNow : h.lookedUpAt = now)
    (hCached : cachedSigningKey cache (cacheKey webhookUrl (.named c)) now = some signingKey) :
    Provided webhookUrl listings h c signingKey := by
  obtain ⟨cached, hLookup, hLive⟩ := Option.bind_eq_some_iff.mp hCached
  split at hLive
  · rename_i hUnexpired
    cases hLive
    obtain ⟨listing, hListing, hGives, hExpiry⟩ :=
      hCache _ (OrderedMap.mem_of_lookup hLookup) c rfl
    obtain ⟨n, hn⟩ := List.mem_iff_getElem?.mp hListing
    refine ⟨n, listing, hn, hGives, .inr ?_⟩
    simp only at hExpiry
    omega
  · cases hLive

end Cache

section Steps
variable {s : State}

theorem Inv.move (hInv : Inv webhookUrl hmac s) {i : Nat} {h : Handling}
    (hPhase : PhaseSound webhookUrl hmac s.listings h)
    (hEmitted : ∀ c chainId address metadata,
      .addressActivity c chainId address metadata ∈ h.emitted →
        chainId = (chainInfo c).id ∧ Authentic webhookUrl hmac s.listings h c) :
    Inv webhookUrl hmac (s.move i h) :=
  ⟨hInv.cache, ProcessTable.forall_mem_set hInv.phases hPhase,
    ProcessTable.forall_mem_set hInv.emissions hEmitted⟩

/-- A change of phase keeps what the request emitted. Only processing adds to it, which is a step of
its own. -/
theorem Inv.setPhase (hInv : Inv webhookUrl hmac s) {i : Nat} {h : Handling} {phase : Phase}
    (hMember : h ∈ s.handlings)
    (hPhase : PhaseSound webhookUrl hmac s.listings (h.setPhase phase)) :
    Inv webhookUrl hmac (s.move i (h.setPhase phase)) :=
  hInv.move hPhase (hInv.emissions h hMember)

theorem Inv.setCache (hInv : Inv webhookUrl hmac s) {cache : List (String × SigningKeyCache)}
    (hCache : CacheSound webhookUrl s.listings cache) : Inv webhookUrl hmac (s.setCache cache) :=
  ⟨hCache, hInv.phases, hInv.emissions⟩

theorem Inv.addListing (hInv : Inv webhookUrl hmac s) (listing : Listing) :
    Inv webhookUrl hmac (s.addListing listing) := by
  refine ⟨hInv.cache.append _, fun h hMember => (hInv.phases h hMember).append _, ?_⟩
  intro h hMember c chainId address metadata hEmitted
  obtain ⟨hId, hAuthentic⟩ := hInv.emissions h hMember c chainId address metadata hEmitted
  exact ⟨hId, hAuthentic.append _⟩

theorem eq_some_of_signed {request : WebhookRequest}
    (hSigned : ¬ Text.present request.signature = none) :
    ∃ header, request.signature = some header := by
  obtain ⟨header, hHeader⟩ := Option.ne_none_iff_exists'.mp hSigned
  exact ⟨header, Text.eq_some_of_present hHeader⟩

/-- Up to the first await a request has passed the checks of its signature and address, and has a
key from the cache or goes on to ask for the webhooks. -/
theorem phaseSound_firstPhase (hInv : Inv webhookUrl hmac s) (request : WebhookRequest) (now : Nat) :
    PhaseSound webhookUrl hmac s.listings
      ⟨request, now, s.listings.length, firstPhase webhookUrl s request now, []⟩ := by
  unfold PhaseSound firstPhase
  by_cases hSigned : Text.present request.signature = none
  · simp [hSigned]
  by_cases hUrl : webhookUrl = ""
  · simp [hSigned, hUrl]
  simp only [if_neg hSigned, if_neg hUrl]
  cases hChain : requestChain request.payload with
  | none => simp [Text.present]
  | some chain =>
      simp only
      cases hCached : cachedSigningKey s.signingKeyCache (cacheKey webhookUrl chain) now with
      | none => exact ⟨Nat.le_refl _, eq_some_of_signed hSigned, rfl⟩
      | some signingKey =>
          intro key hKey
          obtain rfl : signingKey = key := Option.some.inj (Text.eq_some_of_present hKey)
          refine ⟨eq_some_of_signed hSigned, chain, rfl, fun c hNamed => ?_⟩
          subst hNamed
          exact hInv.cache.provided rfl hCached

/-- The listing that a request waits for was not there when it looked up its key. The key that it is
given now is one of this listing. -/
theorem Inv.receiveListing (hInv : Inv webhookUrl hmac s) {i : Nat} {h : Handling}
    {chain : ChainKey} (hMember : h ∈ s.handlings) (hPhase : h.phase = .listing chain)
    (webhooks : List AlchemyWebhookResponse) (now : Nat) :
    Inv webhookUrl hmac (receiveListing webhookUrl s i h chain webhooks now) := by
  have hListed := hInv.addListing ⟨webhooks, now⟩
  have hSound := hInv.phases h hMember
  unfold PhaseSound at hSound
  rw [hPhase] at hSound
  obtain ⟨hBefore, hSigned, hChain⟩ := hSound
  unfold Authentication.receiveListing
  cases hFind : findWebhook webhookUrl chain webhooks with
  | none => exact hListed.setPhase hMember (by simp [PhaseSound, Handling.setPhase, Text.present])
  | some webhook =>
      have hGives : ∀ c, chain = .named c →
          Gives webhookUrl ⟨webhooks, now⟩ c webhook.signingKey := by
        rintro c rfl
        exact @gives_of_findWebhook webhookUrl c ⟨webhooks, now⟩ webhook hFind
      have hKeyed : PhaseSound webhookUrl hmac (s.addListing ⟨webhooks, now⟩).listings
          (h.setPhase (.keyed (some webhook.signingKey))) := by
        intro key hKey
        obtain rfl : webhook.signingKey = key := Option.some.inj (Text.eq_some_of_present hKey)
        refine ⟨hSigned, chain, hChain, fun c hNamed => ?_⟩
        exact ⟨s.listings.length, ⟨webhooks, now⟩, by simp [State.addListing], hGives c hNamed,
          .inl hBefore⟩
      simp only
      split
      · exact hListed.setPhase hMember hKeyed
      · refine (hListed.setCache ?_).setPhase hMember hKeyed
        exact (hInv.cache.append [⟨webhooks, now⟩]).set (by simp) hGives

/-- Only a request with a valid signature gets past the check. What follows the check may rely on
the digest. -/
theorem Inv.verifyRequest (hInv : Inv webhookUrl hmac s) {i : Nat} {h : Handling}
    {signingKey : Option String} (hMember : h ∈ s.handlings) (hPhase : h.phase = .keyed signingKey) :
    Inv webhookUrl hmac (verifyRequest hmac s i h signingKey) := by
  have hSound := hInv.phases h hMember
  unfold PhaseSound at hSound
  rw [hPhase] at hSound
  unfold Authentication.verifyRequest
  cases hKey : Text.present signingKey with
  | none => exact hInv.setPhase hMember trivial
  | some key =>
      obtain ⟨⟨header, hHeader⟩, chain, hChain, hProvided⟩ := hSound key hKey
      simp only
      split
      · rename_i hValid
        obtain ⟨body, hBody, hSignature⟩ := normalize_of_valid hValid
        rw [hHeader, Option.getD_some] at hSignature
        exact hInv.setPhase hMember ⟨chain, hChain, fun c hNamed =>
          ⟨key, header, body, hProvided c hNamed, hHeader, hBody, hSignature⟩⟩
      · exact (hInv.setCache (hInv.cache.clear none none)).setPhase hMember trivial
      · exact hInv.setPhase hMember trivial

/-- The events are emitted from the payload that was checked, and for the chain whose key was
used. -/
theorem Inv.processRequest (hInv : Inv webhookUrl hmac s) {i : Nat} {h : Handling}
    (hMember : h ∈ s.handlings) (hPhase : h.phase = .saving) (saved : Bool)
    (throws : Emission → Bool) : Inv webhookUrl hmac (processRequest s i h saved throws) := by
  have hSound := hInv.phases h hMember
  unfold PhaseSound at hSound
  rw [hPhase] at hSound
  obtain ⟨chain, hChain, hAuthentic⟩ := hSound
  refine hInv.move trivial fun c chainId address metadata hEmitted => ?_
  obtain ⟨hNamed, hId⟩ := chain_of_emitted hChain hEmitted
  exact ⟨hId, hAuthentic c hNamed⟩

/-- Every step keeps the invariant, in whatever order the requests proceed and with whatever
Alchemy answers. -/
theorem inv_step {t : State} {a : Action} (hInv : Inv webhookUrl hmac s)
    (hStep : step webhookUrl hmac s a = some t) : Inv webhookUrl hmac t := by
  cases a with
  | handleWebhook request now =>
      cases hStep
      refine ⟨hInv.cache, fun h hMember => ?_, fun h hMember => ?_⟩
      · rcases List.mem_append.mp hMember with hOld | hNew
        · exact hInv.phases h hOld
        · rw [List.mem_singleton.mp hNew]
          exact phaseSound_firstPhase hInv request now
      · rcases List.mem_append.mp hMember with hOld | hNew
        · exact hInv.emissions h hOld
        · rw [List.mem_singleton.mp hNew]
          intro _ _ _ _ hEmitted
          cases hEmitted
  | receive i answer now =>
      simp only [step] at hStep
      split at hStep
      · rename_i h hHandling
        have hMember := List.mem_of_getElem? hHandling
        split at hStep
        · cases hStep
          exact hInv.setPhase hMember (by simp [PhaseSound, Handling.setPhase, Text.present])
        · rename_i hPhase
          cases hStep
          exact hInv.receiveListing hMember hPhase _ now
        · cases hStep
      · cases hStep
  | verify i =>
      simp only [step] at hStep
      split at hStep
      · rename_i h hHandling
        split at hStep
        · rename_i hPhase
          cases hStep
          exact hInv.verifyRequest (List.mem_of_getElem? hHandling) hPhase
        · cases hStep
      · cases hStep
  | process i saved throws =>
      simp only [step] at hStep
      split at hStep
      · rename_i h hHandling
        split at hStep
        · rename_i hPhase
          cases hStep
          exact hInv.processRequest (List.mem_of_getElem? hHandling) hPhase saved throws
        · cases hStep
      · cases hStep
  | clearSigningKeyCache url chain =>
      cases hStep
      exact hInv.setCache (hInv.cache.clear url chain)

end Steps

/-- No run emits an address activity that is not signed with a key of its chain. -/
theorem noForgery {actions : List Action} {s : State}
    (hRun : run (step webhookUrl hmac) State.init actions = some s) : NoForgery webhookUrl hmac s :=
  (run_invariant (fun _ _ _ => inv_step) hRun Inv.init).emissions

def signedBody : List UInt8 :=
  ("\x7b\"webhookId\":\"wh_1\",\"id\":\"evt_1\",\"createdAt\":\"2025-01-01\",\"type\":\"ADDR" ++
    "ESS_ACTIVITY\",\"event\":\x7b\"network\":\"ETH_MAINNET\",\"activity\":[\x7b\"fromAddress" ++
    "\":\"0xab\",\"toAddress\":\"0xcd\",\"hash\":\"0x01\"\x7d]\x7d\x7d").toUTF8.toList

/-- The HMAC-SHA256 of the body under the key of the listing. -/
def bodyHmac (_ : String) (_ : List UInt8) : Digest :=
  ⟨[32, 190, 161, 30, 243, 8, 217, 205, 233, 239, 235, 90, 254, 52, 40, 198, 17, 81, 131, 120,
    76, 58, 114, 194, 250, 28, 93, 119, 64, 185, 243, 23], by decide⟩

def signedRequest : WebhookRequest :=
  ⟨some "sha256=20bea11ef308d9cde9efeb5afe3428c6115183784c3a72c2fa1c5d7740b9f317",
    ⟨"wh_1", "evt_1", "ADDRESS_ACTIVITY",
      ⟨some "ETH_MAINNET", [⟨some "0xab", some "0xcd", some "0x01", none, none, none⟩], none, none,
        none⟩⟩,
    some signedBody⟩

def teamWebhooks : List AlchemyWebhookResponse :=
  [⟨"wh_1", "ETH_MAINNET", "ADDRESS_ACTIVITY", "https://kit.example/webhook", true, "whsec_kit"⟩]

/-- The first request lists the webhooks and the second one uses the cached key. -/
def signedRun : List Action :=
  [.handleWebhook signedRequest 0, .receive 0 (some teamWebhooks) 5, .verify 0,
    .process 0 true fun _ => false, .handleWebhook signedRequest 1000, .verify 1,
    .process 1 true fun _ => false]

/-- Both requests emit the two activities of their payload. The header is the digest of the body
under the key that Alchemy listed. -/
theorem noForgery_signedRun :
    ∃ s, run (step "https://kit.example/webhook" bodyHmac) State.init signedRun = some s ∧
      (s.handlings.map fun h => h.emitted.length) = [2, 2] ∧
      NoForgery "https://kit.example/webhook" bodyHmac s := by
  have hEmitted : (run (step "https://kit.example/webhook" bodyHmac) State.init signedRun).map
      (fun s => s.handlings.map fun h => h.emitted.length) = some [2, 2] := by
    decide +kernel
  obtain ⟨s, hRun, hLengths⟩ := Option.map_eq_some_iff.mp hEmitted
  exact ⟨s, hRun, hLengths, noForgery hRun⟩

end BalanceKit.Authentication
