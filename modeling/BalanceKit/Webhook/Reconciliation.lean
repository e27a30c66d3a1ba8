import BalanceKit.Webhook.ChainAgreement
import BalanceKit.Webhook.ChainUpdate
import BalanceKit.Webhook.MonitoringFlag

/-! The daily reconciliation, with all calls succeeding. Addresses are listed by the id
of a webhook and removed by its chain, which is resolved to a webhook again. Of the addresses
of a webhook the SDK lists one page, and the code asks for no other. -/
namespace BalanceKit.Reconciliation
open Authentication WebhookManagementService ChainAgreement

/-- The webhooks of the team and the addresses of each. Alchemy gives them ids of their
own. -/
structure Team where
  webhooks : List AlchemyWebhookResponse
  unique : (webhooks.map AlchemyWebhookResponse.id).Nodup
  addresses : String → List String

/-- A webhook that the team does not have yet. -/
abbrev Team.Fresh (team : Team) : Type :=
  { webhook : AlchemyWebhookResponse // webhook.id ∉ team.webhooks.map AlchemyWebhookResponse.id }

namespace Team

def setAddresses (team : Team) (webhookId : String) (addresses : List String) : Team :=
  { team with addresses := fun id => if id = webhookId then addresses else team.addresses id }

/-- A webhook is created with the default address. -/
def create (team : Team) (webhook : team.Fresh) : Team where
  webhooks := team.webhooks ++ [webhook.val]
  unique := by
    rw [List.map_append, List.nodup_append]
    refine ⟨team.unique, List.nodup_singleton _, ?_⟩
    rintro id hOld _ hNew rfl
    rw [List.map_singleton, List.mem_singleton] at hNew
    exact webhook.property (hNew ▸ hOld)
  addresses := fun id =>
    if id = webhook.val.id then [MonitoringFlag.defaultMonitoredAddress] else team.addresses id

end Team

/-- One call of `updateWebhook`, with the webhook on which the addresses were listed. -/
structure Removal where
  listedOn : String
  webhookId : String
  addresses : List String
  deriving DecidableEq

structure State where
  team : Team
  snapshots : List PortfolioSnapshot
  removals : List Removal

/-- `notify.getAddresses` of the SDK, asked without a page key: it answers with one page of
the addresses of a webhook, and with all of them where they are no more than a page holds. -/
structure Listing where
  getAddresses : (webhookId : String) → (addresses : List String) → List String
  listed : ∀ webhookId addresses, getAddresses webhookId addresses ⊆ addresses
  limit : Nat
  whole : ∀ webhookId addresses, addresses.length ≤ limit →
    getAddresses webhookId addresses = addresses

/-- The configured address, the listing, what Alchemy creates for a chain, and the moment at
which each webhook is inspected. -/
structure Environment where
  webhookUrl : String
  listing : Listing
  createWebhook : (team : Team) → ChainName → team.Fresh
  inspectedAt : String → Nat

/-- The address is not the default one and has no unexpired snapshot. -/
def stale (snapshots : List PortfolioSnapshot) (now : Nat) (c : ChainName) (address : String) :
    Bool :=
  Text.toLowerCase address != Text.toLowerCase MonitoringFlag.defaultMonitoredAddress &&
    !snapshots.any fun d => d.chain == c && d.address == address && decide (now < d.expiresAt)

variable (env : Environment)

def getWebhookIdForChain (team : Team) (c : ChainName) : Team × String :=
  match existingWebhook env.webhookUrl team.webhooks c with
  | some webhook => (team, webhook.id)
  | none =>
      let webhook := env.createWebhook team c
      (team.create webhook, webhook.val.id)

/-- `updateWebhookAddresses` with nothing to add. -/
def removeAddresses (s : State) (c : ChainName) (listedOn : String) (addresses : List String) :
    State :=
  let (team, webhookId) := getWebhookIdForChain env s.team c
  { s with
    team := team.setAddresses webhookId
      ((team.addresses webhookId).filter fun address => address ∉ addresses)
    removals := s.removals ++ [⟨listedOn, webhookId, addresses⟩] }

/-- The page that `getWebhookDetailsWithSdk` returns. The key of the next page is dropped. -/
def getWebhookDetails (team : Team) (webhookId : String) : List String :=
  env.listing.getAddresses webhookId (team.addresses webhookId)

def reconcileChainAddresses (s : State) (c : ChainName) (webhookId : String) : State :=
  let addressesToRemove :=
    (getWebhookDetails env s.team webhookId).filter
      (stale s.snapshots (env.inspectedAt webhookId) c)
  if addressesToRemove = [] then s
  else
    let updated := removeAddresses env s c webhookId addressesToRemove
    { updated with
      snapshots := ChainUpdate.unmarkExpiredAddresses s.snapshots c addressesToRemove }

/-- An inherited member has no client, and so no addresses. -/
def reconcile (s : State) (item : ChainKey × AlchemyWebhookResponse) : State :=
  match item.1 with
  | .named c => reconcileChainAddresses env s c item.2.id
  | .member _ => s

/-- The webhooks are listed once, before the loop. -/
def reconcileWebhookAddresses (team : Team) (snapshots : List PortfolioSnapshot) : State :=
  (ChainAgreement.reconcileWebhookAddresses env.webhookUrl team.webhooks).foldl (reconcile env)
    ⟨team, snapshots, []⟩

/-- The webhooks that the loop processes. -/
def Processed (team : Team) (c : ChainName) (webhook : AlchemyWebhookResponse) : Prop :=
  (.named c, webhook) ∈ ChainAgreement.reconcileWebhookAddresses env.webhookUrl team.webhooks

/-- The stale addresses of each processed webhook are gone from it, and were not asked
to be removed from another. -/
structure Exact (team : Team) (snapshots : List PortfolioSnapshot) : Prop where
  removed : ∀ c webhook, Processed env team c webhook →
    ∀ address ∈ team.addresses webhook.id,
      stale snapshots (env.inspectedAt webhook.id) c address = true →
        address ∉ (reconcileWebhookAddresses env team snapshots).team.addresses webhook.id
  own : ∀ removal ∈ (reconcileWebhookAddresses env team snapshots).removals,
    removal.webhookId = removal.listedOn

/-- The webhook is the first of the list that its chain is resolved to. -/
def Foremost (webhooks : List AlchemyWebhookResponse) (c : ChainName)
    (webhook : AlchemyWebhookResponse) : Prop :=
  ∃ before after, webhooks = before ++ webhook :: after ∧
    matchesChain env.webhookUrl c webhook = true ∧
      ∀ v ∈ before, matchesChain env.webhookUrl c v = false

/-- An address that the reconciliation finds to be stale: it has to be on the page. -/
def Found (team : Team) (snapshots : List PortfolioSnapshot) (c : ChainName)
    (webhook : AlchemyWebhookResponse) (address : String) : Prop :=
  address ∈ getWebhookDetails env team webhook.id ∧
    stale snapshots (env.inspectedAt webhook.id) c address = true

/-- What one iteration may do to the state: clear the webhook of the addresses that are found
to be stale, with a call for this webhook if there are any. -/
structure Clears (c : ChainKey) (webhook : AlchemyWebhookResponse) (s t : State) : Prop where
  webhooks : t.team.webhooks = s.team.webhooks
  others : ∀ id, id ≠ webhook.id → t.team.addresses id = s.team.addresses id
  stale : stale t.snapshots = stale s.snapshots
  cleared : ∀ chain, c = .named chain → ∀ address, address ∈ t.team.addresses webhook.id ↔
    address ∈ s.team.addresses webhook.id ∧ ¬ Found env s.team s.snapshots chain webhook address
  own : ∀ removal ∈ t.removals, removal ∈ s.removals ∨ removal.webhookId = removal.listedOn

/-- The next iterations are about webhooks that resolve to themselves, if any address of
theirs is found to be stale. -/
def Resolved (s : State) (items : List (ChainKey × AlchemyWebhookResponse)) : Prop :=
  ∀ c webhook, (.named c, webhook) ∈ items →
    (∃ address, Found env s.team s.snapshots c webhook address) →
      Foremost env s.team.webhooks c webhook

section Step
variable {env} {s t : State} {c : ChainName} {webhook : AlchemyWebhookResponse}

/-- The flags take no part in the search for an unexpired snapshot. Unmarking during the loop
therefore changes no later decision. -/
theorem stale_unmarkExpiredAddresses (snapshots : List PortfolioSnapshot) (chain : ChainName)
    (addresses : List String) :
    stale (ChainUpdate.unmarkExpiredAddresses snapshots chain addresses) = stale snapshots := by
  funext now c address
  simp [stale, ChainUpdate.unmarkExpiredAddresses, List.any_map, Function.comp_def]

/-- What is on the page is an address of the webhook. -/
theorem Found.mem {team : Team} {snapshots : List PortfolioSnapshot} {address : String}
    (h : Found env team snapshots c webhook address) : address ∈ team.addresses webhook.id :=
  env.listing.listed _ _ h.1

theorem filter_stale_eq_nil :
    (getWebhookDetails env s.team webhook.id).filter
        (stale s.snapshots (env.inspectedAt webhook.id) c) = [] ↔
      ¬ ∃ address, Found env s.team s.snapshots c webhook address := by
  simp [Found, List.filter_eq_nil_iff]

/-- A webhook of which nothing is found to be stale is passed over. -/
theorem reconcile_of_not_found (h : ¬ ∃ address, Found env s.team s.snapshots c webhook address) :
    reconcile env s (.named c, webhook) = s := by
  have hNone := filter_stale_eq_nil.mpr h
  show reconcileChainAddresses env s c webhook.id = s
  unfold reconcileChainAddresses
  exact if_pos hNone

/-- If something is found there is one call, for the webhook that the chain is resolved to. It need
not be the webhook whose page was read. -/
theorem reconcile_of_found (h : ∃ address, Found env s.team s.snapshots c webhook address) :
    let addressesToRemove := (getWebhookDetails env s.team webhook.id).filter
      (stale s.snapshots (env.inspectedAt webhook.id) c)
    reconcile env s (.named c, webhook) =
      { removeAddresses env s c webhook.id addressesToRemove with
        snapshots := ChainUpdate.unmarkExpiredAddresses s.snapshots c addressesToRemove } := by
  have hSome := mt filter_stale_eq_nil.mp (not_not_intro h)
  show reconcileChainAddresses env s c webhook.id = _
  unfold reconcileChainAddresses
  exact if_neg hSome

/-- Where something is found and the chain resolves to the webhook itself, what is found is
removed from it and unmarked. -/
theorem clears_of_foremost (hFound : ∃ address, Found env s.team s.snapshots c webhook address)
    (hForemost : Foremost env s.team.webhooks c webhook) :
    Clears env (.named c) webhook s (reconcile env s (.named c, webhook)) := by
  have hResolve : getWebhookIdForChain env s.team c = (s.team, webhook.id) := by
    rw [getWebhookIdForChain, existingWebhook_eq_some.mpr hForemost]
  rw [reconcile_of_found hFound, removeAddresses, hResolve]
  constructor
  · rfl
  · intro id hOther
    exact if_neg hOther
  · exact stale_unmarkExpiredAddresses s.snapshots c _
  · rintro chain ⟨⟩ address
    simp only [Team.setAddresses, if_true, List.mem_filter, decide_eq_true_eq]
    exact Iff.rfl
  · intro removal hRemoval
    rcases List.mem_append.mp hRemoval with hEarlier | hNew
    · exact .inl hEarlier
    · rw [List.mem_singleton] at hNew
      subst hNew
      exact .inr rfl

/-- An iteration on a webhook that resolves to itself does nothing else. -/
theorem reconcile_clears {item : ChainKey × AlchemyWebhookResponse}
    (h : Resolved env s [item]) : Clears env item.1 item.2 s (reconcile env s item) := by
  obtain ⟨chain, webhook⟩ := item
  cases chain with
  | named c =>
      by_cases hFound : ∃ address, Found env s.team s.snapshots c webhook address
      · exact clears_of_foremost hFound (h c webhook (List.mem_cons_self ..) hFound)
      · rw [reconcile_of_not_found hFound]
        refine ⟨rfl, fun _ _ => rfl, rfl, ?_, fun _ h => .inl h⟩
        rintro chain ⟨⟩ address
        exact ⟨fun hAddress => ⟨hAddress, fun hHere => hFound ⟨address, hHere⟩⟩, And.left⟩
  | member name =>
      refine ⟨rfl, fun _ _ => rfl, rfl, ?_, fun _ h => .inl h⟩
      rintro chain ⟨⟩

/-- The iterations that follow find their webhooks as they were. -/
theorem Clears.resolved_iff {item : ChainKey × AlchemyWebhookResponse}
    {rest : List (ChainKey × AlchemyWebhookResponse)} (h : Clears env item.1 item.2 s t)
    (hNodup : ((item :: rest).map fun i => i.2.id).Nodup) :
    Resolved env t rest ↔ Resolved env s rest := by
  have hSame : ∀ c webhook, (.named c, webhook) ∈ rest →
      t.team.addresses webhook.id = s.team.addresses webhook.id := by
    intro c webhook hRest
    refine h.others webhook.id fun hId => (List.nodup_cons.mp hNodup).1 ?_
    exact List.mem_map.mpr ⟨_, hRest, hId⟩
  apply forall_congr'
  intro c
  apply forall_congr'
  intro webhook
  apply forall_congr'
  intro hRest
  simp only [Found, getWebhookDetails, hSame c webhook hRest, h.stale, h.webhooks]

/-- A call for a webhook that does not resolve to itself goes to another one. The addresses that
were found stale there are then left subscribed. -/
theorem misdirected (hMember : webhook ∈ s.team.webhooks)
    (hFound : ∃ address, Found env s.team s.snapshots c webhook address)
    (hOther : ¬ Foremost env s.team.webhooks c webhook) :
    ∃ removal ∈ (reconcile env s (.named c, webhook)).removals,
      removal.webhookId ≠ removal.listedOn := by
  have hId : (getWebhookIdForChain env s.team c).2 ≠ webhook.id := by
    unfold getWebhookIdForChain
    cases hExisting : existingWebhook env.webhookUrl s.team.webhooks c with
    | none =>
        intro hSame
        exact (env.createWebhook s.team c).property (List.mem_map.mpr ⟨_, hMember, hSame.symm⟩)
    | some found =>
        intro hSame
        have hListed : found ∈ s.team.webhooks := List.mem_of_find?_eq_some hExisting
        have hEq := List.inj_on_of_nodup_map s.team.unique hListed hMember hSame
        exact hOther (existingWebhook_eq_some.mp (hEq ▸ hExisting))
  rw [reconcile_of_found hFound]
  exact ⟨_, List.mem_append_right _ (List.mem_singleton_self _), hId⟩

theorem reconcile_keeps_removals {item : ChainKey × AlchemyWebhookResponse} {removal : Removal}
    (h : removal ∈ s.removals) : removal ∈ (reconcile env s item).removals := by
  obtain ⟨chain, webhook⟩ := item
  cases chain with
  | named c =>
      by_cases hFound : ∃ address, Found env s.team s.snapshots c webhook address
      · rw [reconcile_of_found hFound]
        exact List.mem_append_left _ h
      · rw [reconcile_of_not_found hFound]
        exact h
  | member name => exact h

end Step

section Loop
variable {env} {s : State} {items : List (ChainKey × AlchemyWebhookResponse)}

theorem resolved_cons {item : ChainKey × AlchemyWebhookResponse} :
    Resolved env s (item :: items) ↔ Resolved env s [item] ∧ Resolved env s items := by
  simp only [Resolved, List.mem_cons, List.not_mem_nil, or_false]
  constructor
  · intro h
    exact ⟨fun c webhook hItem => h c webhook (.inl hItem),
      fun c webhook hItem => h c webhook (.inr hItem)⟩
  · rintro ⟨hHead, hTail⟩ c webhook (hItem | hItem)
    · exact hHead c webhook hItem
    · exact hTail c webhook hItem

/-- An iteration leaves the others as resolved as they were. -/
theorem Resolved.next {item : ChainKey × AlchemyWebhookResponse}
    (hNodup : ((item :: items).map fun i => i.2.id).Nodup) (h : Resolved env s (item :: items)) :
    Clears env item.1 item.2 s (reconcile env s item) ∧ Resolved env (reconcile env s item) items := by
  obtain ⟨hHead, hTail⟩ := resolved_cons.mp h
  have hClears := reconcile_clears hHead
  exact ⟨hClears, (hClears.resolved_iff hNodup).mpr hTail⟩

theorem foldl_keeps_removals {removal : Removal} (h : removal ∈ s.removals) :
    removal ∈ (items.foldl (reconcile env) s).removals := by
  induction items generalizing s with
  | nil => exact h
  | cons item rest ih => exact ih (reconcile_keeps_removals h)

/-- The loop makes no call for a webhook that the addresses are not from. Their stale addresses are
removed elsewhere or not at all. -/
theorem foldl_own (hNodup : (items.map fun item => item.2.id).Nodup) (h : Resolved env s items) :
    ∀ removal ∈ (items.foldl (reconcile env) s).removals,
      removal ∈ s.removals ∨ removal.webhookId = removal.listedOn := by
  induction items generalizing s with
  | nil => exact fun _ h => .inl h
  | cons item rest ih =>
      intro removal hRemoval
      obtain ⟨hClears, hRest⟩ := h.next hNodup
      rcases ih (List.nodup_cons.mp hNodup).2 hRest removal hRemoval with hStep | hOwn
      · exact hClears.own removal hStep
      · exact .inr hOwn

/-- The loop leaves the webhooks alone that it is not about. -/
theorem foldl_others (hNodup : (items.map fun item => item.2.id).Nodup)
    (h : Resolved env s items) {id : String} (hId : id ∉ items.map fun item => item.2.id) :
    (items.foldl (reconcile env) s).team.addresses id = s.team.addresses id := by
  induction items generalizing s with
  | nil => rfl
  | cons item rest ih =>
      obtain ⟨hClears, hRest⟩ := h.next hNodup
      rw [List.map_cons, List.mem_cons, not_or] at hId
      calc (rest.foldl (reconcile env) (reconcile env s item)).team.addresses id
          = (reconcile env s item).team.addresses id :=
            ih (List.nodup_cons.mp hNodup).2 hRest hId.2
        _ = s.team.addresses id := hClears.others id hId.1

/-- The loop takes from each of its webhooks what is found to be stale on it, and nothing
else. The earlier iterations are about other webhooks, so they change nothing of it. -/
theorem foldl_cleared (hNodup : (items.map fun item => item.2.id).Nodup)
    (h : Resolved env s items) {c : ChainName} {webhook : AlchemyWebhookResponse}
    (hItem : (.named c, webhook) ∈ items) (address : String) :
    address ∈ (items.foldl (reconcile env) s).team.addresses webhook.id ↔
      address ∈ s.team.addresses webhook.id ∧
        ¬ Found env s.team s.snapshots c webhook address := by
  induction items generalizing s with
  | nil => cases hItem
  | cons item rest ih =>
      obtain ⟨hClears, hRest⟩ := h.next hNodup
      obtain ⟨hNew, hNodupRest⟩ := List.nodup_cons.mp hNodup
      rcases List.mem_cons.mp hItem with rfl | hLater
      · rw [List.foldl_cons, foldl_others hNodupRest hRest hNew]
        exact hClears.cleared c rfl address
      · have hOther : webhook.id ≠ item.2.id := fun hId =>
          hNew (List.mem_map.mpr ⟨_, hLater, hId⟩)
        have hSame := ih hNodupRest hRest hLater
        rwa [Found, getWebhookDetails, hClears.others _ hOther, hClears.stale] at hSame

/-- A loop that makes no such call is about webhooks that resolve to themselves. This is the
converse of the clearing lemma, so the condition is exact. -/
theorem resolved_of_own (hNodup : (items.map fun item => item.2.id).Nodup)
    (hMember : ∀ item ∈ items, item.2 ∈ s.team.webhooks)
    (h : ∀ removal ∈ (items.foldl (reconcile env) s).removals,
      removal.webhookId = removal.listedOn) : Resolved env s items := by
  induction items generalizing s with
  | nil =>
      intro c webhook hItem
      cases hItem
  | cons item rest ih =>
      have hHead : Resolved env s [item] := by
        intro c webhook hItem hFound
        rw [List.mem_singleton] at hItem
        subst hItem
        by_contra hOther
        obtain ⟨removal, hRemoval, hWrong⟩ :=
          misdirected (hMember _ (List.mem_cons_self ..)) hFound hOther
        exact hWrong (h removal (@foldl_keeps_removals env _ rest removal hRemoval))
      have hClears := reconcile_clears hHead
      have hRest : Resolved env (reconcile env s item) rest := by
        apply ih (List.nodup_cons.mp hNodup).2 ?_ h
        intro later hLater
        rw [hClears.webhooks]
        exact hMember later (List.mem_cons_of_mem _ hLater)
      exact resolved_cons.mpr ⟨hHead, (hClears.resolved_iff hNodup).mp hRest⟩

end Loop

/-- The loop takes its webhooks from the list, in its order. -/
theorem map_reconcileWebhookAddresses_sublist (webhookUrl : String)
    (webhooks : List AlchemyWebhookResponse) :
    ((ChainAgreement.reconcileWebhookAddresses webhookUrl webhooks).map Prod.snd).Sublist
      webhooks := by
  unfold ChainAgreement.reconcileWebhookAddresses
  split
  · exact List.nil_sublist webhooks
  · have hActive : (webhooks.filter (servesEnvironment webhookUrl)).Sublist webhooks :=
      List.filter_sublist
    apply List.Sublist.trans ?_ hActive
    induction webhooks.filter (servesEnvironment webhookUrl) with
    | nil => exact List.Sublist.slnil
    | cons webhook rest ih =>
        cases hChain : chainKeyOf webhook.network with
        | none => simpa [hChain] using ih.cons webhook
        | some chain => simpa [hChain] using ih.cons_cons webhook

/-- The ids of the webhooks that are processed are different. -/
theorem nodup_processed (env : Environment) (team : Team) :
    ((ChainAgreement.reconcileWebhookAddresses env.webhookUrl team.webhooks).map
      fun item => item.2.id).Nodup := by
  have hSublist := map_reconcileWebhookAddresses_sublist env.webhookUrl team.webhooks
  have hIds := (hSublist.map AlchemyWebhookResponse.id).nodup team.unique
  rwa [List.map_map] at hIds

/-- The reconciliation is exact just where every stale address of a processed webhook is on
the page that is listed, and the webhook is the first one that its chain is resolved to. -/
theorem exact_iff (env : Environment) (team : Team) (snapshots : List PortfolioSnapshot) :
    Exact env team snapshots ↔
      ∀ c webhook, Processed env team c webhook → ∀ address ∈ team.addresses webhook.id,
        stale snapshots (env.inspectedAt webhook.id) c address = true →
          address ∈ getWebhookDetails env team webhook.id ∧
            Foremost env team.webhooks c webhook := by
  have hNodup := nodup_processed env team
  constructor
  · intro hExact c webhook hProcessed address hAddress hStale
    have hResolved : Resolved env ⟨team, snapshots, []⟩
        (ChainAgreement.reconcileWebhookAddresses env.webhookUrl team.webhooks) := by
      apply resolved_of_own hNodup ?_ hExact.own
      intro item hItem
      exact (map_reconcileWebhookAddresses_sublist env.webhookUrl team.webhooks).subset
        (List.mem_map_of_mem hItem)
    -- it is gone, and only what is found goes
    have hFound : Found env team snapshots c webhook address := by
      by_contra hNot
      exact hExact.removed c webhook hProcessed address hAddress hStale
        ((foldl_cleared hNodup hResolved hProcessed address).mpr ⟨hAddress, hNot⟩)
    exact ⟨hFound.1, hResolved c webhook hProcessed ⟨address, hFound⟩⟩
  · intro hAll
    have hResolved : Resolved env ⟨team, snapshots, []⟩
        (ChainAgreement.reconcileWebhookAddresses env.webhookUrl team.webhooks) := by
      rintro c webhook hItem ⟨address, hFound⟩
      exact (hAll c webhook hItem address hFound.mem hFound.2).2
    constructor
    · intro c webhook hProcessed address hAddress hStale hKept
      have hListed := (hAll c webhook hProcessed address hAddress hStale).1
      exact ((foldl_cleared hNodup hResolved hProcessed address).mp hKept).2 ⟨hListed, hStale⟩
    · intro removal hRemoval
      rcases foldl_own hNodup hResolved removal hRemoval with hNone | hOwn
      · cases hNone
      · exact hOwn

def kitWebhook (network id : String) : AlchemyWebhookResponse :=
  ⟨id, network, "ADDRESS_ACTIVITY", "https://kit.example/webhook", true, "whsec_kit"⟩

/-- The id of a new webhook is longer than all the others. -/
def newId (team : Team) : String :=
  String.ofList ('w' :: (team.webhooks.map fun webhook => webhook.id.toList).flatten)

theorem newId_not_mem (team : Team) :
    newId team ∉ team.webhooks.map AlchemyWebhookResponse.id := by
  intro hOld
  obtain ⟨webhook, hMember, hId⟩ := List.mem_map.mp hOld
  have hPart : webhook.id.toList ∈ team.webhooks.map fun webhook => webhook.id.toList :=
    List.mem_map.mpr ⟨webhook, hMember, rfl⟩
  have hLength := (List.sublist_flatten_of_mem hPart).length_le
  rw [hId, newId, String.toList_ofList, List.length_cons] at hLength
  omega

def createKitWebhook (team : Team) (c : ChainName) : team.Fresh where
  val := kitWebhook (getNetworkIdForChain c) (newId team)
  property := newId_not_mem team

/-- The first addresses of the list, as many as a page holds. -/
def firstPage (limit : Nat) : Listing where
  getAddresses _ addresses := addresses.take limit
  listed _ addresses := List.take_subset limit addresses
  limit := limit
  whole _ _ h := List.take_of_length_le h

def kitEnvironment : Environment :=
  ⟨"https://kit.example/webhook", firstPage 100, createKitWebhook, fun _ => 0⟩

def twoWebhooks : Team where
  webhooks := [kitWebhook "ETH_MAINNET" "wh_1", kitWebhook "ETH_MAINNET" "wh_2"]
  unique := by decide
  addresses := fun id => if id = "wh_2" then ["0xab"] else []

/-- The address of the second webhook is removed from the first one. -/
theorem not_exact_twoWebhooks : ¬ Exact kitEnvironment twoWebhooks [] := by
  intro h
  have hRemoval : (reconcileWebhookAddresses kitEnvironment twoWebhooks []).removals =
      [⟨"wh_2", "wh_1", ["0xab"]⟩] := by decide +kernel
  have hOwn := h.own ⟨"wh_2", "wh_1", ["0xab"]⟩ (hRemoval ▸ List.mem_singleton_self _)
  exact absurd hOwn (by decide)

end BalanceKit.Reconciliation
