import BalanceKit.Library.Runs
import BalanceKit.Webhook.Events

/-! Calls of the webhook management when Alchemy's list of webhooks is not always
answered. A call looks the webhook up twice, and each lookup reads a failed listing
in its own way. -/
namespace BalanceKit.UnreliableListing
open TransitionSystem WebhookManagementService

/-- The fields that the constructor takes from the configuration. -/
structure Service where
  alchemyToken : String
  alchemyApiKey : String
  webhookUrl : String
  hasClient : ChainName → Bool

/-- How the request for the list ends: with status 200 and an array, with a response
of another form, or with an error or exception. -/
inductive ListingResponse where
  | listed
  | malformed
  | failed
  deriving DecidableEq, Repr

/-- What becomes of the lock before a creation. -/
inductive LockOutcome where
  | readFails
  | held
  | writeFails
  | acquired
  deriving DecidableEq, Repr

/-- The webhooks of the team. Alchemy gives each of them an id. -/
structure Team where
  webhooks : List AlchemyWebhookResponse
  ids : ∀ w ∈ webhooks, w.id ≠ ""

def Team.add (team : Team) (webhook : { w : AlchemyWebhookResponse // w.id ≠ "" }) : Team where
  webhooks := team.webhooks ++ [webhook.val]
  ids := by
    intro w hw
    rcases List.mem_append.mp hw with hOld | hNew
    · exact team.ids w hOld
    · rw [List.mem_singleton.mp hNew]
      exact webhook.property

/-- What the services outside answer during one call. A creation may take effect
without an answer; `details` is the answer to the request that ends the call. -/
structure Outcomes where
  firstListing : ListingResponse
  lock : LockOutcome
  secondListing : ListingResponse
  created : Option { w : AlchemyWebhookResponse // w.id ≠ "" }
  createdId : Option String
  releaseFails : Bool
  details : Option (List String)

/-- A webhook id or nothing, the list requests made for it, and whether
`createWebhook` was called. -/
structure Lookup where
  webhookId : Option String
  listings : List ListingResponse
  requested : Bool
  deriving DecidableEq

variable (svc : Service)

def getExistingWebhooks (team : Team) (response : ListingResponse) :
    Option (List AlchemyWebhookResponse) :=
  if svc.alchemyToken = "" then none
  else
    match response with
    | .listed => some team.webhooks
    | .malformed => some []
    | .failed => none

/-- The lookup inside `createNewWebhook`. -/
def secondLookup (chain : ChainName) (team : Team) (response : ListingResponse) :
    Option String :=
  match getExistingWebhooks svc team response with
  | none => none
  | some webhooks => Text.present (getExistingWebhookIdForChain svc.webhookUrl chain webhooks)

/-- The `try` block that runs under the lock. -/
def createUnderLock (chain : ChainName) (team : Team) (o : Outcomes) : Lookup :=
  if svc.alchemyApiKey = "" then ⟨none, [], false⟩
  else if svc.webhookUrl = "" then ⟨none, [], false⟩
  else if svc.hasClient chain = false then ⟨none, [], false⟩
  else
    match secondLookup svc chain team o.secondListing with
    | some existingId => ⟨some existingId, [o.secondListing], false⟩
    | none => ⟨Text.present o.createdId, [o.secondListing], true⟩

/-- An error while the lock is deleted replaces the result. -/
def createNewWebhook (chain : ChainName) (team : Team) (o : Outcomes) : Lookup :=
  match o.lock with
  | .readFails => ⟨none, [], false⟩
  | .held => ⟨none, [], false⟩
  | .writeFails => ⟨none, [], false⟩
  | .acquired =>
      let body := createUnderLock svc chain team o
      if o.releaseFails then { body with webhookId := none } else body

/-- A listing that gave nothing and an empty one both lead to a creation. -/
def getWebhookIdForChain (chain : ChainName) (team : Team) (o : Outcomes) : Lookup :=
  let creation := createNewWebhook svc chain team o
  let created : Lookup := { creation with listings := o.firstListing :: creation.listings }
  match getExistingWebhooks svc team o.firstListing with
  | none => created
  | some [] => created
  | some webhooks =>
      match webhooks.find? (matchesChain svc.webhookUrl chain) with
      | some webhook => ⟨some webhook.id, [o.firstListing], false⟩
      | none => created

inductive Reply where
  | updated (success : Bool)
  | monitored (addresses : List String)
  deriving DecidableEq

def Reply.Failure : Reply → Prop
  | .updated success => success = false
  | .monitored addresses => addresses = []

inductive Operation where
  | updateWebhookAddresses
  | getMonitoredAddresses
  deriving DecidableEq, Repr

/-- What an operation answers when it gives up. -/
def Operation.failure : Operation → Reply
  | updateWebhookAddresses => .updated false
  | getMonitoredAddresses => .monitored []

/-- What is done with the id: an update through the client of the chain, or a request
for the details. -/
def Operation.finish (chain : ChainName) (o : Outcomes) : Operation → Reply
  | updateWebhookAddresses => .updated (svc.hasClient chain && o.details.isSome)
  | getMonitoredAddresses => .monitored (o.details.getD [])

def Operation.run (operation : Operation) (chain : ChainName) (team : Team) (o : Outcomes) :
    Lookup × Reply :=
  if svc.alchemyToken = "" then (⟨none, [], false⟩, operation.failure)
  else
    let found := getWebhookIdForChain svc chain team o
    match Text.present found.webhookId with
    | none => (found, operation.failure)
    | some _ => (found, operation.finish svc chain o)

/-- A webhook that serves the chain at the configured address is there. -/
def served (chain : ChainName) (team : Team) : Bool :=
  team.webhooks.any (matchesChain svc.webhookUrl chain)

/-- What is known of a call that has returned. -/
structure Call where
  served : Bool
  found : Lookup
  reply : Reply

/-- If the webhook was there, none is created, and a call whose listings all failed
reports a failure. -/
def Call.Safe (c : Call) : Prop :=
  c.served = true → c.found.requested = false ∧
    ((∀ response ∈ c.found.listings, response ≠ .listed) → c.reply.Failure)

structure State where
  team : Team
  calls : List Call

/-- One call, with the answers that it gets. -/
structure Action where
  operation : Operation
  chain : ChainName
  outcomes : Outcomes

/-- A call runs to its end before the next one. Only a requested creation adds a
webhook. -/
def step (s : State) (a : Action) : Option State :=
  let (found, reply) := a.operation.run svc a.chain s.team a.outcomes
  some
    { team :=
        match a.outcomes.created with
        | some webhook => if found.requested then s.team.add webhook else s.team
        | none => s.team
      calls := s.calls ++ [⟨served svc a.chain s.team, found, reply⟩] }

/-- A call looks its webhook up in an answered listing, or it does not get as far as
the creation. -/
def Reliable (s : State) (a : Action) : Prop :=
  served svc a.chain s.team = true →
    svc.alchemyToken = "" ∨ a.outcomes.firstListing = .listed ∨ a.outcomes.lock ≠ .acquired ∨
      svc.alchemyApiKey = "" ∨ svc.webhookUrl = "" ∨ svc.hasClient a.chain = false ∨
        a.outcomes.secondListing = .listed

instance (s : State) (a : Action) : Decidable (Reliable svc s a) :=
  inferInstanceAs (Decidable (_ → _))

section Lookups
variable {svc} {chain : ChainName} {team : Team} (hServed : served svc chain team = true)
  {o : Outcomes}
include hServed

/-- The whole list leads to a webhook with an id. -/
theorem find?_of_served :
    ∃ w, team.webhooks.find? (matchesChain svc.webhookUrl chain) = some w ∧ w.id ≠ "" := by
  obtain ⟨w, hw, hMatch⟩ := List.any_eq_true.mp hServed
  obtain ⟨found, hFound⟩ := Option.isSome_iff_exists.mp (List.find?_isSome.mpr ⟨w, hw, hMatch⟩)
  exact ⟨found, hFound, team.ids found (List.mem_of_find?_eq_some hFound)⟩

theorem secondLookup_eq_none_iff (hToken : svc.alchemyToken ≠ "") (response : ListingResponse) :
    secondLookup svc chain team response = none ↔ response ≠ .listed := by
  obtain ⟨w, hFound, hId⟩ := find?_of_served hServed
  cases response with
  | listed =>
      simp [secondLookup, getExistingWebhooks, hToken, getExistingWebhookIdForChain, hFound,
        Text.present_some hId]
  | malformed => simp [secondLookup, getExistingWebhooks, hToken, getExistingWebhookIdForChain,
      Text.present]
  | failed => simp [secondLookup, getExistingWebhooks, hToken]

/-- A creation is requested under the lock, with everything configured, when the
second listing is not answered. -/
theorem createNewWebhook_requested_iff (hToken : svc.alchemyToken ≠ "") :
    (createNewWebhook svc chain team o).requested = true ↔
      o.lock = .acquired ∧ svc.alchemyApiKey ≠ "" ∧ svc.webhookUrl ≠ "" ∧
        svc.hasClient chain = true ∧ o.secondListing ≠ .listed := by
  have hSecond := secondLookup_eq_none_iff hServed hToken o.secondListing
  have hBody : (createUnderLock svc chain team o).requested = true ↔ svc.alchemyApiKey ≠ "" ∧
      svc.webhookUrl ≠ "" ∧ svc.hasClient chain = true ∧ o.secondListing ≠ .listed := by
    unfold createUnderLock
    rw [← hSecond]
    split
    · simp_all
    split
    · simp_all
    split
    · simp_all
    split <;> simp_all
  cases hLock : o.lock with
  | readFails => simp [createNewWebhook, hLock]
  | held => simp [createNewWebhook, hLock]
  | writeFails => simp [createNewWebhook, hLock]
  | acquired =>
      rw [← hBody, createNewWebhook, hLock]
      cases o.releaseFails <;> simp

/-- Unless a creation was requested, only an answered listing gives an id. -/
theorem createNewWebhook_none (hToken : svc.alchemyToken ≠ "")
    (hNot : (createNewWebhook svc chain team o).requested = false)
    (hListings : ∀ response ∈ (createNewWebhook svc chain team o).listings, response ≠ .listed) :
    (createNewWebhook svc chain team o).webhookId = none := by
  have hBody : (createUnderLock svc chain team o).requested = false →
      (∀ response ∈ (createUnderLock svc chain team o).listings, response ≠ .listed) →
      (createUnderLock svc chain team o).webhookId = none := by
    unfold createUnderLock
    split
    · exact fun _ _ => rfl
    split
    · exact fun _ _ => rfl
    split
    · exact fun _ _ => rfl
    split
    · rename_i existingId hFound
      intro _ hSecond
      have hNone := (secondLookup_eq_none_iff hServed hToken o.secondListing).mpr
        (hSecond _ List.mem_cons_self)
      rw [hNone] at hFound
      cases hFound
    · intro hRequested
      cases hRequested
  cases hLock : o.lock with
  | readFails => rw [createNewWebhook, hLock]
  | held => rw [createNewWebhook, hLock]
  | writeFails => rw [createNewWebhook, hLock]
  | acquired =>
      rw [createNewWebhook, hLock] at hNot hListings ⊢
      cases hRelease : o.releaseFails with
      | true => rfl
      | false =>
          rw [hRelease] at hNot hListings
          exact hBody hNot hListings

/-- With a list as the first answer an existing webhook is found, and none is requested. -/
theorem getWebhookIdForChain_listed (hToken : svc.alchemyToken ≠ "")
    (hFirst : o.firstListing = .listed) :
    (getWebhookIdForChain svc chain team o).requested = false ∧
      .listed ∈ (getWebhookIdForChain svc chain team o).listings := by
  obtain ⟨w, hFound, -⟩ := find?_of_served hServed
  unfold getWebhookIdForChain getExistingWebhooks
  rw [if_neg hToken, hFirst]
  cases hWebhooks : team.webhooks with
  | nil => simp [hWebhooks] at hFound
  | cons first rest =>
      rw [hWebhooks] at hFound
      simp [hFound]

omit hServed in
/-- Without one the call goes on to the creation, as if no webhook were there. -/
theorem getWebhookIdForChain_of_not_listed (hFirst : o.firstListing ≠ .listed) :
    getWebhookIdForChain svc chain team o =
      { createNewWebhook svc chain team o with
        listings := o.firstListing :: (createNewWebhook svc chain team o).listings } := by
  unfold getWebhookIdForChain getExistingWebhooks
  by_cases hToken : svc.alchemyToken = ""
  · rw [if_pos hToken]
  · rw [if_neg hToken]
    cases hResponse : o.firstListing with
    | listed => exact absurd hResponse hFirst
    | malformed => rfl
    | failed => rfl

/-- A call on a chain that is served asks for a creation exactly when the step is
not reliable. -/
theorem run_requested_iff (operation : Operation) :
    (operation.run svc chain team o).1.requested = true ↔
      svc.alchemyToken ≠ "" ∧ o.firstListing ≠ .listed ∧ o.lock = .acquired ∧
        svc.alchemyApiKey ≠ "" ∧ svc.webhookUrl ≠ "" ∧ svc.hasClient chain = true ∧
          o.secondListing ≠ .listed := by
  unfold Operation.run
  by_cases hToken : svc.alchemyToken = ""
  · simp [hToken]
  · rw [if_neg hToken]
    have hFound : (match Text.present (getWebhookIdForChain svc chain team o).webhookId with
        | none => (getWebhookIdForChain svc chain team o, operation.failure)
        | some _ => (getWebhookIdForChain svc chain team o, operation.finish svc chain o)).1 =
        getWebhookIdForChain svc chain team o := by
      split <;> rfl
    rw [hFound]
    by_cases hFirst : o.firstListing = .listed
    · simp [(getWebhookIdForChain_listed hServed hToken hFirst).1, hFirst]
    · rw [getWebhookIdForChain_of_not_listed hFirst]
      show (createNewWebhook svc chain team o).requested = true ↔ _
      rw [createNewWebhook_requested_iff hServed hToken]
      simp [hToken, hFirst]

/-- Without an answered listing and without a creation there is no id to work with. -/
theorem run_failure (operation : Operation)
    (hNot : (operation.run svc chain team o).1.requested = false)
    (hListings : ∀ response ∈ (operation.run svc chain team o).1.listings, response ≠ .listed) :
    (operation.run svc chain team o).2.Failure := by
  have hFailure : operation.failure.Failure := by
    cases operation <;> rfl
  unfold Operation.run at hNot hListings ⊢
  split
  · exact hFailure
  · rename_i hToken
    rw [if_neg hToken] at hNot hListings
    dsimp only at hNot hListings ⊢
    split
    · exact hFailure
    · rename_i id hFoundId
      rw [hFoundId] at hNot hListings
      have hFirst : o.firstListing ≠ .listed := by
        intro hListed
        exact hListings .listed (getWebhookIdForChain_listed hServed hToken hListed).2 rfl
      rw [getWebhookIdForChain_of_not_listed hFirst] at hNot hListings hFoundId
      have hNone := createNewWebhook_none hServed hToken hNot
        fun response h => hListings response (List.mem_cons_of_mem _ h)
      rw [hNone] at hFoundId
      cases hFoundId

end Lookups

/-- One call is safe exactly when its step is reliable. -/
theorem safe_iff_reliable (s : State) (a : Action) :
    Call.Safe ⟨served svc a.chain s.team, (a.operation.run svc a.chain s.team a.outcomes).1,
        (a.operation.run svc a.chain s.team a.outcomes).2⟩ ↔ Reliable svc s a := by
  apply forall_congr'
  intro hServed
  have hRequested := @run_requested_iff svc a.chain s.team hServed a.outcomes a.operation
  constructor
  · rintro ⟨hNot, -⟩
    by_contra hUnreliable
    simp only [not_or] at hUnreliable
    rw [hRequested.mpr ?_] at hNot
    · cases hNot
    · simpa using hUnreliable
  · intro hReliable
    have hNot : (a.operation.run svc a.chain s.team a.outcomes).1.requested = false := by
      rw [← Bool.not_eq_true, hRequested]
      rintro ⟨hToken, hFirst, hLock, hKey, hUrl, hClient, hSecond⟩
      simp_all
    exact ⟨hNot, run_failure hServed a.operation hNot⟩

/-- Every call so far was safe. -/
def Safe (s : State) : Prop := ∀ c ∈ s.calls, c.Safe

/-- A step duplicates no webhook exactly if it is reliable, given that none was duplicated
before. -/
theorem safe_step_iff {s t : State} {a : Action} (hStep : step svc s a = some t) :
    Safe t ↔ Safe s ∧ Reliable svc s a := by
  obtain rfl := Option.some.inj hStep
  rw [← safe_iff_reliable]
  exact List.forall_mem_append.trans (and_congr_right fun _ => List.forall_mem_singleton)

/-- The calls of a run are all safe exactly when every step of it is reliable. -/
theorem safe_iff_meets {team : Team} {t : State} {actions : List Action}
    (hRun : run (step svc) ⟨team, []⟩ actions = some t) :
    Safe t ↔ Meets (step svc) (Reliable svc) ⟨team, []⟩ actions := by
  have hStart : Safe ⟨team, []⟩ := fun c hc => by cases hc
  constructor
  · intro hSafe
    apply @meets_of_persistent _ _ (step svc) (Reliable svc) (fun _ => True) (fun s => ¬ Safe s)
      ?_ ?_ ?_ _ _ _ hRun trivial (not_not.mpr hSafe)
    · exact fun _ _ _ _ _ => trivial
    · exact fun s a t _ hStep hNot hAll => hNot ((safe_step_iff svc hStep).mp hAll).2
    · exact fun s a t _ hBad hStep hAll => hBad ((safe_step_iff svc hStep).mp hAll).1
  · intro hMeets
    exact run_invariant_of_meets
      (fun s a t hSafe hReliable hStep => (safe_step_iff svc hStep).mpr ⟨hSafe, hReliable⟩) hRun
      hMeets hStart

/-- A service for every chain. -/
def service : Service := ⟨"token", "key", "https://kit.example/webhook", fun _ => true⟩

/-- A team with the webhook of Ethereum. -/
def ethereumTeam : Team where
  webhooks :=
    [⟨"wh_1", "ETH_MAINNET", "ADDRESS_ACTIVITY", "https://kit.example/webhook", true, "secret"⟩]
  ids := by simp

/-- An update whose two listings end as given and whose creation would succeed. -/
def update (first second : ListingResponse) : Action :=
  ⟨.updateWebhookAddresses, .ethereum,
    ⟨first, .acquired, second, none, some "wh_2", false, some []⟩⟩

def stateAfter (actions : List Action) : State :=
  (run (step service) ⟨ethereumTeam, []⟩ actions).getD ⟨ethereumTeam, []⟩

theorem safe_stateAfter_listed : Safe (stateAfter [update .failed .listed, update .listed .failed]) := by
  refine (@safe_iff_meets service ethereumTeam _
    [update .failed .listed, update .listed .failed] rfl).mpr ?_
  decide

/-- Both lookups fail, and a second webhook is requested for the chain. -/
theorem not_safe_stateAfter_failed : ¬ Safe (stateAfter [update .failed .failed]) := by
  intro hSafe
  exact absurd (hSafe _ List.mem_cons_self (by decide)).1 (by decide)

end BalanceKit.UnreliableListing
