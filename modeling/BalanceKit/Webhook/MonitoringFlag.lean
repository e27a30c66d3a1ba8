import BalanceKit.Library.Runs
import BalanceKit.Library.Text

/-! The `webhookMonitored` flags of one chain and the address sets of its Alchemy
webhooks. The per-address listener, the chain listener and the reconciliation
change the two one after the other, with awaits in between. Documents and
webhooks of other chains take no part. Times are milliseconds. -/
namespace BalanceKit.MonitoringFlag
open TransitionSystem

/-- The fields of a `portfolio_snapshot` that the handlers read. -/
structure Snapshot where
  address : String
  expiresAt : Nat
  webhookMonitored : Bool
  deriving DecidableEq

/-- An active webhook of the configured URL. It is `matching` when its type and
network are the ones that `getWebhookIdForChain` looks for. -/
structure Webhook where
  id : Nat
  matching : Bool
  addresses : List String
  deriving DecidableEq

/-- A handler at its await points. All three end in `updateWebhookAddresses`
followed by the mark and unmark steps. -/
inductive Handler where
  | saving (address : String)
  | saved (address : String)
  | askingActive (address : String)
  | askingMonitored (address : String) (isActive : Bool)
  | listingActive
  | listingExpired (activeAddresses : List String)
  | listingAddresses (webhookId : Nat)
  | checking (now : Nat) (addresses addressesToRemove : List String)
  | resolving (addressesToAdd addressesToRemove : List String)
  | creating (addressesToAdd addressesToRemove : List String)
  | updating (webhookId : Nat) (addressesToAdd addressesToRemove : List String)
  | marking (addressesToAdd addressesToRemove : List String)
  | unmarking (addressesToRemove : List String)
  | finished
  deriving DecidableEq

/-- `processedAddresses` and `processedChain` are the throttle maps of the two
listeners; zero stands for a missing entry. -/
structure State where
  now : Nat
  docs : List Snapshot
  webhooks : List Webhook
  handlers : List Handler
  processedAddresses : List (String × Nat)
  processedChain : Nat
  deriving DecidableEq

/-- No snapshot and no handler yet; the webhooks are arbitrary. -/
def State.init (now : Nat) (webhooks : List Webhook) : State := ⟨now, [], webhooks, [], [], 0⟩

/-- How `createNewWebhook` ends: its second listing finds a webhook, it creates
one that later listings show first or last, or it gives up. -/
inductive CreateOutcome where
  | existing
  | created (webhookId : Nat) (listedFirst : Bool)
  | unavailable
  deriving DecidableEq

inductive Action where
  | tick (ms : Nat)
  | expire (j : Nat)
  | removeExpired (j : Nat)
  | handlePortfolioRedisUpdated (address : String)
  | savePortfolioSnapshot (h : Nat) (existing : Option Nat)
  | enter (h : Nat)
  | isAddressActive (h : Nat)
  | isAddressMonitored (h : Nat)
  | handlePortfolioRedisUpdate
  | getActiveAddresses (h : Nat)
  | getExpiredAddresses (h : Nat)
  | reconcileChainAddresses (k : Nat)
  | getWebhookDetails (h : Nat)
  | checkAddress (h : Nat)
  | getWebhookIdForChain (h : Nat)
  | createNewWebhook (h : Nat) (outcome : CreateOutcome)
  | updateWebhook (h : Nat) (addFirst : Bool)
  | markAddressesAsMonitored (h : Nat)
  | unmarkExpiredAddresses (h : Nat)

def processInterval : Nat := 5 * 60 * 1000

def mongoTtl : Nat := 30 * 60 * 1000

def defaultMonitoredAddress : String := "0x710a850ff60aa2f8e9e27ef1e7edef17a2e682d2"

namespace State
variable (s : State)

def move (h : Nat) (handler : Handler) : State :=
  { s with handlers := s.handlers.set h handler }

def setDocs (docs : List Snapshot) : State := { s with docs := docs }

def setWebhooks (webhooks : List Webhook) : State := { s with webhooks := webhooks }

/-- The webhook that `getWebhookIdForChain` selects. -/
def selected : Option Webhook := s.webhooks.find? Webhook.matching

def active (address : String) (now : Nat) : Bool :=
  s.docs.any fun d => d.address == address && decide (now < d.expiresAt)

def monitored (address : String) : Bool :=
  s.docs.any fun d => d.address == address && d.webhookMonitored

def throttled (lastProcessTime : Nat) : Bool :=
  lastProcessTime != 0 && decide (s.now - lastProcessTime < processInterval)

/-- Addresses of unexpired snapshots that are not flagged. -/
def activeAddresses : List String :=
  (s.docs.filter fun d => decide (s.now < d.expiresAt) && !d.webhookMonitored).map
    Snapshot.address

/-- Addresses of expired snapshots that are flagged. -/
def expiredAddresses : List String :=
  (s.docs.filter fun d => decide (d.expiresAt ≤ s.now) && d.webhookMonitored).map
    Snapshot.address

end State

/-- Set the flag on every snapshot of the addresses. -/
def setMonitored (docs : List Snapshot) (addresses : List String) (flag : Bool) :
    List Snapshot :=
  docs.map fun d => if d.address ∈ addresses then { d with webhookMonitored := flag } else d

/-- The handler continues with an update, or ends when there is nothing to change. -/
def startUpdate (addressesToAdd addressesToRemove : List String) : Handler :=
  if addressesToAdd = [] ∧ addressesToRemove = [] then .finished
  else .resolving addressesToAdd addressesToRemove

def afterMark (addressesToRemove : List String) : Handler :=
  if addressesToRemove = [] then .finished else .unmarking addressesToRemove

def afterUpdate (addressesToAdd addressesToRemove : List String) : Handler :=
  if addressesToAdd = [] then afterMark addressesToRemove
  else .marking addressesToAdd addressesToRemove

/-- Alchemy keeps addresses in the form `canon` and may apply the two lists of
one request in either order. -/
def updatedAddresses (canon : String → String) (addresses addressesToAdd : List String)
    (addressesToRemove : List String) (addFirst : Bool) : List String :=
  if addFirst then
    (addresses ++ addressesToAdd.map canon).filter (· ∉ addressesToRemove.map canon)
  else addresses.filter (· ∉ addressesToRemove.map canon) ++ addressesToAdd.map canon

variable (canon : String → String)

def step (s : State) : Action → Option State
  | .tick ms => some { s with now := s.now + ms }
  | .expire j =>
      match s.docs[j]? with
      | some d => some (s.setDocs (s.docs.set j { d with expiresAt := s.now }))
      | none => none
  | .removeExpired j =>
      match s.docs[j]? with
      | some d => if d.expiresAt ≤ s.now then some (s.setDocs (s.docs.eraseIdx j)) else none
      | none => none
  | .handlePortfolioRedisUpdated address =>
      some { s with handlers := s.handlers ++ [.saving address] }
  | .savePortfolioSnapshot h existing =>
      match s.handlers[h]? with
      | some (.saving address) =>
          match existing with
          | some j =>
              match s.docs[j]? with
              | some d =>
                  if d.address = address then
                    some ((s.setDocs (s.docs.set j { d with expiresAt := s.now + mongoTtl })).move
                      h (.saved address))
                  else none
              | none => none
          | none =>
              some ((s.setDocs (s.docs ++ [⟨address, s.now + mongoTtl, false⟩])).move h
                (.saved address))
      | _ => none
  | .enter h =>
      match s.handlers[h]? with
      | some (.saved address) =>
          if s.throttled ((s.processedAddresses.lookup address).getD 0) then
            some (s.move h .finished)
          else
            some ({ s with processedAddresses := (address, s.now) :: s.processedAddresses }.move h
              (.askingActive address))
      | _ => none
  | .isAddressActive h =>
      match s.handlers[h]? with
      | some (.askingActive address) =>
          some (s.move h (.askingMonitored address (s.active address s.now)))
      | _ => none
  | .isAddressMonitored h =>
      match s.handlers[h]? with
      | some (.askingMonitored address isActive) =>
          some (s.move h (startUpdate
            (if isActive && !s.monitored address then [address] else [])
            (if !isActive && s.monitored address then [address] else [])))
      | _ => none
  | .handlePortfolioRedisUpdate =>
      if s.throttled s.processedChain then some s
      else
        some { s with processedChain := s.now, handlers := s.handlers ++ [.listingActive] }
  | .getActiveAddresses h =>
      match s.handlers[h]? with
      | some .listingActive => some (s.move h (.listingExpired s.activeAddresses))
      | _ => none
  | .getExpiredAddresses h =>
      match s.handlers[h]? with
      | some (.listingExpired activeAddresses) =>
          some (s.move h (startUpdate activeAddresses s.expiredAddresses))
      | _ => none
  | .reconcileChainAddresses k =>
      match s.webhooks[k]? with
      | some w => some { s with handlers := s.handlers ++ [.listingAddresses w.id] }
      | none => none
  | .getWebhookDetails h =>
      match s.handlers[h]? with
      | some (.listingAddresses webhookId) =>
          some (s.move h (.checking s.now
            (((s.webhooks.find? fun w => w.id == webhookId).map Webhook.addresses).getD []) []))
      | _ => none
  | .checkAddress h =>
      match s.handlers[h]? with
      | some (.checking _ [] addressesToRemove) =>
          some (s.move h (startUpdate [] addressesToRemove))
      | some (.checking now (address :: rest) addressesToRemove) =>
          if Text.toLowerCase address = Text.toLowerCase defaultMonitoredAddress ∨
              s.active address now = true then
            some (s.move h (.checking now rest addressesToRemove))
          else some (s.move h (.checking now rest (addressesToRemove ++ [address])))
      | _ => none
  | .getWebhookIdForChain h =>
      match s.handlers[h]? with
      | some (.resolving addressesToAdd addressesToRemove) =>
          match s.selected with
          | some w => some (s.move h (.updating w.id addressesToAdd addressesToRemove))
          | none => some (s.move h (.creating addressesToAdd addressesToRemove))
      | _ => none
  | .createNewWebhook h outcome =>
      match s.handlers[h]? with
      | some (.creating addressesToAdd addressesToRemove) =>
          match outcome with
          | .existing =>
              match s.selected with
              | some w => some (s.move h (.updating w.id addressesToAdd addressesToRemove))
              | none => none
          | .created webhookId listedFirst =>
              let webhook : Webhook := ⟨webhookId, true, [canon defaultMonitoredAddress]⟩
              some ((s.setWebhooks
                (if listedFirst then webhook :: s.webhooks else s.webhooks ++ [webhook])).move h
                (.updating webhookId addressesToAdd addressesToRemove))
          | .unavailable => some (s.move h .finished)
      | _ => none
  | .updateWebhook h addFirst =>
      match s.handlers[h]? with
      | some (.updating webhookId addressesToAdd addressesToRemove) =>
          some ((s.setWebhooks (s.webhooks.map fun w =>
              if w.id = webhookId then
                { w with
                  addresses := updatedAddresses canon w.addresses addressesToAdd
                    addressesToRemove addFirst }
              else w)).move h (afterUpdate addressesToAdd addressesToRemove))
      | _ => none
  | .markAddressesAsMonitored h =>
      match s.handlers[h]? with
      | some (.marking addressesToAdd addressesToRemove) =>
          some ((s.setDocs (setMonitored s.docs addressesToAdd true)).move h
            (afterMark addressesToRemove))
      | _ => none
  | .unmarkExpiredAddresses h =>
      match s.handlers[h]? with
      | some (.unmarking addressesToRemove) =>
          some ((s.setDocs (setMonitored s.docs addressesToRemove false)).move h .finished)
      | _ => none

/-- No handler is in progress. -/
def Quiet (s : State) : Prop := ∀ handler ∈ s.handlers, handler = .finished

instance (s : State) : Decidable (Quiet s) :=
  inferInstanceAs (Decidable (∀ handler ∈ s.handlers, handler = .finished))

/-- The address is in the set of the selected webhook. -/
def Subscribed (s : State) (address : String) : Prop :=
  ∃ w ∈ s.selected, canon address ∈ w.addresses

instance (s : State) (address : String) : Decidable (Subscribed canon s address) :=
  inferInstanceAs (Decidable (∃ w ∈ s.selected, canon address ∈ w.addresses))

/-- Every flagged snapshot is subscribed. -/
def Truthful (s : State) : Prop :=
  ∀ d ∈ s.docs, d.webhookMonitored = true → Subscribed canon s d.address

instance (s : State) : Decidable (Truthful canon s) :=
  inferInstanceAs
    (Decidable (∀ d ∈ s.docs, d.webhookMonitored = true → Subscribed canon s d.address))

/-- The webhook that the action creates. -/
def creates (s : State) : Action → Option Nat
  | .createNewWebhook h (.created webhookId _) =>
      match s.handlers[h]? with
      | some (.creating _ _) => some webhookId
      | _ => none
  | _ => none

/-- The lists that the action sends to Alchemy, and whether it adds first. -/
def updates (s : State) : Action → Option (List String × List String × Bool)
  | .updateWebhook h addFirst =>
      match s.handlers[h]? with
      | some (.updating _ addressesToAdd addressesToRemove) =>
          some (addressesToAdd, addressesToRemove, addFirst)
      | _ => none
  | _ => none

/-- The addresses that the action flags, and those that its handler unmarks next. -/
def marks (s : State) : Action → Option (List String × List String)
  | .markAddressesAsMonitored h =>
      match s.handlers[h]? with
      | some (.marking addressesToAdd addressesToRemove) => some (addressesToAdd, addressesToRemove)
      | _ => none
  | _ => none

/-- A webhook is created only when none is selected; an update removes a flagged
address only under the spellings that its handler will unmark; and an address is
flagged only while it is subscribed or about to be unmarked by the same handler. -/
def InStep (s : State) (a : Action) : Prop :=
  (∀ _ ∈ creates s a, s.selected = none) ∧
  (∀ u ∈ updates s a, ∀ d ∈ s.docs, d.webhookMonitored = true →
    canon d.address ∈ u.2.1.map canon →
      (u.2.2 = false ∧ canon d.address ∈ u.1.map canon) ∨ d.address ∈ u.2.1) ∧
  ∀ m ∈ marks s a, ∀ d ∈ s.docs, d.address ∈ m.1 →
    Subscribed canon s d.address ∨ d.address ∈ m.2

instance (s : State) (a : Action) : Decidable (InStep canon s a) :=
  inferInstanceAs (Decidable (_ ∧ _ ∧ _))

/-- The addresses that the handler has removed and will unmark. -/
def Handler.pendingUnmark : Handler → List String
  | .marking _ addressesToRemove => addressesToRemove
  | .unmarking addressesToRemove => addressesToRemove
  | _ => []

/-- The webhook that the handler is about to update. -/
def Handler.target : Handler → Option Nat
  | .updating webhookId _ _ => some webhookId
  | _ => none

/-- A handler that has only decided what to update names no webhook yet. -/
@[simp] theorem target_startUpdate (addressesToAdd addressesToRemove : List String) :
    (startUpdate addressesToAdd addressesToRemove).target = none := by
  unfold startUpdate
  split <;> rfl

/-- What is left to unmark after the marking is the same list, also when it is empty and the
handler ends. -/
@[simp] theorem pendingUnmark_afterMark (addressesToRemove : List String) :
    (afterMark addressesToRemove).pendingUnmark = addressesToRemove := by
  unfold afterMark
  split
  · rename_i h
    rw [h]
    rfl
  · rfl

@[simp] theorem target_afterMark (addressesToRemove : List String) :
    (afterMark addressesToRemove).target = none := by
  unfold afterMark
  split <;> rfl

/-- After the update the removed addresses wait for their unmarking, whether or not others are
marked first. -/
@[simp] theorem pendingUnmark_afterUpdate (addressesToAdd addressesToRemove : List String) :
    (afterUpdate addressesToAdd addressesToRemove).pendingUnmark = addressesToRemove := by
  unfold afterUpdate
  split
  · exact pendingUnmark_afterMark addressesToRemove
  · rfl

/-- The webhook has been updated; the handler goes on with the snapshots and names no webhook any
more. -/
@[simp] theorem target_afterUpdate (addressesToAdd addressesToRemove : List String) :
    (afterUpdate addressesToAdd addressesToRemove).target = none := by
  unfold afterUpdate
  split
  · exact target_afterMark addressesToRemove
  · rfl

/-- Some handler has removed the address and will unmark it. -/
def Covered (s : State) (address : String) : Prop :=
  ∃ handler ∈ s.handlers, address ∈ handler.pendingUnmark

/-- A flagged address is subscribed or about to be unmarked, and every update
under way goes to the selected webhook. -/
structure Inv (s : State) : Prop where
  flags : ∀ d ∈ s.docs, d.webhookMonitored = true →
    Subscribed canon s d.address ∨ Covered s d.address
  targets : ∀ handler ∈ s.handlers, ∀ webhookId ∈ handler.target,
    ∃ w ∈ s.selected, w.id = webhookId

variable {canon}

/-- Without snapshots no flag is set, and without handlers no update is under way. -/
theorem inv_init (now : Nat) (webhooks : List Webhook) : Inv canon (State.init now webhooks) :=
  ⟨fun _ h => by (cases h), fun _ h => by (cases h)⟩

/-- When all handlers have finished no unmarking is pending, so a flagged address can only be a
subscribed one. -/
theorem Inv.truthful {s : State} (h : Inv canon s) (hQuiet : Quiet s) : Truthful canon s := by
  intro d hd hFlag
  rcases h.flags d hd hFlag with hSubscribed | ⟨handler, hMem, hPending⟩
  · exact hSubscribed
  · rw [hQuiet handler hMem] at hPending
    cases hPending

/-- Steps outside the handlers may drop documents and start handlers. -/
theorem Inv.of_outside {s t : State} (h : Inv canon s) (hWebhooks : t.webhooks = s.webhooks)
    (hDocs : ∀ d ∈ t.docs, d.webhookMonitored = true →
      ∃ e ∈ s.docs, e.webhookMonitored = true ∧ e.address = d.address)
    (hKept : ∀ handler ∈ s.handlers, handler ∈ t.handlers)
    (hNew : ∀ handler ∈ t.handlers, handler ∈ s.handlers ∨ handler.target = none) :
    Inv canon t := by
  have hSelected : t.selected = s.selected := by rw [State.selected, hWebhooks, State.selected]
  refine ⟨?_, ?_⟩
  · intro d hd hFlag
    obtain ⟨e, he, heFlag, hAddress⟩ := hDocs d hd hFlag
    rw [← hAddress]
    rcases h.flags e he heFlag with ⟨w, hw, hMem⟩ | ⟨handler, hHandler, hPending⟩
    · exact .inl ⟨w, hSelected ▸ hw, hMem⟩
    · exact .inr ⟨handler, hKept handler hHandler, hPending⟩
  · intro handler hHandler webhookId hTarget
    rw [hSelected]
    rcases hNew handler hHandler with hOld | hNone
    · exact h.targets handler hOld webhookId hTarget
    · rw [hNone] at hTarget
      cases hTarget

/-- A step of one handler. A flagged document is subscribed now, will be unmarked
by the handler, or was flagged before and has lost neither of its reasons. -/
theorem Inv.of_handler {s t : State} {i : Nat} {old new : Handler} (h : Inv canon s)
    (hOld : s.handlers[i]? = some old) (hHandlers : t.handlers = s.handlers.set i new)
    (hSelected : ∀ w ∈ s.selected, ∃ w' ∈ t.selected, w'.id = w.id)
    (hTarget : ∀ webhookId ∈ new.target, ∃ w ∈ t.selected, w.id = webhookId)
    (hDocs : ∀ d ∈ t.docs, d.webhookMonitored = true →
      (Subscribed canon t d.address ∨ d.address ∈ new.pendingUnmark) ∨
      ∃ e ∈ s.docs, e.webhookMonitored = true ∧ e.address = d.address ∧
        (Subscribed canon s d.address →
          Subscribed canon t d.address ∨ d.address ∈ new.pendingUnmark) ∧
        (d.address ∈ old.pendingUnmark → d.address ∈ new.pendingUnmark)) : Inv canon t := by
  have hLength : i < s.handlers.length := (List.getElem?_eq_some_iff.mp hOld).1
  have hMoved : ∀ address ∈ new.pendingUnmark, Covered t address := by
    intro address hAddress
    refine ⟨new, ?_, hAddress⟩
    rw [hHandlers]
    exact List.mem_of_getElem? (List.getElem?_set_self hLength)
  refine ⟨?_, ?_⟩
  · intro d hd hFlag
    rcases hDocs d hd hFlag with (hNow | hPending) | ⟨e, he, heFlag, hSame, hKeep, hStill⟩
    · exact .inl hNow
    · exact .inr (hMoved _ hPending)
    · rcases h.flags e he heFlag with hSubscribed | ⟨handler, hMem, hPending⟩
      · rw [hSame] at hSubscribed
        exact (hKeep hSubscribed).imp_right (hMoved _)
      · rw [hSame] at hPending
        obtain ⟨j, hj⟩ := List.mem_iff_getElem?.mp hMem
        by_cases hij : i = j
        · subst hij
          rw [hOld] at hj
          cases hj
          exact .inr (hMoved _ (hStill hPending))
        · refine .inr ⟨handler, ?_, hPending⟩
          rw [hHandlers]
          exact List.mem_of_getElem? ((List.getElem?_set_ne hij).trans hj)
  · intro handler hHandler webhookId hId
    rw [hHandlers] at hHandler
    rcases List.mem_or_eq_of_mem_set hHandler with hKept | rfl
    · obtain ⟨w, hw, hSame⟩ := h.targets handler hKept webhookId hId
      obtain ⟨w', hw', hSame'⟩ := hSelected w hw
      exact ⟨w', hw', hSame'.trans hSame⟩
    · exact hTarget webhookId hId

/-- A step that only moves a handler towards its update. Neither the snapshots nor the webhooks have
changed. -/
theorem Inv.of_move {s t : State} {i : Nat} {old new : Handler} (h : Inv canon s)
    (hOld : s.handlers[i]? = some old) (hHandlers : t.handlers = s.handlers.set i new)
    (hWebhooks : t.webhooks = s.webhooks)
    (hDocs : ∀ d ∈ t.docs, d.webhookMonitored = true →
      ∃ e ∈ s.docs, e.webhookMonitored = true ∧ e.address = d.address)
    (hPending : old.pendingUnmark = [])
    (hTarget : ∀ webhookId ∈ new.target, ∃ w ∈ s.selected, w.id = webhookId) : Inv canon t := by
  have hSelected : t.selected = s.selected := by rw [State.selected, hWebhooks, State.selected]
  refine h.of_handler hOld hHandlers (fun w hw => ⟨w, hSelected ▸ hw, rfl⟩) ?_ ?_
  · rw [hSelected]
    exact hTarget
  · intro d hd hFlag
    obtain ⟨e, he, heFlag, hSame⟩ := hDocs d hd hFlag
    refine .inr ⟨e, he, heFlag, hSame, ?_, fun hMem => ?_⟩
    · rintro ⟨w, hw, hMem⟩
      exact .inl ⟨w, hSelected ▸ hw, hMem⟩
    · rw [hPending] at hMem
      cases hMem

/-- Documents that keep their flag are their own witnesses. -/
theorem flagged_self (docs : List Snapshot) : ∀ d ∈ docs, d.webhookMonitored = true →
    ∃ e ∈ docs, e.webhookMonitored = true ∧ e.address = d.address :=
  fun d hd hFlag => ⟨d, hd, hFlag, rfl⟩

/-- A handler that moves on without touching the stores. -/
theorem Inv.move {s : State} {i : Nat} {old new : Handler} (h : Inv canon s)
    (hOld : s.handlers[i]? = some old) (hPending : old.pendingUnmark = [])
    (hTarget : new.target = none) : Inv canon (s.move i new) := by
  refine h.of_move hOld rfl rfl (flagged_self _) hPending fun webhookId hId => ?_
  rw [hTarget] at hId
  cases hId

/-- A handler that starts. -/
theorem Inv.of_spawn {s t : State} {new : Handler} (h : Inv canon s)
    (hHandlers : t.handlers = s.handlers ++ [new]) (hDocs : t.docs = s.docs)
    (hWebhooks : t.webhooks = s.webhooks) (hTarget : new.target = none) : Inv canon t := by
  refine h.of_outside hWebhooks (hDocs ▸ flagged_self _) (fun handler hMem => ?_)
    fun handler hMem => ?_
  · rw [hHandlers]
    exact List.mem_append_left _ hMem
  · rw [hHandlers] at hMem
    rcases List.mem_append.mp hMem with hOld | hNew
    · exact .inl hOld
    · rw [List.mem_singleton.mp hNew]
      exact .inr hTarget

/-- Replacing the expiry of a document keeps flags and addresses. -/
theorem flagged_set {docs : List Snapshot} {j expiresAt : Nat} {d : Snapshot}
    (hFound : docs[j]? = some d) :
    ∀ e ∈ docs.set j { d with expiresAt := expiresAt }, e.webhookMonitored = true →
      ∃ e' ∈ docs, e'.webhookMonitored = true ∧ e'.address = e.address := by
  intro e he hFlag
  rcases List.mem_or_eq_of_mem_set he with hOld | rfl
  · exact ⟨e, hOld, hFlag, rfl⟩
  · exact ⟨d, List.mem_of_getElem? hFound, hFlag, rfl⟩

/-- Marking and unmarking reach exactly the snapshots of the listed addresses, and change their
flag only. -/
theorem mem_setMonitored {docs : List Snapshot} {addresses : List String} {flag : Bool}
    {d : Snapshot} (h : d ∈ setMonitored docs addresses flag) :
    ∃ e ∈ docs, e.address = d.address ∧
      ((d.address ∈ addresses ∧ d.webhookMonitored = flag) ∨
        (d.address ∉ addresses ∧ d.webhookMonitored = e.webhookMonitored)) := by
  obtain ⟨e, he, hNew⟩ := List.mem_map.mp h
  split at hNew
  · rename_i hMem
    subst hNew
    exact ⟨e, he, rfl, .inl ⟨hMem, rfl⟩⟩
  · rename_i hNotMem
    subst hNew
    exact ⟨e, he, rfl, .inr ⟨hNotMem, rfl⟩⟩

section Steps
variable {s t : State} {i : Nat}

/-- The upsert renews the expiry of a snapshot and keeps its flag; a new snapshot is not flagged. -/
theorem inv_savePortfolioSnapshot (h : Inv canon s) {existing : Option Nat}
    (hStep : step canon s (.savePortfolioSnapshot i existing) = some t) : Inv canon t := by
  simp only [step] at hStep
  split at hStep
  · rename_i address hHandler
    split at hStep
    · split at hStep
      · rename_i d hFound
        split at hStep
        · cases hStep
          exact h.of_move hHandler rfl rfl (flagged_set hFound) rfl (fun _ hId => by cases hId)
        · cases hStep
      · cases hStep
    · cases hStep
      refine h.of_move hHandler rfl rfl ?_ rfl (fun _ hId => by cases hId)
      intro d hd hFlag
      rcases List.mem_append.mp hd with hOld | hNew
      · exact ⟨d, hOld, hFlag, rfl⟩
      · rw [List.mem_singleton.mp hNew] at hFlag
        cases hFlag
  · cases hStep

/-- The throttle decides whether the handler goes on. Neither way does it touch a flag. A handler
that is turned away is done. -/
theorem inv_enter (h : Inv canon s) (hStep : step canon s (.enter i) = some t) :
    Inv canon t := by
  simp only [step] at hStep
  split at hStep
  · rename_i address hHandler
    split at hStep
    · cases hStep
      exact h.move hHandler rfl rfl
    · cases hStep
      exact h.of_move hHandler rfl rfl (flagged_self _) rfl (fun _ hId => by cases hId)
  · cases hStep

/-- The reconciliation collects what it will remove, one address after the other, without removing
it yet. -/
theorem inv_checkAddress (h : Inv canon s) (hStep : step canon s (.checkAddress i) = some t) :
    Inv canon t := by
  simp only [step] at hStep
  split at hStep
  · rename_i hHandler
    cases hStep
    exact h.move hHandler rfl (by simp)
  · rename_i hHandler
    split at hStep
    · cases hStep
      exact h.move hHandler rfl rfl
    · cases hStep
      exact h.move hHandler rfl rfl
  · cases hStep

/-- The webhook that the lookup selects is the one that the update will go to. If it selects none, a
new webhook is created in its place. -/
theorem inv_getWebhookIdForChain (h : Inv canon s)
    (hStep : step canon s (.getWebhookIdForChain i) = some t) : Inv canon t := by
  simp only [step] at hStep
  split at hStep
  · rename_i addressesToAdd addressesToRemove hHandler
    split at hStep
    · rename_i w hSelected
      cases hStep
      refine h.of_move hHandler rfl rfl (flagged_self _) rfl ?_
      intro webhookId hId
      cases hId
      exact ⟨w, hSelected, rfl⟩
    · cases hStep
      exact h.move hHandler rfl rfl
  · cases hStep

/-- A webhook created while none is selected becomes the selected one. It has no addresses yet, and
no flag is set that would need one. -/
theorem selected_created {webhook : Webhook} (hMatching : webhook.matching = true)
    (hNone : s.selected = none) (listedFirst : Bool) :
    (if listedFirst then webhook :: s.webhooks else s.webhooks ++ [webhook]).find?
      Webhook.matching = some webhook := by
  unfold State.selected at hNone
  cases listedFirst with
  | true => simp [hMatching]
  | false => simp [List.find?_append, hNone, hMatching]

/-- A created webhook must be the one that is selected from now on. It is, where none was selected
before; otherwise the flags would lose the webhook that they speak of. -/
theorem inv_createNewWebhook (h : Inv canon s) {outcome : CreateOutcome}
    (hOk : InStep canon s (.createNewWebhook i outcome))
    (hStep : step canon s (.createNewWebhook i outcome) = some t) : Inv canon t := by
  simp only [step] at hStep
  split at hStep
  · rename_i addressesToAdd addressesToRemove hHandler
    split at hStep
    · split at hStep
      · rename_i w hSelected
        cases hStep
        refine h.of_move hHandler rfl rfl (flagged_self _) rfl ?_
        intro webhookId hId
        cases hId
        exact ⟨w, hSelected, rfl⟩
      · cases hStep
    · rename_i webhookId listedFirst
      have hNone : s.selected = none := hOk.1 webhookId (by simp [creates, hHandler])
      cases hStep
      refine h.of_handler hHandler rfl (fun w hw => ?_) ?_ ?_
      · rw [hNone] at hw
        cases hw
      · intro id hId
        cases hId
        exact ⟨_, selected_created rfl hNone listedFirst, rfl⟩
      · intro d hd hFlag
        refine .inr ⟨d, hd, hFlag, rfl, ?_, fun hMem => by cases hMem⟩
        rintro ⟨w, hw, -⟩
        rw [hNone] at hw
        cases hw
    · cases hStep
      exact h.move hHandler rfl rfl
  · cases hStep

/-- An update that does not name the address leaves it subscribed. -/
theorem mem_updatedAddresses {addresses addressesToAdd addressesToRemove : List String}
    {addFirst : Bool} {address : String} (hOld : address ∈ addresses)
    (hKept : address ∈ addressesToRemove.map canon →
      addFirst = false ∧ address ∈ addressesToAdd.map canon) :
    address ∈ updatedAddresses canon addresses addressesToAdd addressesToRemove addFirst := by
  unfold updatedAddresses
  by_cases hRemoved : address ∈ addressesToRemove.map canon
  · obtain ⟨hLast, hAdded⟩ := hKept hRemoved
    rw [if_neg (by simp [hLast])]
    exact List.mem_append_right _ hAdded
  · split
    · exact List.mem_filter.mpr ⟨List.mem_append_left _ hOld, by simpa using hRemoved⟩
    · exact List.mem_append_left _ (List.mem_filter.mpr ⟨hOld, by simpa using hRemoved⟩)

/-- The update goes to the selected webhook. A flagged address that it removes is either added
again by the same request or waits for its unmarking. -/
theorem inv_updateWebhook (h : Inv canon s) {addFirst : Bool}
    (hOk : InStep canon s (.updateWebhook i addFirst))
    (hStep : step canon s (.updateWebhook i addFirst) = some t) : Inv canon t := by
  simp only [step] at hStep
  split at hStep
  · rename_i webhookId addressesToAdd addressesToRemove hHandler
    obtain ⟨w, hw, hTarget⟩ := h.targets _ (List.mem_of_getElem? hHandler) webhookId rfl
    have hUpdate := hOk.2.1 (addressesToAdd, addressesToRemove, addFirst)
      (by simp [updates, hHandler])
    have hSelected : (s.webhooks.map fun w =>
        if w.id = webhookId then
          { w with
            addresses := updatedAddresses canon w.addresses addressesToAdd addressesToRemove
              addFirst }
        else w).find? Webhook.matching =
        some { w with
          addresses := updatedAddresses canon w.addresses addressesToAdd addressesToRemove
            addFirst } := by
      have hMatching : (Webhook.matching ∘ fun w : Webhook =>
          if w.id = webhookId then
            { w with
              addresses := updatedAddresses canon w.addresses addressesToAdd addressesToRemove
                addFirst }
          else w) = Webhook.matching := by
        funext v
        simp only [Function.comp]
        split <;> rfl
      have hFind : s.webhooks.find? Webhook.matching = some w := hw
      rw [List.find?_map, hMatching, hFind]
      simp [hTarget]
    cases hStep
    refine h.of_handler hHandler rfl ?_ (by simp) ?_
    · intro v hv
      rw [Option.mem_def.mp hw] at hv
      cases hv
      exact ⟨_, hSelected, rfl⟩
    · intro d hd hFlag
      refine .inr ⟨d, hd, hFlag, rfl, ?_, fun hMem => by cases hMem⟩
      rintro ⟨v, hv, hMem⟩
      rw [Option.mem_def.mp hw] at hv
      cases hv
      by_cases hRemoved : d.address ∈ addressesToRemove
      · exact .inr (by simpa using hRemoved)
      · refine .inl ⟨_, hSelected, mem_updatedAddresses hMem fun hNamed => ?_⟩
        exact (hUpdate d hd hFlag hNamed).resolve_right hRemoved
  · cases hStep

/-- What is flagged now is subscribed, or the same handler unmarks it next. -/
theorem inv_markAddressesAsMonitored (h : Inv canon s)
    (hOk : InStep canon s (.markAddressesAsMonitored i))
    (hStep : step canon s (.markAddressesAsMonitored i) = some t) : Inv canon t := by
  simp only [step] at hStep
  split at hStep
  · rename_i addressesToAdd addressesToRemove hHandler
    have hMark := hOk.2.2 (addressesToAdd, addressesToRemove) (by simp [marks, hHandler])
    cases hStep
    refine h.of_handler hHandler rfl (fun w hw => ⟨w, hw, rfl⟩) (by simp) ?_
    intro d hd hFlag
    obtain ⟨e, he, hSame, ⟨hMarked, -⟩ | ⟨-, hKept⟩⟩ := mem_setMonitored hd
    · have hReason := hMark e he (hSame ▸ hMarked)
      rw [hSame] at hReason
      exact .inl (hReason.imp_right fun hMem => by simpa using hMem)
    · refine .inr ⟨e, he, hKept ▸ hFlag, hSame, .inl, fun hMem => ?_⟩
      rw [pendingUnmark_afterMark]
      exact hMem
  · cases hStep

/-- The unmarking clears the flags of the addresses that the handler has removed, so nothing has
to wait for it any longer. -/
theorem inv_unmarkExpiredAddresses (h : Inv canon s)
    (hStep : step canon s (.unmarkExpiredAddresses i) = some t) : Inv canon t := by
  simp only [step] at hStep
  split at hStep
  · rename_i addressesToRemove hHandler
    cases hStep
    refine h.of_handler hHandler rfl (fun w hw => ⟨w, hw, rfl⟩) (fun _ hId => by cases hId) ?_
    intro d hd hFlag
    obtain ⟨e, he, hSame, ⟨-, hCleared⟩ | ⟨hOther, hKept⟩⟩ := mem_setMonitored hd
    · rw [hCleared] at hFlag
      cases hFlag
    · exact .inr ⟨e, he, hKept ▸ hFlag, hSame, .inl, fun hMem => absurd hMem hOther⟩
  · cases hStep

/-- An expiry that is brought forward keeps every flag and its reason. Whether an address is
subscribed does not depend on the expiry. -/
theorem inv_expire (h : Inv canon s) {j : Nat} (hStep : step canon s (.expire j) = some t) :
    Inv canon t := by
  simp only [step] at hStep
  split at hStep
  · rename_i d hFound
    cases hStep
    exact h.of_outside rfl (flagged_set hFound) (fun _ hMem => hMem) (fun _ hMem => .inl hMem)
  · cases hStep

/-- With a removed snapshot its flag is gone as well. -/
theorem inv_removeExpired (h : Inv canon s) {j : Nat}
    (hStep : step canon s (.removeExpired j) = some t) : Inv canon t := by
  simp only [step] at hStep
  split at hStep
  · split at hStep
    · cases hStep
      refine h.of_outside rfl ?_ (fun _ hMem => hMem) (fun _ hMem => .inl hMem)
      exact fun d hd hFlag => ⟨d, List.mem_of_mem_eraseIdx hd, hFlag, rfl⟩
    · cases hStep
  · cases hStep

/-- The handler of one address reads the snapshots, which changes nothing. Its answer may be
outdated when it is used, which the invariant allows. -/
theorem inv_isAddressActive (h : Inv canon s)
    (hStep : step canon s (.isAddressActive i) = some t) : Inv canon t := by
  simp only [step] at hStep
  split at hStep
  · rename_i address hHandler
    cases hStep
    exact h.move hHandler rfl rfl
  · cases hStep

/-- The handler of one address decides what to update, and has sent nothing yet. -/
theorem inv_isAddressMonitored (h : Inv canon s)
    (hStep : step canon s (.isAddressMonitored i) = some t) : Inv canon t := by
  simp only [step] at hStep
  split at hStep
  · rename_i address isActive hHandler
    cases hStep
    exact h.move hHandler rfl (by simp)
  · cases hStep

/-- Whether it is throttled or not, the chain listener touches neither flags nor webhooks. -/
theorem inv_handlePortfolioRedisUpdate (h : Inv canon s)
    (hStep : step canon s .handlePortfolioRedisUpdate = some t) : Inv canon t := by
  simp only [step] at hStep
  split at hStep
  · cases hStep
    exact h
  · cases hStep
    exact h.of_spawn rfl rfl rfl rfl

theorem inv_getActiveAddresses (h : Inv canon s)
    (hStep : step canon s (.getActiveAddresses i) = some t) : Inv canon t := by
  simp only [step] at hStep
  split at hStep
  · rename_i hHandler
    cases hStep
    exact h.move hHandler rfl rfl
  · cases hStep

/-- The handler of the chain decides what to update, and has sent nothing yet. -/
theorem inv_getExpiredAddresses (h : Inv canon s)
    (hStep : step canon s (.getExpiredAddresses i) = some t) : Inv canon t := by
  simp only [step] at hStep
  split at hStep
  · rename_i activeAddresses hHandler
    cases hStep
    exact h.move hHandler rfl (by simp)
  · cases hStep

/-- A reconciliation starts with a webhook in mind and with nothing to unmark. It unmarks only what
it has removed from the webhook. -/
theorem inv_reconcileChainAddresses (h : Inv canon s) {k : Nat}
    (hStep : step canon s (.reconcileChainAddresses k) = some t) : Inv canon t := by
  simp only [step] at hStep
  split at hStep
  · cases hStep
    exact h.of_spawn rfl rfl rfl rfl
  · cases hStep

theorem inv_getWebhookDetails (h : Inv canon s)
    (hStep : step canon s (.getWebhookDetails i) = some t) : Inv canon t := by
  simp only [step] at hStep
  split at hStep
  · rename_i webhookId hHandler
    cases hStep
    exact h.move hHandler rfl rfl
  · cases hStep

/-- One step keeps the invariant. Only three of them need to be in step: the creation of a
webhook, the update of one, and the setting of flags. -/
theorem inv_step {a : Action} (h : Inv canon s) (hOk : InStep canon s a)
    (hStep : step canon s a = some t) : Inv canon t := by
  cases a with
  | tick ms =>
      cases hStep
      exact h.of_outside rfl (flagged_self _) (fun _ hMem => hMem) (fun _ hMem => .inl hMem)
  | expire j => exact inv_expire h hStep
  | removeExpired j => exact inv_removeExpired h hStep
  | handlePortfolioRedisUpdated address =>
      cases hStep
      exact h.of_spawn rfl rfl rfl rfl
  | savePortfolioSnapshot i existing => exact inv_savePortfolioSnapshot h hStep
  | enter i => exact inv_enter h hStep
  | isAddressActive i => exact inv_isAddressActive h hStep
  | isAddressMonitored i => exact inv_isAddressMonitored h hStep
  | handlePortfolioRedisUpdate => exact inv_handlePortfolioRedisUpdate h hStep
  | getActiveAddresses i => exact inv_getActiveAddresses h hStep
  | getExpiredAddresses i => exact inv_getExpiredAddresses h hStep
  | reconcileChainAddresses k => exact inv_reconcileChainAddresses h hStep
  | getWebhookDetails i => exact inv_getWebhookDetails h hStep
  | checkAddress i => exact inv_checkAddress h hStep
  | getWebhookIdForChain i => exact inv_getWebhookIdForChain h hStep
  | createNewWebhook i outcome => exact inv_createNewWebhook h hOk hStep
  | updateWebhook i addFirst => exact inv_updateWebhook h hOk hStep
  | markAddressesAsMonitored i => exact inv_markAddressesAsMonitored h hOk hStep
  | unmarkExpiredAddresses i => exact inv_unmarkExpiredAddresses h hStep

end Steps

/-- In every run whose updates and flags stay in step, a quiet state is truthful. -/
theorem truthful_of_inStep {now : Nat} {webhooks : List Webhook} {actions : List Action}
    {s : State} (hRun : run (step canon) (State.init now webhooks) actions = some s)
    (hInStep : Meets (step canon) (InStep canon) (State.init now webhooks) actions)
    (hQuiet : Quiet s) : Truthful canon s :=
  (run_invariant_of_meets (fun _ _ _ h hOk hStep => inv_step h hOk hStep) hRun hInStep
    (inv_init now webhooks)).truthful hQuiet

/-- The webhook of the chain, with its default address only. -/
def freshWebhook : Webhook := ⟨1, true, [defaultMonitoredAddress]⟩

/-- The per-address listener stores a snapshot, subscribes it and flags it. -/
def subscribeRun (address : String) : List Action :=
  [.handlePortfolioRedisUpdated address, .savePortfolioSnapshot 0 none, .enter 0,
    .isAddressActive 0, .isAddressMonitored 0, .getWebhookIdForChain 0, .updateWebhook 0 true,
    .markAddressesAsMonitored 0]

/-- A reconciliation of the webhook with two addresses, of which it removes one. -/
def reconcileRun : List Action :=
  [.reconcileChainAddresses 0, .getWebhookDetails 1, .checkAddress 1, .checkAddress 1,
    .checkAddress 1, .getWebhookIdForChain 1, .updateWebhook 1 true, .unmarkExpiredAddresses 1]

/-- The address is in lower case already, as Alchemy keeps it, so the flag speaks of an address
that is there. -/
theorem truthful_subscribeRun :
    ∃ s, run (step Text.toLowerCase) (State.init 1 [freshWebhook]) (subscribeRun "0xab") =
        some s ∧ Truthful Text.toLowerCase s :=
  ⟨_, rfl, @truthful_of_inStep Text.toLowerCase 1 [freshWebhook] (subscribeRun "0xab") _ rfl
    (by decide) (by decide)⟩

/-- Alchemy lists the address in lower case; the reconciliation looks for a
snapshot of that spelling, finds none, and removes and unmarks only it. -/
theorem mixedCase_not_truthful :
    ∃ s, run (step Text.toLowerCase) (State.init 1 [freshWebhook])
        (subscribeRun "0xAb" ++ reconcileRun) = some s ∧
      Quiet s ∧ ¬ Truthful Text.toLowerCase s :=
  ⟨_, rfl, by decide, by decide⟩

end BalanceKit.MonitoringFlag
