import BalanceKit.Sse.Notification
import BalanceKit.Sse.Resumption
import BalanceKit.Webhook.FanOut
import Mathlib.Algebra.Order.BigOperators.Group.List
import Mathlib.Algebra.Order.Group.Nat

/-! The way of a webhook payload to the stores and to the connected clients. Each address
activity starts a handler of its own; its two invalidations settle in any order, among
those of the other handlers, and then it announces the address. -/
namespace BalanceKit.Propagation
open TransitionSystem Sse

/-- A running `handleAddressActivity`, with the results of the two promises. -/
structure ActivityHandler where
  event : AddressActivityEvent
  startedAt : Nat
  mongoResult : Option Settled
  redisResult : Option Settled
  announced : Bool

structure State where
  now : Nat
  stores : Stores
  handlers : List ActivityHandler
  sse : Delivery.State

def State.init (stores : Stores) : State := ⟨0, stores, [], Delivery.State.init⟩

/-- The event that the listeners of an address activity receive. -/
def activityEvent : Emission → Option AddressActivityEvent
  | .addressActivity chain chainId address metadata =>
      some ⟨chain, chainId, address, metadata.action⟩
  | _ => none

/-- The activities that a payload causes, up to the emission that ends its handler. An
activity that reports an invalidation is skipped. -/
def activities (fails : List Emission → Emission → Bool) (saved : Bool)
    (payload : WebhookEventDto) : List AddressActivityEvent :=
  ((Emitting.start (FanOut.processWebhookEvent fails saved payload) []).2.filterMap
    activityEvent).filter fun event => event.action ≠ some "cache_invalidated"

/-- `updateMany` is executed and answered, executed without an answer, or not executed.
The expiry was read from the clock when the call was made. -/
def invalidateAddressSnapshot (snapshots : List PortfolioSnapshot) (handler : ActivityHandler)
    (reply : PatternDeletion.Reply) : List PortfolioSnapshot × Settled :=
  let invalidated := DbService.invalidateAddressSnapshot snapshots handler.startedAt
    handler.event.chain handler.event.chainId handler.event.address
  match reply with
  | .answered =>
      (invalidated, .fulfilled (snapshots.countP fun d => d.chain = handler.event.chain ∧
        DbService.snapshotFilter handler.event.chainId handler.event.address none d = true ∧
          d.expiresAt ≠ handler.startedAt))
  | .lost => (invalidated, .rejected)
  | .refused => (snapshots, .rejected)

/-- The pattern whose keys the handler deletes. -/
def ActivityHandler.pattern (handler : ActivityHandler) : String :=
  CacheKeyService.chainAddressPattern handler.event.chain handler.event.chainId
    handler.event.address

/-- A scan yields keys that match, and all of them unless it throws. -/
def Yields (store : RedisStore Js) (pattern : String) (scan : PatternDeletion.Scan) : Prop :=
  (∀ key ∈ scan.keys, Glob.matchesPattern pattern key = true) ∧
    (scan.throws = false → ∀ e ∈ store, Glob.matchesPattern pattern e.key = true →
      e.key ∈ scan.keys)

instance (store : RedisStore Js) (pattern : String) (scan : PatternDeletion.Scan) :
    Decidable (Yields store pattern scan) :=
  inferInstanceAs (Decidable (_ ∧ _))

inductive Action where
  | processWebhookEvent (fails : List Emission → Emission → Bool) (saved : Bool)
      (payload : WebhookEventDto)
  | mongoSettles (i : Nat) (reply : PatternDeletion.Reply)
  | redisSettles (i : Nat) (connected : Bool) (scan : PatternDeletion.Scan)
      (replies : Nat → PatternDeletion.Reply)
  | emitAddressCacheInvalidated (i : Nat) (uuid : String)
  | getPortfolioData (chain : ChainName) (address : String) (provider : Option String)
  | emitPortfolioUpdate (chain : ChainName) (address : String) (portfolioData : Js)
      (provider : Option String)
  | client (a : Delivery.Action)
  | clock (now : Nat)

/-- The handlers that a step starts. -/
def Action.started : Action → List AddressActivityEvent
  | .processWebhookEvent fails saved payload => activities fails saved payload
  | _ => []

namespace State
variable (s : State)

def startHandlers (events : List AddressActivityEvent) : State :=
  { s with handlers := s.handlers ++ events.map fun event => ⟨event, s.now, none, none, false⟩ }

def setHandler (i : Nat) (handler : ActivityHandler) : State :=
  { s with handlers := s.handlers.set i handler }

end State

/-- Mongo answers the handler. -/
def mongoSettles (s : State) (i : Nat) (handler : ActivityHandler)
    (reply : PatternDeletion.Reply) : Option State :=
  if handler.mongoResult.isNone then
    let (snapshots, result) := invalidateAddressSnapshot s.stores.snapshots handler reply
    some { s.setHandler i { handler with mongoResult := some result } with
      stores := { s.stores with snapshots := snapshots } }
  else none

/-- The deletion by pattern resolves whatever fails in it. -/
def redisSettles (s : State) (i : Nat) (handler : ActivityHandler) (connected : Bool)
    (scan : PatternDeletion.Scan) (replies : Nat → PatternDeletion.Reply) : Option State :=
  if handler.redisResult.isNone ∧ Yields s.stores.redis handler.pattern scan then
    let (redis, count) := PatternDeletion.deleteByPattern replies connected scan s.stores.redis
    some { s.setHandler i { handler with redisResult := some (.fulfilled count) } with
      stores := { s.stores with redis := redis } }
  else none

/-- Once both promises have settled the address is announced to the event stream. -/
def announce (s : State) (i : Nat) (handler : ActivityHandler) (uuid : String) : Option State :=
  match handler.mongoResult, handler.redisResult with
  | some mongoResult, some redisResult =>
      if handler.announced then none
      else
        (run Delivery.step s.sse ((publications s.now uuid handler.event mongoResult
          redisResult).map .publishCacheInvalidation)).map fun sse =>
            { s.setHandler i { handler with announced := true } with sse := sse }
  | _, _ => none

/-- The clients do not publish. -/
def isPublication : Delivery.Action → Bool
  | .publishCacheInvalidation _ => true
  | _ => false

def step (s : State) : Action → Option State
  | .processWebhookEvent fails saved payload =>
      some (s.startHandlers (activities fails saved payload))
  | .mongoSettles i reply => s.handlers[i]?.bind fun handler => mongoSettles s i handler reply
  | .redisSettles i connected scan replies =>
      s.handlers[i]?.bind fun handler => redisSettles s i handler connected scan replies
  | .emitAddressCacheInvalidated i uuid =>
      s.handlers[i]?.bind fun handler => announce s i handler uuid
  | .getPortfolioData chain address provider =>
      some { s with
        stores := CacheStep.apply s.stores (.getPortfolioData s.now chain address provider) }
  | .emitPortfolioUpdate chain address portfolioData provider =>
      some { s with
        stores := CacheStep.apply s.stores
          (.emitPortfolioUpdate s.now chain address portfolioData provider) }
  | .client a =>
      if isPublication a then none else (Delivery.step s.sse a).map fun sse => { s with sse := sse }
  | .clock now => if s.now ≤ now then some { s with now := now } else none

/-- Every handler has announced its address. -/
def Quiescent (s : State) : Prop := ∀ handler ∈ s.handlers, handler.announced = true

instance (s : State) : Decidable (Quiescent s) :=
  inferInstanceAs (Decidable (∀ handler ∈ s.handlers, _))

/-- A published event without its time and id. -/
def content (e : CacheInvalidateEvent) : String × Option String × Option EventMetadata :=
  (e.key, e.pattern, e.metadata)

/-- What is announced of an activity. -/
def announcement (event : AddressActivityEvent) : String × Option String × Option EventMetadata :=
  content (handleAddressCacheInvalidated 0 ""
    (NotificationService.emitAddressCacheInvalidated 0 event.chain event.chainId
      event.address)).event

/-- The handlers by what is known of them. -/
def announcedEvents (s : State) : List AddressActivityEvent :=
  (s.handlers.filter ActivityHandler.announced).map ActivityHandler.event

def pendingEvents (s : State) : List AddressActivityEvent :=
  (s.handlers.filter fun handler => !handler.announced).map ActivityHandler.event

/-- What a step can do: start handlers, let one settle, let one announce its address, or
something that concerns no handler. -/
theorem step_cases {s t : State} {a : Action} (hStep : step s a = some t) :
    (∃ events, a.started = events ∧ t = s.startHandlers events) ∨
    (a.started = [] ∧ ∃ i handler moved stores, s.handlers[i]? = some handler ∧
      moved.event = handler.event ∧ moved.startedAt = handler.startedAt ∧
      moved.announced = handler.announced ∧
      (handler.mongoResult.isSome → moved.mongoResult = handler.mongoResult) ∧
      (handler.redisResult.isSome → moved.redisResult = handler.redisResult) ∧
      t = { s.setHandler i moved with stores := stores }) ∨
    (a.started = [] ∧ ∃ i handler uuid mongoResult redisResult sse,
      s.handlers[i]? = some handler ∧ handler.mongoResult = some mongoResult ∧
      handler.redisResult = some redisResult ∧ handler.announced = false ∧
      run Delivery.step s.sse ((publications s.now uuid handler.event mongoResult
        redisResult).map .publishCacheInvalidation) = some sse ∧
      t = { s.setHandler i { handler with announced := true } with sse := sse }) ∨
    (a.started = [] ∧ t.handlers = s.handlers ∧ s.now ≤ t.now ∧
      ∃ more, (∀ b ∈ more, isPublication b = false) ∧
        run Delivery.step s.sse more = some t.sse) := by
  cases a with
  | processWebhookEvent fails saved payload =>
      cases hStep
      exact .inl ⟨_, rfl, rfl⟩
  | mongoSettles i reply =>
      obtain ⟨handler, hHandler, hSettle⟩ := Option.bind_eq_some_iff.mp hStep
      simp only [mongoSettles] at hSettle
      split at hSettle
      · rename_i hWaiting
        cases hSettle
        refine .inr (.inl ⟨rfl, i, handler, { handler with mongoResult := some _ }, _, hHandler,
          rfl, rfl, rfl, fun hSome => ?_, fun _ => rfl, rfl⟩)
        simp [Option.isNone_iff_eq_none.mp hWaiting] at hSome
      · cases hSettle
  | redisSettles i connected scan replies =>
      obtain ⟨handler, hHandler, hSettle⟩ := Option.bind_eq_some_iff.mp hStep
      simp only [redisSettles] at hSettle
      split at hSettle
      · rename_i hWaiting
        cases hSettle
        refine .inr (.inl ⟨rfl, i, handler, { handler with redisResult := some _ }, _, hHandler,
          rfl, rfl, rfl, fun _ => rfl, fun hSome => ?_, rfl⟩)
        simp [Option.isNone_iff_eq_none.mp hWaiting.1] at hSome
      · cases hSettle
  | emitAddressCacheInvalidated i uuid =>
      obtain ⟨handler, hHandler, hAnnounce⟩ := Option.bind_eq_some_iff.mp hStep
      unfold announce at hAnnounce
      split at hAnnounce
      · rename_i mongoResult redisResult hMongo hRedis
        split at hAnnounce
        · cases hAnnounce
        · rename_i hWaiting
          obtain ⟨sse, hRun, rfl⟩ := Option.map_eq_some_iff.mp hAnnounce
          exact .inr (.inr (.inl ⟨rfl, i, handler, uuid, mongoResult, redisResult, sse, hHandler,
            hMongo, hRedis, by simpa using hWaiting, hRun, rfl⟩))
      · cases hAnnounce
  | getPortfolioData chain address provider =>
      cases hStep
      exact .inr (.inr (.inr ⟨rfl, rfl, Nat.le_refl _, [], by simp, rfl⟩))
  | emitPortfolioUpdate chain address portfolioData provider =>
      cases hStep
      exact .inr (.inr (.inr ⟨rfl, rfl, Nat.le_refl _, [], by simp, rfl⟩))
  | client a =>
      simp only [step] at hStep
      split at hStep
      · cases hStep
      · rename_i hClient
        obtain ⟨sse, hSse, rfl⟩ := Option.map_eq_some_iff.mp hStep
        refine .inr (.inr (.inr ⟨rfl, rfl, Nat.le_refl _, [a], by simpa using hClient, ?_⟩))
        exact run_cons.mpr ⟨sse, hSse, rfl⟩
  | clock now =>
      simp only [step] at hStep
      split at hStep
      · cases hStep
        exact .inr (.inr (.inr ⟨rfl, rfl, ‹_›, [], by simp, rfl⟩))
      · cases hStep

/-- An announcement is one publication. The number of announcements is therefore the number of new
events. -/
theorem publications_eq {event : AddressActivityEvent}
    (hAction : event.action ≠ some "cache_invalidated") (now : Nat) (uuid : String)
    (mongoResult redisResult : Settled) :
    publications now uuid event mongoResult redisResult =
      [handleAddressCacheInvalidated now uuid
        (NotificationService.emitAddressCacheInvalidated now event.chain event.chainId
          event.address)] := by
  rw [publications, CacheMongoService.notifications, if_neg hAction]
  rfl

theorem published_of_publish {s t : Delivery.State} {p : Publication}
    (hRun : run Delivery.step s [.publishCacheInvalidation p] = some t) :
    t.published = s.published ++ [p.event] := by
  obtain ⟨next, hStep, hRest⟩ := run_cons.mp hRun
  cases hRest
  simp only [Delivery.step] at hStep
  split at hStep
  · cases hStep
  · cases hStep
    rfl

/-- Clients open streams, subscribe and leave. None of it publishes anything. -/
theorem published_of_client {s t : Delivery.State} {a : Delivery.Action}
    (hClient : isPublication a = false) (hStep : Delivery.step s a = some t) :
    t.published = s.published := by
  cases a with
  | publishCacheInvalidation p => cases hClient
  | openStream clientId subscription lastEventId =>
      cases hStep
      exact (Delivery.Closes.unregisterClient clientId).published
  | subscribe i =>
      simp only [Delivery.step] at hStep
      split at hStep
      · split at hStep
        · cases hStep
          rfl
        · cases hStep
      · cases hStep
  | disconnect i =>
      simp only [Delivery.step] at hStep
      split at hStep
      · split at hStep
        · cases hStep
          exact (Delivery.Closes.unregisterClient _).published
        · cases hStep
      · cases hStep
  | unregisterClient clientId =>
      cases hStep
      exact (Delivery.Closes.unregisterClient clientId).published

theorem published_of_clients {s t : Delivery.State} {more : List Delivery.Action}
    (hClients : ∀ a ∈ more, isPublication a = false) (hRun : run Delivery.step s more = some t) :
    t.published = s.published := by
  induction more generalizing s with
  | nil =>
      cases hRun
      rfl
  | cons a rest ih =>
      obtain ⟨next, hStep, hRest⟩ := run_cons.mp hRun
      rw [ih (fun b hb => hClients b (List.mem_cons_of_mem a hb)) hRest]
      exact published_of_client (hClients a List.mem_cons_self) hStep

/-- What holds between the steps. -/
structure Inv (s : State) : Prop where
  sse : Delivery.Inv s.sse
  announced : (s.sse.published.map content).Perm ((announcedEvents s).map announcement)
  settled : ∀ handler ∈ s.handlers, handler.announced = true →
    handler.mongoResult.isSome ∧ handler.redisResult.isSome
  actions : ∀ handler ∈ s.handlers, handler.event.action ≠ some "cache_invalidated"
  started : ∀ handler ∈ s.handlers, handler.startedAt ≤ s.now

theorem Inv.init (stores : Stores) : Inv (State.init stores) :=
  ⟨Delivery.Inv.init, .refl _, by simp [State.init], by simp [State.init], by simp [State.init]⟩

section Steps
variable {s t : State}

/-- The activities of a payload exclude the events that only report an invalidation, so each of them
starts a handler. -/
theorem actions_activities {fails : List Emission → Emission → Bool} {saved : Bool}
    {payload : WebhookEventDto} {event : AddressActivityEvent}
    (h : event ∈ activities fails saved payload) : event.action ≠ some "cache_invalidated" := by
  simpa using (List.mem_filter.mp h).2

theorem actions_started {a : Action} {event : AddressActivityEvent} (h : event ∈ a.started) :
    event.action ≠ some "cache_invalidated" := by
  cases a with
  | processWebhookEvent fails saved payload => exact actions_activities h
  | _ => cases h

theorem announcedEvents_startHandlers (s : State) (events : List AddressActivityEvent) :
    announcedEvents (s.startHandlers events) = announcedEvents s := by
  have hNone : (events.map fun event => (⟨event, s.now, none, none, false⟩ : ActivityHandler)).filter
      ActivityHandler.announced = [] := by
    simp
  simp only [announcedEvents, State.startHandlers, List.filter_append, hNone, List.append_nil]

theorem Inv.startHandlers (h : Inv s) {events : List AddressActivityEvent}
    (hActions : ∀ event ∈ events, event.action ≠ some "cache_invalidated") :
    Inv (s.startHandlers events) := by
  have hNew : ∀ handler ∈ (s.startHandlers events).handlers, handler ∈ s.handlers ∨
      ∃ event ∈ events, handler = ⟨event, s.now, none, none, false⟩ := by
    intro handler hHandler
    rcases List.mem_append.mp hHandler with hOld | hNew
    · exact .inl hOld
    · obtain ⟨event, hEvent, rfl⟩ := List.mem_map.mp hNew
      exact .inr ⟨event, hEvent, rfl⟩
  refine ⟨h.sse, ?_, ?_, ?_, ?_⟩
  · rw [announcedEvents_startHandlers]
    exact h.announced
  · intro handler hHandler hAnnounced
    rcases hNew handler hHandler with hOld | ⟨event, -, rfl⟩
    · exact h.settled handler hOld hAnnounced
    · cases hAnnounced
  · intro handler hHandler
    rcases hNew handler hHandler with hOld | ⟨event, hEvent, rfl⟩
    · exact h.actions handler hOld
    · exact hActions event hEvent
  · intro handler hHandler
    rcases hNew handler hHandler with hOld | ⟨event, -, rfl⟩
    · exact h.started handler hOld
    · exact Nat.le_refl _

/-- The announced handlers after one of them moved without announcing. -/
theorem announcedEvents_set {i : Nat} {handler moved : ActivityHandler}
    (hHandler : s.handlers[i]? = some handler) (hEvent : moved.event = handler.event)
    (hAnnounced : moved.announced = handler.announced) :
    ((s.handlers.set i moved).filter ActivityHandler.announced).map ActivityHandler.event =
      announcedEvents s := by
  cases hDone : handler.announced with
  | false =>
      rw [ProcessTable.filter_set_of_not_done hHandler hDone (hAnnounced.trans hDone)]
      rfl
  | true =>
      rw [announcedEvents]
      have hPairs := @ProcessTable.map_set_of_eq _ _
        (fun h : ActivityHandler => (h.announced, h.event)) s.handlers i handler moved hHandler
        (by simp [hEvent, hAnnounced])
      have hSplit : ∀ handlers : List ActivityHandler,
          (handlers.filter ActivityHandler.announced).map ActivityHandler.event =
            ((handlers.map fun h => (h.announced, h.event)).filter Prod.fst).map Prod.snd := by
        intro handlers
        rw [List.filter_map, List.map_map]
        rfl
      rw [hSplit, hSplit, hPairs]

/-- One step keeps the invariant. Only an announcement publishes, and it moves one handler from
the waiting to the announced ones at the same time. -/
theorem inv_step {a : Action} (h : Inv s) (hStep : step s a = some t) : Inv t := by
  rcases step_cases hStep with ⟨events, hStarted, rfl⟩ |
    ⟨-, i, handler, moved, stores, hHandler, hEvent, hTime, hAnnounced, hMongo, hRedis, rfl⟩ |
    ⟨-, i, handler, uuid, mongoResult, redisResult, sse, hHandler, hMongo, hRedis, hWaiting, hRun,
      rfl⟩ | ⟨-, hHandlers, hNow, more, hClients, hRun⟩
  · exact h.startHandlers fun event hEventIn => actions_started (hStarted ▸ hEventIn)
  · have hMember := List.mem_of_getElem? hHandler
    refine ⟨h.sse, ?_, ?_, ?_, ?_⟩
    · change (s.sse.published.map content).Perm (List.map announcement
        (((s.handlers.set i moved).filter ActivityHandler.announced).map ActivityHandler.event))
      rw [announcedEvents_set hHandler hEvent hAnnounced]
      exact h.announced
    · refine ProcessTable.forall_mem_set h.settled fun hDone => ?_
      obtain ⟨hFirst, hSecond⟩ := h.settled handler hMember (hAnnounced ▸ hDone)
      rw [hMongo hFirst, hRedis hSecond]
      exact ⟨hFirst, hSecond⟩
    · refine ProcessTable.forall_mem_set h.actions ?_
      rw [hEvent]
      exact h.actions handler hMember
    · refine ProcessTable.forall_mem_set h.started ?_
      rw [hTime]
      exact h.started handler hMember
  · have hMember := List.mem_of_getElem? hHandler
    have hAction := h.actions handler hMember
    rw [publications_eq hAction] at hRun
    have hPublished := published_of_publish hRun
    refine ⟨run_invariant (fun _ _ _ => Delivery.inv_step) hRun h.sse, ?_, ?_, ?_, ?_⟩
    · change (sse.published.map content).Perm (List.map announcement
        (((s.handlers.set i { handler with announced := true }).filter
          ActivityHandler.announced).map ActivityHandler.event))
      rw [hPublished, List.map_append]
      have hDone := @ProcessTable.filter_set_perm _ ActivityHandler.announced _ _ _
        { handler with announced := true } hHandler hWaiting rfl
      have hAll := (hDone.map ActivityHandler.event).map announcement
      rw [List.map_append, List.map_append] at hAll
      exact (h.announced.append_right _).trans hAll.symm
    · exact ProcessTable.forall_mem_set h.settled fun _ => by simp [hMongo, hRedis]
    · exact ProcessTable.forall_mem_set h.actions hAction
    · exact ProcessTable.forall_mem_set h.started (h.started handler hMember)
  · refine ⟨run_invariant (fun _ _ _ => Delivery.inv_step) hRun h.sse, ?_, ?_, ?_, ?_⟩
    · rw [published_of_clients hClients hRun, announcedEvents, hHandlers]
      exact h.announced
    · rw [hHandlers]
      exact h.settled
    · rw [hHandlers]
      exact h.actions
    · rw [hHandlers]
      exact fun handler hHandler => (h.started handler hHandler).trans hNow

/-- The handlers are those that the payloads started, in order. -/
theorem events_step {a : Action} (hStep : step s a = some t) :
    t.handlers.map ActivityHandler.event = s.handlers.map ActivityHandler.event ++ a.started := by
  rcases step_cases hStep with ⟨events, hStarted, rfl⟩ |
    ⟨hStarted, i, handler, moved, stores, hHandler, hEvent, -, -, -, -, rfl⟩ |
    ⟨hStarted, i, handler, uuid, mongoResult, redisResult, sse, hHandler, -, -, -, -, rfl⟩ |
    ⟨hStarted, hHandlers, -⟩
  · simp [State.startHandlers, hStarted, Function.comp_def]
  · rw [hStarted, List.append_nil]
    exact ProcessTable.map_set_of_eq hHandler hEvent
  · rw [hStarted, List.append_nil]
    exact ProcessTable.map_set_of_eq hHandler rfl
  · rw [hStarted, List.append_nil, hHandlers]

/-- A run keeps the handlers that were there and adds those of its payloads, in the order in which
the payloads came. -/
theorem events_run {actions : List Action} (hRun : run step s actions = some t) :
    t.handlers.map ActivityHandler.event =
      s.handlers.map ActivityHandler.event ++ actions.flatMap Action.started := by
  induction actions generalizing s with
  | nil =>
      cases hRun
      simp
  | cons a rest ih =>
      obtain ⟨next, hStep, hRest⟩ := run_cons.mp hRun
      rw [ih hRest, events_step hStep, List.flatMap_cons, List.append_assoc]

/-- Announced or pending, every handler is one of the two. -/
theorem events_perm (s : State) :
    (announcedEvents s ++ pendingEvents s).Perm (s.handlers.map ActivityHandler.event) := by
  rw [announcedEvents, pendingEvents, ← List.map_append]
  exact (List.filter_append_perm ActivityHandler.announced s.handlers).map ActivityHandler.event

end Steps

theorem inv_run {s t : State} {actions : List Action} (h : Inv s)
    (hRun : run step s actions = some t) : Inv t :=
  run_invariant (fun _ _ _ => inv_step) hRun h

/-- What the event stream does in a run. The steps of the handlers that do not announce are
invisible there. -/
theorem sse_run {s t : State} {actions : List Action}
    (hRun : run step s actions = some t) : ∃ more, run Delivery.step s.sse more = some t.sse := by
  have hStep : ∀ s a t, step s a = some t → ∃ more, run Delivery.step s.sse more = some t.sse := by
    intro s a t hStep
    rcases step_cases hStep with ⟨events, -, rfl⟩ |
      ⟨-, i, handler, moved, stores, -, -, -, -, -, -, rfl⟩ |
      ⟨-, i, handler, uuid, mongoResult, redisResult, sse, -, -, -, -, hRun, rfl⟩ |
      ⟨-, -, -, more, -, hRun⟩
    · exact ⟨[], rfl⟩
    · exact ⟨[], rfl⟩
    · exact ⟨_, hRun⟩
    · exact ⟨more, hRun⟩
  exact run_project State.sse hStep hRun

theorem pendingEvents_of_quiescent {s : State} (h : Quiescent s) : pendingEvents s = [] := by
  rw [pendingEvents, List.filter_eq_nil_iff.mpr]
  · rfl
  · intro handler hHandler
    simp [h handler hHandler]

/-- What a run publishes: the activities that were pending and those that it started, except
the ones still pending. -/
theorem published_run {s t : State} {actions : List Action} (h : Inv s)
    (hRun : run step s actions = some t) :
    ∃ more, t.sse.published = s.sse.published ++ more ∧
      (more.map content ++ (pendingEvents t).map announcement).Perm
        ((pendingEvents s ++ actions.flatMap Action.started).map announcement) := by
  obtain ⟨sseActions, hSse⟩ := sse_run hRun
  obtain ⟨more, hMore⟩ := Resumption.published_prefix hSse
  refine ⟨more, hMore.symm, ?_⟩
  have hBefore := h.announced
  have hAfter := (inv_run h hRun).announced
  have hEvents : (announcedEvents t ++ pendingEvents t).Perm
      ((announcedEvents s ++ pendingEvents s) ++ actions.flatMap Action.started) := by
    refine (events_perm t).trans ?_
    rw [events_run hRun]
    exact (events_perm s).symm.append_right _
  have hAll := hEvents.map announcement
  rw [List.append_assoc, List.map_append, List.map_append] at hAll
  rw [← hMore, List.map_append] at hAfter
  -- both sides count what was announced before
  refine (List.perm_append_left_iff ((announcedEvents s).map announcement)).mp ?_
  refine List.Perm.trans ?_ hAll
  rw [← List.append_assoc]
  exact ((hBefore.symm.append_right _).trans hAfter).append_right _

/-- No activity is lost and none is announced twice: at any time the publications, together
with the handlers that have not announced yet, are exactly the activities of the payloads. An
address is announced once both of its invalidations have settled. -/
theorem announced_once {stores : Stores} {actions : List Action} {t : State}
    (hRun : run step (State.init stores) actions = some t) :
    (t.sse.published.map content ++ (pendingEvents t).map announcement).Perm
        ((actions.flatMap Action.started).map announcement) ∧
      ∀ handler ∈ t.handlers, handler.announced = true →
        handler.mongoResult.isSome ∧ handler.redisResult.isSome := by
  have hInit := Inv.init stores
  obtain ⟨more, hMore, hPerm⟩ := published_run hInit hRun
  have hNew : t.sse.published = more := hMore
  rw [hNew]
  exact ⟨hPerm, (inv_run hInit hRun).settled⟩

/-- The live filter looks at no time or id. -/
def hears (stream : Delivery.Stream) (event : AddressActivityEvent) : Bool :=
  stream.accepts (formatCacheEvent (handleAddressCacheInvalidated 0 ""
    (NotificationService.emitAddressCacheInvalidated 0 event.chain event.chainId
      event.address)).event)

def messageContent (m : MessageEvent) : String × Option String × Option EventMetadata :=
  (m.data.key, m.data.pattern, m.data.metadata)

/-- The live filter of a stream looks at the key, which is part of the content. Times and ids have
no influence on who receives an event. -/
theorem accepts_of_content {stream : Delivery.Stream} {first second : CacheInvalidateEvent}
    (h : content first = content second) :
    stream.accepts (formatCacheEvent first) = stream.accepts (formatCacheEvent second) := by
  have hKey : first.key = second.key := congrArg Prod.fst h
  unfold Delivery.Stream.accepts
  cases stream.subscription with
  | none => rfl
  | some subscription => simp only [formatCacheEvent, matchesSubscriptionMessage, hKey]

/-- Filtering and forgetting times and ids commute. So a client hears of the addresses whatever the
ids are. -/
theorem content_heard (stream : Delivery.Stream) (events : List CacheInvalidateEvent)
    (activities : List AddressActivityEvent)
    (h : (events.map content).Perm (activities.map announcement)) :
    ((Resumption.heard stream events).map messageContent).Perm
      ((activities.filter (hears stream)).map announcement) := by
  let keeps (c : String × Option String × Option EventMetadata) : Bool :=
    stream.accepts ⟨"", ⟨c.1, c.2.1, 0, c.2.2⟩⟩
  have hEvents : (Resumption.heard stream events).map messageContent =
      (events.map content).filter keeps := by
    rw [Resumption.heard, List.filter_map, List.map_map, List.filter_map]
    have hSame : stream.accepts ∘ formatCacheEvent = keeps ∘ content := by
      funext e
      exact @accepts_of_content stream e ⟨e.key, e.pattern, 0, "", e.metadata⟩ rfl
    rw [hSame]
    rfl
  have hActivities : (activities.filter (hears stream)).map announcement =
      (activities.map announcement).filter keeps := by
    rw [List.filter_map]
    congr 1
  rw [hEvents, hActivities]
  exact h.filter keeps

/-- A client that stays connected until every handler is done is sent, once for each, exactly
the activities that its filter wants of those pending when it is looked at first and those that
arrive later. -/
theorem heard_once {stores : Stores} {before actions : List Action} {s t : State} {i : Nat}
    {stream later : Delivery.Stream}
    (hBefore : run step (State.init stores) before = some s) (hRun : run step s actions = some t)
    (hStream : s.sse.streams[i]? = some stream) (hConnected : stream.phase = .connected)
    (hLater : t.sse.streams[i]? = some later) (hStill : later.phase = .connected)
    (hQuiescent : Quiescent t) :
    ∃ messages, later.emitted = stream.emitted ++ messages ∧
      (messages.map messageContent).Perm
        (((pendingEvents s ++ actions.flatMap Action.started).filter (hears stream)).map
          announcement) := by
  have hInv := inv_run (Inv.init stores) hBefore
  obtain ⟨sseActions, hSse⟩ := sse_run hRun
  obtain ⟨more, hMore, hPerm⟩ := published_run hInv hRun
  obtain ⟨same, last, hSame, hStays, hFollows⟩ :=
    Resumption.follows_connected hSse hStream hConnected
  obtain rfl := Option.some.inj (hLater.symm.trans hSame)
  have hHears : hears later = hears stream := by
    funext event
    rw [hears, hears, hStays.accepts]
  refine ⟨Resumption.heard later more, ?_, ?_⟩
  · rw [hFollows.emitted, hFollows.current hStill, Resumption.stretch, List.take_length, hMore,
      List.drop_left]
  · rw [pendingEvents_of_quiescent hQuiescent, List.map_nil, List.append_nil] at hPerm
    rw [← hHears]
    exact content_heard later more _ hPerm

/-- How the calls of a handler end. -/
structure CallOutcome where
  mongo : PatternDeletion.Reply
  connected : Bool
  scanThrows : Bool
  batches : Nat → PatternDeletion.Reply

/-- A step of a running handler whose calls end as given. -/
def Action.EndsAs (outcome : Nat → CallOutcome) : Action → Prop
  | .mongoSettles i reply => reply = (outcome i).mongo
  | .redisSettles i connected scan replies =>
      connected = (outcome i).connected ∧ scan.throws = (outcome i).scanThrows ∧
        replies = (outcome i).batches
  | .emitAddressCacheInvalidated _ _ => True
  | _ => False

section Finishing
variable {s : State} {i : Nat} {handler : ActivityHandler} {outcome : Nat → CallOutcome}

/-- A new id can always be found: one that is longer than all the ids in use. -/
theorem exists_fresh (ids : List String) : ∃ uuid : String, "c-" ++ uuid ∉ ids := by
  refine ⟨String.ofList (List.replicate (ids.map String.length).sum 'a'), fun hMember => ?_⟩
  have hBound : ("c-" ++ String.ofList (List.replicate (ids.map String.length).sum 'a')).length ≤
      (ids.map String.length).sum := List.le_sum_of_mem (List.mem_map_of_mem hMember)
  simp at hBound

/-- The state in which the handler is further, and nothing else has changed that the other
handlers depend on. -/
structure Further (s t : State) (i : Nat) (handler moved : ActivityHandler) : Prop where
  handlers : t.handlers = s.handlers.set i moved
  event : moved.event = handler.event
  announced : moved.announced = handler.announced

/-- A handler can go on to have a result of Mongo, whatever becomes of the call. If it has one
already, no step is needed. -/
theorem exists_mongoResult (hHandler : s.handlers[i]? = some handler) :
    ∃ actions t moved, (∀ a ∈ actions, a.EndsAs outcome) ∧ run step s actions = some t ∧
      Further s t i handler moved ∧ moved.mongoResult.isSome := by
  cases hMongo : handler.mongoResult with
  | some result =>
      refine ⟨[], s, handler, by simp, rfl, ⟨?_, rfl, rfl⟩, by simp [hMongo]⟩
      exact (ProcessTable.set_of_getElem? hHandler).symm
  | none =>
      let reply := invalidateAddressSnapshot s.stores.snapshots handler (outcome i).mongo
      let moved := { handler with mongoResult := some reply.2 }
      refine ⟨[.mongoSettles i (outcome i).mongo],
        { s.setHandler i moved with stores := { s.stores with snapshots := reply.1 } }, moved,
        by simp [Action.EndsAs], run_cons.mpr ⟨_, ?_, rfl⟩, ⟨rfl, rfl, rfl⟩, rfl⟩
      simp only [step, hHandler, Option.bind_some, mongoSettles, hMongo, Option.isNone_none, if_true]
      rfl

/-- It can also go on to have a result of Redis. The deletion resolves also when Redis is not
connected or the scan throws. -/
theorem exists_redisResult (hHandler : s.handlers[i]? = some handler) :
    ∃ actions t moved, (∀ a ∈ actions, a.EndsAs outcome) ∧ run step s actions = some t ∧
      Further s t i handler moved ∧ moved.mongoResult = handler.mongoResult ∧
        moved.redisResult.isSome := by
  cases hRedis : handler.redisResult with
  | some result =>
      refine ⟨[], s, handler, by simp, rfl, ⟨?_, rfl, rfl⟩, rfl, by simp [hRedis]⟩
      exact (ProcessTable.set_of_getElem? hHandler).symm
  | none =>
      let scan : PatternDeletion.Scan :=
        ⟨(s.stores.redis.map RedisEntry.key).filter fun key =>
          Glob.matchesPattern handler.pattern key, (outcome i).scanThrows⟩
      have hYields : Yields s.stores.redis handler.pattern scan := by
        refine ⟨fun key hKey => (List.mem_filter.mp hKey).2, fun _ e hEntry hMatch => ?_⟩
        exact List.mem_filter.mpr ⟨List.mem_map_of_mem hEntry, hMatch⟩
      let left := PatternDeletion.deleteByPattern (outcome i).batches (outcome i).connected scan
        s.stores.redis
      let moved := { handler with redisResult := some (.fulfilled left.2) }
      refine ⟨[.redisSettles i (outcome i).connected scan (outcome i).batches],
        { s.setHandler i moved with stores := { s.stores with redis := left.1 } }, moved,
        by simp [Action.EndsAs, scan], run_cons.mpr ⟨_, ?_, rfl⟩, ⟨rfl, rfl, rfl⟩, rfl, rfl⟩
      simp only [step, hHandler, Option.bind_some, redisSettles, hRedis, Option.isNone_none, hYields,
        and_self, if_true]
      rfl

/-- With both results it can announce its address, under an id that no earlier event has. -/
theorem exists_announce (h : Inv s) (hHandler : s.handlers[i]? = some handler)
    (hWaiting : handler.announced = false) (hMongo : handler.mongoResult.isSome)
    (hRedis : handler.redisResult.isSome) :
    ∃ uuid t, step s (.emitAddressCacheInvalidated i uuid) = some t ∧
      t.handlers = s.handlers.set i { handler with announced := true } := by
  obtain ⟨mongoResult, hMongoResult⟩ := Option.isSome_iff_exists.mp hMongo
  obtain ⟨redisResult, hRedisResult⟩ := Option.isSome_iff_exists.mp hRedis
  obtain ⟨uuid, hFresh⟩ := exists_fresh (s.sse.published.map CacheInvalidateEvent.id)
  have hAction := h.actions handler (List.mem_of_getElem? hHandler)
  have hPublish : ∃ sse, run Delivery.step s.sse ((publications s.now uuid handler.event mongoResult
      redisResult).map .publishCacheInvalidation) = some sse := by
    rw [publications_eq hAction]
    exact ⟨_, run_cons.mpr ⟨_, if_neg hFresh, rfl⟩⟩
  obtain ⟨sse, hSse⟩ := hPublish
  refine ⟨uuid, { s.setHandler i { handler with announced := true } with sse := sse }, ?_, rfl⟩
  simp only [step, hHandler, Option.bind_some, announce, hMongoResult, hRedisResult, hWaiting,
    Bool.false_eq_true, if_false, hSse, Option.map_some]

theorem Further.getElem? {t : State} {moved : ActivityHandler} (h : Further s t i handler moved)
    (hHandler : s.handlers[i]? = some handler) : t.handlers[i]? = some moved := by
  have hBound := (List.getElem?_eq_some_iff.mp hHandler).1
  rw [h.handlers]
  simp [hBound]

/-- A pending handler can finish, and then one more has announced its address. This is the step from
which every run can be completed. -/
theorem exists_finish (h : Inv s) (hHandler : s.handlers[i]? = some handler)
    (hWaiting : handler.announced = false) :
    ∃ actions t, (∀ a ∈ actions, a.EndsAs outcome) ∧ run step s actions = some t ∧
      t.handlers.length = s.handlers.length ∧
        (announcedEvents t).length = (announcedEvents s).length + 1 := by
  obtain ⟨first, afterMongo, asked, hFirst, hFirstRun, hAsked, hMongo⟩ :=
    @exists_mongoResult s i handler outcome hHandler
  have hAskedAt := hAsked.getElem? hHandler
  obtain ⟨second, afterRedis, settled, hSecond, hSecondRun, hSettled, hSame, hRedis⟩ :=
    @exists_redisResult afterMongo i asked outcome hAskedAt
  have hSettledAt := hSettled.getElem? hAskedAt
  have hStillWaiting : settled.announced = false :=
    (hSettled.announced.trans hAsked.announced).trans hWaiting
  have hInv := inv_run (inv_run h hFirstRun) hSecondRun
  obtain ⟨uuid, t, hStep, hHandlers⟩ :=
    exists_announce hInv hSettledAt hStillWaiting (hSame ▸ hMongo) hRedis
  refine ⟨first ++ (second ++ [.emitAddressCacheInvalidated i uuid]), t, ?_, ?_, ?_, ?_⟩
  · intro a ha
    simp only [List.mem_append, List.mem_singleton] at ha
    rcases ha with ha | ha | rfl
    · exact hFirst a ha
    · exact hSecond a ha
    · trivial
  · rw [run_append, hFirstRun, Option.bind_some, run_append, hSecondRun, Option.bind_some]
    exact run_cons.mpr ⟨t, hStep, rfl⟩
  · rw [hHandlers, hSettled.handlers, hAsked.handlers]
    simp only [List.length_set]
  · have hDone := (@ProcessTable.filter_set_perm _ ActivityHandler.announced _ _ _
      { settled with announced := true } hSettledAt hStillWaiting rfl).length_eq
    have hMiddle := congrArg List.length
      (announcedEvents_set hAskedAt hSettled.event hSettled.announced)
    have hStart := congrArg List.length
      (announcedEvents_set hHandler hAsked.event hAsked.announced)
    rw [announcedEvents, hHandlers, List.length_map, hDone, List.length_append, List.length_singleton]
    rw [← hSettled.handlers, List.length_map] at hMiddle
    rw [← hAsked.handlers] at hStart
    rw [hMiddle, announcedEvents, hStart]

end Finishing

/-- A client connects. -/
def clientRun : List Action := [.client (.openStream "0" none none), .client (.subscribe 0)]

/-- A payload with three activities, whose handlers end in another order than they start;
one loses the answer of Mongo and one finds no Redis. -/
def payloadRun : List Action :=
  [.processWebhookEvent (fun log _ => log.isEmpty) true FanOut.selfTransfer,
    .redisSettles 1 true ⟨[], false⟩ fun _ => .answered, .mongoSettles 2 .answered,
    .mongoSettles 1 .lost, .emitAddressCacheInvalidated 1 "1", .mongoSettles 0 .refused,
    .redisSettles 2 false ⟨[], true⟩ fun _ => .refused, .emitAddressCacheInvalidated 2 "2",
    .redisSettles 0 true ⟨[], false⟩ fun _ => .answered, .emitAddressCacheInvalidated 0 "3"]

/-- All three handlers end, in another order than they started, and each announces its address
once although calls failed. -/
theorem announced_once_payloadRun : ∃ t, run step (State.init Stores.init) payloadRun = some t ∧
    (t.sse.published.map content ++ (pendingEvents t).map announcement).Perm
        ((payloadRun.flatMap Action.started).map announcement) ∧
      (∀ handler ∈ t.handlers, handler.announced = true →
        handler.mongoResult.isSome ∧ handler.redisResult.isSome) ∧
      (payloadRun.flatMap Action.started).map AddressActivityEvent.address =
        ["0xab", "0xab", "0xcd"] := by
  have hRun : (run step (State.init Stores.init) payloadRun).isSome := rfl
  obtain ⟨t, ht⟩ := Option.isSome_iff_exists.mp hRun
  obtain ⟨hPerm, hSettled⟩ := announced_once ht
  exact ⟨t, ht, hPerm, hSettled, rfl⟩

/-- The client connects before the payload arrives and is sent what the three handlers announce. -/
theorem heard_once_payloadRun : ∃ s t stream later messages,
    run step (State.init Stores.init) clientRun = some s ∧ run step s payloadRun = some t ∧
      s.sse.streams[0]? = some stream ∧ t.sse.streams[0]? = some later ∧
        later.emitted = stream.emitted ++ messages ∧
          (messages.map messageContent).Perm
            (((pendingEvents s ++ payloadRun.flatMap Action.started).filter (hears stream)).map
              announcement) := by
  obtain ⟨messages, hEmitted, hPerm⟩ := @heard_once Stores.init clientRun payloadRun _ _ 0 _ _
    rfl rfl rfl rfl rfl rfl (by decide)
  exact ⟨_, _, _, _, messages, rfl, rfl, rfl, rfl, hEmitted, hPerm⟩

/-- However the calls of the handlers end, none of them gets stuck: from every reachable state
they can all go on until each has announced its address. -/
theorem can_finish {stores : Stores} {before : List Action} {s : State}
    (hBefore : run step (State.init stores) before = some s) (outcome : Nat → CallOutcome) :
    ∃ actions t, (∀ a ∈ actions, a.EndsAs outcome) ∧ run step s actions = some t ∧ Quiescent t := by
  have hInv := inv_run (Inv.init stores) hBefore
  clear hBefore
  -- by induction on the number of handlers that have not announced
  induction hCount : s.handlers.length - (announcedEvents s).length using Nat.strong_induction_on
    generalizing s with
  | _ n ih =>
      by_cases hQuiescent : Quiescent s
      · exact ⟨[], s, by simp, rfl, hQuiescent⟩
      · obtain ⟨handler, hMember, hPending⟩ : ∃ handler ∈ s.handlers, handler.announced = false := by
          by_contra hNone
          refine hQuiescent fun handler hMember => ?_
          cases hAnnounced : handler.announced with
          | true => rfl
          | false => exact absurd ⟨handler, hMember, hAnnounced⟩ hNone
        obtain ⟨i, hHandler⟩ := List.mem_iff_getElem?.mp hMember
        obtain ⟨first, next, hFirst, hFirstRun, hLength, hMore⟩ :=
          @exists_finish s i handler outcome hInv hHandler hPending
        have hRoom : (announcedEvents next).length ≤ next.handlers.length := by
          rw [announcedEvents, List.length_map]
          exact List.length_filter_le _ _
        obtain ⟨rest, t, hRest, hRestRun, hEnd⟩ :=
          ih _ (by omega) (inv_run hInv hFirstRun) rfl
        refine ⟨first ++ rest, t, ?_, ?_, hEnd⟩
        · intro a ha
          rcases List.mem_append.mp ha with ha | ha
          · exact hFirst a ha
          · exact hRest a ha
        · rw [run_append, hFirstRun]
          exact hRestRun

theorem can_finish_payload : ∃ s actions t,
    run step (State.init Stores.init) (payloadRun.take 4) = some s ∧
      (∀ a ∈ actions, a.EndsAs fun _ => ⟨.lost, false, true, fun _ => .refused⟩) ∧
        run step s actions = some t ∧ Quiescent t := by
  obtain ⟨actions, t, hFinish⟩ := @can_finish Stores.init (payloadRun.take 4) _ rfl
    fun _ => ⟨.lost, false, true, fun _ => .refused⟩
  exact ⟨_, actions, t, rfl, hFinish⟩

end BalanceKit.Propagation
