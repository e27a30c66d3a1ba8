import BalanceKit.Library.RecentLog
import BalanceKit.Library.Text

/-! Cache invalidation events, the buffer they are replayed from, and the two
filters of a subscription: one on stored events, one on sent messages. -/
namespace BalanceKit.Sse

structure EventMetadata where
  chain : Option String
  chainId : Option Int
  address : Option String
  deriving DecidableEq

structure CacheInvalidateEvent where
  key : String
  pattern : Option String
  timestamp : Nat
  id : String
  metadata : Option EventMetadata
  deriving DecidableEq

/-- The object that a message carries as JSON. -/
structure EventData where
  key : String
  pattern : Option String
  timestamp : Nat
  metadata : Option EventMetadata
  deriving DecidableEq

structure MessageEvent where
  id : String
  data : EventData
  deriving DecidableEq

structure AddressSubscription where
  chain : Option String
  chainId : Option Int
  address : Option String
  pattern : Option String
  deriving DecidableEq

/-- The arguments of one publication, with the clock and the random id it draws. -/
structure Publication where
  key : String
  pattern : Option String
  metadata : Option EventMetadata
  timestamp : Nat
  uuid : String
  deriving DecidableEq

def Publication.event (p : Publication) : CacheInvalidateEvent :=
  ⟨p.key, p.pattern, p.timestamp, "c-" ++ p.uuid, p.metadata⟩

def formatCacheEvent (e : CacheInvalidateEvent) : MessageEvent :=
  ⟨e.id, ⟨e.key, e.pattern, e.timestamp, e.metadata⟩⟩

/-- A condition of a subscription on a value: met when it is absent or falsy. -/
def meetsText (condition : Option String) (value : Option String) : Bool :=
  match Text.present condition with
  | some c => value == some c
  | none => true

def meetsNumber (condition : Option Int) (value : Option Int) : Bool :=
  match condition.filter (· ≠ 0) with
  | some c => value == some c
  | none => true

def meetsPattern (condition : Option String) (key : String) : Bool :=
  match Text.present condition with
  | some part => Text.includes key part
  | none => true

/-- Neither chain, chain id nor address is restricted. -/
def unrestricted (subscription : AddressSubscription) : Bool :=
  (Text.present subscription.chain).isNone && (subscription.chainId.filter (· ≠ 0)).isNone &&
    (Text.present subscription.address).isNone

/-- The conditions on the parts of a key `portfolio:{chain}:{chainId}:{address}:...`. -/
def matchesKey (key : String) (subscription : AddressSubscription) : Bool :=
  match Text.split key ':' with
  | "portfolio" :: chain :: chainIdStr :: address :: _ =>
      meetsText subscription.chain (some chain) &&
        meetsNumber subscription.chainId (Text.parseInt chainIdStr) &&
        meetsText subscription.address (some address) && meetsPattern subscription.pattern key
  | _ => unrestricted subscription

/-- The replay filter prefers the metadata of the event. -/
def matchesSubscription (e : CacheInvalidateEvent) (subscription : AddressSubscription) : Bool :=
  match e.metadata with
  | none => matchesKey e.key subscription
  | some metadata =>
      meetsText subscription.chain metadata.chain &&
        meetsNumber subscription.chainId metadata.chainId &&
        meetsText subscription.address metadata.address && meetsPattern subscription.pattern e.key

/-- The live filter looks at the key only. -/
def matchesSubscriptionMessage (data : EventData) (subscription : AddressSubscription) : Bool :=
  data.key != "" && matchesKey data.key subscription

def maxStoredEvents : Nat := 100

def storeEvent (recentEvents : List CacheInvalidateEvent) (e : CacheInvalidateEvent) :
    List CacheInvalidateEvent :=
  RecentLog.push maxStoredEvents recentEvents e

/-- The buffer after a publication: stored once by `publishCacheInvalidation` and
once more by `handleCacheInvalidation`, which the emitter calls. -/
def publishCacheInvalidation (recentEvents : List CacheInvalidateEvent)
    (e : CacheInvalidateEvent) : List CacheInvalidateEvent :=
  storeEvent (storeEvent recentEvents e) e

def getEventsSince (recentEvents : List CacheInvalidateEvent) (eventId : String) :
    List CacheInvalidateEvent :=
  RecentLog.since CacheInvalidateEvent.id recentEvents eventId

/-- The messages that a new stream replays. -/
def replayEvents (recentEvents : List CacheInvalidateEvent) (lastEventId : Option String) :
    List MessageEvent :=
  match Text.present lastEventId with
  | some eventId => (getEventsSince recentEvents eventId).map formatCacheEvent
  | none => []

/-- The replay of a filtered stream. -/
def replayFilteredEvents (recentEvents : List CacheInvalidateEvent)
    (subscription : AddressSubscription) (lastEventId : Option String) : List MessageEvent :=
  match Text.present lastEventId with
  | some eventId =>
      ((getEventsSince recentEvents eventId).filter fun e =>
        matchesSubscription e subscription).map formatCacheEvent
  | none => []

/-- The buffer after publishing the events in order. -/
def buffer (events : List CacheInvalidateEvent) : List CacheInvalidateEvent :=
  events.foldl publishCacheInvalidation []

/-- Every event twice. -/
def doubled (events : List CacheInvalidateEvent) : List CacheInvalidateEvent :=
  events.flatMap fun e => [e, e]

@[simp] theorem doubled_nil : doubled [] = [] := rfl

@[simp] theorem doubled_cons (e : CacheInvalidateEvent) (rest : List CacheInvalidateEvent) :
    doubled (e :: rest) = e :: e :: doubled rest := rfl

@[simp] theorem doubled_append (first second : List CacheInvalidateEvent) :
    doubled (first ++ second) = doubled first ++ doubled second := List.flatMap_append

@[simp] theorem length_doubled (events : List CacheInvalidateEvent) :
    (doubled events).length = 2 * events.length := by
  induction events with
  | nil => rfl
  | cons e rest ih =>
      simp only [doubled_cons, List.length_cons, ih]
      omega

theorem mem_doubled {events : List CacheInvalidateEvent} {e : CacheInvalidateEvent} :
    e ∈ doubled events ↔ e ∈ events := by
  simp [doubled]

theorem twice_sublist_doubled {events : List CacheInvalidateEvent} {e : CacheInvalidateEvent}
    (h : e ∈ events) : List.Sublist [e, e] (doubled events) := by
  obtain ⟨before, after, rfl⟩ := List.append_of_mem h
  rw [doubled_append, doubled_cons]
  exact List.sublist_append_of_sublist_right (((List.nil_sublist _).cons_cons e).cons_cons e)

/-- Storing an event twice, with the oldest dropped each time, keeps the latest of the doubled
history. -/
theorem publishCacheInvalidation_rtake (history : List CacheInvalidateEvent)
    (e : CacheInvalidateEvent) :
    publishCacheInvalidation (history.rtake maxStoredEvents) e =
      (history ++ [e, e]).rtake maxStoredEvents := by
  rw [publishCacheInvalidation, storeEvent, storeEvent, RecentLog.push_rtake,
    RecentLog.push_rtake, List.append_assoc]
  rfl

/-- The buffer keeps the last hundred entries of the doubled history. Trimming after each
publication keeps the end of the history, whatever was trimmed before. -/
theorem buffer_eq (events : List CacheInvalidateEvent) :
    buffer events = (doubled events).rtake maxStoredEvents := by
  have hFold : ∀ history : List CacheInvalidateEvent,
      events.foldl publishCacheInvalidation (history.rtake maxStoredEvents) =
        (history ++ doubled events).rtake maxStoredEvents := by
    induction events with
    | nil => simp
    | cons e rest ih =>
        intro history
        rw [List.foldl_cons, publishCacheInvalidation_rtake, ih, List.append_assoc]
        rfl
  exact hFold []

theorem doubled_drop (events : List CacheInvalidateEvent) (n : Nat) :
    doubled (events.drop n) = (doubled events).drop (2 * n) := by
  induction events generalizing n with
  | nil => simp
  | cons e rest ih =>
      cases n with
      | zero => simp
      | succ n =>
          rw [List.drop_succ_cons, ih, Nat.mul_succ, doubled_cons, List.drop_succ_cons,
            List.drop_succ_cons]

/-- The publications that the buffer spans. -/
def kept (events : List CacheInvalidateEvent) : List CacheInvalidateEvent := events.rtake 50

/-- The buffer consists of the latest events, each of them twice, since its size is even. No pair of
copies is ever torn apart by the trimming. -/
theorem buffer_eq_doubled (events : List CacheInvalidateEvent) :
    buffer events = doubled (kept events) := by
  have hSpan : (doubled events).length - maxStoredEvents = 2 * (events.length - 50) := by
    rw [length_doubled, maxStoredEvents]
    omega
  rw [buffer_eq, kept, List.rtake, List.rtake, hSpan, doubled_drop]

/-- A search for a stored event stops at its first copy, so the event itself is
returned, and every later stored event twice. -/
theorem getEventsSince_buffer (events : List CacheInvalidateEvent) (eventId : String) :
    getEventsSince (buffer events) eventId =
      ((kept events).find? fun e => e.id == eventId).toList ++
        doubled (RecentLog.since CacheInvalidateEvent.id (kept events) eventId) := by
  rw [getEventsSince, buffer_eq_doubled]
  cases hFind : (kept events).find? fun e => e.id == eventId with
  | none =>
      have hAbsent : ∀ e ∈ kept events, e.id ≠ eventId := by simpa using hFind
      rw [RecentLog.since_of_forall_ne hAbsent,
        RecentLog.since_of_forall_ne fun e he => hAbsent e (mem_doubled.mp he)]
      rfl
  | some e =>
      obtain ⟨hId, before, after, hSplit, hBefore⟩ := List.find?_eq_some_iff_append.mp hFind
      obtain rfl : e.id = eventId := by simpa using hId
      have hDistinct : ∀ d ∈ before, d.id ≠ e.id := by simpa using hBefore
      rw [hSplit, doubled_append, doubled_cons, RecentLog.since_append_cons hDistinct,
        RecentLog.since_append_cons fun d hd => hDistinct d (mem_doubled.mp hd)]
      rfl

theorem mem_getEventsSince {events : List CacheInvalidateEvent} {eventId : String}
    {e : CacheInvalidateEvent} (h : e ∈ getEventsSince (buffer events) eventId) : e ∈ events := by
  have hStored := (RecentLog.since_sublist _ _ _).subset h
  rw [buffer_eq] at hStored
  exact mem_doubled.mp (List.mem_of_mem_drop hStored)

end BalanceKit.Sse
