import BalanceKit.Library.Runs
import BalanceKit.Sse.Events
import Mathlib.Data.List.Nodup
import Mathlib.Logic.Function.Basic

/-! Clients of the event stream. A stream replays the buffer as it was when it
was opened and then follows one live source that all streams share. The source
hands its last message to whoever subscribes while others are connected. -/
namespace BalanceKit.Sse.Delivery
open TransitionSystem

inductive Phase where
  | opened | connected | closed
  deriving DecidableEq

/-- A stream returned by `getFilteredEventStream`, or by `getEventStream` when it
has no subscription. `openedAt` counts the publications before the call. -/
structure Stream where
  clientId : String
  subscription : Option AddressSubscription
  lastEventId : Option String
  openedAt : Nat
  replayEvents : List MessageEvent
  phase : Phase
  emitted : List MessageEvent

/-- The service, with the publications so far. `shared` is the message that the
shared source keeps for late subscribers; a registered client names its stream. -/
structure State where
  recentEvents : List CacheInvalidateEvent
  published : List CacheInvalidateEvent
  shared : Option MessageEvent
  clients : String → Option Nat
  streams : List Stream

def State.init : State := ⟨[], [], none, fun _ => none, []⟩

namespace Stream
variable (stream : Stream)

/-- The filter on the live source. -/
def accepts (m : MessageEvent) : Bool :=
  match stream.subscription with
  | some subscription => matchesSubscriptionMessage m.data subscription
  | none => true

/-- The filter on the replay. -/
def replayable (e : CacheInvalidateEvent) : Bool :=
  match stream.subscription with
  | some subscription => matchesSubscription e subscription
  | none => true

def receive (m : MessageEvent) : Stream :=
  if stream.phase = .connected ∧ stream.accepts m then
    { stream with emitted := stream.emitted ++ [m] }
  else stream

/-- Subscribing replays first and then joins the shared source. -/
def start (shared : Option MessageEvent) : Stream :=
  { stream with
    phase := .connected
    emitted := stream.replayEvents ++ shared.toList.filter stream.accepts }

def complete : Stream :=
  if stream.phase = .connected then { stream with phase := .closed } else stream

end Stream

/-- What a new stream will replay. -/
def replayOf (recentEvents : List CacheInvalidateEvent) (subscription : Option AddressSubscription)
    (lastEventId : Option String) : List MessageEvent :=
  match subscription with
  | some filters => replayFilteredEvents recentEvents filters lastEventId
  | none => replayEvents recentEvents lastEventId

def hasSubscribers (streams : List Stream) : Bool :=
  streams.any fun stream => stream.phase == .connected

namespace State
variable (s : State)

/-- Without subscribers the shared source is reset. -/
def setStreams (streams : List Stream) : State :=
  { s with streams := streams, shared := if hasSubscribers streams then s.shared else none }

def setClient (clientId : String) (client : Option Nat) : State :=
  { s with clients := Function.update s.clients clientId client }

def unregisterClient (clientId : String) : State :=
  match s.clients clientId with
  | some i => (s.setClient clientId none).setStreams (s.streams.modify i Stream.complete)
  | none => s

def addStream (stream : Stream) : State := { s with streams := s.streams ++ [stream] }

/-- `registerClient` and the rest of the call that returns the stream. -/
def openStream (clientId : String) (subscription : Option AddressSubscription)
    (lastEventId : Option String) : State :=
  let cleared := s.unregisterClient clientId
  (cleared.setClient clientId (some cleared.streams.length)).addStream
    ⟨clientId, subscription, lastEventId, s.published.length,
      replayOf s.recentEvents subscription lastEventId, .opened, []⟩

/-- The event is stored twice and sent to the subscribers of the shared source. -/
def publish (e : CacheInvalidateEvent) : State :=
  { s with
    recentEvents := publishCacheInvalidation s.recentEvents e
    published := s.published ++ [e]
    shared := if hasSubscribers s.streams then some (formatCacheEvent e) else none
    streams := s.streams.map fun stream => stream.receive (formatCacheEvent e) }

end State

inductive Action where
  | publishCacheInvalidation (p : Publication)
  | openStream (clientId : String) (subscription : Option AddressSubscription)
      (lastEventId : Option String)
  | subscribe (i : Nat)
  | disconnect (i : Nat)
  | unregisterClient (clientId : String)

/-- A returned stream is subscribed to later. Its teardown unregisters whatever
client then has its id; a timeout and a closed response unregister a client too. -/
def step (s : State) : Action → Option State
  | .publishCacheInvalidation p =>
      if p.event.id ∈ s.published.map CacheInvalidateEvent.id then none
      else some (s.publish p.event)
  | .openStream clientId subscription lastEventId =>
      some (s.openStream clientId subscription lastEventId)
  | .subscribe i =>
      match s.streams[i]? with
      | some stream =>
          if stream.phase = .opened then
            some { s with streams := s.streams.modify i fun stream => stream.start s.shared }
          else none
      | none => none
  | .disconnect i =>
      match s.streams[i]? with
      | some stream =>
          if stream.phase = .connected then
            some ((s.setStreams (s.streams.modify i Stream.complete)).unregisterClient
              stream.clientId)
          else none
      | none => none
  | .unregisterClient clientId => some (s.unregisterClient clientId)

/-- No event twice, and without a last event id no event from before the call. -/
def Stream.Good (published : List CacheInvalidateEvent) (stream : Stream) : Prop :=
  (stream.emitted.map MessageEvent.id).Nodup ∧
    (Text.present stream.lastEventId = none →
      ∀ m ∈ stream.emitted, ∀ e ∈ published.take stream.openedAt, m.id ≠ e.id)

def Good (s : State) : Prop := ∀ stream ∈ s.streams, stream.Good s.published

/-- The event that the shared source hands to the stream although it was
published before the call. -/
def handedOver (s : State) (stream : Stream) : Option CacheInvalidateEvent :=
  if s.shared.isSome ∧ s.published.length = stream.openedAt then
    s.published.getLast?.filter fun e => stream.accepts (formatCacheEvent e)
  else none

/-- What the buffer spanned when the stream was opened. -/
def Stream.stored (published : List CacheInvalidateEvent) (stream : Stream) :
    List CacheInvalidateEvent :=
  kept (published.take stream.openedAt)

/-- The condition on a stream that is about to be subscribed to. Without a last
event id nothing is handed over; with one, no stored later event is replayable,
and if its own event is, then that event is not handed over as well. -/
def OnTime (s : State) (stream : Stream) : Prop :=
  match Text.present stream.lastEventId with
  | none => handedOver s stream = none
  | some eventId =>
      (∀ e ∈ RecentLog.since CacheInvalidateEvent.id (stream.stored s.published)
          eventId, ¬ stream.replayable e) ∧
        ∀ e ∈ handedOver s stream, e.id = eventId → ¬ stream.replayable e

def stepOk (s : State) : Action → Prop
  | .subscribe i => ∀ stream ∈ s.streams[i]?, OnTime s stream
  | _ => True

/-- What holds of a stream at any time. -/
structure Stream.Valid (published : List CacheInvalidateEvent) (stream : Stream) : Prop where
  opening : stream.openedAt ≤ published.length
  replay : stream.replayEvents =
    replayOf (buffer (published.take stream.openedAt)) stream.subscription stream.lastEventId
  silent : stream.phase = .opened → stream.emitted = []
  origin : ∀ m ∈ stream.emitted, ∃ e ∈ published, m = formatCacheEvent e

structure Inv (s : State) : Prop where
  stored : s.recentEvents = buffer s.published
  unique : (s.published.map CacheInvalidateEvent.id).Nodup
  latest : ∀ m ∈ s.shared, ∃ e ∈ s.published.getLast?, m = formatCacheEvent e
  valid : ∀ stream ∈ s.streams, stream.Valid s.published

instance (published : List CacheInvalidateEvent) (stream : Stream) :
    Decidable (stream.Good published) :=
  inferInstanceAs (Decidable (_ ∧ _))

instance (s : State) : Decidable (Good s) :=
  inferInstanceAs (Decidable (∀ stream ∈ s.streams, stream.Good s.published))

instance (s : State) (stream : Stream) : Decidable (OnTime s stream) :=
  match h : Text.present stream.lastEventId with
  | none => decidable_of_iff (handedOver s stream = none) (by simp [OnTime, h])
  | some eventId =>
      decidable_of_iff
        ((∀ e ∈ RecentLog.since CacheInvalidateEvent.id (stream.stored s.published)
            eventId, ¬ stream.replayable e) ∧
          ∀ e ∈ handedOver s stream, e.id = eventId → ¬ stream.replayable e)
        (by simp [OnTime, h])

instance (s : State) (a : Action) : Decidable (stepOk s a) :=
  match a with
  | .subscribe i => inferInstanceAs (Decidable (∀ stream ∈ s.streams[i]?, OnTime s stream))
  | .publishCacheInvalidation _ | .openStream _ _ _ | .disconnect _ | .unregisterClient _ =>
      .isTrue trivial

theorem Inv.init : Inv State.init :=
  ⟨rfl, List.nodup_nil, by simp [State.init], by simp [State.init]⟩

theorem id_formatCacheEvent (e : CacheInvalidateEvent) : (formatCacheEvent e).id = e.id := rfl

namespace Stream
variable {published : List CacheInvalidateEvent} {stream : Stream} {e : CacheInvalidateEvent}

/-- What was published before a stream was opened is settled: later publications do not change
it. -/
theorem take_openedAt (hValid : stream.Valid published) (more : List CacheInvalidateEvent) :
    (published ++ more).take stream.openedAt = published.take stream.openedAt :=
  List.take_append_of_le_length hValid.opening

/-- A message appended to a stream that receives it. -/
theorem emitted_receive (m : MessageEvent) :
    (stream.receive m).emitted = stream.emitted ∨
      (stream.receive m).emitted = stream.emitted ++ [m] := by
  unfold receive
  split
  · exact .inr rfl
  · exact .inl rfl

/-- Receiving a message changes what was emitted and nothing else of a stream. It is emitted only
where the stream is open and its filter accepts it. -/
theorem receive_eq (m : MessageEvent) :
    stream.receive m = { stream with emitted := (stream.receive m).emitted } := by
  unfold receive
  split <;> rfl

/-- A publication keeps a stream valid. What it received has an event as its origin, and a stream
that is not subscribed to yet still emits nothing. -/
theorem Valid.receive (hValid : stream.Valid published) :
    (stream.receive (formatCacheEvent e)).Valid (published ++ [e]) := by
  have hOrigin : ∀ m ∈ (stream.receive (formatCacheEvent e)).emitted,
      ∃ d ∈ published ++ [e], m = formatCacheEvent d := by
    have hOld : ∀ m ∈ stream.emitted, ∃ d ∈ published ++ [e], m = formatCacheEvent d := by
      intro m hm
      obtain ⟨d, hd, rfl⟩ := hValid.origin m hm
      exact ⟨d, List.mem_append_left _ hd, rfl⟩
    intro m hm
    rcases @emitted_receive stream (formatCacheEvent e) with hSame | hNew
    · exact hOld m (hSame ▸ hm)
    · rw [hNew, List.mem_append, List.mem_singleton] at hm
      rcases hm with hm | rfl
      · exact hOld m hm
      · exact ⟨e, by simp, rfl⟩
  refine ⟨?_, ?_, ?_, hOrigin⟩
  · rw [receive_eq, List.length_append]
    exact Nat.le_add_right_of_le hValid.opening
  · rw [receive_eq]
    simpa only [take_openedAt hValid] using hValid.replay
  · intro hOpened
    rw [receive_eq] at hOpened
    have hClosed : stream.phase ≠ .connected := by simp_all
    simp [Stream.receive, hClosed, hValid.silent hOpened]

/-- A stream that is good after a publication was good before it, because nothing that was emitted
is taken back. -/
theorem Good.of_receive (hValid : stream.Valid published)
    (hGood : (stream.receive (formatCacheEvent e)).Good (published ++ [e])) :
    stream.Good published := by
  obtain ⟨hNodup, hLate⟩ := hGood
  rw [receive_eq] at hLate
  simp only [take_openedAt hValid] at hLate
  rcases @emitted_receive stream (formatCacheEvent e) with hSame | hMore
  · rw [hSame] at hNodup hLate
    exact ⟨hNodup, hLate⟩
  · rw [hMore] at hNodup hLate
    rw [List.map_append] at hNodup
    exact ⟨(List.nodup_append.mp hNodup).1, fun hAbsent m hm =>
      hLate hAbsent m (List.mem_append_left _ hm)⟩

/-- The new id is on no stream yet. Nothing that was emitted before has it, so nothing is emitted
twice. -/
theorem Good.receive (hValid : stream.Valid published) (hGood : stream.Good published)
    (hFresh : e.id ∉ published.map CacheInvalidateEvent.id) :
    (stream.receive (formatCacheEvent e)).Good (published ++ [e]) := by
  have hNew : ∀ d ∈ published, e.id ≠ d.id := fun d hd hSame =>
    hFresh (hSame ▸ List.mem_map_of_mem hd)
  have hOther : ∀ m ∈ stream.emitted, m.id ≠ e.id := by
    intro m hm
    obtain ⟨d, hd, rfl⟩ := hValid.origin m hm
    exact (hNew d hd).symm
  unfold Good
  rw [receive_eq]
  simp only [take_openedAt hValid]
  rcases @emitted_receive stream (formatCacheEvent e) with hSame | hMore
  · rw [hSame]
    exact hGood
  · rw [hMore]
    refine ⟨?_, fun hResumed m hm d hd => ?_⟩
    · rw [List.map_append, List.nodup_append]
      refine ⟨hGood.1, List.nodup_singleton _, ?_⟩
      simpa [id_formatCacheEvent] using hOther
    · rw [List.mem_append, List.mem_singleton] at hm
      rcases hm with hm | rfl
      · exact hGood.2 hResumed m hm d hd
      · exact hNew d (List.mem_of_mem_take hd)

end Stream

section Start
variable {s : State} {stream : Stream}

theorem eq_of_id_eq (hInv : Inv s) {d e : CacheInvalidateEvent} (hd : d ∈ s.published)
    (he : e ∈ s.published) (hSame : d.id = e.id) : d = e :=
  List.inj_on_of_nodup_map hInv.unique hd he hSame

/-- The part of the live source that a stream receives while it subscribes: the latest publication,
if the shared source still holds it and the filter accepts it. -/
theorem mem_shared (hInv : Inv s) {m : MessageEvent}
    (hm : m ∈ s.shared.toList.filter stream.accepts) :
    ∃ e ∈ s.published.getLast?, m = formatCacheEvent e ∧ stream.accepts m ∧ s.shared.isSome := by
  rw [List.mem_filter, Option.mem_toList] at hm
  obtain ⟨e, he, hFormat⟩ := hInv.latest m hm.1
  exact ⟨e, he, hFormat, hm.2, Option.isSome_iff_exists.mpr ⟨m, hm.1⟩⟩

/-- An event is handed over if it is received and was published before the call. Such an event is
one that the replay may hold as well. -/
theorem mem_handedOver_iff (hInv : Inv s) (hOpening : stream.openedAt ≤ s.published.length)
    {e : CacheInvalidateEvent} :
    e ∈ handedOver s stream ↔ formatCacheEvent e ∈ s.shared.toList.filter stream.accepts ∧
      e ∈ s.published.take stream.openedAt := by
  constructor
  · intro he
    unfold handedOver at he
    split at he
    · rename_i hHeld
      obtain ⟨hLast, hAccepts⟩ := Option.filter_eq_some_iff.mp he
      obtain ⟨m, hm⟩ := Option.isSome_iff_exists.mp hHeld.1
      obtain ⟨d, hd, rfl⟩ := hInv.latest m hm
      obtain rfl : d = e := Option.some.inj (hd.symm.trans hLast)
      refine ⟨List.mem_filter.mpr ⟨Option.mem_toList.mpr hm, hAccepts⟩, ?_⟩
      rw [← hHeld.2, List.take_length]
      exact List.mem_of_getLast? hLast
    · cases he
  · rintro ⟨hReceived, hBefore⟩
    obtain ⟨d, hd, hFormat, hAccepts, hShared⟩ := mem_shared hInv hReceived
    have hPublished := List.mem_of_mem_take hBefore
    obtain rfl : e = d := eq_of_id_eq hInv hPublished (List.mem_of_getLast? hd)
      (congrArg MessageEvent.id hFormat)
    obtain ⟨earlier, hSplit⟩ := List.getLast?_eq_some_iff.mp hd
    have hAll : s.published.length = stream.openedAt := by
      by_contra hNot
      have hShort : stream.openedAt ≤ earlier.length := by
        rw [hSplit, List.length_append, List.length_singleton] at hOpening hNot
        omega
      have hUnique := hInv.unique
      rw [hSplit, List.map_append, List.nodup_append] at hUnique
      rw [hSplit, List.take_append_of_le_length hShort] at hBefore
      exact hUnique.2.2 _ (List.mem_map_of_mem (List.mem_of_mem_take hBefore)) _
        (by simp) rfl
    unfold handedOver
    rw [if_pos ⟨hShared, hAll⟩]
    exact Option.filter_eq_some_iff.mpr ⟨hd, hAccepts⟩

/-- The shared source hands over at most one message. A buffer of one event holds no more than the
last one. -/
theorem nodup_shared : ((s.shared.toList.filter stream.accepts).map MessageEvent.id).Nodup := by
  cases s.shared with
  | none => simp
  | some m =>
      by_cases hAccepts : stream.accepts m <;> simp [hAccepts]

/-- With a last event id the replay is that event, if the buffer spans it, and then every later
event that the filter lets through. Each of the later ones is stored twice, and so replayed
twice. -/
theorem replay_of_present {published : List CacheInvalidateEvent} {eventId : String}
    (hValid : stream.Valid published) (hPresent : Text.present stream.lastEventId = some eventId) :
    stream.replayEvents =
      (((((stream.stored published).find? fun e => e.id == eventId).toList ++
        doubled (RecentLog.since CacheInvalidateEvent.id (stream.stored published)
          eventId)).filter stream.replayable).map formatCacheEvent) := by
  rw [hValid.replay, Stream.stored, ← getEventsSince_buffer]
  cases hSubscription : stream.subscription with
  | none =>
      have hAll : stream.replayable = fun _ => true := by
        funext e
        simp [Stream.replayable, hSubscription]
      rw [hAll, List.filter_true]
      simp only [replayOf, replayEvents, hPresent]
  | some filters =>
      have hFiltered : stream.replayable = fun e => matchesSubscription e filters := by
        funext e
        simp [Stream.replayable, hSubscription]
      rw [hFiltered]
      simp only [replayOf, replayFilteredEvents, hPresent]

theorem replay_of_absent {published : List CacheInvalidateEvent}
    (hValid : stream.Valid published) (hAbsent : Text.present stream.lastEventId = none) :
    stream.replayEvents = [] := by
  rw [hValid.replay]
  cases stream.subscription <;> simp [replayOf, replayEvents, replayFilteredEvents, hAbsent]

theorem mem_replay {published : List CacheInvalidateEvent} (hValid : stream.Valid published)
    {m : MessageEvent} (hm : m ∈ stream.replayEvents) :
    ∃ e ∈ published, m = formatCacheEvent e := by
  cases hPresent : Text.present stream.lastEventId with
  | none =>
      rw [replay_of_absent hValid hPresent] at hm
      cases hm
  | some eventId =>
      rw [replay_of_present hValid hPresent, Stream.stored, ← getEventsSince_buffer] at hm
      obtain ⟨e, he, rfl⟩ := List.mem_map.mp hm
      exact ⟨e, List.mem_of_mem_take (mem_getEventsSince (List.mem_of_mem_filter he)), rfl⟩

/-- A stream without a last event id starts well exactly when the shared source hands no earlier
event over to it. -/
theorem good_start_of_absent (hInv : Inv s) (hValid : stream.Valid s.published)
    (hAbsent : Text.present stream.lastEventId = none) :
    (stream.start s.shared).Good s.published ↔ handedOver s stream = none := by
  unfold Stream.Good Stream.start
  simp only [replay_of_absent hValid hAbsent, List.nil_append]
  constructor
  · rintro ⟨-, hLate⟩
    refine Option.eq_none_iff_forall_not_mem.mpr fun e he => ?_
    obtain ⟨hReceived, hBefore⟩ := (mem_handedOver_iff hInv hValid.opening).mp he
    exact hLate hAbsent _ hReceived e hBefore rfl
  · refine fun hNone => ⟨nodup_shared, fun _ m hm e he hSame => ?_⟩
    obtain ⟨d, hd, rfl, -⟩ := mem_shared hInv hm
    obtain rfl : d = e := eq_of_id_eq hInv (List.mem_of_getLast? hd) (List.mem_of_mem_take he) hSame
    have hHanded := (mem_handedOver_iff hInv hValid.opening).mpr ⟨hm, he⟩
    rw [hNone] at hHanded
    cases hHanded

/-- An event that is handed over is the latest one, so it was still stored, and a replay can send it
as well. -/
theorem mem_kept_of_handedOver {e : CacheInvalidateEvent} (he : e ∈ handedOver s stream) :
    e ∈ stream.stored s.published := by
  unfold handedOver at he
  split at he
  · rename_i hHeld
    obtain ⟨hLast, -⟩ := Option.filter_eq_some_iff.mp he
    obtain ⟨earlier, hSplit⟩ := List.getLast?_eq_some_iff.mp hLast
    rw [Stream.stored, ← hHeld.2, List.take_length, hSplit, kept, List.rtake_concat_succ]
    simp
  · cases he

/-- A replay sends every later event twice and its own event at most once. The buffer has both
copies of a later event, and the search stops at the first copy of the named one. -/
theorem nodup_replay_iff {own : Option CacheInvalidateEvent} {later : List CacheInvalidateEvent}
    {replayable : CacheInvalidateEvent → Bool} {shared : List String} (hShared : shared.Nodup) :
    ((((own.toList ++ doubled later).filter replayable).map formatCacheEvent).map MessageEvent.id ++
        shared).Nodup ↔
      (∀ e ∈ later, ¬ replayable e) ∧ ∀ e ∈ own, replayable e → e.id ∉ shared := by
  rw [List.filter_append, List.map_append, List.map_append]
  constructor
  · intro hNodup
    obtain ⟨hReplay, -, hDisjoint⟩ := List.nodup_append.mp hNodup
    refine ⟨fun e he hReplayable => ?_, fun e he hReplayable hSent => ?_⟩
    · have hSent := (((twice_sublist_doubled he).filter replayable).map formatCacheEvent).map
        MessageEvent.id
      have hTwice := (List.nodup_append.mp hReplay).2.1.sublist hSent
      simp [hReplayable] at hTwice
    · refine hDisjoint e.id ?_ e.id hSent rfl
      obtain rfl : own = some e := he
      simp [hReplayable, id_formatCacheEvent]
  · rintro ⟨hLater, hOwn⟩
    have hRest : (doubled later).filter replayable = [] :=
      List.filter_eq_nil_iff.mpr fun e he => hLater e (mem_doubled.mp he)
    rw [hRest, List.map_nil, List.map_nil, List.append_nil]
    cases own with
    | none => simpa using hShared
    | some e =>
        by_cases hReplayable : replayable e
        · simpa [hReplayable, id_formatCacheEvent, hShared] using hOwn e rfl hReplayable
        · simpa [hReplayable] using hShared

/-- The stored event that the client names is received again exactly when it is
handed over. -/
theorem own_received_iff (hInv : Inv s) (hOpening : stream.openedAt ≤ s.published.length)
    {eventId : String} {e : CacheInvalidateEvent} :
    (e ∈ (stream.stored s.published).find? (fun d => d.id == eventId) ∧
        e.id ∈ (s.shared.toList.filter stream.accepts).map MessageEvent.id) ↔
      e ∈ handedOver s stream ∧ e.id = eventId := by
  have hStored : ∀ d ∈ stream.stored s.published,
      d ∈ s.published.take stream.openedAt := fun d hd => List.mem_of_mem_drop hd
  constructor
  · rintro ⟨hOwn, hReceived⟩
    have hBefore := hStored e (List.mem_of_find?_eq_some hOwn)
    obtain ⟨m, hm, hSame⟩ := List.mem_map.mp hReceived
    obtain ⟨d, hd, rfl, -⟩ := mem_shared hInv hm
    obtain rfl : d = e :=
      eq_of_id_eq hInv (List.mem_of_getLast? hd) (List.mem_of_mem_take hBefore) hSame
    exact ⟨(mem_handedOver_iff hInv hOpening).mpr ⟨hm, hBefore⟩, by simpa using List.find?_some hOwn⟩
  · rintro ⟨hHanded, rfl⟩
    obtain ⟨hReceived, hBefore⟩ := (mem_handedOver_iff hInv hOpening).mp hHanded
    refine ⟨?_, List.mem_map.mpr ⟨_, hReceived, rfl⟩⟩
    cases hFound : (stream.stored s.published).find? fun d => d.id == e.id with
    | none =>
        rw [List.find?_eq_none] at hFound
        exact absurd (beq_self_eq_true e.id) (hFound e (mem_kept_of_handedOver hHanded))
    | some d =>
        have hSame : d.id = e.id := by simpa using List.find?_some hFound
        exact congrArg some (eq_of_id_eq hInv
          (List.mem_of_mem_take (hStored d (List.mem_of_find?_eq_some hFound)))
          (List.mem_of_mem_take hBefore) hSame)

/-- With a last event id the replay must hold no stored later event, since it would hold it twice,
and the event of that id must not come by both ways. -/
theorem good_start_of_present (hInv : Inv s) (hValid : stream.Valid s.published)
    {eventId : String} (hPresent : Text.present stream.lastEventId = some eventId) :
    (stream.start s.shared).Good s.published ↔
      (∀ e ∈ RecentLog.since CacheInvalidateEvent.id (stream.stored s.published)
          eventId, ¬ stream.replayable e) ∧
        ∀ e ∈ handedOver s stream, e.id = eventId → ¬ stream.replayable e := by
  unfold Stream.Good Stream.start
  simp only [replay_of_present hValid hPresent, hPresent, List.map_append,
    reduceCtorEq, false_implies, and_true]
  rw [nodup_replay_iff nodup_shared]
  refine and_congr_right' ?_
  constructor
  · intro hOwn e he hId hReplayable
    obtain ⟨hFound, hReceived⟩ := (own_received_iff hInv hValid.opening).mpr ⟨he, hId⟩
    exact hOwn e hFound hReplayable hReceived
  · intro hHanded e he hReplayable hReceived
    obtain ⟨hOver, hId⟩ := (own_received_iff hInv hValid.opening).mp ⟨he, hReceived⟩
    exact hHanded e hOver hId hReplayable

/-- The streams that keep the promise when they are subscribed to. -/
theorem good_start_iff (hInv : Inv s) (hValid : stream.Valid s.published) :
    (stream.start s.shared).Good s.published ↔ OnTime s stream := by
  unfold OnTime
  cases hPresent : Text.present stream.lastEventId with
  | none => exact good_start_of_absent hInv hValid hPresent
  | some eventId => exact good_start_of_present hInv hValid hPresent

end Start

/-- Closing streams changes phases only, and may reset the shared source. -/
structure Closes (s t : State) : Prop where
  stored : t.recentEvents = s.recentEvents
  published : t.published = s.published
  shared : t.shared = s.shared ∨ t.shared = none
  backward : ∀ later ∈ t.streams, ∃ stream ∈ s.streams,
    later = stream ∨ later = { stream with phase := .closed }
  forward : ∀ stream ∈ s.streams, ∃ later ∈ t.streams,
    later = stream ∨ later = { stream with phase := .closed }

namespace Closes
variable {s t u : State}

theorem refl (s : State) : Closes s s :=
  ⟨rfl, rfl, .inl rfl, fun stream h => ⟨stream, h, .inl rfl⟩,
    fun stream h => ⟨stream, h, .inl rfl⟩⟩

theorem trans (hFirst : Closes s t) (hSecond : Closes t u) : Closes s u := by
  refine ⟨hSecond.stored.trans hFirst.stored, hSecond.published.trans hFirst.published, ?_, ?_, ?_⟩
  · rcases hSecond.shared with hSame | hReset
    · rw [hSame]
      exact hFirst.shared
    · exact .inr hReset
  · intro last hLast
    obtain ⟨middle, hMiddle, hTail⟩ := hSecond.backward last hLast
    obtain ⟨stream, hStream, hHead⟩ := hFirst.backward middle hMiddle
    refine ⟨stream, hStream, ?_⟩
    rcases hHead with rfl | rfl <;> rcases hTail with rfl | rfl <;> simp
  · intro stream hStream
    obtain ⟨middle, hMiddle, hHead⟩ := hFirst.forward stream hStream
    obtain ⟨last, hLast, hTail⟩ := hSecond.forward middle hMiddle
    refine ⟨last, hLast, ?_⟩
    rcases hHead with rfl | rfl <;> rcases hTail with rfl | rfl <;> simp

theorem setClient (clientId : String) (client : Option Nat) :
    Closes s (s.setClient clientId client) :=
  ⟨rfl, rfl, .inl rfl, (refl s).backward, (refl s).forward⟩

theorem complete_cases (stream : Stream) :
    stream.complete = stream ∨ stream.complete = { stream with phase := .closed } := by
  unfold Stream.complete
  split
  · exact .inr rfl
  · exact .inl rfl

/-- Completing one stream leaves the others. When it was the last one subscribed to, the shared
source is reset. -/
theorem completeStream (i : Nat) : Closes s (s.setStreams (s.streams.modify i Stream.complete)) := by
  refine ⟨rfl, rfl, ?_, ?_, ?_⟩
  · unfold State.setStreams
    split
    · exact .inl rfl
    · exact .inr rfl
  · intro later hLater
    rcases ProcessTable.mem_modify_cases hLater with hOld | ⟨stream, hStream, rfl⟩
    · exact ⟨later, hOld, .inl rfl⟩
    · exact ⟨stream, List.mem_of_getElem? hStream, complete_cases stream⟩
  · intro stream hStream
    rcases @ProcessTable.mem_modify_of_mem _ _ i Stream.complete _ hStream with hSame | ⟨-, hMoved⟩
    · exact ⟨stream, hSame, .inl rfl⟩
    · exact ⟨stream.complete, hMoved, complete_cases stream⟩

theorem unregisterClient (clientId : String) : Closes s (s.unregisterClient clientId) := by
  unfold State.unregisterClient
  split
  · rename_i i _
    exact (setClient clientId none).trans (@completeStream (s.setClient clientId none) i)
  · exact refl s

/-- What holds of the publications and of the streams does not depend on which streams are
closed. -/
theorem inv (hCloses : Closes s t) (hInv : Inv s) : Inv t := by
  refine ⟨?_, ?_, ?_, ?_⟩
  · rw [hCloses.stored, hCloses.published, hInv.stored]
  · rw [hCloses.published]
    exact hInv.unique
  · intro m hm
    rw [hCloses.published]
    rcases hCloses.shared with hSame | hReset
    · exact hInv.latest m (hSame ▸ hm)
    · rw [hReset] at hm
      cases hm
  · intro later hLater
    rw [hCloses.published]
    obtain ⟨stream, hStream, rfl | rfl⟩ := hCloses.backward later hLater
    · exact hInv.valid _ hStream
    · obtain ⟨hOpening, hReplay, -, hOrigin⟩ := hInv.valid stream hStream
      exact ⟨hOpening, hReplay, by simp, hOrigin⟩

/-- Closing a stream takes nothing back that it has emitted, and adds nothing. The promise can be
read off any later state. -/
theorem good_iff (hCloses : Closes s t) : Good t ↔ Good s := by
  unfold Good
  rw [hCloses.published]
  constructor
  · intro hGood stream hStream
    obtain ⟨later, hLater, rfl | rfl⟩ := hCloses.forward stream hStream
    · exact hGood _ hLater
    · have hClosed := hGood _ hLater
      exact hClosed
  · intro hGood later hLater
    obtain ⟨stream, hStream, rfl | rfl⟩ := hCloses.backward later hLater
    · exact hGood _ hStream
    · exact hGood stream hStream

end Closes

/-- What a step can do. -/
theorem step_cases {s t : State} {a : Action} (hStep : step s a = some t) :
    (∃ i stream, a = .subscribe i ∧ s.streams[i]? = some stream ∧ stream.phase = .opened ∧
      t = { s with streams := s.streams.modify i fun stream => stream.start s.shared }) ∨
    stepOk s a ∧
      ((∃ p : Publication, p.event.id ∉ s.published.map CacheInvalidateEvent.id ∧
        t = s.publish p.event) ∨
      (∃ cleared clientId subscription lastEventId, Closes s cleared ∧
        t = cleared.addStream ⟨clientId, subscription, lastEventId, s.published.length,
          replayOf s.recentEvents subscription lastEventId, .opened, []⟩) ∨
      Closes s t) := by
  cases a with
  | publishCacheInvalidation p =>
      simp only [step] at hStep
      split at hStep
      · cases hStep
      · cases hStep
        exact .inr ⟨trivial, .inl ⟨p, ‹_›, rfl⟩⟩
  | openStream clientId subscription lastEventId =>
      cases hStep
      exact .inr ⟨trivial, .inr (.inl ⟨_, clientId, subscription, lastEventId,
        (Closes.unregisterClient clientId).trans (Closes.setClient clientId _), rfl⟩)⟩
  | subscribe i =>
      simp only [step] at hStep
      split at hStep
      · split at hStep
        · cases hStep
          exact .inl ⟨i, _, rfl, ‹_›, ‹_›, rfl⟩
        · cases hStep
      · cases hStep
  | disconnect i =>
      simp only [step] at hStep
      split at hStep
      · split at hStep
        · cases hStep
          exact .inr ⟨trivial, .inr (.inr
            ((Closes.completeStream i).trans (Closes.unregisterClient _)))⟩
        · cases hStep
      · cases hStep
  | unregisterClient clientId =>
      cases hStep
      exact .inr ⟨trivial, .inr (.inr (Closes.unregisterClient clientId))⟩

section Steps
variable {s t : State}

/-- A publication with a new id is stored, becomes the latest one of the shared source, and
reaches the streams. -/
theorem Inv.publish (hInv : Inv s) {e : CacheInvalidateEvent}
    (hFresh : e.id ∉ s.published.map CacheInvalidateEvent.id) : Inv (s.publish e) := by
  refine ⟨?_, ?_, ?_, ?_⟩
  · simp only [State.publish, hInv.stored, buffer, List.foldl_append, List.foldl_cons,
      List.foldl_nil]
  · simp only [State.publish, List.map_append, List.map_cons, List.map_nil]
    refine List.nodup_append.mpr ⟨hInv.unique, List.nodup_singleton _, ?_⟩
    rintro _ hd _ he rfl
    rw [List.mem_singleton] at he
    exact hFresh (he ▸ hd)
  · intro m hm
    refine ⟨e, by simp [State.publish], ?_⟩
    simp only [State.publish] at hm
    split at hm
    · exact (Option.some.inj hm).symm
    · cases hm
  · intro later hLater
    obtain ⟨stream, hStream, rfl⟩ := List.mem_map.mp hLater
    exact (hInv.valid stream hStream).receive

/-- A new stream has emitted nothing, and its replay is read from the buffer as it is now. -/
theorem Inv.addStream {clientId : String} {subscription : Option AddressSubscription}
    {lastEventId : Option String} (hInv : Inv s) :
    Inv (s.addStream ⟨clientId, subscription, lastEventId, s.published.length,
      replayOf s.recentEvents subscription lastEventId, .opened, []⟩) := by
  refine ⟨hInv.stored, hInv.unique, hInv.latest, fun stream hStream => ?_⟩
  rcases List.mem_append.mp hStream with hOld | hNew
  · exact hInv.valid stream hOld
  · obtain rfl := List.mem_singleton.mp hNew
    refine ⟨Nat.le_refl _, ?_, fun _ => rfl, by simp⟩
    simp [State.addStream, hInv.stored]

/-- Subscribing emits the replay and what the shared source holds, and both consist of published
events. -/
theorem Inv.start (hInv : Inv s) {i : Nat} :
    Inv { s with streams := s.streams.modify i fun stream => stream.start s.shared } := by
  refine ⟨hInv.stored, hInv.unique, hInv.latest, fun later hLater => ?_⟩
  rcases ProcessTable.mem_modify_cases hLater with hOld | ⟨stream, hStream, rfl⟩
  · exact hInv.valid later hOld
  · obtain ⟨hOpening, hReplay, -, -⟩ := hInv.valid stream (List.mem_of_getElem? hStream)
    refine ⟨hOpening, hReplay, fun h => (by cases h), fun m hm => ?_⟩
    rcases List.mem_append.mp hm with hReplayed | hReceived
    · exact mem_replay (hInv.valid stream (List.mem_of_getElem? hStream)) hReplayed
    · obtain ⟨e, he, hFormat, -⟩ := mem_shared hInv hReceived
      exact ⟨e, List.mem_of_getLast? he, hFormat⟩

/-- Every step keeps the invariant, whether or not it meets the condition. The invariant only
relates the buffer, the latest event and the streams to what was published. -/
theorem inv_step {a : Action} (hInv : Inv s) (hStep : step s a = some t) : Inv t := by
  rcases step_cases hStep with ⟨i, stream, -, -, -, rfl⟩ |
    ⟨-, ⟨p, hFresh, rfl⟩ | ⟨cleared, clientId, subscription, lastEventId, hCloses, rfl⟩ | hCloses⟩
  · exact hInv.start
  · exact hInv.publish hFresh
  · rw [← hCloses.published, ← hCloses.stored]
    exact (hCloses.inv hInv).addStream
  · exact hCloses.inv hInv

/-- The promise holds after the step if it held before and the condition is met. Only the start of a
stream can break it, and the condition is about that step. -/
theorem good_step {a : Action} (hInv : Inv s) (hGood : Good s) (hOk : stepOk s a)
    (hStep : step s a = some t) : Good t := by
  rcases step_cases hStep with ⟨i, stream, rfl, hStream, -, rfl⟩ |
    ⟨-, ⟨p, hFresh, rfl⟩ | ⟨cleared, clientId, subscription, lastEventId, hCloses, rfl⟩ | hCloses⟩
  · intro later hLater
    rcases ProcessTable.mem_modify_cases hLater with hOld | ⟨moved, hMoved, rfl⟩
    · exact hGood later hOld
    · exact (good_start_iff hInv (hInv.valid moved (List.mem_of_getElem? hMoved))).mpr
        (hOk moved hMoved)
  · intro later hLater
    obtain ⟨stream, hStream, rfl⟩ := List.mem_map.mp hLater
    exact (hGood stream hStream).receive (hInv.valid stream hStream) hFresh
  · intro stream hStream
    rcases List.mem_append.mp hStream with hOld | hNew
    · exact hCloses.good_iff.mpr hGood stream hOld
    · obtain rfl := List.mem_singleton.mp hNew
      exact ⟨List.nodup_nil, by simp⟩
  · exact hCloses.good_iff.mpr hGood

/-- A step outside the condition breaks the promise at once. The stream that has just started has
emitted what it should not. -/
theorem not_good_step {a : Action} (hInv : Inv s) (hStep : step s a = some t)
    (hNot : ¬ stepOk s a) : ¬ Good t := by
  rcases step_cases hStep with ⟨i, stream, rfl, hStream, -, rfl⟩ | ⟨hOk, -⟩
  · intro hGood
    refine hNot fun moved hMoved => ?_
    have hStarted : moved.start s.shared ∈ s.streams.modify i fun stream => stream.start s.shared :=
      List.mem_iff_getElem?.mpr ⟨i, by simp [Option.mem_def.mp hMoved]⟩
    exact (good_start_iff hInv (hInv.valid moved (List.mem_of_getElem? hMoved))).mp
      (hGood _ hStarted)
  · exact absurd hOk hNot

/-- What a stream has emitted stays emitted. A broken promise stays broken to the end of the run. -/
theorem not_good_kept {a : Action} (hInv : Inv s) (hBad : ¬ Good s) (hStep : step s a = some t) :
    ¬ Good t := by
  rcases step_cases hStep with ⟨i, started, -, hStarted, hOpened, rfl⟩ |
    ⟨-, ⟨p, hFresh, rfl⟩ | ⟨cleared, clientId, subscription, lastEventId, hCloses, rfl⟩ | hCloses⟩
  · refine fun hGood => hBad fun stream hStream => ?_
    rcases @ProcessTable.mem_modify_of_mem _ _ i (fun stream => stream.start s.shared) _ hStream with
      hSame | ⟨hMoved, -⟩
    · exact hGood stream hSame
    · obtain rfl : stream = started := Option.some.inj (hMoved.symm.trans hStarted)
      have hSilent := (hInv.valid stream hStream).silent hOpened
      simp [Stream.Good, hSilent]
  · refine fun hGood => hBad fun stream hStream => ?_
    exact (hGood _ (List.mem_map_of_mem hStream)).of_receive (hInv.valid stream hStream)
  · exact fun hGood => hBad (hCloses.good_iff.mp fun stream hStream =>
      hGood stream (List.mem_append_left _ hStream))
  · exact fun hGood => hBad (hCloses.good_iff.mp hGood)

end Steps

/-- In every run the streams are good at the end exactly when each of them was subscribed to on
time. One direction holds because a stream that is not good stays so. -/
theorem good_iff_onTime {actions : List Action} {t : State}
    (hRun : run step State.init actions = some t) :
    Good t ↔ Meets step stepOk State.init actions := by
  constructor
  · intro hGood
    exact meets_of_persistent (fun _ _ _ => inv_step) (fun _ _ _ => not_good_step)
      (fun _ _ _ => not_good_kept) hRun Inv.init fun hBad => hBad hGood
  · intro hMeets
    have hStart : Inv State.init ∧ Good State.init := ⟨Inv.init, by simp [Good, State.init]⟩
    have hKept : ∀ s a t, Inv s ∧ Good s → stepOk s a → step s a = some t → Inv t ∧ Good t :=
      fun s a t h hOk hStep => ⟨inv_step h.1 hStep, good_step h.1 h.2 hOk hStep⟩
    exact (run_invariant_of_meets hKept hRun hMeets hStart).2

def client (lastEventId : Option String) (i : Nat) : List Action :=
  [.openStream (toString i) none lastEventId, .subscribe i]

def publication (address : String) (uuid : String) : Publication :=
  ⟨"portfolio:ethereum:1:" ++ address, none, none, 0, uuid⟩

/-- A client connects, receives an event and leaves before the next one connects. -/
def separateRun : List Action :=
  client none 0 ++ [.publishCacheInvalidation (publication "0xab" "1"), .disconnect 0] ++
    client none 1

/-- The first stream has left when the second one connects, so nothing is handed over. -/
theorem good_separateRun : ∃ t, run step State.init separateRun = some t ∧ Good t :=
  ⟨_, rfl, (@good_iff_onTime separateRun _ rfl).mpr (by decide)⟩

/-- One client is connected while another one connects without a last event id and
a third one reconnects with the id of the only event. -/
def lateRun : List Action :=
  client none 0 ++ [.publishCacheInvalidation (publication "0xab" "1")] ++ client none 1 ++
    client (some "c-1") 2

/-- The second stream emits an event from before its call and the third one emits
it twice. -/
theorem lateRun_not_good : ∃ t, run step State.init lateRun = some t ∧ ¬ Good t ∧
    t.streams.map (fun stream => (stream.openedAt, stream.emitted.map MessageEvent.id)) =
      [(0, ["c-1"]), (1, ["c-1"]), (1, ["c-1", "c-1"])] :=
  ⟨_, rfl, by decide, rfl⟩

end BalanceKit.Sse.Delivery
