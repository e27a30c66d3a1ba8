import BalanceKit.Library.OrderedMap
import BalanceKit.Library.Runs

/-! The accounting of the event-stream connections. A stream is subscribed to when it
is opened, and its teardown unregisters the client and counts the connection off; the
teardown runs inside whatever ends the stream. -/
namespace BalanceKit.Sse.Connections
open TransitionSystem

/-- An entry of `clients`. Subjects are numbered in the order of their creation. -/
structure ClientConnection where
  lastActive : Nat
  subject : Nat
  isActive : Bool
  deriving DecidableEq, Repr

/-- A stopped stream has passed its error on and is not torn down yet. -/
inductive Phase where
  | live | stopped | closed
  deriving DecidableEq, Repr

/-- A stream that completes when its subject emits, with the number of times that its
teardown has decremented `activeConnections`. -/
structure Stream where
  clientId : String
  subject : Nat
  phase : Phase
  decrements : Nat
  deriving DecidableEq, Repr

/-- The service. `sourceCompleted` says that the shared source has completed, and
`destroyed` that `destroy$` has. -/
structure State where
  now : Nat
  clients : List (String × ClientConnection)
  subjects : Nat
  streams : List Stream
  activeConnections : Int
  sourceCompleted : Bool
  destroyed : Bool
  deriving DecidableEq, Repr

def clientTimeout : Nat := 30000

namespace Stream

def stop (stream : Stream) : Stream := { stream with phase := .stopped }

def close (stream : Stream) : Stream := { stream with phase := .closed }

def decrement (stream : Stream) : Stream :=
  { stream with decrements := stream.decrements + 1 }

def isLive (stream : Stream) : Bool := stream.phase == .live

end Stream

/-- The stream at the index has not ended. -/
def liveAt (streams : List Stream) (i : Nat) : Bool := streams[i]?.any Stream.isLive

/-- The streams that `subject.next()` reaches. -/
def observers (streams : List Stream) (subject : Nat) : List Nat :=
  (List.range streams.length).filter fun i =>
    streams[i]?.any fun stream => stream.isLive && stream.subject == subject

namespace State
variable (s : State)

def init : State := ⟨0, [], 0, [], 0, false, false⟩

def modifyClient (clientId : String) (f : ClientConnection → ClientConnection) : State :=
  { s with clients := OrderedMap.modify s.clients clientId f }

/-- `client.isActive = false`. -/
def deactivate (clientId : String) : State :=
  s.modifyClient clientId fun client => { client with isActive := false }

def setClient (clientId : String) (client : ClientConnection) : State :=
  { s with clients := OrderedMap.set s.clients clientId client }

def deleteClient (clientId : String) : State :=
  { s with clients := OrderedMap.delete s.clients clientId }

def modifyStream (i : Nat) (f : Stream → Stream) : State :=
  { s with streams := s.streams.modify i f }

/-- What the teardown of a stream does after it has unregistered the client. -/
def countOff (i : Nat) : State :=
  { s.modifyStream i Stream.decrement with activeConnections := s.activeConnections - 1 }

end State

mutual

/-- A subject that has emitted completes; it has no observer left then. The fuel
bounds how deep the calls nest. -/
def unregisterClient : Nat → State → String → Option State
  | 0, _, _ => none
  | fuel + 1, s, clientId =>
      match s.clients.lookup clientId with
      | some client =>
          if client.isActive then
            (next fuel (s.deactivate clientId) client.subject).map fun t =>
              t.deleteClient clientId
          else some s
      | none => some s

/-- `subject.next()`: the streams that take until the subject emits complete. -/
def next : Nat → State → Nat → Option State
  | 0, _, _ => none
  | fuel + 1, s, subject =>
      (observers s.streams subject).foldlM
        (fun t i => if liveAt t.streams i then unsubscribe fuel t i else some t) s

/-- The end of a subscription, by completion or from downstream. It closes once, and
then runs the teardown. -/
def unsubscribe : Nat → State → Nat → Option State
  | 0, _, _ => none
  | fuel + 1, s, i =>
      match s.streams[i]? with
      | some stream =>
          if stream.phase = .closed then some s
          else
            (unregisterClient fuel (s.modifyStream i Stream.close) stream.clientId).map fun t =>
              t.countOff i
      | none => some s

end

/-- How deep the calls nest at most: a teardown inside an emission inside a call of
`unregisterClient`, whose own call finds the client inactive. -/
def reentrance : Nat := 4

def complete (s : State) (i : Nat) : Option State :=
  if liveAt s.streams i then unsubscribe reentrance s i else some s

/-- The streams complete in the order in which they were subscribed to. -/
def completeAll (s : State) : Option State :=
  (List.range s.streams.length).foldlM complete s

/-- A client that is there is unregistered first. -/
def registerClient (s : State) (clientId : String) : Option State :=
  (if s.clients.any fun e => e.1 == clientId then unregisterClient reentrance s clientId
  else some s).map fun t =>
    { t.setClient clientId ⟨t.now, t.subjects, true⟩ with subjects := t.subjects + 1 }

/-- `getEventStream` or `getFilteredEventStream`, and the subscription to its result. -/
def getEventStream (s : State) (clientId : String) : Option State := do
  let registered ← registerClient s clientId
  let counted := { registered with activeConnections := registered.activeConnections + 1 }
  match counted.clients.lookup clientId with
  -- the stream that is returned then only fails
  | none => return counted
  | some client =>
      let i := counted.streams.length
      let subscribed :=
        { counted with streams := counted.streams ++ [⟨clientId, client.subject, .live, 0⟩] }
      if subscribed.sourceCompleted then complete subscribed i else return subscribed

def updateClientActivity (s : State) (clientId : String) : State :=
  match s.clients.lookup clientId with
  | some client =>
      if client.isActive then
        s.modifyClient clientId fun client => { client with lastActive := s.now }
      else s
  | none => s

/-- One round of the loop of `checkClientTimeouts`. A key that is gone is not visited. -/
def timeOut (s : State) (clientId : String) : Option State :=
  match s.clients.lookup clientId with
  | some client =>
      if client.isActive ∧ client.lastActive + clientTimeout < s.now then
        (next reentrance (s.deactivate clientId) client.subject).map fun t =>
          t.deleteClient clientId
      else some s
  | none => some s

def checkClientTimeouts (s : State) : Option State :=
  (s.clients.map Prod.fst).foldlM timeOut s

/-- The error handler of the stream unregisters the client, and the source of the
stream is then unsubscribed. -/
def streamError (s : State) (i : Nat) : Option State :=
  match s.streams[i]? with
  | some stream =>
      if stream.isLive then
        (unregisterClient reentrance (s.modifyStream i Stream.stop) stream.clientId).bind fun t =>
          unsubscribe reentrance t i
      else some s
  | none => some s

/-- The shared source ends after an event that it could not format, if anybody is
connected to it. -/
def sourceCompletes (s : State) : Option State :=
  if s.streams.any Stream.isLive then completeAll { s with sourceCompleted := true } else some s

/-- One round of the loop of `onModuleDestroy`. -/
def endClient (s : State) (clientId : String) : Option State :=
  match s.clients.lookup clientId with
  | some client => if client.isActive then next reentrance s client.subject else some s
  | none => some s

/-- `destroy$` ends the streams that it finds; the ones that are opened later see it
completed, and never end by it. -/
def onModuleDestroy (s : State) : Option State :=
  (if s.destroyed then some s else completeAll { s with destroyed := true }).bind fun notified =>
    ((notified.clients.map Prod.fst).foldlM endClient notified).map fun ended =>
      { ended with clients := [] }

inductive Action where
  | getEventStream (clientId : String)
  | unregisterClient (clientId : String)
  | updateClientActivity (clientId : String)
  | checkClientTimeouts
  | streamError (i : Nat)
  | unsubscribe (i : Nat)
  | sourceCompletes
  | onModuleDestroy
  | clock (now : Nat)

def step (s : State) : Action → Option State
  | .getEventStream clientId => getEventStream s clientId
  | .unregisterClient clientId => unregisterClient reentrance s clientId
  | .updateClientActivity clientId => some (updateClientActivity s clientId)
  | .checkClientTimeouts => checkClientTimeouts s
  | .streamError i => streamError s i
  | .unsubscribe i => unsubscribe reentrance s i
  | .sourceCompletes => sourceCompletes s
  | .onModuleDestroy => onModuleDestroy s
  | .clock now => some { s with now := now }

def liveStreams (s : State) : Nat := s.streams.countP Stream.isLive

/-- Every entry is active, every stream that has not ended has its entry, each stream
is counted off once, when it ends, and the three numbers agree. -/
structure Accounted (s : State) : Prop where
  active : ∀ e ∈ s.clients, e.2.isActive = true
  registered : ∀ stream ∈ s.streams, stream.phase ≠ .closed →
    ∃ client, (stream.clientId, client) ∈ s.clients ∧ client.subject = stream.subject
  once : ∀ stream ∈ s.streams, stream.decrements = if stream.phase = .closed then 1 else 0
  connections : s.activeConnections = liveStreams s
  size : liveStreams s = s.clients.length

/-- The stream at the index has ended, and its client is gone. -/
def State.disconnected (s : State) (i : Nat) (clientId : String) : State :=
  { s with
    clients := OrderedMap.delete s.clients clientId
    streams := s.streams.modify i fun stream => stream.close.decrement
    activeConnections := s.activeConnections - 1 }

/-- A client and its stream, which listens to the subject of the entry. -/
structure Linked (s : State) (i : Nat) (clientId : String) : Prop where
  stream : ∃ stream, s.streams[i]? = some stream ∧ stream.phase = .live ∧
    stream.clientId = clientId
  client : ∃ client, s.clients.lookup clientId = some client ∧ client.isActive = true ∧
    client.subject = i

/-- Each stream has the subject that was created with it. -/
def Numbered (streams : List Stream) : Prop :=
  ∀ (i : Nat) (stream : Stream), streams[i]? = some stream → stream.subject = i

section Observers
variable {streams : List Stream} {i : Nat}

/-- The subject of a stream never changes, so the numbering survives every change of a stream. -/
theorem numbered_modify {f : Stream → Stream}
    (hSubject : ∀ stream, (f stream).subject = stream.subject) (h : Numbered streams) (j : Nat) :
    Numbered (streams.modify j f) := by
  intro k stream hStream
  rw [List.getElem?_modify] at hStream
  obtain ⟨old, hOld, rfl⟩ := Option.map_eq_some_iff.mp hStream
  split <;> simp [hSubject, h k old hOld]

theorem liveAt_eq_true : liveAt streams i = true ↔
    ∃ stream, streams[i]? = some stream ∧ stream.phase = .live := by
  simp [liveAt, Option.any_eq_true, Stream.isLive]

/-- A subject reaches its own stream while that is live, and nothing else. So an emission that comes
back from a teardown finds nobody. -/
theorem observers_eq (h : Numbered streams) (subject : Nat) :
    observers streams subject = if liveAt streams subject then [subject] else [] := by
  have hOwn : ∀ i ∈ List.range streams.length,
      (streams[i]?.any fun stream => stream.isLive && stream.subject == subject) =
        (liveAt streams subject && i == subject) := by
    intro i hi
    have hStream := List.getElem?_eq_getElem (List.mem_range.mp hi)
    have hSubject := h i _ hStream
    by_cases hSame : i = subject
    · subst hSame
      simp [liveAt, hStream, hSubject]
    · have hOther : (i == subject) = false := beq_eq_false_iff_ne.mpr hSame
      simp [hStream, hSubject, hOther]
  rw [observers, List.filter_congr hOwn]
  by_cases hLive : liveAt streams subject = true
  · obtain ⟨stream, hStream, -⟩ := liveAt_eq_true.mp hLive
    have hBound : subject < streams.length := (List.getElem?_eq_some_iff.mp hStream).1
    simp [hLive, List.filter_beq, List.count_range, hBound]
  · simp [hLive]

/-- A subject reaches nothing once its stream has ended. -/
theorem observers_modify (h : Numbered streams) {f : Stream → Stream}
    (hSubject : ∀ stream, (f stream).subject = stream.subject)
    (hEnded : ∀ stream, (f stream).isLive = false) (i : Nat) :
    observers (streams.modify i f) i = [] := by
  have hNotLive : liveAt (streams.modify i f) i = false := by
    unfold liveAt
    rw [List.getElem?_modify_eq]
    cases streams[i]? <;> simp [hEnded]
  rw [observers_eq (numbered_modify hSubject h i), hNotLive]
  rfl

end Observers

section Calls
variable {s : State} {i : Nat} {clientId : String}

theorem clients_modifyClient (s : State) (clientId : String)
    (f : ClientConnection → ClientConnection) :
    (s.modifyClient clientId f).clients = OrderedMap.modify s.clients clientId f := rfl

/-- Only the flag of the entry changes: its subject and its times stay, so its stream can still be
found. -/
theorem lookup_deactivate (s : State) (clientId : String) :
    (s.deactivate clientId).clients.lookup clientId =
      (s.clients.lookup clientId).map fun client => { client with isActive := false } := by
  rw [State.deactivate, clients_modifyClient, OrderedMap.lookup_modify]

/-- Unregistering a client that is not there does nothing, as the guard of the method says. -/
theorem unregisterClient_absent (fuel : Nat) (h : s.clients.lookup clientId = none) :
    unregisterClient (fuel + 1) s clientId = some s := by
  rw [unregisterClient, h]

/-- Nor does it do anything for an inactive client. This is where the calls that come back from a
teardown stop. -/
theorem unregisterClient_inactive (fuel : Nat) {client : ClientConnection}
    (h : s.clients.lookup clientId = some client) (hInactive : client.isActive = false) :
    unregisterClient (fuel + 1) s clientId = some s := by
  rw [unregisterClient, h]
  simp [hInactive]

/-- An active client whose stream has ended already is only deleted. This is the end of a connection
that the client has closed. -/
theorem unregisterClient_ended (fuel : Nat) {client : ClientConnection}
    (h : s.clients.lookup clientId = some client) (hActive : client.isActive = true)
    (hObservers : observers s.streams client.subject = []) :
    unregisterClient (fuel + 2) s clientId = some (s.deleteClient clientId) := by
  rw [unregisterClient, h]
  simp [hActive, next, hObservers, State.deleteClient, State.deactivate,
    State.modifyClient]

/-- The end of a subscription: the teardown finds the client active, unregisters it,
and the emission of its subject does not come back to the closed stream. -/
theorem unsubscribe_linked (fuel : Nat) (hNumbered : Numbered s.streams)
    (hLinked : Linked s i clientId) :
    unsubscribe (fuel + 3) s i = some (s.disconnected i clientId) := by
  obtain ⟨⟨stream, hStream, hLive, rfl⟩, client, hClient, hActive, rfl⟩ := hLinked
  have hOpen : stream.phase ≠ .closed := by simp [hLive]
  have hObservers : observers (s.modifyStream client.subject Stream.close).streams
      client.subject = [] := by
    apply observers_modify hNumbered <;> intro <;> rfl
  have hUnregister : unregisterClient (fuel + 2) (s.modifyStream client.subject Stream.close)
      stream.clientId = some ((s.modifyStream client.subject Stream.close).deleteClient
        stream.clientId) :=
    unregisterClient_ended fuel hClient hActive hObservers
  rw [unsubscribe, hStream]
  simp only [hOpen, if_false]
  rw [hUnregister, Option.map_some]
  simp only [State.countOff, State.deleteClient, State.modifyStream, State.disconnected,
    List.modify_modify_eq]
  rfl

/-- The emission of the subject of an inactive client: the teardown that it causes
finds the client inactive. -/
theorem next_deactivate (fuel : Nat) (hNumbered : Numbered s.streams)
    (hLinked : Linked s i clientId) :
    (next (fuel + 3) (s.deactivate clientId) i).map (fun t => t.deleteClient clientId) =
      some (s.disconnected i clientId) := by
  obtain ⟨⟨stream, hStream, hLive, rfl⟩, client, hClient, hActive, rfl⟩ := hLinked
  have hOpen : stream.phase ≠ .closed := by simp [hLive]
  have hLiveAt : liveAt (s.deactivate stream.clientId).streams client.subject = true :=
    liveAt_eq_true.mpr ⟨stream, hStream, hLive⟩
  have hInactive : ((s.deactivate stream.clientId).modifyStream client.subject
      Stream.close).clients.lookup stream.clientId = some { client with isActive := false } := by
    change (s.deactivate stream.clientId).clients.lookup stream.clientId = _
    rw [lookup_deactivate, hClient]
    rfl
  have hObservers : observers (s.deactivate stream.clientId).streams client.subject =
      [client.subject] := by
    change observers s.streams client.subject = _
    rw [observers_eq hNumbered]
    exact if_pos hLiveAt
  have hEnd : unsubscribe (fuel + 2) (s.deactivate stream.clientId) client.subject =
      some (((s.deactivate stream.clientId).modifyStream client.subject Stream.close).countOff
        client.subject) := by
    rw [unsubscribe, show (s.deactivate stream.clientId).streams[client.subject]? = some stream
      from hStream]
    simp only [hOpen, if_false]
    rw [unregisterClient_inactive fuel hInactive rfl, Option.map_some]
  rw [next, hObservers]
  simp only [List.foldlM_cons, List.foldlM_nil, hLiveAt, if_true, hEnd, Option.bind_eq_bind,
    Option.bind_some, Option.pure_def, Option.map_some]
  simp only [State.countOff, State.deleteClient, State.modifyStream, State.disconnected,
    State.deactivate, State.modifyClient, OrderedMap.delete_modify, List.modify_modify_eq]
  rfl

/-- Unregistering an active client ends its stream. The emission runs the teardown, whose own call
of the method stops at the inactive entry, and the count goes down once. -/
theorem unregisterClient_linked (fuel : Nat) (hNumbered : Numbered s.streams)
    (hLinked : Linked s i clientId) :
    unregisterClient (fuel + 4) s clientId = some (s.disconnected i clientId) := by
  have hNext := next_deactivate fuel hNumbered hLinked
  obtain ⟨-, client, hClient, hActive, rfl⟩ := hLinked
  rw [unregisterClient, hClient]
  simp only [hActive, if_true]
  exact hNext

/-- The emission of the subject of an active client, whose teardown unregisters it. The call that
comes back from the teardown finds the entry inactive and stops. -/
theorem next_linked (fuel : Nat) (hNumbered : Numbered s.streams)
    (hLinked : Linked s i clientId) :
    next (fuel + 4) s i = some (s.disconnected i clientId) := by
  have hEnd := unsubscribe_linked fuel hNumbered hLinked
  obtain ⟨stream, hStream, hLive, -⟩ := hLinked.stream
  have hLiveAt : liveAt s.streams i = true := liveAt_eq_true.mpr ⟨stream, hStream, hLive⟩
  have hObservers : observers s.streams i = [i] := by
    rw [observers_eq hNumbered]
    exact if_pos hLiveAt
  rw [next, hObservers]
  simp only [List.foldlM_cons, List.foldlM_nil, hLiveAt, if_true, hEnd, Option.bind_eq_bind,
    Option.bind_some, Option.pure_def]

/-- The handler unregisters the client of the stopped stream, and the teardown that
follows finds it gone. -/
theorem streamError_linked (hNumbered : Numbered s.streams) (hLinked : Linked s i clientId) :
    streamError s i = some (s.disconnected i clientId) := by
  obtain ⟨⟨stream, hStream, hLive, rfl⟩, client, hClient, hActive, rfl⟩ := hLinked
  have hIsLive : stream.isLive = true := by simp [Stream.isLive, hLive]
  have hObservers : observers (s.modifyStream client.subject Stream.stop).streams
      client.subject = [] := by
    apply observers_modify hNumbered <;> intro <;> rfl
  have hUnregister : unregisterClient reentrance (s.modifyStream client.subject Stream.stop)
      stream.clientId = some ((s.modifyStream client.subject Stream.stop).deleteClient
        stream.clientId) :=
    unregisterClient_ended 2 hClient hActive hObservers
  have hStopped : ((s.modifyStream client.subject Stream.stop).deleteClient
      stream.clientId).streams[client.subject]? = some stream.stop := by
    change (s.streams.modify client.subject Stream.stop)[client.subject]? = _
    rw [List.getElem?_modify_eq, hStream]
    rfl
  have hGone : unregisterClient 3 (((s.modifyStream client.subject Stream.stop).deleteClient
      stream.clientId).modifyStream client.subject Stream.close) stream.clientId =
        some (((s.modifyStream client.subject Stream.stop).deleteClient
          stream.clientId).modifyStream client.subject Stream.close) :=
    unregisterClient_absent 2 OrderedMap.lookup_delete
  rw [streamError, hStream]
  simp only [hIsLive, if_true]
  rw [hUnregister, Option.bind_some, reentrance, unsubscribe, hStopped]
  simp only [Stream.stop, reduceCtorEq, if_false]
  rw [hGone, Option.map_some]
  simp only [State.countOff, State.deleteClient, State.modifyStream, State.disconnected,
    List.modify_modify_eq]
  rfl

end Calls

/-- What holds between the calls. -/
structure Invariant (s : State) : Prop where
  keys : (s.clients.map Prod.fst).Nodup
  numbered : Numbered s.streams
  subjects : s.subjects = s.streams.length
  linked : ∀ e ∈ s.clients, Linked s e.2.subject e.1
  live : ∀ (i : Nat) (stream : Stream), s.streams[i]? = some stream → stream.phase = .live →
    stream.decrements = 0 ∧ Linked s i stream.clientId
  ended : ∀ (i : Nat) (stream : Stream), s.streams[i]? = some stream → stream.phase ≠ .live →
    stream.phase = .closed ∧ stream.decrements = 1
  connections : s.activeConnections = s.clients.length
  size : liveStreams s = s.clients.length

theorem Invariant.init : Invariant State.init where
  keys := List.nodup_nil
  numbered _ _ h := by simp [State.init] at h
  subjects := rfl
  linked _ h := by simp [State.init] at h
  live _ _ h := by simp [State.init] at h
  ended _ _ h := by simp [State.init] at h
  connections := rfl
  size := rfl

section Disconnected
variable {s : State} {i j : Nat} {clientId other : String}

/-- When one connection ends the links of all others stay. -/
theorem Linked.disconnected (h : Linked s j other) (hIndex : j ≠ i) (hClient : other ≠ clientId) :
    Linked (s.disconnected i clientId) j other := by
  obtain ⟨⟨stream, hStream, hRest⟩, client, hLookup, hActive⟩ := h
  refine ⟨⟨stream, ?_, hRest⟩, client, ?_, hActive⟩
  · exact (List.getElem?_modify_ne _ _ (Ne.symm hIndex)).trans hStream
  · exact (OrderedMap.lookup_delete_of_ne hClient).trans hLookup

theorem Linked.index_unique (h : Linked s i clientId) (hOther : Linked s j clientId) : i = j := by
  obtain ⟨client, hClient, -, rfl⟩ := h.client
  obtain ⟨same, hSame, -, rfl⟩ := hOther.client
  rw [hClient] at hSame
  rw [Option.some.inj hSame]

theorem Linked.client_unique (h : Linked s i clientId) (hOther : Linked s i other) :
    clientId = other := by
  obtain ⟨stream, hStream, -, rfl⟩ := h.stream
  obtain ⟨same, hSame, -, rfl⟩ := hOther.stream
  rw [hStream] at hSame
  rw [Option.some.inj hSame]

/-- The entry of a linked client is in the map, active, and holds the subject of the stream. -/
theorem Linked.mem (h : Linked s i clientId) :
    ∃ client, (clientId, client) ∈ s.clients ∧ client.isActive = true ∧ client.subject = i := by
  obtain ⟨client, hClient, hRest⟩ := h.client
  exact ⟨client, OrderedMap.mem_of_lookup hClient, hRest⟩

/-- The end of one linked stream: its entry goes, it is counted off once, and the
others stay as they are. -/
theorem Invariant.disconnected (h : Invariant s) (hLinked : Linked s i clientId) :
    Invariant (s.disconnected i clientId) := by
  obtain ⟨client, hMember, -⟩ := hLinked.mem
  obtain ⟨own, hOwn, hOwnLive, -⟩ := hLinked.stream
  have hLength := OrderedMap.length_delete h.keys hMember
  have hCount : liveStreams (s.disconnected i clientId) + 1 = liveStreams s :=
    ProcessTable.countP_modify hOwn (by simp [Stream.isLive, hOwnLive]) rfl
  have hOthers : ∀ j stream, j ≠ i → (s.disconnected i clientId).streams[j]? = some stream →
      s.streams[j]? = some stream := by
    intro j stream hIndex hStream
    exact (List.getElem?_modify_ne _ _ (Ne.symm hIndex)).symm.trans hStream
  have hSelf : (s.disconnected i clientId).streams[i]? = some own.close.decrement := by
    refine (List.getElem?_modify_eq _ _ _).trans ?_
    rw [hOwn]
    rfl
  constructor
  · exact OrderedMap.nodup_delete h.keys
  · apply numbered_modify _ h.numbered
    intro
    rfl
  · exact h.subjects.trans (List.length_modify _ _ _).symm
  · intro e hEntry
    obtain ⟨hOld, hClient⟩ := OrderedMap.mem_delete.mp hEntry
    have hEntryLinked := h.linked e hOld
    refine hEntryLinked.disconnected (fun hSame => ?_) hClient
    rw [hSame] at hEntryLinked
    exact hClient (hEntryLinked.client_unique hLinked)
  · intro j stream hStream hLive
    by_cases hIndex : j = i
    · subst hIndex
      obtain rfl := Option.some.inj (hSelf.symm.trans hStream)
      cases hLive
    · obtain ⟨hDecrements, hStreamLinked⟩ := h.live j stream (hOthers j stream hIndex hStream) hLive
      refine ⟨hDecrements, hStreamLinked.disconnected hIndex fun hSame => ?_⟩
      rw [hSame] at hStreamLinked
      exact hIndex (hStreamLinked.index_unique hLinked)
  · intro j stream hStream hEnded
    by_cases hIndex : j = i
    · subst hIndex
      obtain rfl := Option.some.inj (hSelf.symm.trans hStream)
      have hFirst := (h.live j own hOwn hOwnLive).1
      exact ⟨rfl, by simp [Stream.decrement, Stream.close, hFirst]⟩
    · exact h.ended j stream (hOthers j stream hIndex hStream) hEnded
  · have hBefore := h.connections
    change s.activeConnections - 1 = ((OrderedMap.delete s.clients clientId).length : Int)
    omega
  · have hBefore := h.size
    change liveStreams (s.disconnected i clientId) = (OrderedMap.delete s.clients clientId).length
    omega

end Disconnected

section Connected
variable {s : State} {clientId : String}

/-- A new client with its stream. -/
def State.connected (s : State) (clientId : String) : State :=
  { s with
    clients := s.clients ++ [(clientId, ⟨s.now, s.subjects, true⟩)]
    subjects := s.subjects + 1
    streams := s.streams ++ [⟨clientId, s.subjects, .live, 0⟩]
    activeConnections := s.activeConnections + 1 }

/-- The streams that were there keep their clients when another one connects. -/
theorem Linked.connected {i : Nat} {other : String} (h : Linked s i other) :
    Linked (s.connected clientId) i other := by
  obtain ⟨⟨stream, hStream, hRest⟩, client, hClient, hActive⟩ := h
  have hBound : i < s.streams.length := (List.getElem?_eq_some_iff.mp hStream).1
  refine ⟨⟨stream, ?_, hRest⟩, client, ?_, hActive⟩
  · exact (List.getElem?_append_left hBound).trans hStream
  · change (s.clients ++ [_]).lookup other = some client
    rw [List.lookup_append, hClient]
    rfl

/-- The new stream is linked to the new entry, which holds the subject created with it. No other
entry holds this subject. -/
theorem linked_connected (h : Invariant s) (hAbsent : s.clients.lookup clientId = none) :
    Linked (s.connected clientId) s.streams.length clientId := by
  refine ⟨⟨⟨clientId, s.subjects, .live, 0⟩, ?_, rfl, rfl⟩, ⟨s.now, s.subjects, true⟩, ?_, rfl,
    h.subjects⟩
  · simp [State.connected]
  · simp [State.connected, List.lookup_append, hAbsent]

/-- A connection under a new client id is accounted for by one entry, one stream and one count. -/
theorem Invariant.connected (h : Invariant s) (hAbsent : s.clients.lookup clientId = none) :
    Invariant (s.connected clientId) := by
  have hNew := linked_connected h hAbsent
  have hCases : ∀ i stream, (s.connected clientId).streams[i]? = some stream →
      i = s.streams.length ∧ stream = ⟨clientId, s.subjects, .live, 0⟩ ∨
        s.streams[i]? = some stream := fun _ _ => ProcessTable.getElem?_spawn_cases
  constructor
  · have hFresh := OrderedMap.lookup_eq_none_iff.mp hAbsent
    change ((s.clients ++ [_]).map Prod.fst).Nodup
    rw [List.map_append, List.nodup_append]
    refine ⟨h.keys, List.nodup_singleton _, fun a ha b hb hSame => hFresh ?_⟩
    obtain rfl : b = clientId := by simpa using hb
    exact hSame ▸ ha
  · intro i stream hStream
    rcases hCases i stream hStream with ⟨rfl, rfl⟩ | hOld
    · exact h.subjects
    · exact h.numbered i stream hOld
  · simp [State.connected, h.subjects]
  · intro e hEntry
    rcases List.mem_append.mp hEntry with hOld | hLast
    · exact (h.linked e hOld).connected
    · obtain rfl := List.mem_singleton.mp hLast
      rw [h.subjects]
      exact hNew
  · intro i stream hStream hLive
    rcases hCases i stream hStream with ⟨rfl, rfl⟩ | hOld
    · exact ⟨rfl, hNew⟩
    · obtain ⟨hDecrements, hLinked⟩ := h.live i stream hOld hLive
      exact ⟨hDecrements, hLinked.connected⟩
  · intro i stream hStream hEnded
    rcases hCases i stream hStream with ⟨rfl, rfl⟩ | hOld
    · exact absurd rfl hEnded
    · exact h.ended i stream hOld hEnded
  · simp [State.connected, h.connections]
  · have hBefore := h.size
    simp only [liveStreams] at hBefore
    simp [State.connected, liveStreams, List.countP_append, Stream.isLive, hBefore]

end Connected

section Steps
variable {s t : State} {i : Nat} {clientId : String}

/-- The invariant is about four fields only. Whatever leaves these alone keeps it. -/
theorem Invariant.of_same (h : Invariant s) (hClients : t.clients = s.clients)
    (hSubjects : t.subjects = s.subjects) (hStreams : t.streams = s.streams)
    (hConnections : t.activeConnections = s.activeConnections) : Invariant t := by
  have hLinked : ∀ {j other}, Linked s j other → Linked t j other := by
    intro j other hOld
    exact ⟨hStreams ▸ hOld.stream, hClients ▸ hOld.client⟩
  constructor
  · exact hClients ▸ h.keys
  · exact hStreams ▸ h.numbered
  · rw [hSubjects, hStreams, h.subjects]
  · rw [hClients]
    exact fun e hEntry => hLinked (h.linked e hEntry)
  · rw [hStreams]
    exact fun j stream hStream hLive =>
      ⟨(h.live j stream hStream hLive).1, hLinked (h.live j stream hStream hLive).2⟩
  · exact hStreams ▸ h.ended
  · rw [hConnections, hClients, h.connections]
  · rw [liveStreams, hStreams, hClients]
    exact h.size

/-- A client that is found is linked to its stream. So its subject can be used without asking
whether the stream is still there. -/
theorem Invariant.linked_of_lookup (h : Invariant s) {client : ClientConnection}
    (hClient : s.clients.lookup clientId = some client) : Linked s client.subject clientId :=
  h.linked _ (OrderedMap.mem_of_lookup hClient)

/-- An entry that is found is active: an inactive one exists only while its removal is under way. -/
theorem Invariant.active_of_lookup (h : Invariant s) {client : ClientConnection}
    (hClient : s.clients.lookup clientId = some client) : client.isActive = true := by
  obtain ⟨same, hSame, hActive, -⟩ := (h.linked_of_lookup hClient).client
  rw [hClient] at hSame
  rw [Option.some.inj hSame]
  exact hActive

/-- The end of a subscription returns and keeps the invariant. A stream that is closed already is
left alone. -/
theorem unsubscribe_ok (h : Invariant s) (i : Nat) :
    ∃ t, unsubscribe reentrance s i = some t ∧ Invariant t := by
  cases hStream : s.streams[i]? with
  | none => exact ⟨s, by rw [reentrance, unsubscribe, hStream], h⟩
  | some stream =>
      by_cases hLive : stream.phase = .live
      · have hLinked := (h.live i stream hStream hLive).2
        exact ⟨_, unsubscribe_linked 1 h.numbered hLinked, h.disconnected hLinked⟩
      · have hClosed := (h.ended i stream hStream hLive).1
        refine ⟨s, ?_, h⟩
        rw [reentrance, unsubscribe, hStream]
        exact if_pos hClosed

theorem complete_ok (s : State) (i : Nat) (h : Invariant s) :
    ∃ t, complete s i = some t ∧ Invariant t := by
  unfold complete
  split
  · exact unsubscribe_ok h i
  · exact ⟨s, rfl, h⟩

/-- All streams can be completed one after the other. Each completion keeps the invariant, so the
next one starts from it. -/
theorem completeAll_ok (h : Invariant s) : ∃ t, completeAll s = some t ∧ Invariant t := by
  unfold completeAll
  rw [foldlM_eq_run]
  exact run_total complete_ok _ h

/-- Afterwards the client is not there. The count is one lower exactly if it was there before. -/
theorem unregisterClient_ok (h : Invariant s) (clientId : String) :
    ∃ t, unregisterClient reentrance s clientId = some t ∧ Invariant t ∧
      t.clients.lookup clientId = none := by
  cases hClient : s.clients.lookup clientId with
  | none => exact ⟨s, unregisterClient_absent 3 hClient, h, hClient⟩
  | some client =>
      have hLinked := h.linked_of_lookup hClient
      exact ⟨_, unregisterClient_linked 0 h.numbered hLinked, h.disconnected hLinked,
        OrderedMap.lookup_delete⟩

/-- Timing out a client either does nothing or ends its stream and takes its entry away. -/
theorem timeOut_ok (s : State) (clientId : String) (h : Invariant s) :
    ∃ t, timeOut s clientId = some t ∧ Invariant t := by
  unfold timeOut
  cases hClient : s.clients.lookup clientId with
  | none => exact ⟨s, rfl, h⟩
  | some client =>
      have hLinked := h.linked_of_lookup hClient
      by_cases hTime : client.isActive ∧ client.lastActive + clientTimeout < s.now
      · simp only [hTime, and_self, if_true]
        exact ⟨_, next_deactivate 1 h.numbered hLinked, h.disconnected hLinked⟩
      · exact ⟨s, if_neg hTime, h⟩

/-- The loop over the clients returns, also though each round may remove entries of the map that
it iterates over. -/
theorem checkClientTimeouts_ok (h : Invariant s) :
    ∃ t, checkClientTimeouts s = some t ∧ Invariant t := by
  unfold checkClientTimeouts
  rw [foldlM_eq_run]
  exact run_total timeOut_ok _ h

/-- A stream that fails is stopped, its client is unregistered, and the teardown that follows
finds the client gone. -/
theorem streamError_ok (h : Invariant s) (i : Nat) :
    ∃ t, streamError s i = some t ∧ Invariant t := by
  cases hStream : s.streams[i]? with
  | none => exact ⟨s, by rw [streamError, hStream], h⟩
  | some stream =>
      by_cases hLive : stream.phase = .live
      · have hLinked := (h.live i stream hStream hLive).2
        exact ⟨_, streamError_linked h.numbered hLinked, h.disconnected hLinked⟩
      · refine ⟨s, ?_, h⟩
        rw [streamError, hStream]
        simp [Stream.isLive, hLive]

/-- The end of the shared source completes every stream that is connected to it. Each of them runs
its own teardown, one after the other. -/
theorem sourceCompletes_ok (h : Invariant s) : ∃ t, sourceCompletes s = some t ∧ Invariant t := by
  unfold sourceCompletes
  split
  · exact completeAll_ok (h.of_same rfl rfl rfl rfl)
  · exact ⟨s, rfl, h⟩

/-- One round leaves no entry under its key. -/
theorem endClient_ok (h : Invariant s) (clientId : String) :
    ∃ t, endClient s clientId = some t ∧ Invariant t ∧
      ∀ e ∈ t.clients, e ∈ s.clients ∧ e.1 ≠ clientId := by
  unfold endClient
  cases hClient : s.clients.lookup clientId with
  | none =>
      have hAbsent := OrderedMap.lookup_eq_none_iff.mp hClient
      refine ⟨s, rfl, h, fun e hEntry => ⟨hEntry, fun hKey => hAbsent ?_⟩⟩
      exact hKey ▸ List.mem_map_of_mem hEntry
  | some client =>
      have hLinked := h.linked_of_lookup hClient
      simp only [h.active_of_lookup hClient, if_true]
      exact ⟨_, next_linked 0 h.numbered hLinked, h.disconnected hLinked,
        fun e hEntry => OrderedMap.mem_delete.mp hEntry⟩

/-- The loop over all the keys leaves no entry at all. The keys are those from before the loop, so
none is missed. -/
theorem endClients_ok (keys : List String) (h : Invariant s)
    (hKeys : ∀ e ∈ s.clients, e.1 ∈ keys) :
    ∃ t, keys.foldlM endClient s = some t ∧ Invariant t ∧ t.clients = [] := by
  induction keys generalizing s with
  | nil =>
      refine ⟨s, rfl, h, List.eq_nil_iff_forall_not_mem.mpr fun e hEntry => ?_⟩
      exact List.not_mem_nil (hKeys e hEntry)
  | cons key rest ih =>
      obtain ⟨next, hNext, hInv, hLeft⟩ := endClient_ok h key
      have hRest : ∀ e ∈ next.clients, e.1 ∈ rest := by
        intro e hEntry
        obtain ⟨hOld, hKey⟩ := hLeft e hEntry
        exact (List.mem_cons.mp (hKeys e hOld)).resolve_left hKey
      obtain ⟨t, hRun, hEnd⟩ := ih hInv hRest
      refine ⟨t, ?_, hEnd⟩
      rw [List.foldlM_cons, hNext]
      exact hRun

theorem onModuleDestroy_ok (h : Invariant s) : ∃ t, onModuleDestroy s = some t ∧ Invariant t := by
  have hNotified : ∃ notified, (if s.destroyed then some s
      else completeAll { s with destroyed := true }) = some notified ∧ Invariant notified := by
    split
    · exact ⟨s, rfl, h⟩
    · exact completeAll_ok (h.of_same rfl rfl rfl rfl)
  obtain ⟨notified, hFirst, hInv⟩ := hNotified
  obtain ⟨ended, hLoop, hEnd, hEmpty⟩ :=
    endClients_ok (notified.clients.map Prod.fst) hInv fun e hEntry => List.mem_map_of_mem hEntry
  refine ⟨{ ended with clients := [] }, ?_, hEnd.of_same hEmpty.symm rfl rfl rfl⟩
  rw [onModuleDestroy, hFirst, Option.bind_some, hLoop, Option.map_some]

/-- Afterwards there is exactly one entry for the client, with a subject of its own. An earlier
connection under the same id was ended before. -/
theorem registerClient_ok (h : Invariant s) (clientId : String) :
    ∃ t, Invariant t ∧ t.clients.lookup clientId = none ∧ registerClient s clientId =
      some { t with
        clients := t.clients ++ [(clientId, ⟨t.now, t.subjects, true⟩)]
        subjects := t.subjects + 1 } := by
  have hCleared : ∃ t, (if s.clients.any fun e => e.1 == clientId then
      unregisterClient reentrance s clientId else some s) = some t ∧ Invariant t ∧
        t.clients.lookup clientId = none := by
    by_cases hAny : (s.clients.any fun e => e.1 == clientId) = true
    · rw [if_pos hAny]
      exact unregisterClient_ok h clientId
    · refine ⟨s, if_neg hAny, h, OrderedMap.lookup_eq_none_iff.mpr fun hMember => hAny ?_⟩
      obtain ⟨e, hEntry, hKey⟩ := List.mem_map.mp hMember
      exact List.any_eq_true.mpr ⟨e, hEntry, by simp [hKey]⟩
  obtain ⟨t, hFirst, hInv, hAbsent⟩ := hCleared
  refine ⟨t, hInv, hAbsent, ?_⟩
  have hSet : OrderedMap.set t.clients clientId ⟨t.now, t.subjects, true⟩ = t.clients ++ [_] :=
    OrderedMap.set_of_not_mem (OrderedMap.lookup_eq_none_iff.mp hAbsent)
  rw [registerClient, hFirst, Option.map_some, State.setClient, hSet]

/-- Opening a stream returns and keeps the invariant, whether or not the source has completed by
then. -/
theorem getEventStream_ok (h : Invariant s) (clientId : String) :
    ∃ t, getEventStream s clientId = some t ∧ Invariant t := by
  obtain ⟨cleared, hInv, hAbsent, hRegister⟩ := registerClient_ok h clientId
  have hOpen := hInv.connected hAbsent
  have hLookup : (cleared.clients ++ [(clientId, (⟨cleared.now, cleared.subjects, true⟩ :
      ClientConnection))]).lookup clientId = some ⟨cleared.now, cleared.subjects, true⟩ := by
    simp [List.lookup_append, hAbsent]
  simp only [getEventStream, hRegister, Option.bind_eq_bind, Option.bind_some, hLookup]
  split
  · exact complete_ok (cleared.connected clientId) _ hOpen
  · exact ⟨cleared.connected clientId, rfl, hOpen⟩

theorem Linked.modifyClient {f : ClientConnection → ClientConnection} {other : String}
    (h : Linked s i other) (hActive : ∀ client, (f client).isActive = client.isActive)
    (hSubject : ∀ client, (f client).subject = client.subject) :
    Linked (s.modifyClient clientId f) i other := by
  obtain ⟨hStream, client, hClient, hOld, rfl⟩ := h
  by_cases hSame : other = clientId
  · subst hSame
    refine ⟨hStream, f client, ?_, (hActive client).trans hOld, hSubject client⟩
    rw [clients_modifyClient, OrderedMap.lookup_modify, hClient]
    rfl
  · refine ⟨hStream, client, ?_, hOld, rfl⟩
    rw [clients_modifyClient, OrderedMap.lookup_modify_of_ne hSame, hClient]

/-- The accounting looks at the activity and the subject of an entry only, so a change of any other
field keeps it. -/
theorem Invariant.modifyClient (h : Invariant s) (clientId : String)
    (f : ClientConnection → ClientConnection)
    (hActive : ∀ client, (f client).isActive = client.isActive)
    (hSubject : ∀ client, (f client).subject = client.subject) :
    Invariant (s.modifyClient clientId f) := by
  have hLength : (s.modifyClient clientId f).clients.length = s.clients.length :=
    List.length_map _
  constructor
  · rw [clients_modifyClient, OrderedMap.keys_modify]
    exact h.keys
  · exact h.numbered
  · exact h.subjects
  · intro e hEntry
    rw [clients_modifyClient] at hEntry
    obtain ⟨old, hOld, hKey, hValue⟩ := OrderedMap.mem_modify hEntry
    have hSame : e.2.subject = old.2.subject := by
      rcases hValue with hValue | hValue <;> simp [hValue, hSubject]
    rw [hKey, hSame]
    exact (h.linked old hOld).modifyClient hActive hSubject
  · intro j stream hStream hLive
    obtain ⟨hDecrements, hLinked⟩ := h.live j stream hStream hLive
    exact ⟨hDecrements, hLinked.modifyClient hActive hSubject⟩
  · exact h.ended
  · exact h.connections.trans (congrArg Nat.cast hLength.symm)
  · exact h.size.trans hLength.symm

theorem updateClientActivity_ok (h : Invariant s) (clientId : String) :
    Invariant (updateClientActivity s clientId) := by
  unfold updateClientActivity
  split
  · rename_i client hClient
    rw [if_pos (h.active_of_lookup hClient)]
    exact h.modifyClient clientId _ (fun _ => rfl) fun _ => rfl
  · exact h

/-- Every step can be taken, and keeps the invariant. This is the step lemma of the accounting, with
one case for each kind of step. -/
theorem step_ok (s : State) (a : Action) (h : Invariant s) :
    ∃ t, step s a = some t ∧ Invariant t := by
  cases a with
  | getEventStream clientId => exact getEventStream_ok h clientId
  | unregisterClient clientId =>
      obtain ⟨t, hStep, hInv, -⟩ := unregisterClient_ok h clientId
      exact ⟨t, hStep, hInv⟩
  | updateClientActivity clientId => exact ⟨_, rfl, updateClientActivity_ok h clientId⟩
  | checkClientTimeouts => exact checkClientTimeouts_ok h
  | streamError i => exact streamError_ok h i
  | unsubscribe i => exact unsubscribe_ok h i
  | sourceCompletes => exact sourceCompletes_ok h
  | onModuleDestroy => exact onModuleDestroy_ok h
  | clock now => exact ⟨_, rfl, h.of_same rfl rfl rfl rfl⟩

end Steps

/-- The invariant speaks of links between clients and streams; the numbers agree because of them. -/
theorem Invariant.accounted {s : State} (h : Invariant s) : Accounted s where
  active e hEntry := h.active_of_lookup (OrderedMap.lookup_of_mem h.keys hEntry)
  registered stream hMember hOpen := by
    obtain ⟨i, hStream⟩ := List.mem_iff_getElem?.mp hMember
    have hLive : stream.phase = .live := by
      by_contra hNot
      exact hOpen (h.ended i stream hStream hNot).1
    obtain ⟨client, hEntry, -, hSubject⟩ := (h.live i stream hStream hLive).2.mem
    exact ⟨client, hEntry, hSubject.trans (h.numbered i stream hStream).symm⟩
  once stream hMember := by
    obtain ⟨i, hStream⟩ := List.mem_iff_getElem?.mp hMember
    by_cases hLive : stream.phase = .live
    · simp [hLive, (h.live i stream hStream hLive).1]
    · simp [h.ended i stream hStream hLive]
  connections := by rw [h.connections, h.size]
  size := h.size

/-- Whatever the calls and their order, every call returns and leaves the connections
accounted for. -/
theorem accounted_run (actions : List Action) :
    ∃ s, run step State.init actions = some s ∧ Accounted s := by
  obtain ⟨s, hRun, hInv⟩ := run_total step_ok actions Invariant.init
  exact ⟨s, hRun, hInv.accounted⟩

end BalanceKit.Sse.Connections
