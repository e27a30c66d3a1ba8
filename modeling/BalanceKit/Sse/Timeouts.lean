import BalanceKit.Sse.Connections

/-! The timeout sweep. A sweep ends exactly the connections that were not heard of for
thirty seconds, so a client that the controller keeps reporting stays connected. -/
namespace BalanceKit.Sse.Connections
open TransitionSystem

/-- The sweep at the time `now` finds the client silent. -/
def ClientConnection.silent (now : Nat) (client : ClientConnection) : Bool :=
  client.lastActive + clientTimeout < now

/-- The key names a silent client. -/
def expired (s : State) (clientId : String) : Bool :=
  (s.clients.lookup clientId).any (ClientConnection.silent s.now)

/-- The stream after its client has timed out. -/
def Stream.timedOut (stream : Stream) : Stream := stream.close.decrement

/-- The clients that are left when the silent ones among the keys are gone. -/
def remaining (s : State) (keys : List String) : List (String × ClientConnection) :=
  s.clients.filter fun e => !(keys.contains e.1 && e.2.silent s.now)

/-- The stream, ended if its client is silent and among the keys. -/
def Stream.sweep (s : State) (keys : List String) (stream : Stream) : Stream :=
  if stream.isLive && keys.contains stream.clientId && expired s stream.clientId then
    stream.timedOut
  else stream

/-- The state without the clients among the keys that are silent. -/
def State.swept (s : State) (keys : List String) : State :=
  { s with
    clients := remaining s keys
    streams := s.streams.map (Stream.sweep s keys)
    activeConnections := (remaining s keys).length }

section Sweep
variable {s : State} {i : Nat} {clientId : String} {keys : List String}

/-- A client that was heard of in time is passed over, and so is a key without a client. -/
theorem timeOut_of_not_expired (h : expired s clientId = false) : timeOut s clientId = some s := by
  unfold timeOut
  split
  · rename_i client hClient
    have hRecent : ¬ client.lastActive + clientTimeout < s.now := by
      simpa [expired, hClient, ClientConnection.silent] using h
    simp [hRecent]
  · rfl

/-- A silent client is disconnected: its stream ends, and its entry is deleted. The teardown of the
stream finds the entry inactive and does nothing more. -/
theorem timeOut_of_expired (hInv : Invariant s) (h : expired s clientId = true) :
    ∃ i, Linked s i clientId ∧ timeOut s clientId = some (s.disconnected i clientId) := by
  cases hClient : s.clients.lookup clientId with
  | none => simp [expired, hClient] at h
  | some client =>
      have hSilent : client.lastActive + clientTimeout < s.now := by
        simpa [expired, hClient, ClientConnection.silent] using h
      have hLinked := hInv.linked_of_lookup hClient
      refine ⟨client.subject, hLinked, ?_⟩
      have hActive := hInv.active_of_lookup hClient
      unfold timeOut
      rw [hClient]
      simp only [hActive, hSilent, and_self, if_true]
      exact next_deactivate 1 hInv.numbered hLinked

/-- The entry under a key decides whether the key has expired, because no key has two entries. So
the sweep may be described by the keys that it has visited. -/
theorem expired_of_mem (hInv : Invariant s) {e : String × ClientConnection} (h : e ∈ s.clients) :
    expired s e.1 = e.2.silent s.now := by
  rw [expired, OrderedMap.lookup_of_mem hInv.keys h]
  rfl

theorem swept_nil (hInv : Invariant s) : s.swept [] = s := by
  have hClients : remaining s [] = s.clients := by simp [remaining]
  have hStreams : s.streams.map (Stream.sweep s []) = s.streams := by
    refine (List.map_congr_left fun stream _ => ?_).trans (List.map_id _)
    simp [Stream.sweep]
  rw [State.swept, hClients, hStreams, ← hInv.connections]

/-- A key that names no silent client changes nothing. -/
theorem swept_cons_of_not_expired (hInv : Invariant s) (h : expired s clientId = false) :
    s.swept (clientId :: keys) = s.swept keys := by
  have hClients : remaining s (clientId :: keys) = remaining s keys := by
    refine List.filter_congr fun e hEntry => ?_
    by_cases hKey : e.1 = clientId
    · have hRecent : e.2.silent s.now = false := by
        rw [← expired_of_mem hInv hEntry, hKey]
        exact h
      simp [hRecent]
    · simp [hKey]
  have hStreams : Stream.sweep s (clientId :: keys) = Stream.sweep s keys := by
    funext stream
    unfold Stream.sweep
    by_cases hKey : stream.clientId = clientId
    · simp [hKey, h]
    · simp [hKey]
  rw [State.swept, hClients, hStreams, State.swept]

theorem expired_disconnected_of_ne {other : String} (h : other ≠ clientId) :
    expired (s.disconnected i clientId) other = expired s other := by
  rw [expired, expired]
  congr 1
  exact OrderedMap.lookup_delete_of_ne h

/-- A stream that has ended is not ended again. The second call finds no observer any more. -/
theorem sweep_timedOut (s : State) (keys : List String) (stream : Stream) :
    stream.timedOut.sweep s keys = stream.timedOut := rfl

/-- A key that names a silent client ends that client and its stream first. -/
theorem swept_cons_of_expired (hInv : Invariant s) (hLinked : Linked s i clientId)
    (h : expired s clientId = true) :
    s.swept (clientId :: keys) = (s.disconnected i clientId).swept keys := by
  have hClients : remaining s (clientId :: keys) = remaining (s.disconnected i clientId) keys := by
    change _ = (OrderedMap.delete s.clients clientId).filter _
    rw [OrderedMap.delete, List.filter_filter, remaining]
    refine List.filter_congr fun e hEntry => ?_
    by_cases hKey : e.1 = clientId
    · have hSilent : e.2.silent s.now = true := by
        rw [← expired_of_mem hInv hEntry, hKey]
        exact h
      simp [hKey, hSilent]
    · simp [hKey, State.disconnected]
  have hStreams : s.streams.map (Stream.sweep s (clientId :: keys)) =
      (s.disconnected i clientId).streams.map (Stream.sweep (s.disconnected i clientId) keys) := by
    refine List.ext_getElem? fun j => ?_
    change _ = ((s.streams.modify i Stream.timedOut).map _)[j]?
    rw [List.getElem?_map, List.getElem?_map, List.getElem?_modify]
    cases hStream : s.streams[j]? with
    | none => rfl
    | some stream =>
        obtain ⟨own, hOwn, hLive, hClient⟩ := hLinked.stream
        refine congrArg some ?_
        by_cases hIndex : i = j
        · subst hIndex
          obtain rfl := Option.some.inj (hStream.symm.trans hOwn)
          have hEnds : stream.sweep s (clientId :: keys) = stream.timedOut := by
            have hIsLive : stream.isLive = true := by simp [Stream.isLive, hLive]
            simp only [Stream.sweep, hIsLive, hClient, h, List.contains_cons, beq_self_eq_true,
              Bool.true_or, Bool.and_self, if_true]
          simp only [hEnds, if_true]
          exact (sweep_timedOut _ _ stream).symm
        · simp only [if_neg hIndex]
          unfold Stream.sweep
          by_cases hStreamLive : stream.isLive = true
          · have hOther : stream.clientId ≠ clientId := by
              intro hSame
              have hOwnLink :=
                (hInv.live j stream hStream (by simpa [Stream.isLive] using hStreamLive)).2
              rw [hSame] at hOwnLink
              exact hIndex (hLinked.index_unique hOwnLink)
            rw [expired_disconnected_of_ne hOther]
            simp [hOther]
          · simp [hStreamLive]
  rw [State.swept, hClients, hStreams]
  rfl

/-- The loop of the sweep. Which clients are silent does not change while it runs, because no time
passes. -/
theorem foldlM_timeOut (keys : List String) (hInv : Invariant s) :
    keys.foldlM timeOut s = some (s.swept keys) := by
  induction keys generalizing s with
  | nil => exact congrArg some (swept_nil hInv).symm
  | cons key rest ih =>
      rw [List.foldlM_cons]
      cases hExpired : expired s key with
      | false =>
          rw [timeOut_of_not_expired hExpired, swept_cons_of_not_expired hInv hExpired]
          exact ih hInv
      | true =>
          obtain ⟨i, hLinked, hTimeOut⟩ := timeOut_of_expired hInv hExpired
          rw [hTimeOut, swept_cons_of_expired hInv hLinked hExpired]
          exact ih (hInv.disconnected hLinked)

end Sweep

theorem contains_key {s : State} {e : String × ClientConnection} (h : e ∈ s.clients) :
    (s.clients.map Prod.fst).contains e.1 = true :=
  List.contains_iff_mem.mpr (List.mem_map_of_mem h)

/-- With all keys visited what remains are the clients that are not silent. -/
theorem remaining_keys (s : State) : remaining s (s.clients.map Prod.fst) =
    s.clients.filter fun e => !e.2.silent s.now := by
  refine List.filter_congr fun e hEntry => ?_
  rw [contains_key hEntry, Bool.true_and]

theorem invariant_of_run {s : State} {actions : List Action}
    (hRun : run step State.init actions = some s) : Invariant s := by
  obtain ⟨t, hSame, hInv⟩ := run_total step_ok actions Invariant.init
  rw [hRun] at hSame
  rw [Option.some.inj hSame]
  exact hInv

/-- A sweep removes the clients that were silent for more than thirty seconds and ends
their streams, counting each off once. It touches no other client or stream. -/
theorem checkClientTimeouts_exact {s : State} {actions : List Action}
    (hRun : run step State.init actions = some s) :
    ∃ t, checkClientTimeouts s = some t ∧
      t.clients = s.clients.filter (fun e => !e.2.silent s.now) ∧
      t.streams = s.streams.map (fun stream =>
        if stream.isLive && expired s stream.clientId then stream.timedOut else stream) ∧
      t.activeConnections = s.activeConnections - s.clients.countP fun e => e.2.silent s.now := by
  have hInv := invariant_of_run hRun
  refine ⟨s.swept (s.clients.map Prod.fst), foldlM_timeOut _ hInv, remaining_keys s, ?_, ?_⟩
  · refine List.map_congr_left fun stream _ => ?_
    have hContains : expired s stream.clientId = true →
        (s.clients.map Prod.fst).contains stream.clientId = true := by
      intro hExpired
      obtain ⟨client, hClient, -⟩ := (Option.any_eq_true _ _).mp hExpired
      exact contains_key (OrderedMap.mem_of_lookup hClient)
    unfold Stream.sweep
    cases hExpired : expired s stream.clientId with
    | false => simp
    | true => simp only [hContains hExpired, Bool.and_true]
  · change ((remaining s (s.clients.map Prod.fst)).length : Int) = _
    have hSplit := List.length_eq_countP_add_countP (fun e : String × ClientConnection =>
      e.2.silent s.now) (l := s.clients)
    have hCount : s.clients.countP (fun e => decide ¬ e.2.silent s.now = true) =
        s.clients.countP fun e => !e.2.silent s.now :=
      List.countP_congr fun e _ => by simp
    rw [remaining_keys, ← List.countP_eq_length_filter, hInv.connections]
    omega

/-- The client two opens a stream twenty seconds after the client one. -/
def staggeredRun : List Action :=
  [.getEventStream "1", .clock 20000, .getEventStream "2", .clock 30001]

/-- Two clients connect at different times, and the sweep finds only the first one silent. -/
theorem checkClientTimeouts_exact_staggeredRun : ∃ s t, run step State.init staggeredRun = some s ∧
    checkClientTimeouts s = some t ∧
      t.clients = s.clients.filter (fun e => !e.2.silent s.now) ∧
      t.streams = s.streams.map (fun stream =>
        if stream.isLive && expired s stream.clientId then stream.timedOut else stream) ∧
      t.activeConnections = s.activeConnections - s.clients.countP fun e => e.2.silent s.now := by
  obtain ⟨t, hSweep⟩ := @checkClientTimeouts_exact _ staggeredRun rfl
  exact ⟨_, t, rfl, hSweep⟩

/-- Nothing was ended, or the client and its stream were. -/
def Ends (s t : State) (clientId : String) : Prop :=
  t = s ∨ ∃ i, Linked s i clientId ∧ t = s.disconnected i clientId

section Entries
variable {s t : State} {i j : Nat} {clientId other : String}

theorem Ends.lookup (h : Ends s t other) (hOther : clientId ≠ other) :
    t.clients.lookup clientId = s.clients.lookup clientId := by
  rcases h with rfl | ⟨i, -, rfl⟩
  · rfl
  · exact OrderedMap.lookup_delete_of_ne hOther

theorem Ends.now (h : Ends s t other) : t.now = s.now := by
  rcases h with rfl | ⟨i, -, rfl⟩ <;> rfl

theorem unregisterClient_ends (h : Invariant s) (clientId : String) :
    ∃ t, unregisterClient reentrance s clientId = some t ∧ Ends s t clientId := by
  cases hClient : s.clients.lookup clientId with
  | none => exact ⟨s, unregisterClient_absent 3 hClient, .inl rfl⟩
  | some client =>
      have hLinked := h.linked_of_lookup hClient
      exact ⟨_, unregisterClient_linked 0 h.numbered hLinked, .inr ⟨_, hLinked, rfl⟩⟩

/-- The end of a subscription does nothing, or ends the connection of its stream. -/
theorem unsubscribe_ends (h : Invariant s) (i : Nat) :
    ∃ t, unsubscribe reentrance s i = some t ∧
      (t = s ∨ ∃ clientId, Linked s i clientId ∧ t = s.disconnected i clientId) := by
  cases hStream : s.streams[i]? with
  | none => exact ⟨s, by rw [reentrance, unsubscribe, hStream], .inl rfl⟩
  | some stream =>
      by_cases hLive : stream.phase = .live
      · have hLinked := (h.live i stream hStream hLive).2
        exact ⟨_, unsubscribe_linked 1 h.numbered hLinked, .inr ⟨_, hLinked, rfl⟩⟩
      · have hClosed := (h.ended i stream hStream hLive).1
        refine ⟨s, ?_, .inl rfl⟩
        rw [reentrance, unsubscribe, hStream]
        exact if_pos hClosed

theorem streamError_ends (h : Invariant s) (i : Nat) :
    ∃ t, streamError s i = some t ∧
      (t = s ∨ ∃ clientId, Linked s i clientId ∧ t = s.disconnected i clientId) := by
  cases hStream : s.streams[i]? with
  | none => exact ⟨s, by rw [streamError, hStream], .inl rfl⟩
  | some stream =>
      by_cases hLive : stream.phase = .live
      · have hLinked := (h.live i stream hStream hLive).2
        exact ⟨_, streamError_linked h.numbered hLinked, .inr ⟨_, hLinked, rfl⟩⟩
      · refine ⟨s, ?_, .inl rfl⟩
        rw [streamError, hStream]
        simp [Stream.isLive, hLive]

/-- Opening a stream ends what its client id had, and leaves the other entries. A client that
reconnects ends its own former stream first. -/
theorem getEventStream_other (h : Invariant s) (hOther : clientId ≠ other) :
    ∃ t, getEventStream s other = some t ∧
      t.clients.lookup clientId = s.clients.lookup clientId ∧ t.now = s.now := by
  have hCleared : ∃ cleared, (if s.clients.any fun e => e.1 == other then
      unregisterClient reentrance s other else some s) = some cleared ∧ Ends s cleared other := by
    split
    · exact unregisterClient_ends h other
    · exact ⟨s, rfl, .inl rfl⟩
  obtain ⟨cleared, hFirst, hEnds⟩ := hCleared
  obtain ⟨same, hInv, hAbsent, hRegister⟩ := registerClient_ok h other
  have hRegistered := hRegister
  rw [registerClient, hFirst, Option.map_some] at hRegistered
  have hLookup : ∀ key, key ≠ other → same.clients.lookup key = cleared.clients.lookup key := by
    intro key hKey
    have hClients := congrArg (fun u : State => u.clients.lookup key) (Option.some.inj hRegistered)
    simp only [State.setClient, List.lookup_append] at hClients
    rw [OrderedMap.lookup_set_of_ne hKey] at hClients
    rw [OrderedMap.lookup_singleton_of_ne hKey, Option.or_none] at hClients
    exact hClients.symm
  have hNow : same.now = cleared.now :=
    (congrArg State.now (Option.some.inj hRegistered)).symm
  have hOpen := hInv.connected hAbsent
  have hEntry : (same.connected other).clients.lookup clientId = s.clients.lookup clientId := by
    change (same.clients ++ [_]).lookup clientId = _
    rw [List.lookup_append, OrderedMap.lookup_singleton_of_ne hOther, Option.or_none,
      hLookup clientId hOther, hEnds.lookup hOther]
  have hOwn : (same.clients ++ [(other, (⟨same.now, same.subjects, true⟩ :
      ClientConnection))]).lookup other = some ⟨same.now, same.subjects, true⟩ := by
    simp [List.lookup_append, hAbsent]
  simp only [getEventStream, hRegister, Option.bind_eq_bind, Option.bind_some, hOwn]
  split
  · obtain ⟨t, hComplete, hCases⟩ := unsubscribe_ends hOpen same.streams.length
    have hNew := linked_connected hInv hAbsent
    have hLive : liveAt (same.connected other).streams same.streams.length = true := by
      obtain ⟨stream, hStream, hPhase, -⟩ := hNew.stream
      exact liveAt_eq_true.mpr ⟨stream, hStream, hPhase⟩
    have hTorn : Ends (same.connected other) t other := by
      rcases hCases with rfl | ⟨owner, hOwner, rfl⟩
      · exact .inl rfl
      · obtain rfl := hOwner.client_unique hNew
        exact .inr ⟨_, hNew, rfl⟩
    refine ⟨t, ?_, (hTorn.lookup hOther).trans hEntry, ?_⟩
    · exact (if_pos hLive).trans hComplete
    · exact hTorn.now.trans (hNow.trans hEnds.now)
  · exact ⟨same.connected other, rfl, hEntry, hNow.trans hEnds.now⟩

/-- The actions that do not by themselves end the connection of the client, which has the
stream `i`. -/
def Spares (clientId : String) (i : Nat) : Action → Prop
  | .getEventStream other | .unregisterClient other => clientId ≠ other
  | .streamError j | .unsubscribe j => j ≠ i
  | .sourceCompletes | .onModuleDestroy => False
  | .updateClientActivity _ | .checkClientTimeouts | .clock _ => True

instance (clientId : String) (i : Nat) (a : Action) : Decidable (Spares clientId i a) := by
  cases a <;> unfold Spares <;> infer_instance

/-- What they do to the entry of the client. -/
def entryAfter (clientId : String) (now : Nat) (entry : Option ClientConnection) :
    Action → Option ClientConnection
  | .checkClientTimeouts => entry.filter fun client => !client.silent now
  | .updateClientActivity other =>
      if clientId = other then entry.map fun client => { client with lastActive := now } else entry
  | _ => entry

def nowAfter (now : Nat) : Action → Nat
  | .clock later => later
  | _ => now

/-- The end of another stream ends another client. -/
theorem lookup_of_other_stream {u : State} (hIndex : j ≠ i)
    (hSubject : ∀ client, s.clients.lookup clientId = some client → client.subject = i)
    (hEnd : u = s ∨ ∃ owner, Linked s j owner ∧ u = s.disconnected j owner) :
    u.clients.lookup clientId = s.clients.lookup clientId ∧ u.now = s.now := by
  rcases hEnd with rfl | ⟨owner, hOwner, rfl⟩
  · exact ⟨rfl, rfl⟩
  · have hOther : clientId ≠ owner := by
      rintro rfl
      obtain ⟨client, hClient, -, hOwnSubject⟩ := hOwner.client
      exact hIndex (hOwnSubject.symm.trans (hSubject client hClient))
    exact ⟨OrderedMap.lookup_delete_of_ne hOther, rfl⟩

/-- The activity of a client is written to its own entry. No entry is inactive, so the write
is never skipped. -/
theorem updateClientActivity_entry (h : Invariant s) (clientId other : String) :
    (updateClientActivity s other).clients.lookup clientId =
        entryAfter clientId s.now (s.clients.lookup clientId) (.updateClientActivity other) ∧
      (updateClientActivity s other).now = s.now := by
  unfold updateClientActivity
  by_cases hSame : clientId = other
  · subst hSame
    cases hClient : s.clients.lookup clientId with
    | none => simp [entryAfter, hClient]
    | some client =>
        simp only [h.active_of_lookup hClient, if_true]
        rw [clients_modifyClient, OrderedMap.lookup_modify, hClient]
        exact ⟨by simp [entryAfter], rfl⟩
  · simp only [entryAfter, hSame, if_false]
    split
    · split
      · refine ⟨?_, rfl⟩
        rw [clients_modifyClient]
        exact OrderedMap.lookup_modify_of_ne hSame _
      · exact ⟨rfl, rfl⟩
    · exact ⟨rfl, rfl⟩

/-- The entry of the client, and the clock, after a step that spares it. -/
theorem step_entry {a : Action} (h : Invariant s) (hSpares : Spares clientId i a)
    (hSubject : ∀ client, s.clients.lookup clientId = some client → client.subject = i) :
    ∃ t, step s a = some t ∧ Invariant t ∧
      t.clients.lookup clientId = entryAfter clientId s.now (s.clients.lookup clientId) a ∧
        t.now = nowAfter s.now a := by
  obtain ⟨t, hStep, hInv⟩ := step_ok s a h
  refine ⟨t, hStep, hInv, ?_⟩
  cases a with
  | getEventStream other =>
      obtain ⟨u, hOpen, hEntry⟩ := getEventStream_other h hSpares
      obtain rfl := Option.some.inj (hStep.symm.trans hOpen)
      exact hEntry
  | unregisterClient other =>
      obtain ⟨u, hUnregister, hEnds⟩ := unregisterClient_ends h other
      obtain rfl := Option.some.inj (hStep.symm.trans hUnregister)
      exact ⟨hEnds.lookup hSpares, hEnds.now⟩
  | updateClientActivity other =>
      cases hStep
      exact updateClientActivity_entry h clientId other
  | checkClientTimeouts =>
      have hSwept : step s .checkClientTimeouts = some (s.swept (s.clients.map Prod.fst)) :=
        foldlM_timeOut _ h
      obtain rfl := Option.some.inj (hStep.symm.trans hSwept)
      refine ⟨?_, rfl⟩
      change (remaining s (s.clients.map Prod.fst)).lookup clientId = _
      rw [remaining_keys]
      exact OrderedMap.lookup_filter (fun client => !client.silent s.now) h.keys
  | streamError j =>
      obtain ⟨u, hError, hCases⟩ := streamError_ends h j
      obtain rfl := Option.some.inj (hStep.symm.trans hError)
      exact lookup_of_other_stream hSpares hSubject hCases
  | unsubscribe j =>
      obtain ⟨u, hEnd, hCases⟩ := unsubscribe_ends h j
      obtain rfl := Option.some.inj (hStep.symm.trans hEnd)
      exact lookup_of_other_stream hSpares hSubject hCases
  | sourceCompletes => exact hSpares.elim
  | onModuleDestroy => exact hSpares.elim
  | clock now =>
      cases hStep
      exact ⟨rfl, rfl⟩

/-- Every sweep finds that the client was heard of at most thirty seconds ago, `heard`
being the last time so far. -/
def Heard (clientId : String) : Nat → Nat → List Action → Prop
  | _, _, [] => True
  | heard, now, .checkClientTimeouts :: rest =>
      now ≤ heard + clientTimeout ∧ Heard clientId heard now rest
  | heard, now, .updateClientActivity other :: rest =>
      Heard clientId (if clientId = other then now else heard) now rest
  | heard, now, a :: rest => Heard clientId heard (nowAfter now a) rest

/-- A client that is gone stays away as long as it does not connect again. -/
theorem run_absent {actions : List Action} (h : Invariant s)
    (hSpares : ∀ a ∈ actions, Spares clientId i a) (hAbsent : s.clients.lookup clientId = none) :
    ∃ t, run step s actions = some t ∧ t.clients.lookup clientId = none := by
  induction actions generalizing s with
  | nil => exact ⟨s, rfl, hAbsent⟩
  | cons a rest ih =>
      obtain ⟨next, hStep, hInv, hEntry, -⟩ :=
        step_entry h (hSpares a List.mem_cons_self) fun client hClient => by simp [hAbsent] at hClient
      have hStill : next.clients.lookup clientId = none := by
        rw [hEntry, hAbsent]
        cases a <;> simp [entryAfter]
      obtain ⟨t, hRest, hEnd⟩ := ih hInv (fun b hb => hSpares b (List.mem_cons_of_mem a hb)) hStill
      exact ⟨t, run_cons.mpr ⟨next, hStep, hRest⟩, hEnd⟩

/-- The client is still there, with its stream. -/
def Remains (t : State) (clientId : String) (i : Nat) : Prop :=
  ∃ later, t.clients.lookup clientId = some later ∧ later.subject = i

/-- The client is still there exactly if it was always heard of. By induction on the run, with what
one step does to its entry. -/
theorem run_heard {actions : List Action} {client : ClientConnection} (h : Invariant s)
    (hSpares : ∀ a ∈ actions, Spares clientId i a)
    (hClient : s.clients.lookup clientId = some client) (hSubject : client.subject = i) :
    ∃ t, run step s actions = some t ∧ Invariant t ∧
      (Remains t clientId i ↔ Heard clientId client.lastActive s.now actions) := by
  induction actions generalizing s client with
  | nil =>
      have hThere : Remains s clientId i := ⟨client, hClient, hSubject⟩
      exact ⟨s, rfl, h, iff_of_true hThere trivial⟩
  | cons a rest ih =>
      have hRest : ∀ b ∈ rest, Spares clientId i b := fun b hb =>
        hSpares b (List.mem_cons_of_mem a hb)
      obtain ⟨next, hStep, hInv, hEntry, hNow⟩ :=
        step_entry h (hSpares a List.mem_cons_self) fun other hOther => by
          rw [Option.some.inj (hOther.symm.trans hClient)]
          exact hSubject
      rw [hClient] at hEntry
      have hGoOn : ∀ kept : ClientConnection, next.clients.lookup clientId = some kept →
          kept.subject = i → (Heard clientId client.lastActive s.now (a :: rest) ↔
            Heard clientId kept.lastActive next.now rest) →
          ∃ t, run step s (a :: rest) = some t ∧ Invariant t ∧
            (Remains t clientId i ↔ Heard clientId client.lastActive s.now (a :: rest)) := by
        intro kept hKept hKeptSubject hHeard
        obtain ⟨t, hRun, hEnd, hIff⟩ := ih hInv hRest hKept hKeptSubject
        exact ⟨t, run_cons.mpr ⟨next, hStep, hRun⟩, hEnd, hIff.trans hHeard.symm⟩
      cases a with
      | checkClientTimeouts =>
          by_cases hRecent : s.now ≤ client.lastActive + clientTimeout
          · refine hGoOn client ?_ hSubject ?_
            · rw [hEntry, entryAfter]
              exact Option.filter_some_pos (by simpa [ClientConnection.silent] using hRecent)
            · simp [Heard, hRecent, hNow, nowAfter]
          · have hGone : next.clients.lookup clientId = none := by
              rw [hEntry, entryAfter]
              simp [ClientConnection.silent, Option.filter]
              omega
            obtain ⟨t, hRun, hEnd⟩ := run_absent hInv hRest hGone
            obtain ⟨same, hSame, hEndInv⟩ := run_total step_ok rest hInv
            obtain rfl := Option.some.inj (hRun.symm.trans hSame)
            refine ⟨t, run_cons.mpr ⟨next, hStep, hRun⟩, hEndInv, ?_⟩
            simp [Remains, hEnd, Heard, hRecent]
      | updateClientActivity other =>
          by_cases hSame : clientId = other
          · refine hGoOn { client with lastActive := s.now } ?_ hSubject ?_
            · simpa [entryAfter, hSame] using hEntry
            · simp [Heard, hSame, hNow, nowAfter]
          · refine hGoOn client ?_ hSubject ?_
            · simpa [entryAfter, hSame] using hEntry
            · simp [Heard, hSame, hNow, nowAfter]
      | getEventStream other => exact hGoOn client hEntry hSubject (by rw [Heard, hNow] <;> simp)
      | unregisterClient other => exact hGoOn client hEntry hSubject (by rw [Heard, hNow] <;> simp)
      | streamError j => exact hGoOn client hEntry hSubject (by rw [Heard, hNow] <;> simp)
      | unsubscribe j => exact hGoOn client hEntry hSubject (by rw [Heard, hNow] <;> simp)
      | sourceCompletes => exact (hSpares _ List.mem_cons_self).elim
      | onModuleDestroy => exact (hSpares _ List.mem_cons_self).elim
      | clock now => exact hGoOn client hEntry hSubject (by rw [Heard, hNow] <;> simp)

end Entries

/-- Whatever the other clients do, a connected client whose stream nothing else ends is
still connected exactly if it was heard of in the thirty seconds before each sweep. -/
theorem connected_iff_heard {s : State} {before actions : List Action} {i : Nat}
    {clientId : String} (hBefore : run step State.init before = some s)
    (hLinked : Linked s i clientId) (hSpares : ∀ a ∈ actions, Spares clientId i a) :
    ∃ client t, s.clients.lookup clientId = some client ∧ run step s actions = some t ∧
      (Linked t i clientId ↔ Heard clientId client.lastActive s.now actions) := by
  obtain ⟨client, hClient, -, hSubject⟩ := hLinked.client
  obtain ⟨t, hRun, hInv, hIff⟩ :=
    run_heard (invariant_of_run hBefore) hSpares hClient hSubject
  refine ⟨client, t, hClient, hRun, ?_⟩
  rw [← hIff]
  constructor
  · intro hStill
    obtain ⟨later, hLater, -, hSame⟩ := hStill.client
    exact ⟨later, hLater, hSame⟩
  · rintro ⟨later, hLater, rfl⟩
    exact hInv.linked_of_lookup hLater

/-- The second client is heard of before the clock reaches its limit. -/
def heardActions : List Action :=
  [.checkClientTimeouts, .updateClientActivity "2", .clock 60001, .checkClientTimeouts]

/-- The second client is heard of often enough, and is still connected at the end. -/
theorem connected_iff_heard_staggeredRun : ∃ s client t,
    run step State.init staggeredRun = some s ∧ s.clients.lookup "2" = some client ∧
      run step s heardActions = some t ∧
        (Linked t 1 "2" ↔ Heard "2" client.lastActive s.now heardActions) := by
  obtain ⟨client, t, hHeard⟩ := @connected_iff_heard _ staggeredRun heardActions 1 "2" rfl
    ⟨⟨_, rfl, rfl, rfl⟩, _, rfl, rfl, rfl⟩ (by decide)
  exact ⟨_, client, t, rfl, hHeard⟩

end BalanceKit.Sse.Connections
