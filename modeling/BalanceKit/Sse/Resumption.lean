import BalanceKit.Sse.Delivery

/-! What a stream has emitted at any time: its replay, and then the accepted messages
of one stretch of the publications. A client that reconnects therefore misses nothing
that the buffer still spanned. -/
namespace BalanceKit.Sse.Resumption
open TransitionSystem Delivery

/-- The messages of the events that the live filter lets through. -/
def heard (stream : Stream) (events : List CacheInvalidateEvent) : List MessageEvent :=
  (events.map formatCacheEvent).filter stream.accepts

/-- The publications from one count to another. -/
def stretch (published : List CacheInvalidateEvent) (first last : Nat) :
    List CacheInvalidateEvent :=
  (published.take last).drop first

section Stretch
variable {published : List CacheInvalidateEvent} {e : CacheInvalidateEvent} {first last : Nat}

theorem stretch_append (hLast : last ≤ published.length) :
    stretch (published ++ [e]) first last = stretch published first last := by
  rw [stretch, List.take_append_of_le_length hLast, stretch]

/-- A publication makes the open stretch longer by one event. It is how the stretch of a connected
stream grows. -/
theorem stretch_extend (hFirst : first ≤ published.length) :
    stretch (published ++ [e]) first (published ++ [e]).length =
      stretch published first published.length ++ [e] := by
  rw [stretch, stretch, List.take_length, List.take_length, List.drop_append_of_le_length hFirst]

theorem stretch_self (published : List CacheInvalidateEvent) :
    stretch published published.length published.length = [] := by
  simp [stretch]

/-- The stretch of the latest publication only. -/
theorem stretch_getLast? (hLast : e ∈ published.getLast?) :
    stretch published (published.length - 1) published.length = [e] := by
  obtain ⟨earlier, rfl⟩ := List.getLast?_eq_some_iff.mp hLast
  rw [stretch, List.take_length, List.length_append, List.length_singleton, Nat.add_sub_cancel,
    List.drop_left]

end Stretch

/-- Over a base a stream that was subscribed to has emitted what it heard of the
publications from `first` to `last`, the latest one while it is connected. -/
structure Follows (published : List CacheInvalidateEvent) (base : List MessageEvent)
    (first : Nat) (stream : Stream) (last : Nat) : Prop where
  started : stream.phase ≠ .opened
  bounds : first ≤ last ∧ last ≤ published.length
  current : stream.phase = .connected → last = published.length
  emitted : stream.emitted = base ++ heard stream (stretch published first last)

/-- The fields of a stream that never change. -/
def Stays (stream later : Stream) : Prop :=
  later.clientId = stream.clientId ∧ later.subscription = stream.subscription ∧
    later.lastEventId = stream.lastEventId ∧ later.openedAt = stream.openedAt ∧
      later.replayEvents = stream.replayEvents

theorem Stays.refl (stream : Stream) : Stays stream stream := ⟨rfl, rfl, rfl, rfl, rfl⟩

theorem Stays.trans {first second third : Stream} (h : Stays first second)
    (h' : Stays second third) : Stays first third :=
  ⟨h'.1.trans h.1, h'.2.1.trans h.2.1, h'.2.2.1.trans h.2.2.1, h'.2.2.2.1.trans h.2.2.2.1,
    h'.2.2.2.2.trans h.2.2.2.2⟩

theorem Stays.accepts {stream later : Stream} (h : Stays stream later) :
    later.accepts = stream.accepts := by
  funext m
  rw [Stream.accepts, Stream.accepts, h.2.1]

theorem Stays.replayable {stream later : Stream} (h : Stays stream later) :
    later.replayable = stream.replayable := by
  funext e
  rw [Stream.replayable, Stream.replayable, h.2.1]

theorem stays_receive (stream : Stream) (m : MessageEvent) : Stays stream (stream.receive m) := by
  rw [Stream.receive_eq]
  exact Stays.refl stream

section Streams
variable {published : List CacheInvalidateEvent} {first last : Nat} {stream : Stream}
  {e : CacheInvalidateEvent} {base : List MessageEvent}

/-- A connected stream hears the publication, a closed one does not. -/
theorem Follows.receive (h : Follows published base first stream last) :
    ∃ next, last ≤ next ∧
      Follows (published ++ [e]) base first (stream.receive (formatCacheEvent e)) next := by
  by_cases hConnected : stream.phase = .connected
  · obtain rfl := h.current hConnected
    have hPhase : (stream.receive (formatCacheEvent e)).phase = .connected := by
      rw [Stream.receive_eq]
      exact hConnected
    have hHeard : (stream.receive (formatCacheEvent e)).emitted =
        stream.emitted ++ heard stream [e] := by
      by_cases hAccepts : stream.accepts (formatCacheEvent e)
      · simp [Stream.receive, hConnected, heard, hAccepts]
      · simp [Stream.receive, heard, hAccepts]
    refine ⟨(published ++ [e]).length, by simp, by simp [hPhase], ⟨?_, Nat.le_refl _⟩,
      fun _ => rfl, ?_⟩
    · exact h.bounds.1.trans (by simp)
    · rw [hHeard, h.emitted, stretch_extend h.bounds.1, heard, heard, heard,
        (stays_receive stream (formatCacheEvent e)).accepts, List.map_append, List.filter_append,
        List.append_assoc]
  · have hDeaf : stream.receive (formatCacheEvent e) = stream := by simp [Stream.receive, hConnected]
    rw [hDeaf]
    refine ⟨last, Nat.le_refl _, h.started, ⟨h.bounds.1, h.bounds.2.trans (by simp)⟩,
      fun hPhase => absurd hPhase hConnected, ?_⟩
    rw [h.emitted, stretch_append h.bounds.2]

/-- A stream that is closed has followed up to that point, and goes no further. -/
theorem Follows.complete (h : Follows published base first stream last) :
    Follows published base first stream.complete last := by
  rcases Closes.complete_cases stream with hSame | hClosed
  · rw [hSame]
    exact h
  · rw [hClosed]
    exact ⟨by simp, h.bounds, by simp, h.emitted⟩

theorem stays_complete (stream : Stream) : Stays stream stream.complete := by
  rcases Closes.complete_cases stream with hSame | hClosed
  · rw [hSame]
    exact Stays.refl stream
  · rw [hClosed]
    exact ⟨rfl, rfl, rfl, rfl, rfl⟩

/-- Subscribing opens the stretch, at most one publication back. The one publication is the latest
event, which the shared source hands over again. -/
theorem follows_start {s : State} (hInv : Inv s) (stream : Stream) :
    ∃ first, (first = s.published.length ∨ s.shared.isSome ∧ first + 1 = s.published.length) ∧
      Follows s.published stream.replayEvents first (stream.start s.shared)
        s.published.length := by
  cases hShared : s.shared with
  | none =>
      refine ⟨s.published.length, .inl rfl, by simp [Stream.start], ⟨Nat.le_refl _, Nat.le_refl _⟩,
        fun _ => rfl, ?_⟩
      simp [Stream.start, stretch_self, heard]
  | some m =>
      obtain ⟨e, hLast, rfl⟩ := hInv.latest m (by simp [hShared])
      have hSome : 0 < s.published.length := List.length_pos_of_mem (List.mem_of_getLast? hLast)
      refine ⟨s.published.length - 1, .inr ⟨rfl, by omega⟩, by simp [Stream.start],
        ⟨by omega, Nat.le_refl _⟩, fun _ => rfl, ?_⟩
      rw [stretch_getLast? hLast]
      rfl

end Streams

section Steps
variable {s t : State} {i first last : Nat} {stream : Stream} {base : List MessageEvent}

/-- A stream after some streams were completed. -/
def Completed (t : State) (i : Nat) (stream : Stream) : Prop :=
  t.streams[i]? = some stream ∨ t.streams[i]? = some stream.complete

theorem complete_complete (stream : Stream) : stream.complete.complete = stream.complete := by
  rcases Closes.complete_cases stream with hSame | hClosed
  · rw [hSame, hSame]
  · rw [hClosed]
    rfl

theorem Completed.modify (h : Completed s i stream) (j : Nat) :
    Completed (s.setStreams (s.streams.modify j Stream.complete)) i stream := by
  change (s.streams.modify j Stream.complete)[i]? = _ ∨ (s.streams.modify j Stream.complete)[i]? = _
  rw [List.getElem?_modify]
  by_cases hIndex : j = i
  · rcases h with h | h <;> rw [h] <;> simp [hIndex, complete_complete]
  · rcases h with h | h <;> rw [h] <;> simp [hIndex]

theorem Completed.unregisterClient (h : Completed s i stream) (clientId : String) :
    Completed (s.unregisterClient clientId) i stream := by
  unfold State.unregisterClient
  split
  · exact Completed.modify h _
  · exact h

theorem length_unregisterClient (s : State) (clientId : String) :
    (s.unregisterClient clientId).streams.length = s.streams.length := by
  unfold State.unregisterClient
  split
  · exact List.length_modify _ _ _
  · rfl

/-- Completing streams leaves a stream the stretch that it had. Closing a stream emits nothing. -/
theorem Completed.follows (h : Completed t i stream) (hPublished : t.published = s.published)
    (hFollows : Follows s.published base first stream last) :
    ∃ later, t.streams[i]? = some later ∧ Stays stream later ∧
      Follows t.published base first later last := by
  rw [hPublished]
  rcases h with h | h
  · exact ⟨stream, h, Stays.refl stream, hFollows⟩
  · exact ⟨stream.complete, h, stays_complete stream, hFollows.complete⟩

/-- What one step does to a stream that was subscribed to. A publication is heard, the end of the
stream closes it, and everything else leaves it alone. -/
theorem step_follows {a : Action} (hStep : step s a = some t) (hStream : s.streams[i]? = some stream)
    (h : Follows s.published base first stream last) :
    ∃ later next, t.streams[i]? = some later ∧ Stays stream later ∧ last ≤ next ∧
      Follows t.published base first later next := by
  have hHere : Completed s i stream := .inl hStream
  have hClosing : ∀ {u : State}, Completed u i stream → u.published = s.published →
      ∃ later next, u.streams[i]? = some later ∧ Stays stream later ∧ last ≤ next ∧
        Follows u.published base first later next := by
    intro u hCompleted hPublished
    obtain ⟨later, hLater, hStays, hFollows⟩ := hCompleted.follows hPublished h
    exact ⟨later, last, hLater, hStays, Nat.le_refl _, hFollows⟩
  cases a with
  | publishCacheInvalidation p =>
      simp only [step] at hStep
      split at hStep
      · cases hStep
      · cases hStep
        obtain ⟨next, hNext, hFollows⟩ := @Follows.receive _ _ _ _ p.event _ h
        refine ⟨_, next, ?_, stays_receive stream _, hNext, hFollows⟩
        simp [State.publish, hStream]
  | openStream clientId subscription lastEventId =>
      cases hStep
      have hCleared := hHere.unregisterClient clientId
      have hKept : Completed (s.openStream clientId subscription lastEventId) i stream := by
        have hBound : i < (s.unregisterClient clientId).streams.length := by
          rw [length_unregisterClient]
          exact (List.getElem?_eq_some_iff.mp hStream).1
        have hSame : (s.openStream clientId subscription lastEventId).streams[i]? =
            (s.unregisterClient clientId).streams[i]? := List.getElem?_append_left hBound
        rw [Completed, hSame]
        exact hCleared
      exact hClosing hKept (Closes.unregisterClient clientId).published
  | subscribe j =>
      simp only [step] at hStep
      split at hStep
      · rename_i other hOther
        split at hStep
        · rename_i hOpened
          cases hStep
          have hIndex : j ≠ i := by
            rintro rfl
            rw [hStream] at hOther
            exact h.started (Option.some.inj hOther ▸ hOpened)
          refine hClosing (.inl ?_) rfl
          exact (List.getElem?_modify_ne _ _ hIndex).trans hStream
        · cases hStep
      · cases hStep
  | disconnect j =>
      simp only [step] at hStep
      split at hStep
      · split at hStep
        · cases hStep
          exact hClosing ((hHere.modify j).unregisterClient _)
            (Closes.unregisterClient _).published
        · cases hStep
      · cases hStep
  | unregisterClient clientId =>
      cases hStep
      exact hClosing (hHere.unregisterClient clientId) (Closes.unregisterClient clientId).published

/-- What a run does to it. By induction from the step lemma. The stretch begins where the stream was
subscribed. -/
theorem run_follows {actions : List Action} (hRun : run step s actions = some t)
    (hStream : s.streams[i]? = some stream) (h : Follows s.published base first stream last) :
    ∃ later next, t.streams[i]? = some later ∧ Stays stream later ∧ last ≤ next ∧
      Follows t.published base first later next := by
  induction actions generalizing s stream last with
  | nil =>
      cases hRun
      exact ⟨stream, last, hStream, Stays.refl stream, Nat.le_refl _, h⟩
  | cons a rest ih =>
      obtain ⟨middle, hStep, hRest⟩ := run_cons.mp hRun
      obtain ⟨later, next, hLater, hStays, hNext, hFollows⟩ := step_follows hStep hStream h
      obtain ⟨final, last', hFinal, hStays', hLast, hEnd⟩ := ih hRest hLater hFollows
      exact ⟨final, last', hFinal, hStays.trans hStays', hNext.trans hLast, hEnd⟩

/-- From any moment on a connected stream emits what it accepts of the publications. -/
theorem follows_connected {actions : List Action} (hRun : run step s actions = some t)
    (hStream : s.streams[i]? = some stream) (hConnected : stream.phase = .connected) :
    ∃ later last, t.streams[i]? = some later ∧ Stays stream later ∧
      Follows t.published stream.emitted s.published.length later last := by
  have hNow : Follows s.published stream.emitted s.published.length stream s.published.length := by
    refine ⟨by simp [hConnected], ⟨Nat.le_refl _, Nat.le_refl _⟩, fun _ => rfl, ?_⟩
    simp [stretch_self, heard]
  obtain ⟨later, last, hLater, hStays, -, hFollows⟩ := run_follows hRun hStream hNow
  exact ⟨later, last, hLater, hStays, hFollows⟩

/-- Publications are only added. -/
theorem published_prefix {actions : List Action} (hRun : run step s actions = some t) :
    s.published <+: t.published := by
  induction actions generalizing s with
  | nil =>
      cases hRun
      exact List.prefix_refl _
  | cons a rest ih =>
      obtain ⟨next, hStep, hRest⟩ := run_cons.mp hRun
      refine List.IsPrefix.trans ?_ (ih hRest)
      rcases step_cases hStep with ⟨j, other, -, -, -, rfl⟩ |
        ⟨-, ⟨p, -, rfl⟩ | ⟨cleared, clientId, subscription, lastEventId, hCloses, rfl⟩ | hCloses⟩
      · exact List.prefix_refl _
      · exact List.prefix_append _ _
      · exact hCloses.published ▸ List.prefix_refl _
      · exact hCloses.published ▸ List.prefix_refl _

end Steps

/-- From its subscription on a stream emits its replay, and then the accepted messages
of the publications since, in order and once each, as long as it is connected. The
stretch starts one publication earlier if the shared source held that one. -/
theorem follows_since_subscribe {before rest : List Action} {s u t : State} {i : Nat}
    (hBefore : run step State.init before = some s) (hSubscribe : step s (.subscribe i) = some u)
    (hRun : run step u rest = some t) :
    ∃ stream later first last, s.streams[i]? = some stream ∧ t.streams[i]? = some later ∧
      Stays stream later ∧ Follows t.published stream.replayEvents first later last ∧
        s.published.length ≤ last ∧
        (first = s.published.length ∨ s.shared.isSome ∧ first + 1 = s.published.length) := by
  have hInv : Inv s := run_invariant (fun _ _ _ => inv_step) hBefore Inv.init
  simp only [step] at hSubscribe
  split at hSubscribe
  · rename_i stream hStream
    split at hSubscribe
    · cases hSubscribe
      obtain ⟨first, hFirst, hFollows⟩ := follows_start hInv stream
      have hStarted : (s.streams.modify i fun stream => stream.start s.shared)[i]? =
          some (stream.start s.shared) := by
        rw [List.getElem?_modify_eq, hStream]
        rfl
      obtain ⟨later, last, hLater, hStays, hLast, hEnd⟩ := run_follows hRun hStarted hFollows
      exact ⟨stream, later, first, last, hStream, hLater, hStays, hEnd, hLast, hFirst⟩
    · cases hSubscribe
  · cases hSubscribe

/-- A client connects, receives an event, leaves, and misses another one. -/
def missedRun : List Action :=
  client none 0 ++ [.publishCacheInvalidation (publication "0xab" "1"), .disconnect 0,
    .publishCacheInvalidation (publication "0xcd" "2")]

/-- Without a last event id the replay is empty, and the stream has what was published after it
was subscribed to. -/
theorem follows_since_subscribe_once : ∃ s u t stream later first last,
    run step State.init [.openStream "0" none none] = some s ∧ step s (.subscribe 0) = some u ∧
      run step u (missedRun.drop 2) = some t ∧ s.streams[0]? = some stream ∧
        t.streams[0]? = some later ∧ Stays stream later ∧
          Follows t.published stream.replayEvents first later last ∧ s.published.length ≤ last ∧
            (first = s.published.length ∨ s.shared.isSome ∧ first + 1 = s.published.length) := by
  obtain ⟨stream, later, first, last, hStays⟩ :=
    @follows_since_subscribe [.openStream "0" none none] (missedRun.drop 2) _ _ _ 0 rfl rfl rfl
  exact ⟨_, _, _, stream, later, first, last, rfl, rfl, rfl, hStays⟩

section Replay
variable {earlier missed : List CacheInvalidateEvent} {eventId : String}

end Replay

end BalanceKit.Sse.Resumption
