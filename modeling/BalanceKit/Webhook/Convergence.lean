import BalanceKit.Webhook.Propagation

/-! What the handlers of the address activities leave in the two stores. The invalidations
commute and repeat without effect, so the outcome depends on the set of activities only. -/
namespace BalanceKit.Propagation
open TransitionSystem

/-- The keys that the handler of the activity deletes. -/
def deletes (event : AddressActivityEvent) (key : String) : Bool :=
  Glob.matchesPattern
    (CacheKeyService.chainAddressPattern event.chain event.chainId event.address) key

/-- The snapshots that it expires. -/
def expires (event : AddressActivityEvent) (d : PortfolioSnapshot) : Bool :=
  decide (d.chain = event.chain) && DbService.snapshotFilter event.chainId event.address none d

def live (now : Nat) (d : PortfolioSnapshot) : Bool := decide (now < d.expiresAt)

/-- The calls of the step are executed, and it stores no portfolio. -/
def Action.Clean : Action → Prop
  | .mongoSettles _ reply => reply ≠ .refused
  | .redisSettles _ connected scan replies =>
      connected = true ∧ PatternDeletion.Undisturbed replies scan
  | .getPortfolioData _ _ _ | .emitPortfolioUpdate _ _ _ _ => False
  | .processWebhookEvent _ _ _ | .emitAddressCacheInvalidated _ _ | .client _ | .clock _ => True

/-- A handler whose deletion has settled deletes the key. -/
def deleted (handlers : List ActivityHandler) (key : String) : Bool :=
  handlers.any fun handler => handler.redisResult.isSome && deletes handler.event key

/-- A handler whose update has settled expires the snapshot. -/
def expired (handlers : List ActivityHandler) (d : PortfolioSnapshot) : Bool :=
  handlers.any fun handler => handler.mongoResult.isSome && expires handler.event d

/-- What the handlers have done to the stores so far. -/
structure Reduced (stores : Stores) (s : State) : Prop where
  redis : s.stores.redis = stores.redis.filter fun e => !deleted s.handlers e.key
  snapshots : ∀ later, s.now ≤ later → s.stores.snapshots.filter (live later) =
    stores.snapshots.filter fun d => live later d && !expired s.handlers d

/-- At first nothing has been done to the stores, and no handler has a result. -/
theorem reduced_init (stores : Stores) : Reduced stores (State.init stores) := by
  constructor
  · simp [State.init, deleted]
  · intro later _
    simp [State.init, expired]

section Steps
variable {stores : Stores} {s t : State} {i : Nat} {handler : ActivityHandler}

/-- Without a failure every matching entry is gone. The entries whose keys do not match are still
there. -/
theorem redis_settles {scan : PatternDeletion.Scan} {replies : Nat → PatternDeletion.Reply}
    {redis : RedisStore Js} (hYields : Yields redis handler.pattern scan)
    (hUndisturbed : PatternDeletion.Undisturbed replies scan) :
    (PatternDeletion.deleteByPattern replies true scan redis).1 =
      redis.filter fun e => !deletes handler.event e.key := by
  rw [PatternDeletion.deleteByPattern_undisturbed hUndisturbed, CacheBackends.exec]
  refine List.filter_congr fun e hEntry => ?_
  have hKey : e.key ∈ scan.keys ↔ deletes handler.event e.key = true :=
    ⟨hYields.1 e.key, hYields.2 hUndisturbed.1 e hEntry⟩
  simp [hKey]

/-- The update leaves the snapshots that it does not match, and of the others none that is
still live. -/
theorem filter_invalidateAddressSnapshot {now later : Nat} (hLater : now ≤ later)
    (event : AddressActivityEvent) (snapshots : List PortfolioSnapshot) :
    (DbService.invalidateAddressSnapshot snapshots now event.chain event.chainId
      event.address).filter (live later) =
        snapshots.filter fun d => live later d && !expires event d := by
  rw [DbService.invalidateAddressSnapshot]
  induction snapshots with
  | nil => rfl
  | cons d rest ih =>
      rw [List.map_cons, List.filter_cons, List.filter_cons, ih]
      by_cases hMatch : d.chain = event.chain ∧
          DbService.snapshotFilter event.chainId event.address none d = true
      · have hExpires : expires event d = true := by simp [expires, hMatch]
        have hGone : live later { d with expiresAt := now } = false := by simpa [live] using hLater
        rw [if_pos hMatch, hGone, hExpires]
        simp
      · have hStays : expires event d = false := by simpa [expires] using hMatch
        rw [if_neg hMatch, hStays]
        simp

/-- An update that is executed expires what the handler asked for, whether or not its answer
arrives. -/
theorem snapshots_settle {snapshots : List PortfolioSnapshot} {reply : PatternDeletion.Reply}
    (hReply : reply ≠ .refused) : (invalidateAddressSnapshot snapshots handler reply).1 =
      DbService.invalidateAddressSnapshot snapshots handler.startedAt handler.event.chain
        handler.event.chainId handler.event.address := by
  unfold invalidateAddressSnapshot
  cases reply with
  | answered => rfl
  | lost => rfl
  | refused => exact absurd rfl hReply

theorem reduced_startHandlers (h : Reduced stores s) (events : List AddressActivityEvent) :
    Reduced stores (s.startHandlers events) := by
  have hDeleted : deleted (s.startHandlers events).handlers = deleted s.handlers := by
    funext key
    simp [deleted, State.startHandlers, List.any_append]
  have hExpired : expired (s.startHandlers events).handlers = expired s.handlers := by
    funext d
    simp [expired, State.startHandlers, List.any_append]
  exact ⟨hDeleted ▸ h.redis, hExpired ▸ h.snapshots⟩

/-- A step that leaves the results and the stores alone. Steps of the clients and publications are
of this kind. -/
theorem reduced_of_same (h : Reduced stores s) (hStores : t.stores = s.stores)
    (hNow : s.now ≤ t.now) (hDeleted : deleted t.handlers = deleted s.handlers)
    (hExpired : expired t.handlers = expired s.handlers) : Reduced stores t := by
  constructor
  · rw [hStores, hDeleted]
    exact h.redis
  · intro later hLater
    rw [hStores, hExpired]
    exact h.snapshots later (hNow.trans hLater)

section Moves
variable {handlers : List ActivityHandler} {moved : ActivityHandler}

/-- A step of a handler that leaves its Redis result alone deletes nothing more. -/
theorem deleted_set (hHandler : handlers[i]? = some handler)
    (hResult : moved.redisResult = handler.redisResult) (hEvent : moved.event = handler.event) :
    deleted (handlers.set i moved) = deleted handlers := by
  funext key
  exact ProcessTable.any_set_of_eq hHandler (by rw [hResult, hEvent])

theorem expired_set (hHandler : handlers[i]? = some handler)
    (hResult : moved.mongoResult = handler.mongoResult) (hEvent : moved.event = handler.event) :
    expired (handlers.set i moved) = expired handlers := by
  funext d
  exact ProcessTable.any_set_of_eq hHandler (by rw [hResult, hEvent])

/-- When the deletion of a handler settles, its keys are deleted in addition to those of the
others. -/
theorem deleted_set_settled (hHandler : handlers[i]? = some handler)
    (hNone : handler.redisResult = none) (hSettled : moved.redisResult.isSome)
    (hEvent : moved.event = handler.event) (key : String) :
    deleted (handlers.set i moved) key = (deleted handlers key || deletes handler.event key) := by
  rw [deleted, ProcessTable.any_set_of_false hHandler (by simp [hNone]), hSettled, hEvent,
    Bool.true_and, deleted]

/-- When its update settles, its snapshots are expired in addition to those of the others. An expiry
that was brought forward is not put back by any step. -/
theorem expired_set_settled (hHandler : handlers[i]? = some handler)
    (hNone : handler.mongoResult = none) (hSettled : moved.mongoResult.isSome)
    (hEvent : moved.event = handler.event) (d : PortfolioSnapshot) :
    expired (handlers.set i moved) d = (expired handlers d || expires handler.event d) := by
  rw [expired, ProcessTable.any_set_of_false hHandler (by simp [hNone]), hSettled, hEvent,
    Bool.true_and, expired]

end Moves

/-- The update of one handler leaves the live snapshots that neither it nor an earlier one
concerns. The order does not show, because each update takes away what it matches. -/
theorem reduced_mongoSettles (h : Reduced stores s) (hHandler : s.handlers[i]? = some handler)
    (hStarted : handler.startedAt ≤ s.now) {reply : PatternDeletion.Reply}
    (hReply : reply ≠ .refused) (hSettles : mongoSettles s i handler reply = some t) :
    Reduced stores t := by
  simp only [mongoSettles] at hSettles
  split at hSettles
  · rename_i hWaiting
    cases hSettles
    have hNone := Option.isNone_iff_eq_none.mp hWaiting
    let moved : ActivityHandler := { handler with
      mongoResult := some (invalidateAddressSnapshot s.stores.snapshots handler reply).2 }
    constructor
    · change s.stores.redis = stores.redis.filter fun e => !deleted (s.handlers.set i moved) e.key
      rw [@deleted_set _ _ _ moved hHandler rfl rfl]
      exact h.redis
    · intro later hLater
      change (invalidateAddressSnapshot s.stores.snapshots handler reply).1.filter (live later) =
        stores.snapshots.filter fun d => live later d && !expired (s.handlers.set i moved) d
      rw [snapshots_settle hReply, filter_invalidateAddressSnapshot (hStarted.trans hLater)
        handler.event]
      have hSplit : (s.stores.snapshots.filter fun d => live later d && !expires handler.event d) =
          (s.stores.snapshots.filter (live later)).filter fun d => !expires handler.event d := by
        rw [List.filter_filter]
        refine List.filter_congr fun d _ => ?_
        rw [Bool.and_comm]
      rw [hSplit, h.snapshots later hLater, List.filter_filter]
      refine List.filter_congr fun d _ => ?_
      rw [@expired_set_settled _ _ _ moved hHandler hNone rfl rfl]
      cases expires handler.event d <;> cases live later d <;> simp
  · cases hSettles

/-- The deletion of one handler leaves the entries that neither it nor an earlier one matches. The
keys were collected before, so an entry that another handler has deleted is deleted once more to
no effect. -/
theorem reduced_redisSettles (h : Reduced stores s) (hHandler : s.handlers[i]? = some handler)
    {scan : PatternDeletion.Scan} {replies : Nat → PatternDeletion.Reply}
    (hUndisturbed : PatternDeletion.Undisturbed replies scan)
    (hSettles : redisSettles s i handler true scan replies = some t) : Reduced stores t := by
  simp only [redisSettles] at hSettles
  split at hSettles
  · rename_i hWaiting
    cases hSettles
    obtain ⟨hWaiting, hYields⟩ := hWaiting
    have hNone := Option.isNone_iff_eq_none.mp hWaiting
    let moved : ActivityHandler := { handler with redisResult := some (.fulfilled
      (PatternDeletion.deleteByPattern replies true scan s.stores.redis).2) }
    constructor
    · change (PatternDeletion.deleteByPattern replies true scan s.stores.redis).1 =
        stores.redis.filter fun e => !deleted (s.handlers.set i moved) e.key
      rw [redis_settles hYields hUndisturbed, h.redis, List.filter_filter]
      refine List.filter_congr fun e _ => ?_
      rw [@deleted_set_settled _ _ _ moved hHandler hNone rfl rfl]
      cases deletes handler.event e.key <;> simp
    · intro later hLater
      change s.stores.snapshots.filter (live later) =
        stores.snapshots.filter fun d => live later d && !expired (s.handlers.set i moved) d
      rw [@expired_set _ _ _ moved hHandler rfl rfl]
      exact h.snapshots later hLater
  · cases hSettles

/-- One clean step keeps the stores reduced. Announcements, clients and the clock do not touch
them. -/
theorem reduced_step {a : Action} (hInv : Inv s) (h : Reduced stores s) (hClean : a.Clean)
    (hStep : step s a = some t) : Reduced stores t := by
  cases a with
  | processWebhookEvent fails saved payload =>
      cases hStep
      exact reduced_startHandlers h _
  | mongoSettles i reply =>
      obtain ⟨handler, hHandler, hSettles⟩ := Option.bind_eq_some_iff.mp hStep
      exact reduced_mongoSettles h hHandler (hInv.started handler (List.mem_of_getElem? hHandler))
        hClean hSettles
  | redisSettles i connected scan replies =>
      obtain ⟨handler, hHandler, hSettles⟩ := Option.bind_eq_some_iff.mp hStep
      obtain ⟨rfl, hUndisturbed⟩ := hClean
      exact reduced_redisSettles h hHandler hUndisturbed hSettles
  | emitAddressCacheInvalidated i uuid =>
      obtain ⟨handler, hHandler, hAnnounce⟩ := Option.bind_eq_some_iff.mp hStep
      unfold announce at hAnnounce
      split at hAnnounce
      · split at hAnnounce
        · cases hAnnounce
        · obtain ⟨sse, -, rfl⟩ := Option.map_eq_some_iff.mp hAnnounce
          exact reduced_of_same h rfl (Nat.le_refl _) (deleted_set hHandler rfl rfl)
            (expired_set hHandler rfl rfl)
      · cases hAnnounce
  | getPortfolioData chain address provider => exact hClean.elim
  | emitPortfolioUpdate chain address portfolioData provider => exact hClean.elim
  | client a =>
      simp only [step] at hStep
      split at hStep
      · cases hStep
      · obtain ⟨sse, -, rfl⟩ := Option.map_eq_some_iff.mp hStep
        exact reduced_of_same h rfl (Nat.le_refl _) rfl rfl
  | clock now =>
      simp only [step] at hStep
      split at hStep
      · cases hStep
        exact reduced_of_same h rfl ‹_› rfl rfl
      · cases hStep

end Steps

/-- Once every handler is done, the entries and the live snapshots are left that no activity of
the payloads concerns, in whatever order the payloads came and the calls settled, and however
often an activity was delivered. -/
theorem stores_settled {stores : Stores} {actions : List Action} {t : State}
    (hRun : run step (State.init stores) actions = some t) (hClean : ∀ a ∈ actions, a.Clean)
    (hQuiescent : Quiescent t) :
    t.stores.redis = stores.redis.filter (fun e =>
        !(actions.flatMap Action.started).any fun event => deletes event e.key) ∧
      ∀ later, t.now ≤ later → t.stores.snapshots.filter (live later) =
        stores.snapshots.filter fun d => live later d &&
          !(actions.flatMap Action.started).any fun event => expires event d := by
  have hKept : ∀ s a t, Inv s ∧ Reduced stores s → a.Clean → step s a = some t →
      Inv t ∧ Reduced stores t :=
    fun s a t h hOk hStep => ⟨inv_step h.1 hStep, reduced_step h.1 h.2 hOk hStep⟩
  obtain ⟨hInv, hReduced⟩ := run_invariant_of_meets hKept hRun
    (meets_of_forall (fun a ha _ => hClean a ha) _) ⟨Inv.init stores, reduced_init stores⟩
  have hEvents : t.handlers.map ActivityHandler.event = actions.flatMap Action.started :=
    events_run hRun
  have hSettled : ∀ handler ∈ t.handlers,
      handler.mongoResult.isSome = true ∧ handler.redisResult.isSome = true :=
    fun handler hMember => hInv.settled handler hMember (hQuiescent handler hMember)
  have hDeleted : ∀ key, deleted t.handlers key =
      (actions.flatMap Action.started).any fun event => deletes event key := by
    intro key
    rw [← hEvents, List.any_map, deleted, Bool.eq_iff_iff, List.any_eq_true, List.any_eq_true]
    refine exists_congr fun handler => and_congr_right fun hMember => ?_
    rw [(hSettled handler hMember).2]
    rfl
  have hExpired : ∀ d, expired t.handlers d =
      (actions.flatMap Action.started).any fun event => expires event d := by
    intro d
    rw [← hEvents, List.any_map, expired, Bool.eq_iff_iff, List.any_eq_true, List.any_eq_true]
    refine exists_congr fun handler => and_congr_right fun hMember => ?_
    rw [(hSettled handler hMember).1]
    rfl
  constructor
  · rw [hReduced.redis]
    refine List.filter_congr fun e _ => ?_
    rw [hDeleted]
  · intro later hLater
    rw [hReduced.snapshots later hLater]
    refine List.filter_congr fun d _ => ?_
    rw [hExpired]

/-- A snapshot of one of the addresses and one of another chain, both unexpired. -/
def twoSnapshots : List PortfolioSnapshot :=
  [⟨.ethereum, 1, "0xab", none, .obj [], false, 100⟩,
    ⟨.polygon, 137, "0xab", none, .obj [], false, 100⟩]

/-- Their copies in Redis. -/
def twoEntries : RedisStore Js :=
  [⟨"portfolio:ethereum:1:0xab:alchemy", .obj [], 100⟩, ⟨"portfolio:polygon:137:0xab", .obj [], 100⟩]

/-- The handlers of the payload all succeed, one of them without an answer. Two of them concern
the same address, and the one that settles first deletes its entry. -/
def cleanRun : List Action :=
  [.clock 5, .processWebhookEvent (fun _ _ => false) true FanOut.selfTransfer,
    .redisSettles 1 true ⟨["portfolio:ethereum:1:0xab:alchemy"], false⟩ fun _ => .answered,
    .mongoSettles 2 .answered, .mongoSettles 1 .lost, .emitAddressCacheInvalidated 1 "1",
    .mongoSettles 0 .answered, .redisSettles 2 true ⟨[], false⟩ fun _ => .answered,
    .emitAddressCacheInvalidated 2 "2", .redisSettles 0 true ⟨[], false⟩ fun _ => .answered,
    .emitAddressCacheInvalidated 0 "3"]

/-- Of the two entries in Redis the one that an activity concerns is deleted, and the one of the
other chain stays. -/
theorem stores_settled_cleanRun :
    ∃ t, run step (State.init ⟨twoEntries, twoSnapshots⟩) cleanRun = some t ∧
      (t.stores.redis = twoEntries.filter (fun e =>
          !(cleanRun.flatMap Action.started).any fun event => deletes event e.key) ∧
        ∀ later, t.now ≤ later → t.stores.snapshots.filter (live later) =
          twoSnapshots.filter fun d => live later d &&
            !(cleanRun.flatMap Action.started).any fun event => expires event d) ∧
      t.stores.redis.map RedisEntry.key = ["portfolio:polygon:137:0xab"] := by
  have hUndisturbed : ∀ keys, PatternDeletion.Undisturbed (fun _ => .answered) ⟨keys, false⟩ :=
    fun keys => ⟨rfl, fun _ _ => rfl⟩
  refine ⟨_, rfl, @stores_settled ⟨twoEntries, twoSnapshots⟩ cleanRun _ rfl ?_ (by decide), rfl⟩
  simp [cleanRun, Action.Clean, hUndisturbed]

end BalanceKit.Propagation
