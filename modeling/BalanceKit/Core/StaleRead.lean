import BalanceKit.Library.Runs

/-! Interleavings of `getPortfolio` with `handleAddressActivity` for one chain,
address and provider. A step is the code between two awaits, so it performs at
most one store operation. Times are positions in the run; they are recorded to
state what a response is made of and no step of the code reads them. -/
namespace BalanceKit.StaleRead
open TransitionSystem

variable {Portfolio : Type}

/-- Balances together with the moment the chain service fetched them. -/
structure Fetched (Portfolio : Type) where
  portfolio : Portfolio
  fetchedAt : Nat
  deriving DecidableEq

/-- One `getPortfolio` call and the two handlers that its events start. The
call answers when `redisGet` hits, after `redisFill`, or when `fetching` ends. -/
inductive Request (Portfolio : Type) where
  | redisGet (startedAt : Nat)
  | mongoGet (startedAt : Nat)
  | redisFill (startedAt : Nat) (data : Fetched Portfolio)
  | fetching (startedAt : Nat)
  | portfolioUpdate (startedAt : Nat) (data : Fetched Portfolio)
  | portfolioRedisUpdated (startedAt : Nat) (data : Fetched Portfolio)
  | finished
  deriving DecidableEq

/-- `deleteByPattern` first collects the keys that SCAN yields and then
unlinks what it collected. -/
inductive RedisDeletion where
  | notScanned
  | scanned (found : Bool)
  | unlinked
  deriving DecidableEq

/-- One `handleAddressActivity` run. The Mongo update and the Redis deletion
are started together and awaited by `Promise.allSettled`. -/
inductive Invalidation where
  | running (startedAt : Nat) (redis : RedisDeletion) (snapshotsExpired : Bool)
  | announced (startedAt completedAt : Nat)
  deriving DecidableEq

structure Response (Portfolio : Type) where
  startedAt : Nat
  data : Fetched Portfolio
  deriving DecidableEq

/-- `redis` is the value under the portfolio key and `mongo` the snapshot that
`getPortfolioSnapshot` would return, so an expired snapshot is `none`. -/
structure State (Portfolio : Type) where
  now : Nat
  redis : Option (Fetched Portfolio)
  mongo : Option (Fetched Portfolio)
  requests : List (Request Portfolio)
  invalidations : List Invalidation
  responses : List (Response Portfolio)

def State.init : State Portfolio := ⟨0, none, none, [], [], []⟩

inductive Action (Portfolio : Type) where
  | getPortfolio
  | redisGet (i : Nat)
  | mongoGet (i : Nat)
  | redisFill (i : Nat)
  | fetch (i : Nat) (portfolio : Portfolio)
  | portfolioUpdate (i : Nat)
  | portfolioRedisUpdated (i : Nat)
  | handleAddressActivity
  | expireSnapshots (v : Nat)
  | scan (v : Nat)
  | unlink (v : Nat)
  | announce (v : Nat)
  | redisExpiry
  | mongoExpiry

namespace State

def tick (s : State Portfolio) : State Portfolio := { s with now := s.now + 1 }

def moveRequest (s : State Portfolio) (i : Nat) (r : Request Portfolio) : State Portfolio :=
  { s with requests := s.requests.set i r }

def moveInvalidation (s : State Portfolio) (v : Nat) (r : Invalidation) : State Portfolio :=
  { s with invalidations := s.invalidations.set v r }

def respond (s : State Portfolio) (startedAt : Nat) (data : Fetched Portfolio) :
    State Portfolio :=
  { s with responses := ⟨startedAt, data⟩ :: s.responses }

end State

/-- The effect of one action before the clock advances. -/
def effect (s : State Portfolio) : Action Portfolio → Option (State Portfolio)
  | .getPortfolio => some { s with requests := s.requests ++ [.redisGet s.now] }
  | .redisGet i =>
      match s.requests[i]? with
      | some (.redisGet t) =>
          match s.redis with
          | some data => some ((s.moveRequest i .finished).respond t data)
          | none => some (s.moveRequest i (.mongoGet t))
      | _ => none
  | .mongoGet i =>
      match s.requests[i]? with
      | some (.mongoGet t) =>
          match s.mongo with
          | some data => some (s.moveRequest i (.redisFill t data))
          | none => some (s.moveRequest i (.fetching t))
      | _ => none
  | .redisFill i =>
      match s.requests[i]? with
      | some (.redisFill t data) =>
          some (({ s with redis := some data }.moveRequest i .finished).respond t data)
      | _ => none
  | .fetch i portfolio =>
      match s.requests[i]? with
      | some (.fetching t) =>
          some ((s.moveRequest i (.portfolioUpdate t ⟨portfolio, s.now⟩)).respond t
            ⟨portfolio, s.now⟩)
      | _ => none
  | .portfolioUpdate i =>
      match s.requests[i]? with
      | some (.portfolioUpdate t data) =>
          some ({ s with redis := some data }.moveRequest i (.portfolioRedisUpdated t data))
      | _ => none
  | .portfolioRedisUpdated i =>
      match s.requests[i]? with
      | some (.portfolioRedisUpdated _ data) =>
          some ({ s with mongo := some data }.moveRequest i .finished)
      | _ => none
  | .handleAddressActivity =>
      some { s with invalidations := s.invalidations ++ [.running s.now .notScanned false] }
  | .expireSnapshots v =>
      match s.invalidations[v]? with
      | some (.running t redis false) =>
          some ({ s with mongo := none }.moveInvalidation v (.running t redis true))
      | _ => none
  | .scan v =>
      match s.invalidations[v]? with
      | some (.running t .notScanned expired) =>
          some (s.moveInvalidation v (.running t (.scanned s.redis.isSome) expired))
      | _ => none
  | .unlink v =>
      match s.invalidations[v]? with
      | some (.running t (.scanned found) expired) =>
          some ({ s with redis := if found then none else s.redis }.moveInvalidation v
            (.running t .unlinked expired))
      | _ => none
  | .announce v =>
      match s.invalidations[v]? with
      | some (.running t .unlinked true) => some (s.moveInvalidation v (.announced t s.now))
      | _ => none
  | .redisExpiry => some { s with redis := none }
  | .mongoExpiry => some { s with mongo := none }

def step (s : State Portfolio) (a : Action Portfolio) : Option (State Portfolio) :=
  (effect s a).map State.tick

namespace Invalidation

def startedAt : Invalidation → Nat
  | .running t _ _ => t
  | .announced t _ => t

/-- The run can no longer remove a value written to Redis from now on. -/
def pastRedis : Invalidation → Bool
  | .running _ .notScanned _ => false
  | .running _ (.scanned found) _ => !found
  | .running _ .unlinked _ => true
  | .announced _ _ => true

/-- The run can no longer expire a snapshot written from now on. -/
def pastMongo : Invalidation → Bool
  | .running _ _ expired => expired
  | .announced _ _ => true

/-- The run completed before `t`. -/
def completedBefore (t : Nat) : Invalidation → Bool
  | .running _ _ _ => false
  | .announced _ completedAt => decide (completedAt < t)

/-- An announced invalidation has unlinked what it collected, so it has passed Redis for good. -/
theorem pastRedis_of_completedBefore {t : Nat} {v : Invalidation}
    (h : v.completedBefore t = true) : v.pastRedis = true := by
  cases v with
  | running => simp [completedBefore] at h
  | announced => rfl

/-- It has expired the snapshots as well: the announcement waits for both promises. -/
theorem pastMongo_of_completedBefore {t : Nat} {v : Invalidation}
    (h : v.completedBefore t = true) : v.pastMongo = true := by
  cases v with
  | running => simp [completedBefore] at h
  | announced => rfl

end Invalidation

/-- The balances are not older than any invalidation selected by `past`. -/
def FreshFor (invalidations : List Invalidation) (past : Invalidation → Bool)
    (data : Fetched Portfolio) : Prop :=
  ∀ v ∈ invalidations, past v = true → v.startedAt ≤ data.fetchedAt

instance (invalidations : List Invalidation) (past : Invalidation → Bool)
    (data : Fetched Portfolio) : Decidable (FreshFor invalidations past data) :=
  inferInstanceAs (Decidable (∀ v ∈ invalidations, past v = true → v.startedAt ≤ data.fetchedAt))

/-- No response of a call that starts after a completed invalidation consists
of balances fetched before that invalidation started. -/
def NoStaleRead (s : State Portfolio) : Prop :=
  ∀ r ∈ s.responses, FreshFor s.invalidations (Invalidation.completedBefore r.startedAt) r.data

instance (s : State Portfolio) : Decidable (NoStaleRead s) :=
  inferInstanceAs (Decidable (∀ r ∈ s.responses,
    FreshFor s.invalidations (Invalidation.completedBefore r.startedAt) r.data))

/-- The balances that the action sets in Redis. -/
def redisWrite (s : State Portfolio) : Action Portfolio → Option (Fetched Portfolio)
  | .redisFill i =>
      match s.requests[i]? with
      | some (.redisFill _ data) => some data
      | _ => none
  | .portfolioUpdate i =>
      match s.requests[i]? with
      | some (.portfolioUpdate _ data) => some data
      | _ => none
  | _ => none

/-- The balances that the action upserts in Mongo. -/
def mongoWrite (s : State Portfolio) : Action Portfolio → Option (Fetched Portfolio)
  | .portfolioRedisUpdated i =>
      match s.requests[i]? with
      | some (.portfolioRedisUpdated _ data) => some data
      | _ => none
  | _ => none

/-- A write to a store carries no balances older than an invalidation that has
already passed this store. Steps that write nothing are not restricted. -/
def WritesFresh (s : State Portfolio) (a : Action Portfolio) : Prop :=
  (∀ data ∈ redisWrite s a, FreshFor s.invalidations Invalidation.pastRedis data) ∧
    ∀ data ∈ mongoWrite s a, FreshFor s.invalidations Invalidation.pastMongo data

instance (s : State Portfolio) (a : Action Portfolio) : Decidable (WritesFresh s a) :=
  inferInstanceAs (Decidable (_ ∧ _))

namespace FreshFor
variable {invalidations : List Invalidation} {past : Invalidation → Bool} {data : Fetched Portfolio}

/-- Freshness is inherited by any smaller selection of invalidations. Fewer invalidations ask less
of the balances. -/
theorem mono {past' : Invalidation → Bool} (h : FreshFor invalidations past data)
    (hPast : ∀ v, past' v = true → past v = true) : FreshFor invalidations past' data :=
  fun v hv hv' => h v hv (hPast v hv')

/-- An invalidation may move as long as the balances satisfy it afterwards. -/
theorem set {v : Nat} {moved : Invalidation} (h : FreshFor invalidations past data)
    (hMoved : past moved = true → moved.startedAt ≤ data.fetchedAt) :
    FreshFor (invalidations.set v moved) past data := by
  intro w hw
  rcases List.mem_or_eq_of_mem_set hw with hw | rfl
  · exact h w hw
  · exact hMoved

/-- A new invalidation has passed nothing yet. -/
theorem spawn {t : Nat} (h : FreshFor invalidations past data)
    (hNew : past (.running t .notScanned false) = false) :
    FreshFor (invalidations ++ [.running t .notScanned false]) past data := by
  intro w hw
  rcases List.mem_append.mp hw with hw | hw
  · exact h w hw
  · rw [List.mem_singleton.mp hw, hNew]
    intro hFalse
    cases hFalse

end FreshFor

namespace Request

def startedAt? : Request Portfolio → Option Nat
  | .redisGet t | .mongoGet t | .redisFill t _ | .fetching t | .portfolioUpdate t _
  | .portfolioRedisUpdated t _ => some t
  | .finished => none

def data? : Request Portfolio → Option (Fetched Portfolio)
  | .redisFill _ data | .portfolioUpdate _ data | .portfolioRedisUpdated _ data => some data
  | _ => none

/-- A call carries no balances that a call started at its time must not see. -/
def Sound (now : Nat) (invalidations : List Invalidation) (r : Request Portfolio) : Prop :=
  ∀ t ∈ r.startedAt?, t < now ∧
    ∀ data ∈ r.data?, FreshFor invalidations (Invalidation.completedBefore t) data

end Request

/-- The stores hold nothing older than an invalidation that has passed them. -/
structure Inv (s : State Portfolio) : Prop where
  redis : ∀ data ∈ s.redis, FreshFor s.invalidations Invalidation.pastRedis data
  mongo : ∀ data ∈ s.mongo, FreshFor s.invalidations Invalidation.pastMongo data
  requests : ∀ r ∈ s.requests, r.Sound s.now s.invalidations
  responses : ∀ r ∈ s.responses, r.startedAt < s.now ∧
    FreshFor s.invalidations (Invalidation.completedBefore r.startedAt) r.data
  started : ∀ v ∈ s.invalidations, v.startedAt < s.now

theorem inv_init : Inv (State.init : State Portfolio) := by
  constructor <;> simp [State.init]

/-- The invariant says of each response what the property asks, and more of the stores and of the
calls that have not answered yet. -/
theorem Inv.noStaleRead {s : State Portfolio} (h : Inv s) : NoStaleRead s :=
  fun r hr => (h.responses r hr).2

/-- Steps of calls leave the invalidations alone, so only the entries that
changed have to be checked. -/
theorem Inv.of_call_step {s t : State Portfolio} (h : Inv s)
    (hNow : t.now = s.now + 1) (hSame : t.invalidations = s.invalidations)
    (hRedis : ∀ data ∈ t.redis, FreshFor s.invalidations Invalidation.pastRedis data)
    (hMongo : ∀ data ∈ t.mongo, FreshFor s.invalidations Invalidation.pastMongo data)
    (hRequests : ∀ r ∈ t.requests, r ∈ s.requests ∨ r.Sound (s.now + 1) s.invalidations)
    (hResponses : ∀ r ∈ t.responses, r ∈ s.responses ∨ (r.startedAt < s.now + 1 ∧
      FreshFor s.invalidations (Invalidation.completedBefore r.startedAt) r.data)) : Inv t := by
  refine ⟨?_, ?_, ?_, ?_, ?_⟩
  · rwa [hSame]
  · rwa [hSame]
  · rw [hNow, hSame]
    intro r hr
    rcases hRequests r hr with hOld | hNew
    · intro t ht
      obtain ⟨hLt, hData⟩ := h.requests r hOld t ht
      exact ⟨by omega, hData⟩
    · exact hNew
  · rw [hNow, hSame]
    intro r hr
    rcases hResponses r hr with hOld | hNew
    · obtain ⟨hLt, hData⟩ := h.responses r hOld
      exact ⟨by omega, hData⟩
    · exact hNew
  · rw [hNow, hSame]
    intro v hv
    have := h.started v hv
    omega

/-- Steps of an invalidation leave calls and responses alone. Balances already
read stay admissible because the moved run completes at the present moment at
the earliest. -/
theorem Inv.of_invalidation_step {s t : State Portfolio} {v : Nat} {moved : Invalidation}
    (h : Inv s) (hNow : t.now = s.now + 1)
    (hSet : t.invalidations = s.invalidations.set v moved)
    (hRequests : t.requests = s.requests) (hResponses : t.responses = s.responses)
    (hStarted : moved.startedAt < s.now)
    (hCompleted : ∀ u, u < s.now → moved.completedBefore u = false)
    (hRedis : ∀ data ∈ t.redis, data ∈ s.redis ∧ (moved.pastRedis = true →
      moved.startedAt ≤ data.fetchedAt))
    (hMongo : ∀ data ∈ t.mongo, data ∈ s.mongo ∧ (moved.pastMongo = true →
      moved.startedAt ≤ data.fetchedAt)) : Inv t := by
  have hKeep : ∀ u (data : Fetched Portfolio), u < s.now →
      FreshFor s.invalidations (Invalidation.completedBefore u) data →
      FreshFor (s.invalidations.set v moved) (Invalidation.completedBefore u) data :=
    fun u _ hu hFresh => hFresh.set (by simp [hCompleted u hu])
  refine ⟨?_, ?_, ?_, ?_, ?_⟩
  · rw [hSet]
    intro data hData
    exact (h.redis data (hRedis data hData).1).set (hRedis data hData).2
  · rw [hSet]
    intro data hData
    exact (h.mongo data (hMongo data hData).1).set (hMongo data hData).2
  · rw [hNow, hSet, hRequests]
    intro r hr u hu
    obtain ⟨hLt, hData⟩ := h.requests r hr u hu
    exact ⟨by omega, fun data hd => hKeep u data hLt (hData data hd)⟩
  · rw [hNow, hSet, hResponses]
    intro r hr
    obtain ⟨hLt, hData⟩ := h.responses r hr
    exact ⟨by omega, hKeep _ _ hLt hData⟩
  · rw [hNow, hSet]
    refine ProcessTable.forall_mem_set ?_ (by omega)
    intro w hw
    have := h.started w hw
    omega

theorem mem_moveRequest {s : State Portfolio} {i : Nat} {moved r : Request Portfolio}
    (h : r ∈ (s.moveRequest i moved).requests) : r ∈ s.requests ∨ r = moved :=
  List.mem_or_eq_of_mem_set h

/-- Balances read from a store are admissible for every call in progress. Every invalidation that is
completed has passed Redis, and what it left behind was written later. -/
theorem Inv.sound_of_redis {s : State Portfolio} (h : Inv s) {data : Fetched Portfolio}
    (hData : s.redis = some data) (t : Nat) :
    FreshFor s.invalidations (Invalidation.completedBefore t) data :=
  (h.redis data hData).mono fun _ => Invalidation.pastRedis_of_completedBefore

/-- The same of a snapshot: every invalidation that is completed has passed Mongo too. -/
theorem Inv.sound_of_mongo {s : State Portfolio} (h : Inv s) {data : Fetched Portfolio}
    (hData : s.mongo = some data) (t : Nat) :
    FreshFor s.invalidations (Invalidation.completedBefore t) data :=
  (h.mongo data hData).mono fun _ => Invalidation.pastMongo_of_completedBefore

/-- What the chain answers now is newer than every invalidation started so far. A fetch reads the
chain at this moment, so it is admissible for the call that makes it. -/
theorem Inv.fresh_of_fetch {s : State Portfolio} (h : Inv s) (portfolio : Portfolio)
    (past : Invalidation → Bool) : FreshFor s.invalidations past ⟨portfolio, s.now⟩ :=
  fun v hv _ => Nat.le_of_lt (h.started v hv)

theorem sound_finished (now : Nat) (invalidations : List Invalidation) :
    (Request.finished : Request Portfolio).Sound now invalidations := by
  intro t ht
  cases ht

section Steps
variable {s t : State Portfolio} {i : Nat}

/-- A new call has read nothing yet, so there is nothing to check about it. -/
theorem inv_getPortfolio (h : Inv s) (hStep : effect s .getPortfolio = some t) : Inv t.tick := by
  cases hStep
  refine h.of_call_step rfl rfl h.redis h.mongo ?_ (fun r hr => .inl hr)
  intro r hr
  rcases List.mem_append.mp hr with hOld | hNew
  · exact .inl hOld
  · rw [List.mem_singleton.mp hNew]
    refine .inr fun u hu => ⟨?_, fun data hd => by cases hd⟩
    cases hu
    omega

/-- A hit answers with what Redis holds, and Redis holds nothing older than a completed
invalidation. A miss goes on to Mongo without data. -/
theorem inv_redisGet (h : Inv s) (hStep : effect s (.redisGet i) = some t) : Inv t.tick := by
  simp only [effect] at hStep
  split at hStep
  · rename_i u hCall
    have hBefore := h.requests _ (List.mem_of_getElem? hCall) u rfl
    split at hStep
    · rename_i data hHit
      cases hStep
      refine h.of_call_step rfl rfl h.redis h.mongo ?_ ?_
      · intro r hr
        rcases mem_moveRequest hr with hOld | rfl
        · exact .inl hOld
        · exact .inr (sound_finished _ _)
      · intro r hr
        rcases List.mem_cons.mp hr with rfl | hOld
        · exact .inr ⟨by have := hBefore.1; simp only; omega, h.sound_of_redis hHit u⟩
        · exact .inl hOld
    · cases hStep
      refine h.of_call_step rfl rfl h.redis h.mongo ?_ (fun r hr => .inl hr)
      intro r hr
      rcases mem_moveRequest hr with hOld | rfl
      · exact .inl hOld
      · refine .inr fun w hw => ⟨?_, fun data hd => by cases hd⟩
        cases hw
        have := hBefore.1
        omega
  · cases hStep

/-- A hit only takes the snapshot along. It is fresh when it is read; whether it is still fresh
when it is written to Redis is for the next step. -/
theorem inv_mongoGet (h : Inv s) (hStep : effect s (.mongoGet i) = some t) : Inv t.tick := by
  simp only [effect] at hStep
  split at hStep
  · rename_i u hCall
    have hBefore := h.requests _ (List.mem_of_getElem? hCall) u rfl
    split at hStep
    · rename_i data hFound
      cases hStep
      refine h.of_call_step rfl rfl h.redis h.mongo ?_ (fun r hr => .inl hr)
      intro r hr
      rcases mem_moveRequest hr with hOld | rfl
      · exact .inl hOld
      · refine .inr fun w hw => ?_
        cases hw
        refine ⟨by have := hBefore.1; omega, fun d hd => ?_⟩
        cases hd
        exact h.sound_of_mongo hFound u
    · cases hStep
      refine h.of_call_step rfl rfl h.redis h.mongo ?_ (fun r hr => .inl hr)
      intro r hr
      rcases mem_moveRequest hr with hOld | rfl
      · exact .inl hOld
      · refine .inr fun w hw => ⟨?_, fun data hd => by cases hd⟩
        cases hw
        have := hBefore.1
        omega
  · cases hStep

/-- The read-through fill writes what an earlier step read from Mongo. Whether it is still fresh is
exactly what the condition on the writes asks. -/
theorem inv_redisFill (h : Inv s) (hOk : WritesFresh s (.redisFill i))
    (hStep : effect s (.redisFill i) = some t) : Inv t.tick := by
  simp only [effect] at hStep
  split at hStep
  · rename_i u data hCall
    have hBefore := h.requests _ (List.mem_of_getElem? hCall) u rfl
    have hFresh := hOk.1 data (by simp [redisWrite, hCall])
    cases hStep
    refine h.of_call_step rfl rfl ?_ h.mongo ?_ ?_
    · intro d hd
      cases hd
      exact hFresh
    · intro r hr
      rcases mem_moveRequest hr with hOld | rfl
      · exact .inl hOld
      · exact .inr (sound_finished _ _)
    · intro r hr
      rcases List.mem_cons.mp hr with rfl | hOld
      · exact .inr ⟨by have := hBefore.1; simp only; omega, hBefore.2 data rfl⟩
      · exact .inl hOld
  · cases hStep

/-- What the chain service fetched now is answered at once, and is taken along to the two writes. -/
theorem inv_fetch {portfolio : Portfolio} (h : Inv s)
    (hStep : effect s (.fetch i portfolio) = some t) : Inv t.tick := by
  simp only [effect] at hStep
  split at hStep
  · rename_i u hCall
    have hBefore := h.requests _ (List.mem_of_getElem? hCall) u rfl
    cases hStep
    refine h.of_call_step rfl rfl h.redis h.mongo ?_ ?_
    · intro r hr
      rcases mem_moveRequest hr with hOld | rfl
      · exact .inl hOld
      · refine .inr fun w hw => ?_
        cases hw
        refine ⟨by have := hBefore.1; omega, fun d hd => ?_⟩
        cases hd
        exact h.fresh_of_fetch portfolio _
    · intro r hr
      rcases List.mem_cons.mp hr with rfl | hOld
      · exact .inr ⟨by have := hBefore.1; simp only; omega, h.fresh_of_fetch portfolio _⟩
      · exact .inl hOld
  · cases hStep

/-- The handler of the first event writes the fetched balances to Redis. An invalidation may have
passed in between, so the write has to be fresh. -/
theorem inv_portfolioUpdate (h : Inv s) (hOk : WritesFresh s (.portfolioUpdate i))
    (hStep : effect s (.portfolioUpdate i) = some t) : Inv t.tick := by
  simp only [effect] at hStep
  split at hStep
  · rename_i u data hCall
    have hBefore := h.requests _ (List.mem_of_getElem? hCall) u rfl
    have hFresh := hOk.1 data (by simp [redisWrite, hCall])
    cases hStep
    refine h.of_call_step rfl rfl ?_ h.mongo ?_ (fun r hr => .inl hr)
    · intro d hd
      cases hd
      exact hFresh
    · intro r hr
      rcases mem_moveRequest hr with hOld | rfl
      · exact .inl hOld
      · refine .inr fun w hw => ?_
        cases hw
        exact ⟨by have := hBefore.1; omega, hBefore.2⟩
  · cases hStep

/-- The handler of the second event upserts them in Mongo, later still and on the same condition. -/
theorem inv_portfolioRedisUpdated (h : Inv s) (hOk : WritesFresh s (.portfolioRedisUpdated i))
    (hStep : effect s (.portfolioRedisUpdated i) = some t) : Inv t.tick := by
  simp only [effect] at hStep
  split at hStep
  · rename_i u data hCall
    have hFresh := hOk.2 data (by simp [mongoWrite, hCall])
    cases hStep
    refine h.of_call_step rfl rfl h.redis ?_ ?_ (fun r hr => .inl hr)
    · intro d hd
      cases hd
      exact hFresh
    · intro r hr
      rcases mem_moveRequest hr with hOld | rfl
      · exact .inl hOld
      · exact .inr (sound_finished _ _)
  · cases hStep

/-- An invalidation that starts has passed neither store, so nothing that is there or under way is
stale for it. -/
theorem inv_handleAddressActivity (h : Inv s)
    (hStep : effect s .handleAddressActivity = some t) : Inv t.tick := by
  cases hStep
  refine ⟨?_, ?_, ?_, ?_, ?_⟩
  · exact fun data hd => (h.redis data hd).spawn rfl
  · exact fun data hd => (h.mongo data hd).spawn rfl
  · intro r hr u hu
    obtain ⟨hLt, hData⟩ := h.requests r hr u hu
    exact ⟨Nat.lt_succ_of_lt hLt, fun data hd => (hData data hd).spawn rfl⟩
  · intro r hr
    obtain ⟨hLt, hData⟩ := h.responses r hr
    exact ⟨Nat.lt_succ_of_lt hLt, hData.spawn rfl⟩
  · intro v hv
    rcases List.mem_append.mp hv with hOld | hNew
    · exact Nat.lt_succ_of_lt (h.started v hOld)
    · rw [List.mem_singleton.mp hNew]
      exact Nat.lt_succ_self _

/-- The update takes effect in one step: no snapshot is left, and from now on a write to Mongo is
checked against this invalidation. -/
theorem inv_expireSnapshots (h : Inv s) (hStep : effect s (.expireSnapshots i) = some t) :
    Inv t.tick := by
  simp only [effect] at hStep
  split at hStep
  · rename_i u redis hRun
    have hMem := List.mem_of_getElem? hRun
    have hStarted : u < s.now := h.started _ hMem
    have hRedis := fun data hd => h.redis data hd _ hMem
    cases hStep
    refine h.of_invalidation_step rfl rfl rfl rfl hStarted (fun _ _ => rfl) ?_
      (fun data hd => by cases hd)
    exact fun data hd => ⟨hd, fun hPast => hRedis data hd (by cases redis <;> exact hPast)⟩
  · cases hStep

/-- Scanning removes nothing. An empty scan is already the end for Redis, because this
invalidation will unlink nothing that is written later. -/
theorem inv_scan (h : Inv s) (hStep : effect s (.scan i) = some t) : Inv t.tick := by
  simp only [effect] at hStep
  split at hStep
  · rename_i u expired hRun
    have hMem := List.mem_of_getElem? hRun
    have hStarted : u < s.now := h.started _ hMem
    have hMongo := fun data hd => h.mongo data hd _ hMem
    cases hStep
    refine h.of_invalidation_step rfl rfl rfl rfl hStarted (fun _ _ => rfl) ?_
      (fun data hd => ⟨hd, hMongo data hd⟩)
    -- A scan that finds the key has not passed the store: it still unlinks it.
    intro data hd
    refine ⟨hd, fun hPast => ?_⟩
    have hSome : s.redis.isSome = true := Option.isSome_iff_exists.mpr ⟨data, hd⟩
    simp [Invalidation.pastRedis, hSome] at hPast
  · cases hStep

/-- With the key unlinked Redis is empty, and without a key there was nothing to unlink. From here
on the invalidation has passed Redis, and only fresh writes may follow. -/
theorem inv_unlink (h : Inv s) (hStep : effect s (.unlink i) = some t) : Inv t.tick := by
  simp only [effect] at hStep
  split at hStep
  · rename_i u found expired hRun
    have hMem := List.mem_of_getElem? hRun
    have hStarted : u < s.now := h.started _ hMem
    have hRedis := fun data hd => h.redis data hd _ hMem
    have hMongo := fun data hd => h.mongo data hd _ hMem
    cases hStep
    refine h.of_invalidation_step rfl rfl rfl rfl hStarted (fun _ _ => rfl) ?_
      (fun data hd => ⟨hd, hMongo data hd⟩)
    intro data hd
    cases found with
    | true => cases hd
    | false => exact ⟨hd, fun _ => hRedis data hd rfl⟩
  · cases hStep

/-- Both stores have been passed before, so the announcement changes which calls must not see the
old balances, and these have yet to start. -/
theorem inv_announce (h : Inv s) (hStep : effect s (.announce i) = some t) : Inv t.tick := by
  simp only [effect] at hStep
  split at hStep
  · rename_i u hRun
    have hMem := List.mem_of_getElem? hRun
    have hStarted : u < s.now := h.started _ hMem
    have hRedis := fun data hd => h.redis data hd _ hMem
    have hMongo := fun data hd => h.mongo data hd _ hMem
    cases hStep
    refine h.of_invalidation_step rfl rfl rfl rfl hStarted ?_
      (fun data hd => ⟨hd, fun _ => hRedis data hd rfl⟩)
      (fun data hd => ⟨hd, fun _ => hMongo data hd rfl⟩)
    -- The run completes now, after every call in progress started.
    intro w hw
    simp [Invalidation.completedBefore]
    omega
  · cases hStep

/-- The time to live takes entries away and puts nothing back. -/
theorem inv_redisExpiry (h : Inv s) (hStep : effect s .redisExpiry = some t) : Inv t.tick := by
  cases hStep
  exact h.of_call_step rfl rfl (fun _ hd => by cases hd) h.mongo (fun _ hr => .inl hr)
    (fun _ hr => .inl hr)

theorem inv_mongoExpiry (h : Inv s) (hStep : effect s .mongoExpiry = some t) : Inv t.tick := by
  cases hStep
  exact h.of_call_step rfl rfl h.redis (fun _ hd => by cases hd) (fun _ hr => .inl hr)
    (fun _ hr => .inl hr)

/-- One step keeps the invariant, by the lemma on its action. Only the three writes use that they
are fresh. -/
theorem inv_step {a : Action Portfolio} (h : Inv s) (hOk : WritesFresh s a)
    (hStep : step s a = some t) : Inv t := by
  obtain ⟨u, hEffect, rfl⟩ := Option.map_eq_some_iff.mp hStep
  cases a with
  | getPortfolio => exact inv_getPortfolio h hEffect
  | redisGet => exact inv_redisGet h hEffect
  | mongoGet => exact inv_mongoGet h hEffect
  | redisFill => exact inv_redisFill h hOk hEffect
  | fetch => exact inv_fetch h hEffect
  | portfolioUpdate => exact inv_portfolioUpdate h hOk hEffect
  | portfolioRedisUpdated => exact inv_portfolioRedisUpdated h hOk hEffect
  | handleAddressActivity => exact inv_handleAddressActivity h hEffect
  | expireSnapshots => exact inv_expireSnapshots h hEffect
  | scan => exact inv_scan h hEffect
  | unlink => exact inv_unlink h hEffect
  | announce => exact inv_announce h hEffect
  | redisExpiry => exact inv_redisExpiry h hEffect
  | mongoExpiry => exact inv_mongoExpiry h hEffect

end Steps

/-- In every interleaving whose writes are fresh no stale response is produced. The condition is
on the writes to the stores; what is read and answered is not restricted. -/
theorem noStaleRead_of_writesFresh {actions : List (Action Portfolio)} {s : State Portfolio}
    (hRun : run step State.init actions = some s)
    (hWrites : Meets step WritesFresh State.init actions) : NoStaleRead s :=
  (run_invariant_of_meets (fun _ _ _ h hOk hStep => inv_step h hOk hStep) hRun hWrites
    inv_init).noStaleRead

/-- A cached answer is invalidated and the next call fetches again. -/
def orderlyRun : List (Action Nat) :=
  [.getPortfolio, .redisGet 0, .mongoGet 0, .fetch 0 10, .portfolioUpdate 0,
    .portfolioRedisUpdated 0, .handleAddressActivity, .expireSnapshots 0, .scan 0, .unlink 0,
    .announce 0, .getPortfolio, .redisGet 1, .mongoGet 1, .fetch 1 20]

/-- Here every write is fresh, and the second call answers with the balances fetched after the
invalidation. -/
theorem noStaleRead_orderlyRun :
    ∃ s, run step State.init orderlyRun = some s ∧ NoStaleRead s :=
  ⟨_, rfl, @noStaleRead_of_writesFresh Nat orderlyRun _ rfl (by decide)⟩

/-- The first call has read the snapshot when the invalidation passes; its fill
then puts the old balances back and the second call answers with them. -/
def staleFillRun : List (Action Nat) :=
  [.getPortfolio, .redisGet 0, .mongoGet 0, .fetch 0 10, .portfolioUpdate 0,
    .portfolioRedisUpdated 0, .redisExpiry, .getPortfolio, .redisGet 1, .mongoGet 1,
    .handleAddressActivity, .expireSnapshots 0, .scan 0, .unlink 0, .announce 0, .redisFill 1,
    .getPortfolio, .redisGet 2]

/-- The theorem does not apply to this run: the write that `redisFill` makes is older than the
invalidation that passed Redis before it. -/
theorem staleFillRun_stale :
    ∃ s, run step State.init staleFillRun = some s ∧ ¬ NoStaleRead s :=
  ⟨_, rfl, by decide⟩

end BalanceKit.StaleRead
