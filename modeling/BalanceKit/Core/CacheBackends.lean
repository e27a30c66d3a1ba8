import BalanceKit.Core.CacheKey

/-! The cache on its two stores. Reads and writes go through the cache manager and do
not depend on the store; deletion by pattern needs the Redis client and is a guarded
no-op without it. Time does not pass during a sequence of calls. -/
namespace BalanceKit.CacheBackends

variable {Value : Type*}

inductive CacheType where
  | memory
  | redis
  deriving DecidableEq, Repr

section Deletion

/-- `delete`, on either store. -/
def delete (store : RedisStore Value) (key : String) : RedisStore Value :=
  store.filter fun e => e.key ≠ key

/-- The local variables of `deleteByPattern` and the store it works on. -/
structure Deletion (Value : Type*) where
  store : RedisStore Value
  batch : List String
  counter : Nat
  total : Nat

/-- `batch.exec()`: the queued keys are unlinked. -/
def exec (store : RedisStore Value) (batch : List String) : RedisStore Value :=
  store.filter fun e => e.key ∉ batch

/-- One key that the scan yields. A batch is sent when it holds five hundred keys. -/
def Deletion.yield (d : Deletion Value) (key : String) : Deletion Value :=
  let batch := d.batch ++ [key]
  let counter := d.counter + 1
  if counter ≥ 500 then ⟨exec d.store batch, [], 0, d.total + 1⟩
  else ⟨d.store, batch, counter, d.total + 1⟩

/-- What is left of the last batch is sent as well. -/
def Deletion.finish (d : Deletion Value) : RedisStore Value × Nat :=
  (if d.counter = 0 then d.store else exec d.store d.batch, d.total)

/-- `deleteByPattern` over the keys that `scanIterator` yields for the pattern. -/
def deleteByPattern (backend : CacheType)
    (scanIterator : RedisStore Value → String → List String) (store : RedisStore Value)
    (pattern : String) : RedisStore Value × Nat :=
  match backend with
  | .memory => (store, 0)
  | .redis => ((scanIterator store pattern).foldl Deletion.yield ⟨store, [], 0, 0⟩).finish

/-- The keys seen so far are unlinked or queued. -/
structure Deletion.Pending (store : RedisStore Value) (seen : List String) (d : Deletion Value) :
    Prop where
  rest : exec d.store d.batch = exec store seen
  counter : d.counter = d.batch.length
  total : d.total = seen.length

/-- Two batches one after the other delete what one batch of both would. So the size of the batches
has no influence on what is left. -/
theorem exec_exec (store : RedisStore Value) (first second : List String) :
    exec (exec store first) second = exec store (first ++ second) := by
  simp [exec, List.filter_filter, Bool.and_comm]

theorem exec_nil (store : RedisStore Value) : exec store [] = store := by
  simp [exec]

/-- The loop after one more key: it has been executed with the full batches or waits in the
current one. -/
theorem Deletion.Pending.yield {store : RedisStore Value} {seen : List String}
    {d : Deletion Value} (h : d.Pending store seen) (key : String) :
    (d.yield key).Pending store (seen ++ [key]) := by
  have hRest : exec d.store (d.batch ++ [key]) = exec store (seen ++ [key]) := by
    rw [← exec_exec, h.rest, exec_exec]
  unfold Deletion.yield
  by_cases hFull : d.counter + 1 ≥ 500
  · rw [if_pos hFull]
    refine ⟨?_, rfl, ?_⟩
    · rw [exec_nil]
      exact hRest
    · simp [h.total]
  · rw [if_neg hFull]
    refine ⟨hRest, ?_, ?_⟩
    · simp [h.counter]
    · simp [h.total]

theorem pending_foldl {store : RedisStore Value} (keys : List String) {seen : List String}
    {d : Deletion Value} (h : d.Pending store seen) :
    (keys.foldl Deletion.yield d).Pending store (seen ++ keys) := by
  induction keys generalizing seen d with
  | nil => simpa using h
  | cons key rest ih => simpa using ih (h.yield key)

/-- At the end the last batch is executed, so every key that was yielded is deleted and counted. -/
theorem Deletion.Pending.finish {store : RedisStore Value} {seen : List String}
    {d : Deletion Value} (h : d.Pending store seen) :
    d.finish = (exec store seen, seen.length) := by
  unfold Deletion.finish
  by_cases hEmpty : d.counter = 0
  · have hBatch : d.batch = [] := List.length_eq_zero_iff.mp (h.counter.symm.trans hEmpty)
    have hRest := h.rest
    rw [hBatch, exec_nil] at hRest
    rw [if_pos hEmpty, hRest, h.total]
  · rw [if_neg hEmpty, h.rest, h.total]

/-- The batches together unlink every key that the scan yields. The last batch may be smaller than
the others and is sent all the same. -/
theorem deleteByPattern_redis (scanIterator : RedisStore Value → String → List String)
    (store : RedisStore Value) (pattern : String) :
    deleteByPattern .redis scanIterator store pattern =
      (exec store (scanIterator store pattern), (scanIterator store pattern).length) := by
  have hStart : (⟨store, [], 0, 0⟩ : Deletion Value).Pending store [] := ⟨rfl, rfl, rfl⟩
  have hEnd := (pending_foldl (scanIterator store pattern) hStart).finish
  simpa [deleteByPattern] using hEnd

/-- Where the scan yields exactly the matching keys, the batches have the effect of
one deletion. -/
theorem deleteByPattern_redis_fst {scanIterator : RedisStore Value → String → List String}
    {store : RedisStore Value} {pattern : String}
    (hYields : ∀ e ∈ store, e.key ∈ scanIterator store pattern ↔
      Glob.matchesPattern pattern e.key = true) :
    (deleteByPattern .redis scanIterator store pattern).1 =
      (CacheService.deleteByPattern store pattern).1 := by
  rw [deleteByPattern_redis]
  apply List.filter_congr
  intro e he
  have hOne := hYields e he
  cases hMatch : Glob.matchesPattern pattern e.key <;> simp_all

end Deletion

section Reads

/-- A read after entries were dropped by their keys. An entry that is kept is read as before, and
one that is dropped is absent. -/
theorem get_filter (store : RedisStore Value) (kept : String → Bool) (now : Nat) (key : String) :
    CacheService.get (store.filter fun e => kept e.key) now key =
      if kept key then CacheService.get store now key else none := by
  unfold CacheService.get
  rw [List.find?_filter]
  by_cases hKept : kept key = true
  · rw [if_pos hKept]
    congr 2
    funext e
    by_cases hKey : e.key = key
    · simp [hKey, hKept]
    · simp [hKey]
  · rw [if_neg hKept, Option.map_eq_none_iff, List.find?_eq_none]
    intro e _ hFound
    simp only [decide_eq_true_eq] at hFound
    obtain ⟨hKeptOwn, hKey, -⟩ := hFound
    exact hKept (hKey ▸ hKeptOwn)

theorem get_exec (store : RedisStore Value) (batch : List String) (now : Nat) (key : String) :
    CacheService.get (exec store batch) now key =
      if key ∈ batch then none else CacheService.get store now key := by
  have hFilter := get_filter store (fun k => decide (k ∉ batch)) now key
  by_cases hKey : key ∈ batch <;> simpa [exec, hKey] using hFilter

theorem get_delete (store : RedisStore Value) (deleted : String) (now : Nat) (key : String) :
    CacheService.get (delete store deleted) now key =
      if key = deleted then none else CacheService.get store now key := by
  have hFilter := get_filter store (fun k => decide (k ≠ deleted)) now key
  by_cases hKey : key = deleted <;> simpa [delete, hKey] using hFilter

/-- Setting a key leaves the others as they were, expired ones included. -/
theorem get_set_other (store : RedisStore Value) {written key : String} (h : key ≠ written)
    (value : Value) (now : Nat) (ttlSeconds : Option Nat) :
    CacheService.get (CacheService.set store now written value ttlSeconds) now key =
      CacheService.get store now key := by
  have hFilter := get_filter store (fun k => decide (k ≠ written)) now key
  simpa [CacheService.set, CacheService.get, List.find?_cons, h, Ne.symm h] using hFilter

/-- What a read of the written key returns does not depend on the store. -/
theorem get_set_same (first second : RedisStore Value) (key : String) (value : Value) (now : Nat)
    (ttlSeconds : Option Nat) :
    CacheService.get (CacheService.set first now key value ttlSeconds) now key =
      CacheService.get (CacheService.set second now key value ttlSeconds) now key := by
  have hNone : ∀ store : RedisStore Value,
      (store.filter fun e => e.key ≠ key).find? (fun e => e.key = key ∧ now < e.expiresAt) = none := by
    intro store
    apply List.find?_eq_none.mpr
    intro e he
    simp_all
  simp only [CacheService.get, CacheService.set, List.find?_cons, hNone]

end Reads

section Sequences
variable (scanIterator : RedisStore Value → String → List String) (now : Nat)

/-- One call of the cache service. -/
inductive Call (Value : Type*) where
  | set (key : String) (value : Value) (ttlSeconds : Option Nat)
  | get (key : String)
  | delete (key : String)
  | deleteByPattern (pattern : String)

def Call.apply (backend : CacheType) (store : RedisStore Value) : Call Value → RedisStore Value
  | .set key value ttlSeconds => CacheService.set store now key value ttlSeconds
  | .get _ => store
  | .delete key => CacheBackends.delete store key
  | .deleteByPattern pattern => (CacheBackends.deleteByPattern backend scanIterator store pattern).1

/-- The store after a sequence of calls on an empty one. -/
def storeAfter (backend : CacheType) (calls : List (Call Value)) : RedisStore Value :=
  calls.foldl (Call.apply scanIterator now backend) []

/-- A call that sets the key, or that deletes by a pattern matching it. -/
def Call.sweeps (key : String) (swept : Bool) : Call Value → Bool
  | .set written _ _ => if written = key then false else swept
  | .get _ => swept
  | .delete _ => swept
  | .deleteByPattern pattern => Glob.matchesPattern pattern key || swept

/-- A pattern deletion has matched the key since it was last set. -/
def swept (key : String) (calls : List (Call Value)) : Bool := calls.foldl (Call.sweeps key) false

/-- What is assumed of the scan: it yields every matching key that is present, and
only matching keys. -/
structure Scans : Prop where
  complete : ∀ (store : RedisStore Value) pattern key,
    (CacheService.get store now key).isSome = true → Glob.matchesPattern pattern key = true →
      key ∈ scanIterator store pattern
  sound : ∀ (store : RedisStore Value) pattern, ∀ key ∈ scanIterator store pattern,
    Glob.matchesPattern pattern key = true

variable {scanIterator now}

/-- In Redis a pattern deletion takes every matching key away. That the scan yields them all is
what is assumed of it. -/
theorem get_deleteByPattern_redis (hScan : Scans scanIterator now) (store : RedisStore Value)
    (pattern key : String) :
    CacheService.get (CacheBackends.deleteByPattern .redis scanIterator store pattern).1 now key =
      if Glob.matchesPattern pattern key then none else CacheService.get store now key := by
  rw [deleteByPattern_redis, get_exec]
  by_cases hYielded : key ∈ scanIterator store pattern
  · rw [if_pos hYielded, if_pos (hScan.sound store pattern key hYielded)]
  · rw [if_neg hYielded]
    split
    · rename_i hMatch
      by_contra hPresent
      exact hYielded (hScan.complete store pattern key (Option.isSome_iff_ne_none.mpr hPresent)
        hMatch)
    · rfl

/-- The two stores agree on every key that no pattern deletion has matched since it
was set, and Redis has nothing under the others. -/
def Related (now : Nat) (redis memory : RedisStore Value) (gone : String → Bool) : Prop :=
  ∀ key, CacheService.get redis now key =
    if gone key then none else CacheService.get memory now key

/-- One call keeps the relation. A pattern deletion is where the two stores part: Redis loses the
matching keys and the memory keeps them. -/
theorem related_apply (hScan : Scans scanIterator now) {redis memory : RedisStore Value}
    {gone : String → Bool} (h : Related now redis memory gone) (call : Call Value) :
    Related now (call.apply scanIterator now .redis redis)
      (call.apply scanIterator now .memory memory) (fun key => call.sweeps key (gone key)) := by
  intro key
  cases call with
  | set written value ttlSeconds =>
      by_cases hKey : written = key
      · subst hKey
        simp only [Call.apply, Call.sweeps, if_pos]
        exact get_set_same redis memory written value now ttlSeconds
      · simp only [Call.apply, Call.sweeps, if_neg hKey]
        rw [get_set_other redis (Ne.symm hKey), get_set_other memory (Ne.symm hKey), h key]
  | get read => exact h key
  | delete deleted =>
      simp only [Call.apply, Call.sweeps, get_delete, h key]
      split <;> split <;> rfl
  | deleteByPattern pattern =>
      show CacheService.get (deleteByPattern .redis scanIterator redis pattern).1 now key = _
      rw [get_deleteByPattern_redis hScan, h key]
      cases hMatch : Glob.matchesPattern pattern key <;> simp [Call.sweeps, Call.apply,
        deleteByPattern, hMatch]

theorem related_foldl (hScan : Scans scanIterator now) (calls : List (Call Value))
    {redis memory : RedisStore Value} {gone : String → Bool}
    (h : Related now redis memory gone) :
    Related now (calls.foldl (Call.apply scanIterator now .redis) redis)
      (calls.foldl (Call.apply scanIterator now .memory) memory)
      (fun key => calls.foldl (Call.sweeps key) (gone key)) := by
  induction calls generalizing redis memory gone with
  | nil => exact h
  | cons call rest ih => exact ih (related_apply hScan h call)

/-- What a read finds in Redis is what it finds in memory, except under the keys that a pattern
deletion has swept since they were last set. -/
theorem get_storeAfter (hScan : Scans scanIterator now) (calls : List (Call Value))
    (key : String) :
    CacheService.get (storeAfter scanIterator now .redis calls) now key =
      if swept key calls then none
      else CacheService.get (storeAfter scanIterator now .memory calls) now key := by
  have hEmpty : Related now ([] : RedisStore Value) [] (fun _ => false) := fun _ => rfl
  exact related_foldl hScan calls hEmpty key

/-- The call does not set the key. -/
def Call.Spares (key : String) : Call Value → Prop
  | .set written _ _ => written ≠ key
  | .get _ => True
  | .delete _ => True
  | .deleteByPattern _ => True

theorem sweeps_of_spares {key : String} {call : Call Value} (h : call.Spares key) :
    call.sweeps key true = true := by
  cases call with
  | set written value ttlSeconds => simp [Call.sweeps, Call.Spares] at h ⊢; exact h
  | get _ => rfl
  | delete _ => rfl
  | deleteByPattern pattern => simp [Call.sweeps]

/-- A key stays swept after a matching deletion, as long as it is not set again. What was called
before the deletion does not matter. -/
theorem swept_of_matches {key pattern : String} (hMatch : Glob.matchesPattern pattern key = true)
    (before : List (Call Value)) {later : List (Call Value)}
    (hLater : ∀ call ∈ later, call.Spares key) :
    swept key (before ++ .deleteByPattern pattern :: later) = true := by
  have hKept : later.foldl (Call.sweeps key) true = true := by
    induction later with
    | nil => rfl
    | cons call rest ih =>
        rw [List.foldl_cons, sweeps_of_spares (hLater call List.mem_cons_self)]
        exact ih fun c hc => hLater c (List.mem_cons_of_mem _ hc)
  simpa [swept, Call.sweeps, hMatch] using hKept

/-- Reads agree on the two stores except for keys that a pattern deletion has matched
since they were last set: Redis has removed them, and the memory store, on which this
deletion does nothing, has kept them. -/
theorem get_backends (hScan : Scans scanIterator now) (calls : List (Call Value)) :
    (∀ key, CacheService.get (storeAfter scanIterator now .redis calls) now key =
      if swept key calls then none
      else CacheService.get (storeAfter scanIterator now .memory calls) now key) ∧
    (∀ pattern, CacheBackends.deleteByPattern .memory scanIterator
      (storeAfter scanIterator now .memory calls) pattern =
        (storeAfter scanIterator now .memory calls, 0)) ∧
    ∀ pattern later key, Glob.matchesPattern pattern key = true →
      (∀ call ∈ later, call.Spares key) →
        CacheService.get (storeAfter scanIterator now .redis
          (calls ++ .deleteByPattern pattern :: later)) now key = none := by
  refine ⟨get_storeAfter hScan calls, fun _ => rfl, ?_⟩
  intro pattern later key hMatch hLater
  rw [get_storeAfter hScan, if_pos (swept_of_matches hMatch calls hLater)]

end Sequences

/-- A scan that yields the keys in the order of the store. -/
def scanInOrder (store : RedisStore Nat) (pattern : String) : List String :=
  (store.map RedisEntry.key).filter (Glob.matchesPattern pattern)

theorem scans_scanInOrder (now : Nat) : Scans scanInOrder now where
  complete store pattern key hPresent hMatch := by
    obtain ⟨value, hValue⟩ := Option.isSome_iff_exists.mp hPresent
    obtain ⟨e, hFound, -⟩ := Option.map_eq_some_iff.mp hValue
    have hKey := List.find?_some hFound
    simp only [decide_eq_true_eq] at hKey
    exact List.mem_filter.mpr
      ⟨List.mem_map.mpr ⟨e, List.mem_of_find?_eq_some hFound, hKey.1⟩, hMatch⟩
  sound store pattern key hYielded := (List.mem_filter.mp hYielded).2

/-- A portfolio is cached and its address invalidated. -/
def invalidated : List (Call Nat) :=
  [.set "portfolio:ethereum:1:0xab:alchemy" 7 none, .deleteByPattern "portfolio:ethereum:1:0xab*"]

theorem get_backends_invalidated :
    CacheService.get (storeAfter scanInOrder 0 .redis
      (invalidated ++ [.deleteByPattern "portfolio:*"])) 0 "portfolio:ethereum:1:0xab:alchemy" =
        none :=
  (get_backends (scans_scanInOrder 0) invalidated).2.2 "portfolio:*" []
    "portfolio:ethereum:1:0xab:alchemy" (by decide +kernel) (by simp)

/-- In memory it is still read, because the pattern deletion does nothing there. The reader is given
the portfolio from before the invalidation. -/
theorem invalidated_differs :
    CacheService.get (storeAfter scanInOrder 0 .redis invalidated) 0
        "portfolio:ethereum:1:0xab:alchemy" = none ∧
      CacheService.get (storeAfter scanInOrder 0 .memory invalidated) 0
        "portfolio:ethereum:1:0xab:alchemy" = some 7 := by
  decide +kernel

end BalanceKit.CacheBackends
