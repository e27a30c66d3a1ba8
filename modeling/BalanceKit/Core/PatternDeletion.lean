import BalanceKit.Core.CacheBackends
import BalanceKit.Core.CacheMongo
import Mathlib.Data.List.Dedup

/-! `deleteByPattern` when the scan or a batch fails on the way, and the notification
that the handler of an address activity sends after it. -/
namespace BalanceKit

structure AddressCacheInvalidatedEvent where
  chain : ChainName
  chainId : Nat
  address : String
  cacheKey : String
  cachePattern : String
  timestamp : Nat
  deriving DecidableEq

/-- The event that `emitAddressCacheInvalidated` emits. -/
def NotificationService.emitAddressCacheInvalidated (now : Nat) (chain : ChainName)
    (chainId : Nat) (address : String) : AddressCacheInvalidatedEvent where
  chain := chain
  chainId := chainId
  address := address
  cacheKey := "portfolio:" ++ chain.value ++ ":" ++ toString chainId ++ ":" ++ address
  cachePattern := "portfolio:" ++ chain.value ++ ":" ++ toString chainId ++ ":" ++ address ++ "*"
  timestamp := now

/-- One result of `Promise.allSettled`. -/
inductive Settled where
  | fulfilled (count : Nat)
  | rejected
  deriving DecidableEq

/-- What `handleAddressActivity` emits once both invalidations have settled. Their
results are only logged. -/
def CacheMongoService.notifications (now : Nat) (event : AddressActivityEvent)
    (_mongoResult _redisResult : Settled) : List AddressCacheInvalidatedEvent :=
  if event.action = some "cache_invalidated" then []
  else
    [NotificationService.emitAddressCacheInvalidated now event.chain event.chainId event.address]

namespace PatternDeletion
open CacheBackends

variable {Value : Type*}

/-- A `MULTI` is executed and answered, executed without an answer, or not executed. -/
inductive Reply where
  | answered | lost | refused
  deriving DecidableEq

/-- The keys that the iterator yields, and whether it throws after them. -/
structure Scan where
  keys : List String
  throws : Bool

/-- The local variables of the loop, and the number of batches sent. -/
structure Progress (Value : Type*) where
  deletion : Deletion Value
  sent : Nat

section Loop
variable (replies : Nat → Reply)

/-- `await batch.exec()`. When it throws, what is left of the store. -/
def Progress.send (p : Progress Value) : Except (RedisStore Value) (Progress Value) :=
  match replies p.sent with
  | .answered => .ok ⟨⟨exec p.deletion.store p.deletion.batch, [], 0, p.deletion.total⟩, p.sent + 1⟩
  | .lost => .error (exec p.deletion.store p.deletion.batch)
  | .refused => .error p.deletion.store

/-- One key that the scan yields. -/
def Progress.yield (p : Progress Value) (key : String) :
    Except (RedisStore Value) (Progress Value) :=
  let queued : Progress Value :=
    ⟨⟨p.deletion.store, p.deletion.batch ++ [key], p.deletion.counter + 1, p.deletion.total + 1⟩,
      p.sent⟩
  if queued.deletion.counter ≥ 500 then queued.send replies else .ok queued

/-- What is left of the last batch is sent as well. -/
def Progress.finish (p : Progress Value) : Except (RedisStore Value) (RedisStore Value × Nat) :=
  if p.deletion.counter = 0 then .ok (p.deletion.store, p.deletion.total)
  else (p.send replies).map fun last => (last.deletion.store, last.deletion.total)

/-- The `try` block of `deleteByPattern`. -/
def attempt (scan : Scan) (store : RedisStore Value) :
    Except (RedisStore Value) (RedisStore Value × Nat) :=
  (scan.keys.foldlM (Progress.yield replies) ⟨⟨store, [], 0, 0⟩, 0⟩).bind fun p =>
    if scan.throws then .error p.deletion.store else p.finish replies

/-- Every error is caught and turned into the count zero. -/
def deleteByPattern (connected : Bool) (scan : Scan) (store : RedisStore Value) :
    RedisStore Value × Nat :=
  if connected then
    match attempt replies scan store with
    | .ok result => result
    | .error left => (left, 0)
  else (store, 0)

end Loop

/-- The `try` block ends without an error. -/
def Succeeds (replies : Nat → Reply) (scan : Scan) (store : RedisStore Value) : Prop :=
  ∃ result, attempt replies scan store = .ok result

/-- What a caller may rely on: without a failure every yielded key is unlinked and each
is counted once, no failure looks like a success, and a notification means that both
invalidations succeeded. -/
structure Honest (replies : Nat → Reply) (scan : Scan) (store : RedisStore Value)
    (event : AddressActivityEvent) (now : Nat) (mongoResult : Settled) : Prop where
  complete : Succeeds replies scan store →
    deleteByPattern replies true scan store = (exec store scan.keys, scan.keys.dedup.length)
  told : ¬ Succeeds replies scan store →
    ∀ (replies' : Nat → Reply) (scan' : Scan) (store' : RedisStore Value),
      Succeeds replies' scan' store' →
        (deleteByPattern replies true scan store).2 ≠ (deleteByPattern replies' true scan' store').2
  announced : CacheMongoService.notifications now event mongoResult
      (.fulfilled (deleteByPattern replies true scan store).2) ≠ [] →
    Succeeds replies scan store ∧ mongoResult ≠ .rejected

/-- The iterator does not throw, and every batch is answered. -/
def Undisturbed (replies : Nat → Reply) (scan : Scan) : Prop :=
  scan.throws = false ∧ ∀ j < (scan.keys.length + 499) / 500, replies j = .answered

section Batches
variable {replies : Nat → Reply}

/-- The loop after a key whose batch, if it is sent, is answered. -/
def Progress.next (p : Progress Value) (key : String) : Progress Value :=
  ⟨p.deletion.yield key, if 500 ≤ p.deletion.counter + 1 then p.sent + 1 else p.sent⟩

theorem counter_yield {d : Deletion Value} (h : d.counter < 500) (key : String) :
    (d.yield key).counter = (d.counter + 1) % 500 := by
  by_cases hFull : 500 ≤ d.counter + 1
  · rw [Deletion.yield, if_pos hFull]
    show 0 = (d.counter + 1) % 500
    omega
  · rw [Deletion.yield, if_neg hFull]
    show d.counter + 1 = (d.counter + 1) % 500
    omega

theorem counter_yield_lt {d : Deletion Value} (h : d.counter < 500) (key : String) :
    (d.yield key).counter < 500 := by
  rw [counter_yield h]
  omega

/-- The counter runs from zero to five hundred. Where it stands is the number of keys yielded so
far, modulo the size of a batch. -/
theorem counter_foldl (keys : List String) {d : Deletion Value} (h : d.counter < 500) :
    (keys.foldl Deletion.yield d).counter = (d.counter + keys.length) % 500 := by
  induction keys generalizing d with
  | nil => exact (Nat.mod_eq_of_lt h).symm
  | cons key rest ih =>
      rw [List.foldl_cons, List.length_cons, ih (counter_yield_lt h key), counter_yield h]
      omega

/-- The batches sent once the next key and some more are queued. -/
theorem sent_next {p : Progress Value} (h : p.deletion.counter < 500) (key : String) (more : Nat) :
    (p.next key).sent + ((p.next key).deletion.counter + more) / 500 =
      p.sent + (p.deletion.counter + (more + 1)) / 500 := by
  have hCounter : (p.next key).deletion.counter = (p.deletion.counter + 1) % 500 :=
    counter_yield h key
  have hSent : (p.next key).sent =
      if 500 ≤ p.deletion.counter + 1 then p.sent + 1 else p.sent := rfl
  rw [hCounter, hSent]
  split <;> omega

/-- A batch that is answered is executed, and the next one begins empty. What was deleted by earlier
batches stays deleted. -/
theorem send_answered {p : Progress Value} (h : replies p.sent = .answered) :
    p.send replies =
      .ok ⟨⟨exec p.deletion.store p.deletion.batch, [], 0, p.deletion.total⟩, p.sent + 1⟩ := by
  rw [Progress.send, h]

theorem send_error {p : Progress Value} (h : replies p.sent ≠ .answered) :
    ∃ left, p.send replies = .error left := by
  unfold Progress.send
  cases hReply : replies p.sent with
  | answered => exact absurd hReply h
  | lost => exact ⟨_, rfl⟩
  | refused => exact ⟨_, rfl⟩

/-- A key whose batch is not full is only collected; one that fills it sends it. -/
theorem yield_ok {p : Progress Value}
    (h : 500 ≤ p.deletion.counter + 1 → replies p.sent = .answered) (key : String) :
    p.yield replies key = .ok (p.next key) := by
  unfold Progress.yield Progress.next Deletion.yield
  by_cases hFull : 500 ≤ p.deletion.counter + 1
  · rw [if_pos hFull, if_pos hFull, if_pos hFull]
    exact send_answered (h hFull)
  · rw [if_neg hFull, if_neg hFull, if_neg hFull]

theorem yield_error {p : Progress Value}
    (h : ¬ (500 ≤ p.deletion.counter + 1 → replies p.sent = .answered)) (key : String) :
    ∃ left, p.yield replies key = .error left := by
  obtain ⟨hFull, hReply⟩ := Classical.not_imp.mp h
  rw [Progress.yield, if_pos hFull]
  exact send_error hReply

/-- As long as the batches are answered the loop does what it does without failures. So everything
that is known of the undisturbed deletion holds of it. -/
theorem foldlM_answered (keys : List String) {p : Progress Value} (h : p.deletion.counter < 500)
    (hAnswered : ∀ j, p.sent ≤ j → j < p.sent + (p.deletion.counter + keys.length) / 500 →
      replies j = .answered) :
    keys.foldlM (Progress.yield replies) p =
      .ok ⟨keys.foldl Deletion.yield p.deletion,
        p.sent + (p.deletion.counter + keys.length) / 500⟩ := by
  induction keys generalizing p with
  | nil =>
      rw [List.length_nil, Nat.add_zero, Nat.div_eq_of_lt h]
      rfl
  | cons key rest ih =>
      rw [List.length_cons] at hAnswered ⊢
      have hFirst : 500 ≤ p.deletion.counter + 1 → replies p.sent = .answered :=
        fun hFull => hAnswered p.sent (le_refl _) (by omega)
      have hLater : ∀ j, (p.next key).sent ≤ j →
          j < (p.next key).sent + ((p.next key).deletion.counter + rest.length) / 500 →
            replies j = .answered := by
        intro j hLow hHigh
        rw [sent_next h] at hHigh
        refine hAnswered j (le_trans ?_ hLow) hHigh
        unfold Progress.next
        split
        · exact Nat.le_succ p.sent
        · exact le_refl p.sent
      rw [List.foldlM_cons, yield_ok hFirst]
      refine (ih (counter_yield_lt h key) hLater).trans ?_
      rw [sent_next h]
      rfl

/-- A batch that is not answered ends the loop. The batches before that one have been executed, and
their deletions are not taken back. -/
theorem foldlM_error (keys : List String) {p : Progress Value} (h : p.deletion.counter < 500)
    {j : Nat} (hLow : p.sent ≤ j) (hHigh : j < p.sent + (p.deletion.counter + keys.length) / 500)
    (hReply : replies j ≠ .answered) :
    ∃ left, keys.foldlM (Progress.yield replies) p = .error left := by
  induction keys generalizing p with
  | nil =>
      rw [List.length_nil, Nat.add_zero, Nat.div_eq_of_lt h] at hHigh
      omega
  | cons key rest ih =>
      rw [List.length_cons] at hHigh
      rw [List.foldlM_cons]
      by_cases hFirst : 500 ≤ p.deletion.counter + 1 → replies p.sent = .answered
      · rw [yield_ok hFirst]
        refine ih (counter_yield_lt h key) ?_ (by rw [sent_next h]; exact hHigh)
        unfold Progress.next
        split
        · rename_i hFull
          have hOther : j ≠ p.sent := by
            rintro rfl
            exact hReply (hFirst hFull)
          show p.sent + 1 ≤ j
          omega
        · exact hLow
      · obtain ⟨left, hLeft⟩ := yield_error hFirst key
        exact ⟨left, by rw [hLeft]; rfl⟩

end Batches

section Attempts
variable {replies : Nat → Reply} {scan : Scan} {store : RedisStore Value}

/-- Undisturbed, the deletion is the one without failures. -/
theorem attempt_undisturbed (h : Undisturbed replies scan) :
    attempt replies scan store = .ok (exec store scan.keys, scan.keys.length) := by
  obtain ⟨hThrows, hAnswered⟩ := h
  have hLoop := @foldlM_answered Value replies scan.keys ⟨⟨store, [], 0, 0⟩, 0⟩ (by simp)
    fun j _ hHigh => hAnswered j (by simp only at hHigh; omega)
  have hCounter := counter_foldl scan.keys (by simp : (⟨store, [], 0, 0⟩ : Deletion Value).counter < 500)
  have hEnd := (pending_foldl scan.keys
    (⟨rfl, rfl, rfl⟩ : (⟨store, [], 0, 0⟩ : Deletion Value).Pending store [])).finish
  simp only [Nat.zero_add] at hLoop hCounter
  rw [List.nil_append] at hEnd
  rw [attempt, hLoop, ← hEnd]
  show (if scan.throws = true then _ else _) = _
  rw [hThrows, if_neg Bool.false_ne_true, Progress.finish, Deletion.finish, hCounter]
  by_cases hWhole : scan.keys.length % 500 = 0
  · rw [if_pos hWhole, if_pos hWhole]
  · rw [if_neg hWhole, if_neg hWhole, send_answered (hAnswered _ (by simp only; omega))]
    rfl

/-- With a scan that throws, or a batch that is not answered, the attempt fails. The keys of the
last batch are sent after the scan has ended. -/
theorem attempt_disturbed (h : ¬ Undisturbed replies scan) :
    ∃ left, attempt replies scan store = .error left := by
  by_cases hLoop : ∀ j < scan.keys.length / 500, replies j = .answered
  · have hRun := @foldlM_answered Value replies scan.keys ⟨⟨store, [], 0, 0⟩, 0⟩ (by simp)
      fun j _ hHigh => hLoop j (by simp only at hHigh; omega)
    have hCounter := counter_foldl scan.keys
      (by simp : (⟨store, [], 0, 0⟩ : Deletion Value).counter < 500)
    simp only [Nat.zero_add] at hRun hCounter
    rw [attempt, hRun]
    by_cases hThrows : scan.throws = true
    · exact ⟨_, if_pos hThrows⟩
    · -- The loop is over, so it is the last batch that is not answered.
      simp only [Undisturbed, Bool.eq_false_iff.mpr hThrows, true_and, not_forall] at h
      obtain ⟨j, hj, hReply⟩ := h
      have hLast : j = scan.keys.length / 500 := by
        by_contra hOther
        exact hReply (hLoop j (by omega))
      have hRest : scan.keys.length % 500 ≠ 0 := by omega
      obtain ⟨left, hLeft⟩ := @send_error Value replies
        ⟨scan.keys.foldl Deletion.yield ⟨store, [], 0, 0⟩, scan.keys.length / 500⟩
        (by rw [← hLast]; exact hReply)
      refine ⟨left, ?_⟩
      show (if scan.throws = true then _ else _) = _
      rw [if_neg hThrows, Progress.finish, hCounter, if_neg hRest, hLeft]
      rfl
  · simp only [not_forall] at hLoop
    obtain ⟨j, hj, hReply⟩ := hLoop
    obtain ⟨left, hLeft⟩ := @foldlM_error Value replies scan.keys ⟨⟨store, [], 0, 0⟩, 0⟩
      (by simp) j (Nat.zero_le j) (by simp only; omega) hReply
    exact ⟨left, by rw [attempt, hLeft]; rfl⟩

theorem succeeds_iff : Succeeds replies scan store ↔ Undisturbed replies scan := by
  constructor
  · rintro ⟨result, hResult⟩
    by_contra hDisturbed
    obtain ⟨left, hLeft⟩ := @attempt_disturbed Value replies scan store hDisturbed
    rw [hResult] at hLeft
    cases hLeft
  · exact fun h => ⟨_, attempt_undisturbed h⟩

/-- If nothing disturbs the scan, the deletion deletes every key that was yielded, and counts them
all. -/
theorem deleteByPattern_undisturbed (h : Undisturbed replies scan) :
    deleteByPattern replies true scan store = (exec store scan.keys, scan.keys.length) := by
  rw [deleteByPattern, if_pos rfl, attempt_undisturbed h]

/-- A failure is reported as a deletion of nothing. The keys of the batches that were executed
before are deleted nevertheless. -/
theorem deleteByPattern_disturbed (h : ¬ Undisturbed replies scan) :
    (deleteByPattern replies true scan store).2 = 0 := by
  obtain ⟨left, hLeft⟩ := @attempt_disturbed Value replies scan store h
  rw [deleteByPattern, if_pos rfl, hLeft]

end Attempts

theorem length_dedup_iff {keys : List String} : keys.length = keys.dedup.length ↔ keys.Nodup := by
  constructor
  · intro hLength
    rw [← List.dedup_eq_self]
    exact (List.dedup_sublist keys).eq_of_length hLength.symm
  · intro hNodup
    rw [List.dedup_eq_self.mpr hNodup]

/-- The deletion and its notification can be relied on exactly when nothing fails, the
scan repeats no key, and Mongo succeeds too or nothing is announced. -/
theorem honest_iff (replies : Nat → Reply) (scan : Scan) (store : RedisStore Value)
    (event : AddressActivityEvent) (now : Nat) (mongoResult : Settled) :
    Honest replies scan store event now mongoResult ↔
      Undisturbed replies scan ∧ scan.keys.Nodup ∧
        (event.action = some "cache_invalidated" ∨ mongoResult ≠ .rejected) := by
  constructor
  · intro h
    have hUndisturbed : Undisturbed replies scan := by
      by_contra hDisturbed
      -- An empty scan succeeds with the same count.
      have hEmpty : Undisturbed replies ⟨[], false⟩ := ⟨rfl, fun j hj => by simp at hj⟩
      apply h.told (mt succeeds_iff.mp hDisturbed) replies ⟨[], false⟩ store
        (succeeds_iff.mpr hEmpty)
      rw [deleteByPattern_disturbed hDisturbed, deleteByPattern_undisturbed hEmpty]
      rfl
    have hComplete := h.complete (succeeds_iff.mpr hUndisturbed)
    rw [deleteByPattern_undisturbed hUndisturbed] at hComplete
    refine ⟨hUndisturbed, length_dedup_iff.mp (Prod.mk.inj hComplete).2, ?_⟩
    by_cases hMarked : event.action = some "cache_invalidated"
    · exact .inl hMarked
    · refine .inr (h.announced ?_).2
      rw [CacheMongoService.notifications, if_neg hMarked]
      exact List.cons_ne_nil _ _
  · rintro ⟨hUndisturbed, hNodup, hMongo⟩
    refine ⟨fun _ => ?_, fun hFails => absurd (succeeds_iff.mpr hUndisturbed) hFails, ?_⟩
    · rw [deleteByPattern_undisturbed hUndisturbed, length_dedup_iff.mpr hNodup]
    · intro hAnnounced
      refine ⟨succeeds_iff.mpr hUndisturbed, hMongo.resolve_left fun hMarked => hAnnounced ?_⟩
      rw [CacheMongoService.notifications, if_pos hMarked]

/-- An activity of a wallet, and an iterator that throws at once. -/
def walletActivity : AddressActivityEvent := ⟨.ethereum, 1, "0xab", none⟩

def brokenScan : Scan := ⟨[], true⟩

/-- The failure is counted as nothing to delete, and is announced. -/
theorem not_honest_brokenScan :
    ¬ Honest (fun _ => .answered) brokenScan ([] : RedisStore Nat) walletActivity 0
      (.fulfilled 1) := by
  intro h
  obtain ⟨result, hResult⟩ := (h.announced (List.cons_ne_nil _ _)).1
  cases hResult

end PatternDeletion

end BalanceKit
