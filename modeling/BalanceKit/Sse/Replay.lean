import BalanceKit.Sse.Events
import Mathlib.Data.List.Nodup

/-! What a reconnecting client is replayed. Each publication is stored twice, so
the buffer spans fifty publications and a replay starts with the second copy of
the event that the client already has. -/
namespace BalanceKit.Sse

def publishedEvents (publications : List Publication) : List CacheInvalidateEvent :=
  publications.map Publication.event

/-- The client that saw `p` last is replayed the later events, once each and in
order. -/
def ExactReplay (earlier : List Publication) (p : Publication) (later : List Publication) : Prop :=
  replayEvents (buffer (publishedEvents (earlier ++ p :: later))) (some p.event.id) =
    (publishedEvents later).map formatCacheEvent

/-- The buffer holds the last hundred events. -/
def ExactBuffer (publications : List Publication) : Prop :=
  buffer (publishedEvents publications) = (publishedEvents publications).rtake maxStoredEvents

instance (earlier : List Publication) (p : Publication) (later : List Publication) :
    Decidable (ExactReplay earlier p later) :=
  inferInstanceAs (Decidable (_ = _))

instance (publications : List Publication) : Decidable (ExactBuffer publications) :=
  inferInstanceAs (Decidable (_ = _))

theorem present_id (p : Publication) : Text.present (some p.event.id) = some p.event.id := by
  refine Text.present_some ?_
  simp [Publication.event, String.append_eq_empty_iff]

theorem nodup_ids {publications : List Publication}
    (hUnique : (publications.map Publication.uuid).Nodup) :
    ((publishedEvents publications).map CacheInvalidateEvent.id).Nodup := by
  have hIds : (publishedEvents publications).map CacheInvalidateEvent.id =
      (publications.map Publication.uuid).map fun uuid => "c-" ++ uuid := by
    simp [publishedEvents, Publication.event, Function.comp_def]
  rw [hIds]
  exact hUnique.map fun first second h => by simpa using h

section Clients
variable {earlier later : List CacheInvalidateEvent} {e : CacheInvalidateEvent}

/-- Fewer than fifty events later the event is still in the buffer. Each event takes two of the
hundred places. -/
theorem kept_recent (hLater : later.length < 50) :
    ∃ before, before <:+ earlier ∧ kept (earlier ++ e :: later) = before ++ e :: later := by
  refine ⟨earlier.drop ((earlier ++ e :: later).length - 50), List.drop_suffix _ _, ?_⟩
  rw [kept, List.rtake, List.drop_append_of_le_length]
  simp only [List.length_append, List.length_cons]
  omega

/-- Fifty events later only later ones are. The client is then sent nothing, as if its event had
never been published. -/
theorem kept_old (hLater : 50 ≤ later.length) : kept (earlier ++ e :: later) = kept later := by
  rw [List.append_cons, kept, kept, List.rtake, List.rtake, List.drop_append,
    List.drop_eq_nil_of_le, List.nil_append]
  · congr 1
    simp only [List.length_append, List.length_singleton]
    omega
  · simp only [List.length_append, List.length_singleton]
    omega

/-- A client is replayed its last event and every later one twice, or the whole
buffer. -/
theorem length_getEventsSince (hUnique : ((earlier ++ e :: later).map CacheInvalidateEvent.id).Nodup) :
    (getEventsSince (buffer (earlier ++ e :: later)) e.id).length =
      if later.length < 50 then 2 * later.length + 1 else maxStoredEvents := by
  simp only [List.map_append, List.map_cons, List.nodup_append, List.nodup_cons, List.mem_map,
    List.mem_cons] at hUnique
  obtain ⟨-, ⟨hLaterIds, -⟩, hDistinct⟩ := hUnique
  have hEarlierIds : ∀ d ∈ earlier, d.id ≠ e.id := fun d hd =>
    hDistinct _ ⟨d, hd, rfl⟩ _ (.inl rfl)
  rw [getEventsSince_buffer]
  by_cases hLater : later.length < 50
  · obtain ⟨before, hBefore, hKept⟩ := @kept_recent earlier later e hLater
    have hBeforeIds : ∀ d ∈ before, d.id ≠ e.id := fun d hd =>
      hEarlierIds d (hBefore.subset hd)
    have hFind : (kept (earlier ++ e :: later)).find? (fun d => d.id == e.id) = some e :=
      List.find?_eq_some_iff_append.mpr
        ⟨by simp, before, later, hKept, by simpa using hBeforeIds⟩
    rw [hFind, hKept, RecentLog.since_append_cons hBeforeIds, if_pos hLater]
    simp
  · have hGone : ∀ d ∈ kept later, d.id ≠ e.id := fun d hd hSame =>
      hLaterIds ⟨d, List.mem_of_mem_drop hd, hSame⟩
    have hFind : (kept later).find? (fun d => d.id == e.id) = none := by simpa using hGone
    rw [kept_old (by omega), hFind, RecentLog.since_of_forall_ne hGone, if_neg hLater]
    simp only [kept, List.rtake, Option.toList_none, List.nil_append, length_doubled,
      List.length_drop, maxStoredEvents]
    omega

end Clients

/-- No client that names one of the last hundred events is replayed exactly the
later ones, and the buffer never holds exactly the last hundred events. -/
theorem not_exactReplay {earlier later : List Publication} {p : Publication}
    (hUnique : ((earlier ++ p :: later).map Publication.uuid).Nodup)
    (hRecent : later.length < maxStoredEvents) :
    ¬ ExactReplay earlier p later ∧ ¬ ExactBuffer (earlier ++ p :: later) := by
  have hIds := nodup_ids hUnique
  have hSplit : publishedEvents (earlier ++ p :: later) =
      publishedEvents earlier ++ p.event :: publishedEvents later := by
    simp [publishedEvents]
  constructor
  · intro hExact
    have hLength := congrArg List.length hExact
    rw [hSplit] at hLength hIds
    rw [replayEvents, present_id] at hLength
    simp only [List.length_map, length_getEventsSince hIds] at hLength
    rw [publishedEvents, List.length_map] at hLength
    split at hLength <;> omega
  · intro hExact
    have hNodup : (buffer (publishedEvents (earlier ++ p :: later))).Nodup := by
      rw [hExact]
      exact (hIds.of_map _).sublist (List.drop_sublist _ _)
    rw [buffer_eq_doubled] at hNodup
    cases hKept : kept (publishedEvents (earlier ++ p :: later)) with
    | nil =>
        have hNone := congrArg List.length hKept
        rw [hSplit] at hNone
        simp only [kept, List.rtake, List.length_drop, List.length_append, List.length_cons,
          List.length_nil] at hNone
        omega
    | cons e rest =>
        rw [hKept, doubled_cons, List.nodup_cons] at hNodup
        exact hNodup.1 (List.mem_cons_self ..)

def firstPublication : Publication := ⟨"portfolio:ethereum:1:0xab", none, none, 1000, "1"⟩
def secondPublication : Publication := ⟨"portfolio:ethereum:1:0xcd", none, none, 2000, "2"⟩

theorem not_exactReplay_first :
    [secondPublication].length < maxStoredEvents ∧
      ¬ ExactReplay [] firstPublication [secondPublication] ∧
        ¬ ExactBuffer [firstPublication, secondPublication] :=
  ⟨by decide, @not_exactReplay [] [secondPublication] firstPublication (by decide) (by decide)⟩

/-- A client that reconnects with the id of the only publication gets it again. The search finds the
first copy, and the second one is behind it. -/
theorem replay_onlyPublication :
    ¬ ExactReplay [] firstPublication [] ∧
      replayEvents (buffer [firstPublication.event]) (some firstPublication.event.id) =
        [formatCacheEvent firstPublication.event] ∧
      ¬ ExactBuffer [firstPublication] := by
  decide

end BalanceKit.Sse
