import BalanceKit.Core.SnapshotIndex
import BalanceKit.Library.Documents
import BalanceKit.Library.Runs

/-! The history of the portfolios. A save upserts the snapshot first and records what it
got back afterwards, so the saves of one address interleave between the two. -/
namespace BalanceKit

structure PortfolioHistoryMeta where
  chainId : Nat
  address : String
  provider : Option String
  deriving DecidableEq

/-- A document of `portfolio_history`. -/
structure PortfolioHistory where
  updatedAt : Nat
  metadata : PortfolioHistoryMeta
  chain : ChainName
  native : Js
  fungibles : Js
  nfts : Js
  blockNumber : Js
  schemaVer : Js

namespace PortfolioHistory
open TransitionSystem DbService

/-- The record of a save, from the snapshot that the upsert returned. -/
def record (now : Nat) (save : Save) (snapshot : PortfolioSnapshot) : PortfolioHistory :=
  ⟨now, ⟨save.chainId, save.address, Text.present save.provider⟩, save.chain,
    snapshot.data.get "native", (snapshot.data.get "fungibles").orElse (.arr []),
    (snapshot.data.get "nfts").orElse (.arr []), (snapshot.data.get "blockNumber").orElse (.num 0),
    (snapshot.data.get "schemaVer").orElse (.num 1)⟩

/-- A record without a native balance is skipped. -/
def hasNative (snapshot : PortfolioSnapshot) : Bool := (snapshot.data.get "native").truthy

/-- A running `savePortfolioSnapshot`, with what it recorded when it is done. -/
structure Saving where
  save : Save
  snapshot : PortfolioSnapshot
  savedAt : Nat
  done : Bool
  recorded : Option PortfolioHistory

structure State where
  now : Nat
  snapshots : List PortfolioSnapshot
  history : List PortfolioHistory
  savings : List Saving

def State.init : State := ⟨0, [], [], []⟩

inductive Action where
  | savePortfolioSnapshot (save : Save)
  | createRecord (i : Nat) (created : Bool)
  | invalidateAddressSnapshot (chain : ChainName) (chainId : Nat) (address : String)
  | removeExpired (i : Nat)
  | clock (now : Nat)

namespace State
variable (s : State)

def setSaving (i : Nat) (saving : Saving) : State :=
  { s with savings := s.savings.set i saving }

/-- The second half of a save. A record that cannot be created is only logged. -/
def createRecord (i : Nat) (saving : Saving) (created : Bool) : State :=
  if hasNative saving.snapshot && created then
    { s.setSaving i { saving with
        done := true
        recorded := some (record s.now saving.save saving.snapshot) } with
      history := s.history ++ [record s.now saving.save saving.snapshot] }
  else s.setSaving i { saving with done := true }

end State

/-- A save that throws records nothing. Expired snapshots are removed by the index at any later
time. -/
def step (s : State) : Action → Option State
  | .savePortfolioSnapshot save =>
      match save.run s.snapshots s.now with
      | some snapshots =>
          some { s with
            snapshots := snapshots
            savings := s.savings ++
              [⟨save, save.written s.snapshots s.now, s.now, false, none⟩] }
      | none => some s
  | .createRecord i created =>
      match s.savings[i]? with
      | some saving => if saving.done then none else some (s.createRecord i saving created)
      | none => none
  | .invalidateAddressSnapshot chain chainId address =>
      some { s with
        snapshots := DbService.invalidateAddressSnapshot s.snapshots s.now chain chainId address }
  | .removeExpired i =>
      match s.snapshots[i]? with
      | some d =>
          if d.expiresAt ≤ s.now then some { s with snapshots := s.snapshots.eraseIdx i } else none
      | none => none
  | .clock now => if s.now ≤ now then some { s with now := now } else none

/-- A time of the window; an end that is not given does not restrict. -/
def inWindow (startTime endTime : Option Nat) (time : Nat) : Bool :=
  startTime.all (fun start => decide (start ≤ time)) &&
    endTime.all fun last => decide (time ≤ last)

/-- The query of `getPortfolioHistory`, which returns the newest hundred unless told
otherwise. -/
def getPortfolioHistory (chainId : Nat) (address : String) (provider : Option String)
    (limit startTime endTime : Option Nat) : Documents.Query PortfolioHistory where
  matching d := d.metadata.chainId == chainId && d.metadata.address == address &&
    (match Text.present provider with
      | some p => d.metadata.provider == some p
      | none => true) && inWindow startTime endTime d.updatedAt
  time := PortfolioHistory.updatedAt
  skip := 0
  limit := limit.getD 100

/-- What a snapshot and a record have in common. -/
def Shows (d : PortfolioHistory) (snapshot : PortfolioSnapshot) : Prop :=
  d.metadata.chainId = snapshot.chainId ∧ d.metadata.address = snapshot.address ∧
    d.native = snapshot.data.get "native" ∧
    d.fungibles = (snapshot.data.get "fungibles").orElse (.arr []) ∧
    d.nfts = (snapshot.data.get "nfts").orElse (.arr []) ∧
    d.blockNumber = (snapshot.data.get "blockNumber").orElse (.num 0) ∧
    d.schemaVer = (snapshot.data.get "schemaVer").orElse (.num 1)

/-- A save that recorded did so after its upsert, with what that returned. Plain data leaves
the snapshot under the chain id and the address of the arguments. -/
def Saving.Sound (now : Nat) (saving : Saving) : Prop :=
  (saving.save.Plain → saving.snapshot.chainId = saving.save.chainId ∧
    saving.snapshot.address = saving.save.address) ∧ saving.savedAt ≤ now ∧
    (saving.done = false → saving.recorded = none) ∧
    ∀ d ∈ saving.recorded, hasNative saving.snapshot = true ∧ saving.savedAt ≤ d.updatedAt ∧
      d.updatedAt ≤ now ∧ d = record d.updatedAt saving.save saving.snapshot

/-- Every stored snapshot holds what some save wrote, apart from its expiry. -/
structure Inv (s : State) : Prop where
  sound : ∀ saving ∈ s.savings, saving.Sound s.now
  history : s.history.Perm (s.savings.filterMap Saving.recorded)
  stored : ∀ d ∈ s.snapshots, ∃ saving ∈ s.savings, d.chainId = saving.snapshot.chainId ∧
    d.address = saving.snapshot.address ∧ d.data = saving.snapshot.data

theorem Inv.init : Inv State.init :=
  ⟨by simp [State.init], by simp [State.init], by simp [State.init]⟩

/-- What plain data writes is filed under the arguments. Its chain id and address are those of the
record that follows. -/
theorem written_key {save : Save} (hPlain : save.Plain) (snapshots : List PortfolioSnapshot)
    (now : Nat) :
    (save.written snapshots now).chainId = save.chainId ∧
      (save.written snapshots now).address = save.address := by
  unfold Save.written
  cases hFind : snapshots.find? save.filter with
  | some d =>
      have hMatch := List.find?_some hFind
      obtain ⟨hId, hAddress, -⟩ := Save.filter_iff.mp hMatch
      obtain ⟨hSameId, hSameAddress, -⟩ :=
        IndexKey.mk.inj (@Save.indexKey_update save now hPlain _ hMatch)
      exact ⟨hSameId.trans hId, hSameAddress.trans hAddress⟩
  | none =>
      obtain ⟨hId, hAddress, -⟩ := IndexKey.mk.inj (@Save.indexKey_insert save now hPlain)
      exact ⟨hId, hAddress⟩

/-- After a save a document is the written one or was there before. It is by this that a snapshot is
traced back to its save. -/
theorem mem_run_cases {save : Save} {snapshots after : List PortfolioSnapshot} {now : Nat}
    (hRun : save.run snapshots now = some after) {d : PortfolioSnapshot} (h : d ∈ after) :
    d = save.written snapshots now ∨ d ∈ snapshots := by
  unfold Save.written
  rcases Save.run_cases hRun with ⟨before, e, rest, rfl, -, hFind, rfl⟩ | ⟨-, hFind, rfl⟩
  · rw [hFind]
    rcases List.mem_append.mp h with hEarly | hRest
    · exact .inr (by simp [hEarly])
    · rcases List.mem_cons.mp hRest with rfl | hLate
      · exact .inl rfl
      · exact .inr (by simp [hLate])
  · rw [hFind]
    rcases List.mem_append.mp h with hOld | hNew
    · exact .inr hOld
    · exact .inl (List.mem_singleton.mp hNew)

/-- What a save has read off the clock lies in the past, and stays there. Neither the snapshot nor
the record can be from the future. -/
theorem Saving.Sound.later {now later : Nat} {saving : Saving} (h : saving.Sound now)
    (hNow : now ≤ later) : saving.Sound later := by
  obtain ⟨hKey, hSaved, hWaiting, hRecorded⟩ := h
  refine ⟨hKey, hSaved.trans hNow, hWaiting, fun d hd => ?_⟩
  obtain ⟨hNative, hAfter, hBefore, hRecord⟩ := hRecorded d hd
  exact ⟨hNative, hAfter, hBefore.trans hNow, hRecord⟩

theorem filterMap_set_perm {savings : List Saving} {i : Nat} {saving moved : Saving}
    (hSaving : savings[i]? = some saving) (hNone : saving.recorded = none) :
    ((savings.set i moved).filterMap Saving.recorded).Perm
      (savings.filterMap Saving.recorded ++ moved.recorded.toList) := by
  have hFlat : ∀ savings : List Saving, savings.filterMap Saving.recorded =
      savings.flatMap fun saving => saving.recorded.toList := by
    intro savings
    rw [List.filterMap_eq_flatMap_toList]
  rw [hFlat, hFlat]
  exact ProcessTable.flatMap_set_perm hSaving (by simp [hNone])

section Steps
variable {s t : State}

/-- A snapshot that is written is accounted for by its save, which has yet to record it. The record
will have the id of the snapshot and the time that was read before the write. -/
theorem Inv.savePortfolioSnapshot (h : Inv s) {save : Save} {snapshots : List PortfolioSnapshot}
    (hRun : save.run s.snapshots s.now = some snapshots) :
    Inv { s with
      snapshots := snapshots
      savings := s.savings ++ [⟨save, save.written s.snapshots s.now, s.now, false, none⟩] } := by
  refine ⟨?_, ?_, ?_⟩
  · intro saving hMember
    rcases List.mem_append.mp hMember with hOld | hNew
    · exact h.sound saving hOld
    · rw [List.mem_singleton.mp hNew]
      exact ⟨fun hPlain => written_key hPlain s.snapshots s.now, Nat.le_refl _, fun _ => rfl,
        by simp⟩
  · simpa using h.history
  · intro d hd
    rcases mem_run_cases hRun hd with rfl | hOld
    · exact ⟨_, List.mem_append_right _ (List.mem_singleton.mpr rfl), rfl, rfl, rfl⟩
    · obtain ⟨saving, hMember, hSame⟩ := h.stored d hOld
      exact ⟨saving, List.mem_append_left _ hMember, hSame⟩

/-- A save that ends keeps its snapshot. The snapshot was written before, and recording it does not
change it. -/
theorem stored_setSaving (h : Inv s) {i : Nat} {saving moved : Saving}
    (hSaving : s.savings[i]? = some saving) (hSame : moved.snapshot = saving.snapshot) :
    ∀ d ∈ s.snapshots, ∃ saving ∈ s.savings.set i moved, d.chainId = saving.snapshot.chainId ∧
      d.address = saving.snapshot.address ∧ d.data = saving.snapshot.data := by
  intro d hd
  obtain ⟨owner, hOwner, hShown⟩ := h.stored d hd
  have hSnapshots : (s.savings.set i moved).map Saving.snapshot = s.savings.map Saving.snapshot :=
    ProcessTable.map_set_of_eq hSaving hSame
  have hMember : owner.snapshot ∈ (s.savings.set i moved).map Saving.snapshot := by
    rw [hSnapshots]
    exact List.mem_map_of_mem hOwner
  obtain ⟨other, hOther, hEqual⟩ := List.mem_map.mp hMember
  exact ⟨other, hOther, hEqual ▸ hShown⟩

/-- The record of a save is made of what the upsert returned, at whatever time it is created. A
creation that fails leaves none. -/
theorem Inv.createRecord (h : Inv s) {i : Nat} {saving : Saving}
    (hSaving : s.savings[i]? = some saving) (hDone : saving.done = false) (created : Bool) :
    Inv (s.createRecord i saving created) := by
  obtain ⟨hKey, hSaved, hWaiting, -⟩ := h.sound saving (List.mem_of_getElem? hSaving)
  have hNone := hWaiting hDone
  unfold State.createRecord
  split
  · rename_i hCreated
    have hNative : hasNative saving.snapshot = true := (Bool.and_eq_true _ _ ▸ hCreated).1
    refine ⟨ProcessTable.forall_mem_set h.sound ?_, ?_, stored_setSaving h hSaving rfl⟩
    · refine ⟨hKey, hSaved, by simp, fun d hd => ?_⟩
      obtain rfl := Option.some.inj hd
      exact ⟨hNative, hSaved, Nat.le_refl _, rfl⟩
    · refine (h.history.append_right _).trans ?_
      exact (@filterMap_set_perm _ _ _ { saving with
        done := true
        recorded := some (record s.now saving.save saving.snapshot) } hSaving hNone).symm
  · refine ⟨ProcessTable.forall_mem_set h.sound ?_, ?_, stored_setSaving h hSaving rfl⟩
    · exact ⟨hKey, hSaved, by simp, by simp [hNone]⟩
    · refine h.history.trans ?_
      have hMoved := @filterMap_set_perm _ _ _ { saving with done := true } hSaving hNone
      have hNothing : ({ saving with done := true } : Saving).recorded.toList = [] := by
        simp [hNone]
      rw [hNothing, List.append_nil] at hMoved
      exact hMoved.symm

theorem inv_step {a : Action} (h : Inv s) (hStep : step s a = some t) : Inv t := by
  cases a with
  | savePortfolioSnapshot save =>
      simp only [step] at hStep
      split at hStep
      · rename_i snapshots hRun
        cases hStep
        exact h.savePortfolioSnapshot hRun
      · cases hStep
        exact h
  | createRecord i created =>
      simp only [step] at hStep
      split at hStep
      · rename_i saving hSaving
        split at hStep
        · cases hStep
        · rename_i hDone
          cases hStep
          exact h.createRecord hSaving (by simpa using hDone) created
      · cases hStep
  | invalidateAddressSnapshot chain chainId address =>
      cases hStep
      refine ⟨h.sound, h.history, fun d hd => ?_⟩
      obtain ⟨old, hOld, hCases⟩ := invalidateAddressSnapshot_cases hd
      obtain ⟨saving, hMember, hSame⟩ := h.stored old hOld
      refine ⟨saving, hMember, ?_⟩
      rcases hCases with rfl | rfl
      · exact hSame
      · exact hSame
  | removeExpired i =>
      simp only [step] at hStep
      split at hStep
      · split at hStep
        · cases hStep
          exact ⟨h.sound, h.history, fun d hd => h.stored d (List.mem_of_mem_eraseIdx hd)⟩
        · cases hStep
      · cases hStep
  | clock now =>
      simp only [step] at hStep
      split at hStep
      · rename_i hNow
        cases hStep
        exact ⟨fun saving hMember => (h.sound saving hMember).later hNow, h.history, h.stored⟩
      · cases hStep

end Steps

/-- A query of the history answers, newest first, with records that saves of the address left,
each showing the snapshot as its own upsert returned it; beyond the limit only records that are
not newer are left out. -/
theorem getPortfolioHistory_exact {actions : List Action} {t : State}
    (hRun : run step State.init actions = some t) (chainId : Nat) (address : String)
    (provider : Option String) (limit startTime endTime : Option Nat) {answer : List PortfolioHistory}
    (hAnswer : (getPortfolioHistory chainId address provider limit startTime endTime).Answers
      t.history answer) :
    (answer.Pairwise fun a b => b.updatedAt ≤ a.updatedAt) ∧
      (∀ d ∈ answer, ∃ saving ∈ t.savings, saving.recorded = some d ∧
        saving.save.chainId = chainId ∧ saving.save.address = address ∧
        saving.savedAt ≤ d.updatedAt ∧ inWindow startTime endTime d.updatedAt = true ∧
          d = record d.updatedAt saving.save saving.snapshot) ∧
      ∃ left, (answer ++ left).Perm ((t.savings.filterMap Saving.recorded).filter
          (getPortfolioHistory chainId address provider limit startTime endTime).matching) ∧
        (∀ a ∈ answer, ∀ d ∈ left, d.updatedAt ≤ a.updatedAt) ∧
          (left ≠ [] → answer.length = limit.getD 100) := by
  have hInv := run_invariant (fun _ _ _ => inv_step) hRun Inv.init
  refine ⟨hAnswer.newest, fun d hd => ?_, ?_⟩
  · obtain ⟨hMember, hMatch⟩ := hAnswer.mem hd
    obtain ⟨saving, hSaving, hRecorded⟩ := List.mem_filterMap.mp (hInv.history.subset hMember)
    obtain ⟨-, -, -, hSound⟩ := hInv.sound saving hSaving
    obtain ⟨-, hAfter, -, hRecord⟩ := hSound d hRecorded
    simp only [getPortfolioHistory, Bool.and_eq_true, beq_iff_eq] at hMatch
    have hMeta : d.metadata = ⟨saving.save.chainId, saving.save.address,
        Text.present saving.save.provider⟩ := by rw [hRecord]; rfl
    refine ⟨saving, hSaving, hRecorded, ?_, ?_, hAfter, hMatch.2, hRecord⟩
    · rw [← hMatch.1.1.1, hMeta]
    · rw [← hMatch.1.1.2, hMeta]
  · obtain ⟨left, hPerm, hLeft, hLength⟩ := hAnswer.left rfl
    have hAll := hPerm.trans (hInv.history.filter _)
    refine ⟨left, hAll, hLeft, fun hSome => ?_⟩
    have hPositive : 0 < left.length := List.length_pos_iff.mpr hSome
    have hTotal := hPerm.length_eq
    rw [List.length_append] at hTotal
    change answer.length = if limit.getD 100 = 0 then _ else min (limit.getD 100) _ at hLength
    split at hLength
    · omega
    · omega

/-- Two saves of one address, the first of which records last. -/
def overtakingRun : List Action :=
  [.savePortfolioSnapshot ⟨.ethereum, 1, "0xab",
      .ofPortfolio (.obj [("native", .obj [("balance", .str "1")])]), none, none⟩, .clock 5,
    .savePortfolioSnapshot ⟨.ethereum, 1, "0xab",
      .ofPortfolio (.obj [("native", .obj [("balance", .str "2")])]), none, none⟩,
    .createRecord 1 true, .clock 9, .createRecord 0 true]

/-- The second save records first, and the answer is sorted by the times all the same. -/
theorem getPortfolioHistory_exact_overtakingRun : ∃ t answer,
    run step State.init overtakingRun = some t ∧ t.history.map PortfolioHistory.updatedAt = [5, 9] ∧
      (answer.Pairwise fun a b : PortfolioHistory => b.updatedAt ≤ a.updatedAt) ∧
      (∀ d ∈ answer, ∃ saving ∈ t.savings, saving.recorded = some d ∧
        saving.save.chainId = 1 ∧ saving.save.address = "0xab" ∧
        saving.savedAt ≤ d.updatedAt ∧ inWindow (some 3) none d.updatedAt = true ∧
          d = record d.updatedAt saving.save saving.snapshot) ∧
      ∃ left, (answer ++ left).Perm ((t.savings.filterMap Saving.recorded).filter
          (getPortfolioHistory 1 "0xab" none (some 1) (some 3) none).matching) ∧
        (∀ a ∈ answer, ∀ d ∈ left, d.updatedAt ≤ a.updatedAt) ∧
          (left ≠ [] → answer.length = 1) := by
  have hTimes : (run step State.init overtakingRun).map
      (fun t => t.history.map PortfolioHistory.updatedAt) = some [5, 9] := rfl
  obtain ⟨t, hRun, hHistory⟩ := Option.map_eq_some_iff.mp hTimes
  obtain ⟨answer, hAnswer⟩ := Documents.Query.exists_answer
    (getPortfolioHistory 1 "0xab" none (some 1) (some 3) none) t.history
  exact ⟨t, answer, hRun, hHistory, getPortfolioHistory_exact hRun 1 "0xab" none (some 1) (some 3)
    none hAnswer⟩

end PortfolioHistory

end BalanceKit
