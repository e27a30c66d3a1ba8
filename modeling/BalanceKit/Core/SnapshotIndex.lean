import BalanceKit.Core.DbService
import Mathlib.Data.List.Nodup

/-! The unique index of the snapshots over chain id, address and provider. A save
updates the first document that its filter matches, or inserts a new one, unless its data
names a key that another document has. -/
namespace BalanceKit

/-- The arguments of one `savePortfolioSnapshot`. -/
structure Save where
  chain : ChainName
  chainId : Nat
  address : String
  data : SnapshotData
  provider : Option String
  ttlSeconds : Option Nat

namespace Save
open DbService

variable (save : Save) (snapshots : List PortfolioSnapshot) (now : Nat)

/-- The key that the arguments name. An empty provider counts as none. -/
def key : IndexKey := ⟨save.chainId, save.address, Text.present save.provider⟩

def filter : PortfolioSnapshot → Bool := snapshotFilter save.chainId save.address save.provider

/-- The snapshots after the save, unless it throws. -/
def run : Option (List PortfolioSnapshot) :=
  savePortfolioSnapshot snapshots now save.chain save.chainId save.address save.data
    save.provider save.ttlSeconds

/-- A matching document after the save. -/
def update (d : PortfolioSnapshot) : PortfolioSnapshot :=
  updateDocument now save.chain save.data save.provider save.ttlSeconds d

/-- The document of a save that matches none. -/
def insert : PortfolioSnapshot :=
  insertDocument now save.chain save.chainId save.address save.data save.provider save.ttlSeconds

/-- The document that the save writes and returns. -/
def written : PortfolioSnapshot :=
  ((snapshots.find? save.filter).map (save.update now)).getD (save.insert now)

/-- The data names no other key than the arguments. -/
def Plain : Prop := namedKey save.chainId save.address save.data save.provider = save.key

instance : Decidable save.Plain := inferInstanceAs (Decidable (_ = _))

/-- An upsert updates the first document that matches, or appends one if none does. This is all that
an upsert can do to a collection. -/
theorem upsert_cases (matching : PortfolioSnapshot → Bool)
    (update : PortfolioSnapshot → PortfolioSnapshot) (inserted : PortfolioSnapshot) :
    (∃ before d after, snapshots = before ++ d :: after ∧ matching d = true ∧
      (∀ e ∈ before, matching e = false) ∧
        upsert matching update inserted snapshots = before ++ update d :: after) ∨
    ((∀ e ∈ snapshots, matching e = false) ∧
      upsert matching update inserted snapshots = snapshots ++ [inserted]) := by
  induction snapshots with
  | nil => exact .inr ⟨by simp, rfl⟩
  | cons e rest ih =>
      by_cases hMatch : matching e = true
      · exact .inl ⟨[], e, rest, rfl, hMatch, by simp, by simp [upsert, hMatch]⟩
      · rw [Bool.not_eq_true] at hMatch
        rcases ih with ⟨before, d, after, hSplit, hFound, hBefore, hRun⟩ | ⟨hNone, hRun⟩
        · refine .inl ⟨e :: before, d, after, by simp [hSplit], hFound, ?_, ?_⟩
          · intro f hf
            rcases List.mem_cons.mp hf with rfl | hRest
            · exact hMatch
            · exact hBefore f hRest
          · simp [upsert, hMatch, hRun]
        · refine .inr ⟨?_, by simp [upsert, hMatch, hRun]⟩
          intro f hf
          rcases List.mem_cons.mp hf with rfl | hRest
          · exact hMatch
          · exact hNone f hRest

variable {save snapshots now} {after : List PortfolioSnapshot}

/-- A save that does not throw has written a key that no other document has, and has changed
nothing else. -/
theorem run_eq_some (hRun : save.run snapshots now = some after) :
    duplicateKey snapshots (snapshots.find? save.filter) (save.written snapshots now) = false ∧
      after = upsert save.filter (save.update now) (save.insert now) snapshots := by
  unfold run at hRun
  simp only [savePortfolioSnapshot] at hRun
  split at hRun
  · cases hRun
  · rename_i hKey
    exact ⟨Bool.eq_false_iff.mpr hKey, (Option.some.inj hRun).symm⟩

/-- A save of plain data does not throw. -/
theorem run_of_plain (h : save.Plain) : ∃ after, save.run snapshots now = some after :=
  ⟨_, savePortfolioSnapshot_of_plain h⟩

/-- A save changes the first document that matches, and no other, or adds one. A save that would
violate the unique index throws and changes nothing. -/
theorem run_cases (hRun : save.run snapshots now = some after) :
    (∃ before d rest, snapshots = before ++ d :: rest ∧ save.filter d = true ∧
      snapshots.find? save.filter = some d ∧ after = before ++ save.update now d :: rest) ∨
    ((∀ e ∈ snapshots, save.filter e = false) ∧ snapshots.find? save.filter = none ∧
      after = snapshots ++ [save.insert now]) := by
  obtain ⟨-, rfl⟩ := run_eq_some hRun
  rcases upsert_cases snapshots save.filter (save.update now) (save.insert now) with
    ⟨before, d, rest, hSplit, hMatch, hBefore, hAfter⟩ | ⟨hNone, hAfter⟩
  · refine .inl ⟨before, d, rest, hSplit, hMatch, ?_, hAfter⟩
    exact List.find?_eq_some_iff_append.mpr ⟨hMatch, before, rest, hSplit, by simpa using hBefore⟩
  · refine .inr ⟨hNone, ?_, hAfter⟩
    simpa [List.find?_eq_none] using hNone

/-- The filter asks for the chain id, the address and, if there is one, the provider. -/
theorem filter_iff {d : PortfolioSnapshot} : save.filter d = true ↔
    d.chainId = save.chainId ∧ d.address = save.address ∧
      providerMatches save.provider d = true := snapshotFilter_iff

theorem filter_of_key {d : PortfolioSnapshot} (h : d.indexKey = save.key) :
    save.filter d = true := snapshotFilter_of_indexKey h

/-- A named provider is matched exactly; without one any document of the address is. The filter then
has no condition on the provider at all. -/
theorem key_of_filter {d : PortfolioSnapshot} (h : save.filter d = true)
    (hProvider : Text.present save.provider = none → d.provider = none) :
    d.indexKey = save.key := by
  obtain ⟨hId, hAddress, hMatch⟩ := filter_iff.mp h
  unfold PortfolioSnapshot.indexKey key
  cases hPresent : Text.present save.provider with
  | none => rw [hId, hAddress, hProvider hPresent]
  | some p =>
      simp only [providerMatches, hPresent, beq_iff_eq] at hMatch
      rw [hId, hAddress, hMatch]

theorem indexKey_update (hPlain : save.Plain) {d : PortfolioSnapshot} (h : save.filter d = true) :
    (save.update now d).indexKey = d.indexKey := indexKey_updateDocument hPlain h

theorem indexKey_insert (hPlain : save.Plain) : (save.insert now).indexKey = save.key := hPlain

/-- The key of the document that a save of plain data writes. -/
def writtenKey (save : Save) (snapshots : List PortfolioSnapshot) : IndexKey :=
  ((snapshots.find? save.filter).map PortfolioSnapshot.indexKey).getD save.key

/-- A document that gets another key gets one that no document has. This is what the index checks
before the write. -/
theorem unused_of_not_duplicateKey {found : Option PortfolioSnapshot} {written : PortfolioSnapshot}
    (h : duplicateKey snapshots found written = false)
    (hMoved : found.map PortfolioSnapshot.indexKey ≠ some written.indexKey) :
    written.indexKey ∉ snapshots.map PortfolioSnapshot.indexKey := by
  intro hUsed
  obtain ⟨d, hd, hSame⟩ := List.mem_map.mp hUsed
  have hAny : (snapshots.any fun d => d.indexKey = written.indexKey) = true :=
    List.any_eq_true.mpr ⟨d, hd, decide_eq_true hSame⟩
  rw [duplicateKey, hAny, decide_eq_true hMoved] at h
  cases h

/-- Saving keeps the index unique, whatever the data names. A save that would repeat a key throws
instead of writing. -/
theorem nodup_run (h : (snapshots.map PortfolioSnapshot.indexKey).Nodup)
    (hRun : save.run snapshots now = some after) :
    (after.map PortfolioSnapshot.indexKey).Nodup := by
  have hUnused := (run_eq_some hRun).1
  rcases run_cases hRun with ⟨before, d, rest, rfl, -, hFind, rfl⟩ | ⟨-, hFind, rfl⟩
  · rw [written, hFind] at hUnused
    have hWritten := @unused_of_not_duplicateKey _ (some d) (save.update now d) hUnused
    rw [List.map_append, List.map_cons, List.nodup_middle, ← List.map_append] at h ⊢
    obtain ⟨hOld, hRest⟩ := List.nodup_cons.mp h
    refine List.nodup_cons.mpr ⟨?_, hRest⟩
    by_cases hSame : d.indexKey = (save.update now d).indexKey
    · rwa [← hSame]
    · intro hTaken
      refine hWritten (fun hEqual => hSame (Option.some.inj hEqual)) ?_
      rw [List.map_append, List.map_cons]
      rw [List.map_append] at hTaken
      rcases List.mem_append.mp hTaken with hBefore | hAfter
      · exact List.mem_append_left _ hBefore
      · exact List.mem_append_right _ (List.mem_cons_of_mem _ hAfter)
  · rw [written, hFind] at hUnused
    have hWritten := @unused_of_not_duplicateKey _ none (save.insert now) hUnused (by rintro ⟨⟩)
    rw [List.map_append, List.map_singleton]
    exact List.Nodup.append h (List.nodup_singleton _) (by simpa using hWritten)

/-- A save writes under the key that it names, unless it has no provider and the
first match has one. -/
theorem writtenKey_eq (h : Text.present save.provider = none →
    ∀ d ∈ snapshots.find? save.filter, d.provider = none) :
    save.writtenKey snapshots = save.key := by
  unfold writtenKey
  cases hFind : snapshots.find? save.filter with
  | none => rfl
  | some d =>
      exact key_of_filter (List.find?_some hFind) fun hAbsent => h hAbsent d hFind

/-- A document after a save of plain data was there before under another key, or is the written
one. -/
theorem mem_run (hPlain : save.Plain) (h : (snapshots.map PortfolioSnapshot.indexKey).Nodup)
    (hRun : save.run snapshots now = some after) {d : PortfolioSnapshot} (hd : d ∈ after) :
    (d ∈ snapshots ∧ d.indexKey ≠ save.writtenKey snapshots) ∨
      (d.indexKey = save.writtenKey snapshots ∧
        ((∃ old ∈ snapshots, save.filter old = true ∧ d = save.update now old) ∨
          d = save.insert now)) := by
  rcases run_cases hRun with ⟨before, e, rest, rfl, hMatch, hFind, rfl⟩ | ⟨hNone, hFind, rfl⟩
  · have hKey : save.writtenKey (before ++ e :: rest) = e.indexKey := by
      simp [writtenKey, hFind]
    rw [hKey]
    rw [List.map_append, List.map_cons, List.nodup_middle, List.nodup_cons, ← List.map_append] at h
    have hOther : ∀ f, f ∈ before ∨ f ∈ rest → f.indexKey ≠ e.indexKey := by
      intro f hf hSame
      exact h.1 (hSame ▸ List.mem_map_of_mem (List.mem_append.mpr hf))
    rcases List.mem_append.mp hd with hEarly | hRest
    · exact .inl ⟨by simp [hEarly], hOther d (.inl hEarly)⟩
    · rcases List.mem_cons.mp hRest with rfl | hLate
      · exact .inr ⟨indexKey_update hPlain hMatch, .inl ⟨e, by simp, hMatch, rfl⟩⟩
      · exact .inl ⟨by simp [hLate], hOther d (.inr hLate)⟩
  · have hKey : save.writtenKey snapshots = save.key := by
      simp [writtenKey, hFind]
    rw [hKey]
    rcases List.mem_append.mp hd with hOld | hNew
    · refine .inl ⟨hOld, fun hSame => ?_⟩
      exact absurd (filter_of_key hSame) (by simp [hNone d hOld])
    · obtain rfl := List.mem_singleton.mp hNew
      exact .inr ⟨hPlain, .inr rfl⟩

end Save

namespace DbService

/-- An invalidation keeps a document or only gives it a new expiry. -/
theorem invalidateAddressSnapshot_cases {snapshots : List PortfolioSnapshot} {now chainId : Nat}
    {chain : ChainName} {address : String} {d : PortfolioSnapshot}
    (h : d ∈ invalidateAddressSnapshot snapshots now chain chainId address) :
    ∃ old ∈ snapshots, d = old ∨ d = { old with expiresAt := now } := by
  obtain ⟨old, hOld, rfl⟩ := mem_invalidateAddressSnapshot.mp h
  refine ⟨old, hOld, ?_⟩
  split
  · exact .inr rfl
  · exact .inl rfl

theorem map_indexKey_invalidateAddressSnapshot (snapshots : List PortfolioSnapshot) (now : Nat)
    (chain : ChainName) (chainId : Nat) (address : String) :
    (invalidateAddressSnapshot snapshots now chain chainId address).map
      PortfolioSnapshot.indexKey = snapshots.map PortfolioSnapshot.indexKey := by
  rw [invalidateAddressSnapshot, List.map_map]
  apply List.map_congr_left
  intro d _
  show PortfolioSnapshot.indexKey (if _ then _ else _) = _
  split <;> rfl

end DbService

end BalanceKit
