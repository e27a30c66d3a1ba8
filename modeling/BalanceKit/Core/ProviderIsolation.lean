import BalanceKit.Core.CacheMongo
import BalanceKit.Core.SnapshotIndex
import BalanceKit.Library.Runs

/-! Snapshots of one address from several providers. A missing provider is a value of
its own in the unique index and in the Redis key, but no condition at all in the
filters of a save and of a read. -/
namespace BalanceKit.ProviderIsolation
open TransitionSystem DbService CacheKeyService

/-- The stores, and every save so far with its key and transformed data. -/
structure State where
  clock : Nat
  stores : Stores
  saves : List (IndexKey × Js)

def State.init : State := ⟨0, Stores.init, []⟩

/-- `remove` is the store dropping a document that has outlived an expiry index. -/
inductive Action where
  | tick (elapsed : Nat)
  | remove (i : Nat)
  | save (save : Save)
  | getPortfolioSnapshot (chainId : Nat) (address : String) (provider : Option String)
  | getPortfolioData (chain : ChainName) (chainId : Nat) (address : String)
      (provider : Option String) (ttlSeconds : Option Nat)
  | invalidateAddressSnapshot (chain : ChainName) (chainId : Nat) (address : String)

/-- The effect on the stores. A save that throws leaves them as they are. -/
def effect (stores : Stores) (clock : Nat) : Action → Stores
  | .tick _ => stores
  | .remove i => { stores with snapshots := stores.snapshots.eraseIdx i }
  | .save save =>
      { stores with snapshots := (save.run stores.snapshots clock).getD stores.snapshots }
  | .getPortfolioSnapshot _ _ _ => stores
  | .getPortfolioData chain chainId address provider ttlSeconds =>
      (CacheMongoService.getPortfolioData stores clock chain chainId address provider
        ttlSeconds).1
  | .invalidateAddressSnapshot chain chainId address =>
      { stores with
        snapshots :=
          DbService.invalidateAddressSnapshot stores.snapshots clock chain chainId address }

def step (s : State) (a : Action) : Option State :=
  some
    { clock := match a with
        | .tick elapsed => s.clock + elapsed
        | _ => s.clock
      stores := effect s.stores s.clock a
      saves := match a with
        | .save save =>
            if (save.run s.stores.snapshots s.clock).isSome then
              s.saves ++ [(save.key, transformPortfolioData save.data.portfolio)]
            else s.saves
        | _ => s.saves }

def savesOf (saves : List (IndexKey × Js)) (key : IndexKey) : List Js :=
  (saves.filter fun save => save.1 = key).map Prod.snd

/-- What is left in a document after these saves, the oldest first. -/
def contents (data : List Js) : Js := data.foldl Js.spread defaultData

/-- The document has the data of the latest save under its own key, over fields that
earlier saves under this key may have left. -/
def OwnData (saves : List (IndexKey × Js)) (d : PortfolioSnapshot) : Prop :=
  ∃ earlier latest, earlier ++ [latest] <:+ savesOf saves d.indexKey ∧
    d.data = (contents earlier).spread latest

def documentsOf (snapshots : List PortfolioSnapshot) (key : IndexKey) : List PortfolioSnapshot :=
  snapshots.filter fun d => d.indexKey = key

/-- What the step does is confined to the key that its arguments name. -/
def Isolated (s : State) : Action → Prop
  | .tick _ => True
  | .remove _ => True
  | .save save => ∀ key, key ≠ save.key →
      documentsOf (effect s.stores s.clock (.save save)).snapshots key =
        documentsOf s.stores.snapshots key
  | .getPortfolioSnapshot chainId address provider =>
      ∀ d, DbService.getPortfolioSnapshot s.stores.snapshots s.clock chainId address provider =
        some d → d.indexKey = ⟨chainId, address, Text.present provider⟩ ∧ OwnData s.saves d
  | .getPortfolioData chain chainId address provider ttlSeconds =>
      (CacheMongoService.getPortfolioData s.stores s.clock chain chainId address provider
          ttlSeconds).1 = s.stores ∨
        ∃ d balanceResponse, d.indexKey = ⟨chainId, address, Text.present provider⟩ ∧
          OwnData s.saves d ∧
          CacheMongoService.toBalanceResponse s.clock d.data = some balanceResponse ∧
          (CacheMongoService.getPortfolioData s.stores s.clock chain chainId address provider
            ttlSeconds).1.redis =
            CacheService.set s.stores.redis s.clock (createPortfolioKey chain address provider)
              balanceResponse ttlSeconds
  | .invalidateAddressSnapshot _ _ _ => True

/-- A matching document with a provider comes after one without. -/
def OwnFirst (matching : PortfolioSnapshot → Bool) (snapshots : List PortfolioSnapshot) : Prop :=
  ∀ before d after, snapshots = before ++ d :: after → matching d = true → d.provider ≠ none →
    ∃ e ∈ before, matching e = true ∧ e.provider = none

/-- The unexpired documents of an address. -/
def live (now chainId : Nat) (address : String) (d : PortfolioSnapshot) : Bool :=
  snapshotFilter chainId address none d && decide (now < d.expiresAt)

/-- Without a provider, a save and a read meet a document without one first; and the data of a
save names no other document than its arguments. -/
def Conforming (s : State) : Action → Prop
  | .tick _ => True
  | .remove _ => True
  | .save save =>
      save.Plain ∧ (Text.present save.provider = none → OwnFirst save.filter s.stores.snapshots)
  | .getPortfolioSnapshot chainId address provider =>
      Text.present provider = none → OwnFirst (live s.clock chainId address) s.stores.snapshots
  | .getPortfolioData chain chainId address provider _ =>
      Text.present provider = none →
        (CacheService.get s.stores.redis s.clock
          (createPortfolioKey chain address provider)).filter Js.truthy = none →
          OwnFirst (live s.clock chainId address) s.stores.snapshots
  | .invalidateAddressSnapshot _ _ _ => True

theorem ownFirst_iff {matching : PortfolioSnapshot → Bool} {snapshots : List PortfolioSnapshot} :
    OwnFirst matching snapshots ↔ ∀ d ∈ snapshots.find? matching, d.provider = none := by
  constructor
  · intro h d hFound
    obtain ⟨hMatch, before, after, hSplit, hBefore⟩ := List.find?_eq_some_iff_append.mp hFound
    by_contra hProvider
    obtain ⟨e, he, hEarlier, -⟩ := h before d after hSplit hMatch hProvider
    exact absurd (hBefore e he) (by simp [hEarlier])
  · rintro h before d after rfl hMatch hProvider
    cases hFound : before.find? matching with
    | some e =>
        refine ⟨e, List.mem_of_find?_eq_some hFound, List.find?_some hFound, h e ?_⟩
        simp [hFound]
    | none =>
        refine absurd (h d ?_) hProvider
        simp [hFound, hMatch]

instance (matching : PortfolioSnapshot → Bool) (snapshots : List PortfolioSnapshot) :
    Decidable (OwnFirst matching snapshots) := decidable_of_iff _ ownFirst_iff.symm

instance (s : State) : ∀ a, Decidable (Conforming s a)
  | .tick _ => inferInstanceAs (Decidable True)
  | .remove _ => inferInstanceAs (Decidable True)
  | .save save => inferInstanceAs (Decidable (save.Plain ∧ (_ → OwnFirst _ _)))
  | .getPortfolioSnapshot _ _ _ => inferInstanceAs (Decidable (_ → OwnFirst _ _))
  | .getPortfolioData _ _ _ _ _ =>
      inferInstanceAs (Decidable (_ → Option.filter _ _ = none → OwnFirst _ _))
  | .invalidateAddressSnapshot _ _ _ => inferInstanceAs (Decidable True)

theorem savesOf_append (saves : List (IndexKey × Js)) (key other : IndexKey) (data : Js) :
    savesOf (saves ++ [(key, data)]) other =
      savesOf saves other ++ if key = other then [data] else [] := by
  by_cases h : key = other <;> simp [savesOf, List.filter_append, h]

/-- A save under another key does not concern the document. What a document should show depends on
the saves that name its own key. -/
theorem ownData_append {saves : List (IndexKey × Js)} {d : PortfolioSnapshot} {key : IndexKey}
    (h : OwnData saves d) (hOther : d.indexKey ≠ key) (data : Js) :
    OwnData (saves ++ [(key, data)]) d := by
  unfold OwnData at h ⊢
  rw [savesOf_append, if_neg (Ne.symm hOther), List.append_nil]
  exact h

theorem contents_append (earlier : List Js) (latest : Js) :
    contents (earlier ++ [latest]) = (contents earlier).spread latest := by
  simp [contents]

/-- The save that updates a document becomes its latest. The fields that it names are replaced, and
the others are left from earlier saves. -/
theorem ownData_update {saves : List (IndexKey × Js)} {save : Save} {d : PortfolioSnapshot}
    (now : Nat) (hPlain : save.Plain) (h : OwnData saves d) (hMatch : save.filter d = true)
    (hKey : d.indexKey = save.key) :
    OwnData (saves ++ [(save.key, transformPortfolioData save.data.portfolio)])
      (save.update now d) := by
  obtain ⟨earlier, latest, hSaves, hData⟩ := h
  refine ⟨earlier ++ [latest], transformPortfolioData save.data.portfolio, ?_, ?_⟩
  · rw [Save.indexKey_update hPlain hMatch, savesOf_append, if_pos hKey.symm]
    obtain ⟨older, hOlder⟩ := hSaves
    exact ⟨older, by simp [← hOlder]⟩
  · show d.data.spread _ = _
    rw [hData, contents_append]

/-- A new document has the data of the save that inserts it, over the defaults. -/
theorem ownData_insert (saves : List (IndexKey × Js)) {save : Save} (hPlain : save.Plain)
    (now : Nat) :
    OwnData (saves ++ [(save.key, transformPortfolioData save.data.portfolio)])
      (save.insert now) := by
  refine ⟨[], transformPortfolioData save.data.portfolio, ?_, rfl⟩
  rw [Save.indexKey_insert hPlain, savesOf_append, if_pos rfl]
  exact List.suffix_append _ _

/-- The index is unique, and every document has the data of its own saves. -/
structure Invariant (s : State) : Prop where
  unique : (s.stores.snapshots.map PortfolioSnapshot.indexKey).Nodup
  own : ∀ d ∈ s.stores.snapshots, OwnData s.saves d

/-- A save that conforms writes the document of its key: with a provider the filter asks for that
one, and without a provider the document without one comes first. -/
theorem writtenKey_of_conforming {s : State} {save : Save}
    (hConforming : Conforming s (.save save)) :
    save.writtenKey s.stores.snapshots = save.key :=
  Save.writtenKey_eq fun hAbsent => ownFirst_iff.mp (hConforming.2 hAbsent)

/-- After a save every document has its own data, the one that was written and those that were
not. -/
theorem ownData_save {s : State} (h : Invariant s) {save : Save}
    (hConforming : Conforming s (.save save)) {after : List PortfolioSnapshot}
    (hRun : save.run s.stores.snapshots s.clock = some after) :
    ∀ d ∈ after,
      OwnData (s.saves ++ [(save.key, transformPortfolioData save.data.portfolio)]) d := by
  have hKey := writtenKey_of_conforming hConforming
  obtain ⟨hPlain, -⟩ := hConforming
  intro d hd
  rcases Save.mem_run hPlain h.unique hRun hd with ⟨hOld, hOther⟩ | ⟨hWritten, hUpdated | rfl⟩
  · rw [hKey] at hOther
    exact ownData_append (h.own d hOld) hOther _
  · obtain ⟨old, hOld, hMatch, rfl⟩ := hUpdated
    rw [Save.indexKey_update hPlain hMatch, hKey] at hWritten
    exact ownData_update s.clock hPlain (h.own old hOld) hMatch hWritten
  · exact ownData_insert s.saves hPlain s.clock

theorem invariant_step {s t : State} {a : Action} (h : Invariant s) (hConforming : Conforming s a)
    (hStep : step s a = some t) : Invariant t := by
  obtain rfl := Option.some.inj hStep
  cases a with
  | tick elapsed => exact ⟨h.unique, h.own⟩
  | remove i =>
      have hSub := List.eraseIdx_sublist s.stores.snapshots i
      exact ⟨h.unique.sublist (hSub.map _), fun d hd => h.own d (hSub.subset hd)⟩
  | save save =>
      obtain ⟨after, hRun⟩ := @Save.run_of_plain save s.stores.snapshots s.clock hConforming.1
      simp only [effect, hRun, Option.getD_some, Option.isSome_some, if_true]
      exact ⟨Save.nodup_run h.unique hRun, ownData_save h hConforming hRun⟩
  | getPortfolioSnapshot chainId address provider => exact ⟨h.unique, h.own⟩
  | getPortfolioData chain chainId address provider ttlSeconds =>
      have hSame := CacheMongoService.snapshots_getPortfolioData s.stores s.clock chain chainId
        address provider ttlSeconds
      refine ⟨?_, ?_⟩
      · show (List.map _ (CacheMongoService.getPortfolioData _ _ _ _ _ _ _).1.snapshots).Nodup
        rw [hSame]
        exact h.unique
      · show ∀ d ∈ (CacheMongoService.getPortfolioData _ _ _ _ _ _ _).1.snapshots, _
        rw [hSame]
        exact h.own
  | invalidateAddressSnapshot chain chainId address =>
      refine ⟨?_, ?_⟩
      · show (List.map _ (DbService.invalidateAddressSnapshot _ _ _ _ _)).Nodup
        rw [map_indexKey_invalidateAddressSnapshot]
        exact h.unique
      · intro d hd
        obtain ⟨old, hOld, rfl | rfl⟩ := invalidateAddressSnapshot_cases hd
        · exact h.own d hOld
        · exact h.own old hOld

/-- Documents under other keys than the written one stay as they are. For plain data the written key
is that of the arguments. -/
theorem documentsOf_run {snapshots after : List PortfolioSnapshot} {save : Save} {now : Nat}
    (hPlain : save.Plain) (hRun : save.run snapshots now = some after) {key : IndexKey}
    (hOther : key ≠ save.writtenKey snapshots) :
    documentsOf after key = documentsOf snapshots key := by
  rcases Save.run_cases hRun with ⟨before, d, rest, rfl, hMatch, hFind, rfl⟩ | ⟨-, hFind, rfl⟩
  · have hKey : d.indexKey ≠ key := by
      rintro rfl
      simp [Save.writtenKey, hFind] at hOther
    have hUpdated : (save.update now d).indexKey ≠ key := by
      rwa [Save.indexKey_update hPlain hMatch]
    simp [documentsOf, List.filter_append, hKey, hUpdated]
  · have hInserted : (save.insert now).indexKey ≠ key := by
      rintro rfl
      simp [Save.writtenKey, hFind, Save.indexKey_insert hPlain] at hOther
    simp [documentsOf, List.filter_append, hInserted]

/-- What a read finds is filed under exactly the key that it names. -/
theorem ofKey_getPortfolioSnapshot {s : State} (h : Invariant s) {chainId : Nat}
    {address : String} {provider : Option String}
    (hFirst : Text.present provider = none →
      OwnFirst (live s.clock chainId address) s.stores.snapshots)
    {d : PortfolioSnapshot}
    (hFound : DbService.getPortfolioSnapshot s.stores.snapshots s.clock chainId address provider =
      some d) :
    d.indexKey = ⟨chainId, address, Text.present provider⟩ ∧ OwnData s.saves d := by
  refine ⟨?_, h.own d (List.mem_of_find?_eq_some hFound)⟩
  have hLive := List.find?_some hFound
  simp only [Bool.and_eq_true, decide_eq_true_eq] at hLive
  obtain ⟨hId, hAddress, hMatch⟩ := snapshotFilter_iff.mp hLive.1
  unfold PortfolioSnapshot.indexKey
  cases hPresent : Text.present provider with
  | some p =>
      simp only [providerMatches, hPresent, beq_iff_eq] at hMatch
      rw [hId, hAddress, hMatch]
  | none =>
      have hSame : (fun e => snapshotFilter chainId address provider e &&
          decide (s.clock < e.expiresAt)) = live s.clock chainId address := by
        have hNone : Text.present none = none := rfl
        funext e
        simp [live, snapshotFilter, providerMatches, hPresent, hNone]
      rw [DbService.getPortfolioSnapshot, hSame] at hFound
      have hProvider := ownFirst_iff.mp (hFirst hPresent) d hFound
      rw [hId, hAddress, hProvider]

theorem isolated_of_conforming {s : State} (h : Invariant s) {a : Action}
    (hConforming : Conforming s a) : Isolated s a := by
  cases a with
  | tick elapsed => trivial
  | remove i => trivial
  | save save =>
      intro key hOther
      obtain ⟨after, hRun⟩ := @Save.run_of_plain save s.stores.snapshots s.clock hConforming.1
      rw [← writtenKey_of_conforming hConforming] at hOther
      simp only [effect, hRun, Option.getD_some]
      exact documentsOf_run hConforming.1 hRun hOther
  | getPortfolioSnapshot chainId address provider =>
      exact fun d hFound => ofKey_getPortfolioSnapshot h hConforming hFound
  | getPortfolioData chain chainId address provider ttlSeconds =>
      show _ ∨ _
      unfold CacheMongoService.getPortfolioData
      dsimp only
      split
      · exact .inl rfl
      · rename_i hMiss
        split
        · rename_i d hFound
          obtain ⟨hKey, hOwn⟩ := ofKey_getPortfolioSnapshot h
            (fun hAbsent => hConforming hAbsent hMiss) hFound
          split
          · rename_i balanceResponse hConverted
            exact .inr ⟨d, balanceResponse, hKey, hOwn, hConverted, rfl⟩
          · exact .inl rfl
        · exact .inl rfl
  | invalidateAddressSnapshot chain chainId address => trivial

/-- In a run in which every provider-less save and read meets a provider-less document
first, and no data names another document, providers are kept apart at every step. -/
theorem isolated_of_meets {actions : List Action}
    (hMeets : Meets step Conforming State.init actions) :
    Meets step Isolated State.init actions := by
  have hStart : Invariant State.init := ⟨List.nodup_nil, fun d hd => by cases hd⟩
  exact meets_of_meets (fun s a t h hConforming hStep => invariant_step h hConforming hStep)
    (fun s a h hConforming => isolated_of_conforming h hConforming) hStart hMeets

/-- A save of an Ethereum wallet with the given balance. -/
def walletSave (balance : String) (provider : Option String) : Action :=
  .save ⟨.ethereum, 1, "0xab", .ofPortfolio (.obj [("native", .obj [("balance", .str balance)])]),
    provider, none⟩

/-- Two providers, each read back, and a provider-less wallet elsewhere. -/
def namedRun : List Action :=
  [walletSave "1" (some "alchemy"), walletSave "2" (some "quicknode"),
    .getPortfolioSnapshot 1 "0xab" (some "alchemy"),
    .save ⟨.solana, 101, "wallet", .ofPortfolio (.obj [("native", .obj [])]), none, none⟩,
    .getPortfolioData .solana 101 "wallet" none none]

theorem isolated_namedRun : Meets step Isolated State.init namedRun :=
  isolated_of_meets (by decide +kernel)

/-- The second save replaces the balance that the first one filed under its provider. It names no
provider, so its filter is met by the document of the first save. -/
theorem not_isolated_mixedRun : ¬ Meets step Isolated State.init
    [walletSave "1" (some "alchemy"), walletSave "" none] := by
  rintro ⟨-, hSecond, -⟩
  have hSame := hSecond ⟨1, "0xab", some "alchemy"⟩ (by decide)
  have hBalances := congrArg
    (List.map fun d => ((d.data.get "native").get "balance").truthy) hSame
  exact absurd hBalances (by decide +kernel)

end BalanceKit.ProviderIsolation
