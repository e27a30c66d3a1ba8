import Mathlib.Data.List.Nodup

/-! Maps that keep the order in which their keys were first inserted. -/
namespace OrderedMap
universe u v

/-- What a key is looked up to is in the table under that key. With keys that repeat, it is the
first of their entries. -/
theorem mem_of_lookup {Key : Type u} {Value : Type v} [BEq Key] [LawfulBEq Key]
    {table : List (Key × Value)} {key : Key} {value : Value}
    (h : table.lookup key = some value) : (key, value) ∈ table := by
  obtain ⟨before, after, hSplit, -⟩ := List.lookup_eq_some_iff.mp h
  rw [hSplit]
  simp

variable {Key : Type u} {Value : Type v} [DecidableEq Key]

/-- The first entry answers for its own key and hides no other. -/
theorem lookup_cons_eq [BEq Key] [LawfulBEq Key] (key other : Key) (value : Value)
    (table : List (Key × Value)) : ((key, value) :: table).lookup other =
      if other = key then some value else table.lookup other := by
  rw [List.lookup_cons]
  by_cases h : other = key
  · rw [if_pos h, beq_iff_eq.mpr h]
  · rw [if_neg h, beq_eq_false_iff_ne.mpr h]

/-- A value that is new to a table in which no value has two keys gets one key. Values may then
stand for their keys. -/
theorem key_unique_cons [BEq Key] [LawfulBEq Key] {key : Key} {value : Value}
    {table : List (Key × Value)} (hNew : ∀ k, table.lookup k ≠ some value)
    (hUnique : ∀ k l v, table.lookup k = some v → table.lookup l = some v → k = l) (k l : Key)
    (v : Value) (hk : ((key, value) :: table).lookup k = some v)
    (hl : ((key, value) :: table).lookup l = some v) : k = l := by
  rw [lookup_cons_eq] at hk hl
  by_cases hFirst : k = key
  · by_cases hSecond : l = key
    · rw [hFirst, hSecond]
    · rw [if_pos hFirst] at hk
      rw [if_neg hSecond, ← Option.some.inj hk] at hl
      exact absurd hl (hNew l)
  · rw [if_neg hFirst] at hk
    by_cases hSecond : l = key
    · rw [if_pos hSecond] at hl
      rw [← Option.some.inj hl] at hk
      exact absurd hk (hNew k)
    · rw [if_neg hSecond] at hl
      exact hUnique k l v hk hl

/-- Update the value of a key, if it has one. -/
def modify (table : List (Key × Value)) (key : Key) (f : Value → Value) : List (Key × Value) :=
  table.map fun e => if e.1 = key then (e.1, f e.2) else e

/-- An existing key keeps its place. -/
def set (table : List (Key × Value)) (key : Key) (value : Value) : List (Key × Value) :=
  if table.any fun e => e.1 == key then modify table key fun _ => value
  else table ++ [(key, value)]

def delete (table : List (Key × Value)) (key : Key) : List (Key × Value) :=
  table.filter fun e => e.1 ≠ key

variable {table : List (Key × Value)} {key other : Key} {value : Value}

/-- In a table without repeated keys every entry is found under its key. With repeated keys only
the first one would be. -/
theorem lookup_of_mem (hKeys : (table.map Prod.fst).Nodup) (h : (key, value) ∈ table) :
    table.lookup key = some value := by
  obtain ⟨before, after, rfl⟩ := List.append_of_mem h
  refine List.lookup_eq_some_iff.mpr ⟨before, after, rfl, fun e hBefore => ?_⟩
  rw [List.map_append, List.map_cons] at hKeys
  have hOther : e.1 ≠ key := (List.nodup_append.mp hKeys).2.2 e.1
    (List.mem_map_of_mem hBefore) key List.mem_cons_self
  exact bne_iff_ne.mpr hOther.symm

/-- A key has no value exactly when it is not among the keys of the table. A lookup that fails has
passed every entry. -/
theorem lookup_eq_none_iff : table.lookup key = none ↔ key ∉ table.map Prod.fst := by
  rw [List.lookup_eq_none_iff, List.mem_map]
  constructor
  · rintro h ⟨e, hMember, rfl⟩
    exact absurd (h e hMember) (by simp)
  · intro h e hMember
    have hOther : key ≠ e.1 := fun hSame => h ⟨e, hMember, hSame.symm⟩
    simpa using hOther

@[simp] theorem keys_modify (f : Value → Value) :
    (modify table key f).map Prod.fst = table.map Prod.fst := by
  rw [modify, List.map_map]
  refine List.map_congr_left fun e _ => ?_
  by_cases h : e.1 = key <;> simp [h]

/-- After an update every entry has a predecessor with the same key, whose value it kept or got by
the update. -/
theorem mem_modify {f : Value → Value} {e : Key × Value} (h : e ∈ modify table key f) :
    ∃ d ∈ table, e.1 = d.1 ∧ (e.2 = d.2 ∨ e.2 = f d.2) := by
  obtain ⟨d, hMember, rfl⟩ := List.mem_map.mp h
  by_cases hKey : d.1 = key
  · exact ⟨d, hMember, by simp [hKey]⟩
  · exact ⟨d, hMember, by simp [hKey]⟩

theorem lookup_modify (f : Value → Value) :
    (modify table key f).lookup key = (table.lookup key).map f := by
  induction table with
  | nil => rfl
  | cons e rest ih =>
      obtain ⟨k, v⟩ := e
      unfold modify at ih ⊢
      by_cases h : k = key
      · subst h
        simp
      · have hOther : (key == k) = false := beq_eq_false_iff_ne.mpr fun hSame => h hSame.symm
        rw [List.map_cons, if_neg h, List.lookup_cons, List.lookup_cons, hOther]
        exact ih

theorem lookup_modify_of_ne (h : other ≠ key) (f : Value → Value) :
    (modify table key f).lookup other = table.lookup other := by
  induction table with
  | nil => rfl
  | cons e rest ih =>
      obtain ⟨k, v⟩ := e
      unfold modify at ih ⊢
      by_cases hKey : k = key
      · subst hKey
        have hOther : (other == k) = false := beq_eq_false_iff_ne.mpr h
        rw [List.map_cons, if_pos rfl, List.lookup_cons, List.lookup_cons, hOther]
        exact ih
      · rw [List.map_cons, if_neg hKey, List.lookup_cons, List.lookup_cons, ih]

/-- Deleting a key removes the entries of that key and no others. Where keys do not repeat, this is
one entry at most. -/
theorem mem_delete {e : Key × Value} : e ∈ delete table key ↔ e ∈ table ∧ e.1 ≠ key := by
  simp [delete]

/-- An update of a key that is deleted afterwards leaves no trace, whatever it did to the value. -/
@[simp] theorem delete_modify (f : Value → Value) :
    delete (modify table key f) key = delete table key := by
  induction table with
  | nil => rfl
  | cons e rest ih =>
      unfold delete modify at ih ⊢
      by_cases h : e.1 = key
      · simpa [h] using ih
      · simpa [h] using ih

theorem lookup_delete : (delete table key).lookup key = none := by
  rw [lookup_eq_none_iff, List.mem_map]
  rintro ⟨e, hMember, hKey⟩
  exact (mem_delete.mp hMember).2 hKey

theorem lookup_delete_of_ne (h : other ≠ key) :
    (delete table key).lookup other = table.lookup other := by
  induction table with
  | nil => rfl
  | cons e rest ih =>
      obtain ⟨k, v⟩ := e
      unfold delete at ih ⊢
      by_cases hKey : k = key
      · subst hKey
        rw [List.filter_cons_of_neg (by simp), ih, List.lookup_cons, beq_eq_false_iff_ne.mpr h]
      · rw [List.filter_cons_of_pos (by simpa using hKey), List.lookup_cons, List.lookup_cons, ih]

theorem nodup_delete (hKeys : (table.map Prod.fst).Nodup) :
    ((delete table key).map Prod.fst).Nodup :=
  hKeys.sublist (List.filter_sublist.map Prod.fst)

/-- Deleting a key that is there removes one entry. -/
theorem length_delete (hKeys : (table.map Prod.fst).Nodup) (h : (key, value) ∈ table) :
    (delete table key).length + 1 = table.length := by
  have hOnce : (table.map Prod.fst).count key = 1 :=
    List.count_eq_one_of_mem hKeys (List.mem_map_of_mem h)
  have hSplit := List.length_eq_countP_add_countP (fun e : Key × Value => e.1 == key) (l := table)
  rw [List.count, List.countP_map] at hOnce
  have hRest : (delete table key).length =
      table.countP fun e => decide (¬ (e.1 == key) = true) := by
    rw [delete, ← List.countP_eq_length_filter]
    congr 1
    funext e
    simp
  rw [hSplit, hRest, ← hOnce, Nat.add_comm]
  rfl

/-- A new key goes to the end, behind the keys that were inserted before it. This is the insertion
order that a loop over the map sees. -/
theorem set_of_not_mem (h : key ∉ table.map Prod.fst) :
    set table key value = table ++ [(key, value)] := by
  have hAny : (table.any fun e => e.1 == key) = false := by
    rw [List.any_eq_false]
    intro e hMember hSame
    exact h (List.mem_map.mpr ⟨e, hMember, by simpa using hSame⟩)
  rw [set, hAny]
  rfl

/-- Setting a key repeats none: it replaces the value in its place, or appends a key that is new. -/
theorem nodup_set (hKeys : (table.map Prod.fst).Nodup) (key : Key) (value : Value) :
    ((set table key value).map Prod.fst).Nodup := by
  by_cases hMember : key ∈ table.map Prod.fst
  · have hAny : (table.any fun e => e.1 == key) = true := by
      obtain ⟨e, hEntry, rfl⟩ := List.mem_map.mp hMember
      exact List.any_eq_true.mpr ⟨e, hEntry, beq_self_eq_true _⟩
    rw [set, if_pos hAny, keys_modify]
    exact hKeys
  · rw [set_of_not_mem hMember, List.map_append, List.nodup_append]
    refine ⟨hKeys, List.nodup_singleton _, ?_⟩
    rintro k hOld _ hNew rfl
    rw [List.map_singleton, List.mem_singleton] at hNew
    rw [hNew] at hOld
    exact hMember hOld

theorem lookup_singleton_of_ne (h : other ≠ key) : List.lookup other [(key, value)] = none := by
  rw [List.lookup_cons, beq_eq_false_iff_ne.mpr h]
  rfl

theorem lookup_set : (set table key value).lookup key = some value := by
  by_cases hMember : key ∈ table.map Prod.fst
  · have hAny : (table.any fun e => e.1 == key) = true := by
      obtain ⟨e, hEntry, rfl⟩ := List.mem_map.mp hMember
      exact List.any_eq_true.mpr ⟨e, hEntry, beq_self_eq_true _⟩
    rw [set, if_pos hAny, lookup_modify]
    cases hValue : table.lookup key with
    | none => exact absurd hMember (lookup_eq_none_iff.mp hValue)
    | some old => rfl
  · rw [set_of_not_mem hMember, List.lookup_append, lookup_eq_none_iff.mpr hMember,
      List.lookup_cons_self]
    rfl

/-- Setting one key leaves every other key its value, whether or not the key that was set is new. -/
theorem lookup_set_of_ne (h : other ≠ key) :
    (set table key value).lookup other = table.lookup other := by
  unfold set
  split
  · exact lookup_modify_of_ne h _
  · rw [List.lookup_append, lookup_singleton_of_ne h, Option.or_none]

/-- Keeping some of the entries keeps or removes the value of a key. Where keys do not repeat, the
condition on the entry that is found decides. -/
theorem lookup_filter (keep : Value → Bool) (hKeys : (table.map Prod.fst).Nodup) :
    (table.filter fun e => keep e.2).lookup key = (table.lookup key).filter keep := by
  have hFiltered : ((table.filter fun e => keep e.2).map Prod.fst).Nodup :=
    hKeys.sublist (List.filter_sublist.map Prod.fst)
  cases hValue : (table.lookup key).filter keep with
  | some value =>
      obtain ⟨hLookup, hKeep⟩ := Option.filter_eq_some_iff.mp hValue
      exact lookup_of_mem hFiltered
        (List.mem_filter.mpr ⟨mem_of_lookup hLookup, hKeep⟩)
  | none =>
      cases hFound : (table.filter fun e => keep e.2).lookup key with
      | none => rfl
      | some value =>
          obtain ⟨hMember, hKeep⟩ := List.mem_filter.mp (mem_of_lookup hFound)
          rw [lookup_of_mem hKeys hMember] at hValue
          exact absurd (Option.filter_eq_none_iff.mp hValue value rfl) (by simpa using hKeep)

end OrderedMap
