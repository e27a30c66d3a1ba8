import BalanceKit.Library.FirstAnswer
import BalanceKit.Library.OrderedMap

/-! Maps that are filled once by registrations. A later registration replaces an earlier one
of its key, so that their order matters only where two of them differ. -/
namespace Registration
universe u v
variable {Key : Type u} {Value : Type v}

section Entries
variable [BEq Key] [LawfulBEq Key] {entries other : List (Key × Value)} {key : Key} {value : Value}

/-- Where entries of one key agree, it does not matter which of them is found. The order of
registration is then of no consequence. -/
theorem lookup_iff (h : FirstAnswer.Agree entries) :
    entries.lookup key = some value ↔ (key, value) ∈ entries := by
  constructor
  · exact OrderedMap.mem_of_lookup
  · intro hEntry
    cases hFound : entries.lookup key with
    | none =>
        have hOther := List.lookup_eq_none_iff.mp hFound _ hEntry
        simp at hOther
    | some found => exact congrArg some (h _ (OrderedMap.mem_of_lookup hFound) _ hEntry rfl)

/-- The order of entries that agree does not matter. -/
theorem lookup_perm (h : FirstAnswer.Agree entries) (hPerm : entries.Perm other) (key : Key) :
    entries.lookup key = other.lookup key := by
  apply Option.ext
  intro value
  rw [lookup_iff h, lookup_iff (h.perm hPerm), hPerm.mem_iff]

end Entries

section Tables
variable [DecidableEq Key] {table entries : List (Key × Value)} {key : Key} {value : Value}

/-- Enter the registrations, one after another. -/
def register (table entries : List (Key × Value)) : List (Key × Value) :=
  entries.foldl (fun table entry => OrderedMap.set table entry.1 entry.2) table

theorem register_append (more : List (Key × Value)) :
    register table (entries ++ more) = register (register table entries) more :=
  List.foldl_append ..

/-- Registering group by group is registering all of them, in the order of the groups and of the
entries in each. -/
theorem foldl_register {Group : Type*} (ofGroup : Group → List (Key × Value))
    (groups : List Group) :
    groups.foldl (fun table group => register table (ofGroup group)) table =
      register table (groups.flatMap ofGroup) := by
  induction groups generalizing table with
  | nil => rfl
  | cons group rest ih => rw [List.foldl_cons, ih, List.flatMap_cons, register_append]

/-- The last registration of a key counts. -/
theorem lookup_register :
    (register table entries).lookup key =
      (entries.reverse.lookup key).or (table.lookup key) := by
  induction entries generalizing table with
  | nil => rfl
  | cons entry rest ih =>
      obtain ⟨other, first⟩ := entry
      rw [register, List.foldl_cons, ← register, ih, List.reverse_cons, List.lookup_append,
        Option.or_assoc]
      congr 1
      by_cases hKey : key = other
      · rw [hKey, OrderedMap.lookup_set, List.lookup_cons_self]
        rfl
      · rw [OrderedMap.lookup_set_of_ne hKey, OrderedMap.lookup_singleton_of_ne hKey]
        rfl

theorem nodup_register (h : (table.map Prod.fst).Nodup) :
    ((register table entries).map Prod.fst).Nodup := by
  induction entries generalizing table with
  | nil => exact h
  | cons entry rest ih => exact ih (OrderedMap.nodup_set h entry.1 entry.2)

/-- Where registrations of one key agree, the table says what was registered. No registration is
lost, and nothing is found that was never registered. -/
theorem lookup_register_iff (h : FirstAnswer.Agree entries) :
    (register [] entries).lookup key = some value ↔ (key, value) ∈ entries := by
  rw [lookup_register, List.lookup_nil, Option.or_none,
    lookup_iff (h.perm (List.reverse_perm entries).symm), List.mem_reverse]

theorem mem_register_iff (h : FirstAnswer.Agree entries) {entry : Key × Value} :
    entry ∈ register [] entries ↔ entry ∈ entries := by
  constructor
  · intro hEntry
    exact (lookup_register_iff h).mp (OrderedMap.lookup_of_mem (nodup_register List.nodup_nil) hEntry)
  · intro hEntry
    exact OrderedMap.mem_of_lookup ((lookup_register_iff h).mpr hEntry)

/-- A table that is registered again stays as it is for all who read it. Only the order of its keys
may have changed, and no reader sees it. -/
theorem lookup_register_register (h : FirstAnswer.Agree entries) :
    (register [] (register [] entries)).lookup key = some value ↔ (key, value) ∈ entries := by
  have hAgain : FirstAnswer.Agree (register [] entries) := fun a ha b hb =>
    h a ((mem_register_iff h).mp ha) b ((mem_register_iff h).mp hb)
  rw [lookup_register_iff hAgain, mem_register_iff h]

end Tables

end Registration
