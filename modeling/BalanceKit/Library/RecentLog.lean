import Mathlib.Data.List.DropRight

/-! A log that keeps its most recent entries. Entries are pushed at the end and
the oldest one is shifted out when the capacity is exceeded; a reader resumes
after the first entry with a given key. -/
namespace RecentLog
universe u v
variable {Entry : Type u} {Key : Type v}

def push (capacity : Nat) (log : List Entry) (e : Entry) : List Entry :=
  if (log ++ [e]).length > capacity then (log ++ [e]).drop 1 else log ++ [e]

/-- The entries after the first one with the key, or all of them without one. -/
def since [DecidableEq Key] (key : Entry → Key) (log : List Entry) (k : Key) : List Entry :=
  match log.findIdx? fun e => key e == k with
  | none => log
  | some i => log.drop (i + 1)

/-- Pushing onto the last entries of a history gives the last entries of the
longer history. -/
theorem push_rtake (capacity : Nat) (history : List Entry) (e : Entry) :
    push capacity (history.rtake capacity) e = (history ++ [e]).rtake capacity := by
  unfold push List.rtake
  by_cases h : capacity ≤ history.length
  · have hKept : (history.drop (history.length - capacity)).length = capacity := by
      rw [List.length_drop]
      omega
    have hShift : history.length - capacity + 1 = (history ++ [e]).length - capacity := by
      simp only [List.length_append, List.length_singleton]
      omega
    rw [if_pos (by simp only [List.length_append, hKept, List.length_singleton]; omega),
      ← List.drop_append_of_le_length (Nat.sub_le ..), List.drop_drop, hShift]
  · have hAll : history.length - capacity = 0 := by omega
    have hRoom : (history ++ [e]).length - capacity = 0 := by
      simp only [List.length_append, List.length_singleton]
      omega
    have hShort : ¬ (history ++ [e]).length > capacity := by
      simp only [List.length_append, List.length_singleton]
      omega
    rw [hAll, hRoom, List.drop_zero, List.drop_zero, if_neg hShort]

section Since
variable [DecidableEq Key] {key : Entry → Key}

theorem since_sublist (key : Entry → Key) (log : List Entry) (k : Key) :
    List.Sublist (since key log k) log := by
  unfold since
  split
  · exact List.Sublist.refl log
  · exact List.drop_sublist _ log

theorem since_of_forall_ne {log : List Entry} {k : Key} (h : ∀ e ∈ log, key e ≠ k) :
    since key log k = log := by
  have hNone : (log.findIdx? fun e => key e == k) = none :=
    List.findIdx?_eq_none_iff.mpr fun e he => by simpa using h e he
  simp [since, hNone]

theorem since_append_cons {earlier later : List Entry} {e : Entry}
    (h : ∀ d ∈ earlier, key d ≠ key e) : since key (earlier ++ e :: later) (key e) = later := by
  have hNone : (earlier.findIdx? fun d => key d == key e) = none :=
    List.findIdx?_eq_none_iff.mpr fun d hd => by simpa using h d hd
  simp [since, List.findIdx?_append, hNone, List.findIdx?_cons]

end Since

end RecentLog
