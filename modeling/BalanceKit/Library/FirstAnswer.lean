import Mathlib.Data.List.Basic

/-! A table that keeps the first answer for every key and is never cleared. The rule below
says when each request is still given its own answer. -/
namespace FirstAnswer
universe u v
variable {Key : Type u} {Answer : Type v}

/-- The answer that is kept for the key of the request, or else its own. -/
def answer (table : Key → Option Answer) (request : Key × Answer) : Answer :=
  (table request.1).getD request.2

/-- The table after a request. -/
def keep [DecidableEq Key] (table : Key → Option Answer) (request : Key × Answer) :
    Key → Option Answer :=
  fun key => if key = request.1 then some (answer table request) else table key

/-- Every request is given its own answer. -/
def Own [DecidableEq Key] : (Key → Option Answer) → List (Key × Answer) → Prop
  | _, [] => True
  | table, request :: rest => answer table request = request.2 ∧ Own (keep table request) rest

/-- Requests for one key have one answer. -/
def Agree (requests : List (Key × Answer)) : Prop :=
  ∀ a ∈ requests, ∀ b ∈ requests, a.1 = b.1 → a.2 = b.2

/-- A request agrees with the others if those for its key have the same answer. For a request with a
new key there is nothing to compare. -/
theorem agree_cons {request : Key × Answer} {rest : List (Key × Answer)} :
    Agree (request :: rest) ↔ (∀ other ∈ rest, other.1 = request.1 → request.2 = other.2) ∧
      Agree rest := by
  constructor
  · intro h
    refine ⟨fun other hOther hKey => ?_, fun a ha b hb => ?_⟩
    · exact h request List.mem_cons_self other (List.mem_cons_of_mem _ hOther) hKey.symm
    · exact h a (List.mem_cons_of_mem _ ha) b (List.mem_cons_of_mem _ hb)
  · rintro ⟨hHead, hRest⟩ a ha b hb hKey
    rcases List.mem_cons.mp ha with hFirstA | hRestA
    · rcases List.mem_cons.mp hb with hFirstB | hRestB
      · rw [hFirstA, hFirstB]
      · rw [hFirstA] at hKey ⊢
        exact hHead b hRestB hKey.symm
    · rcases List.mem_cons.mp hb with hFirstB | hRestB
      · rw [hFirstB] at hKey ⊢
        exact (hHead a hRestA hKey).symm
      · exact hRest a hRestA b hRestB hKey

theorem Agree.perm {requests others : List (Key × Answer)} (h : Agree requests)
    (hPerm : requests.Perm others) : Agree others :=
  fun a ha b hb => h a (hPerm.mem_iff.mpr ha) b (hPerm.mem_iff.mpr hb)

section Tables
variable {table : Key → Option Answer} {request other : Key × Answer}

/-- A request that has its own answer leaves it to others for the key. The table keeps one answer
for a key, whoever has asked for it first. -/
theorem answer_of_same_key (hOwn : answer table request = request.2) (hKey : other.1 = request.1)
    (hAnswer : request.2 = other.2) : answer table other = other.2 := by
  unfold answer at hOwn ⊢
  rw [hKey]
  cases hKept : table request.1 with
  | none => rfl
  | some kept =>
      rw [hKept, Option.getD_some] at hOwn
      exact hOwn.trans hAnswer

theorem answer_of_some {kept : Answer} (h : table request.1 = some kept) :
    answer table request = kept := by
  rw [answer, h]
  rfl

theorem answer_of_none (h : table request.1 = none) : answer table request = request.2 := by
  rw [answer, h]
  rfl

variable [DecidableEq Key]

theorem keep_of_some {kept : Answer} (h : table request.1 = some kept) :
    keep table request = table := by
  funext key
  unfold keep
  by_cases hKey : key = request.1
  · rw [if_pos hKey, hKey, h, answer_of_some h]
  · rw [if_neg hKey]

theorem answer_keep (h : other.1 = request.1) :
    answer (keep table request) other = answer table request := by
  simp [answer, keep, h]

theorem answer_keep_of_ne (h : other.1 ≠ request.1) :
    answer (keep table request) other = answer table other := by
  simp [answer, keep, h]

/-- Every request is given its own answer just where the table has no other for it, and
requests for one key agree. -/
theorem own_iff (table : Key → Option Answer) (requests : List (Key × Answer)) :
    Own table requests ↔ (∀ request ∈ requests, answer table request = request.2) ∧
      Agree requests := by
  induction requests generalizing table with
  | nil => simp [Own, Agree]
  | cons request rest ih =>
      rw [Own, ih, agree_cons, List.forall_mem_cons]
      constructor
      · rintro ⟨hOwn, hRest, hAgree⟩
        have hHead : ∀ other ∈ rest, other.1 = request.1 → request.2 = other.2 := by
          intro other hOther hKey
          rw [← hRest other hOther, answer_keep hKey, hOwn]
        refine ⟨⟨hOwn, fun other hOther => ?_⟩, hHead, hAgree⟩
        by_cases hKey : other.1 = request.1
        · exact answer_of_same_key hOwn hKey (hHead other hOther hKey)
        · rw [← answer_keep_of_ne hKey]
          exact hRest other hOther
      · rintro ⟨⟨hOwn, hRest⟩, hHead, hAgree⟩
        refine ⟨hOwn, fun other hOther => ?_, hAgree⟩
        by_cases hKey : other.1 = request.1
        · rw [answer_keep hKey, hOwn]
          exact hHead other hOther hKey
        · rw [answer_keep_of_ne hKey]
          exact hRest other hOther

end Tables

end FirstAnswer
