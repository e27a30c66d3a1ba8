import Mathlib.Data.List.Induction
import Mathlib.Data.List.Nodup
import Mathlib.Data.List.Sort
import Mathlib.Order.Basic

/-! Collections of documents. Writes are upserts by a key; queries filter, sort newest
first, skip and limit. Documents of one time come in any order, a new one for each query. -/
namespace Documents
universe u v w

/-- How a collection is written. A change is for one key, and a document keeps its own. -/
structure Keyed (Doc : Type u) (Change : Type v) (Key : Type w) where
  key : Doc → Key
  target : Change → Key
  update : Change → Doc → Doc
  insert : Change → Doc
  key_update : ∀ c d, key (update c d) = key d
  key_insert : ∀ c, key (insert c) = target c

namespace Keyed
variable {Doc : Type u} {Change : Type v} {Key : Type w} (keyed : Keyed Doc Change Key)

/-- The document that some changes of one key leave. -/
def merged : List Change → Option Doc
  | [] => none
  | c :: rest => some (rest.foldl (fun d c => keyed.update c d) (keyed.insert c))

/-- The last change updates what the earlier ones have made, or inserts the document if there were
none. -/
theorem merged_append (changes : List Change) (c : Change) :
    keyed.merged (changes ++ [c]) =
      some (((keyed.merged changes).map (keyed.update c)).getD (keyed.insert c)) := by
  cases changes with
  | nil => rfl
  | cons first rest => simp [merged]

theorem nodup_eraseIdx {docs : List Doc} (h : (docs.map keyed.key).Nodup) (i : Nat) :
    ((docs.eraseIdx i).map keyed.key).Nodup :=
  h.sublist ((List.eraseIdx_sublist docs i).map keyed.key)

variable [DecidableEq Key]

/-- `findOneAndUpdate` with `upsert`. -/
def put : List Doc → Change → List Doc
  | [], c => [keyed.insert c]
  | d :: rest, c =>
      if keyed.key d = keyed.target c then keyed.update c d :: rest else d :: put rest c

/-- `findOne`. -/
def find (docs : List Doc) (k : Key) : Option Doc := docs.find? fun d => keyed.key d = k

variable {keyed}

theorem mem_keys_put {docs : List Doc} {c : Change} {k : Key} :
    k ∈ (keyed.put docs c).map keyed.key ↔ k ∈ docs.map keyed.key ∨ k = keyed.target c := by
  induction docs with
  | nil => simp [put, keyed.key_insert]
  | cons d rest ih =>
      rw [put]
      split
      · rename_i hSame
        simp only [List.map_cons, List.mem_cons, keyed.key_update, hSame]
        tauto
      · simp only [List.map_cons, List.mem_cons, ih]
        tauto

/-- No key is stored twice. A write to a key that is there takes the place of its document. -/
theorem nodup_put {docs : List Doc} (h : (docs.map keyed.key).Nodup) (c : Change) :
    ((keyed.put docs c).map keyed.key).Nodup := by
  induction docs with
  | nil => simp [put]
  | cons d rest ih =>
      rw [List.map_cons, List.nodup_cons] at h
      rw [put]
      split
      · rw [List.map_cons, keyed.key_update]
        exact List.nodup_cons.mpr h
      · rename_i hOther
        rw [List.map_cons, List.nodup_cons, mem_keys_put]
        exact ⟨fun hMember => hMember.elim h.1 hOther, ih h.2⟩

theorem nodup_foldl_put {docs : List Doc} (h : (docs.map keyed.key).Nodup) (changes : List Change) :
    ((changes.foldl keyed.put docs).map keyed.key).Nodup := by
  induction changes generalizing docs with
  | nil => exact h
  | cons c rest ih => exact ih (nodup_put h c)

/-- A write changes what is found under its own key, and nothing else. Reads under other keys need
not know about the write. -/
theorem find_put (docs : List Doc) (c : Change) (k : Key) :
    keyed.find (keyed.put docs c) k =
      if keyed.target c = k then
        some (((keyed.find docs k).map (keyed.update c)).getD (keyed.insert c))
      else keyed.find docs k := by
  induction docs with
  | nil =>
      by_cases h : keyed.target c = k
      · simp [put, find, keyed.key_insert, h]
      · simp [put, find, keyed.key_insert, h]
  | cons d rest ih =>
      rw [put]
      by_cases hSame : keyed.key d = keyed.target c
      · by_cases h : keyed.target c = k
        · simp [find, hSame, keyed.key_update, h]
        · simp [find, hSame, keyed.key_update, h]
      · rw [if_neg hSame]
        by_cases hHere : keyed.key d = k
        · have hOther : keyed.target c ≠ k := fun h => hSame (hHere.trans h.symm)
          simp [find, hHere, hOther]
        · have hStep : ∀ docs, keyed.find (d :: docs) k = keyed.find docs k := fun docs => by
            simp [find, hHere]
          rw [hStep, hStep, ih]

/-- What is stored under a key is what the writes for that key have left, whatever other
writes came between them. -/
theorem find_foldl_put (changes : List Change) (k : Key) :
    keyed.find (changes.foldl keyed.put []) k =
      keyed.merged (changes.filter fun c => keyed.target c = k) := by
  induction changes using List.reverseRecOn with
  | nil => rfl
  | append_singleton earlier c ih =>
      rw [List.foldl_append, List.foldl_cons, List.foldl_nil, find_put, ih, List.filter_append]
      by_cases h : keyed.target c = k
      · simp [h, merged_append]
      · simp [h]

/-- With different keys, finding a key and holding a document with this key are the same. The
collection may then be treated as a map. -/
theorem find_eq_some_iff {docs : List Doc} (h : (docs.map keyed.key).Nodup) {k : Key} {d : Doc} :
    keyed.find docs k = some d ↔ d ∈ docs ∧ keyed.key d = k := by
  constructor
  · intro hFind
    exact ⟨List.mem_of_find?_eq_some hFind, by simpa using List.find?_some hFind⟩
  · rintro ⟨hMember, rfl⟩
    cases hFind : keyed.find docs (keyed.key d) with
    | none => exact absurd (List.find?_eq_none.mp hFind d hMember) (by simp)
    | some found =>
        have hFound := List.mem_of_find?_eq_some hFind
        have hKey : keyed.key found = keyed.key d := by simpa using List.find?_some hFind
        rw [List.inj_on_of_nodup_map h hFound hMember hKey]

/-- A removed document is not found any more. -/
theorem find_eraseIdx {docs : List Doc} (h : (docs.map keyed.key).Nodup) {i : Nat} {d : Doc}
    (hd : docs[i]? = some d) (k : Key) :
    keyed.find (docs.eraseIdx i) k = if keyed.key d = k then none else keyed.find docs k := by
  induction docs generalizing i with
  | nil => simp at hd
  | cons e rest ih =>
      rw [List.map_cons, List.nodup_cons] at h
      cases i with
      | zero =>
          obtain rfl : e = d := by simpa using hd
          by_cases hKey : keyed.key e = k
          · rw [if_pos hKey, List.eraseIdx_zero, List.tail_cons, find, List.find?_eq_none]
            intro f hf hSame
            exact h.1 (List.mem_map.mpr ⟨f, hf, (by simpa using hSame : _ = k).trans hKey.symm⟩)
          · simp [find, hKey]
      | succ i =>
          have hRest := ih h.2 (by simpa using hd)
          rw [List.eraseIdx_cons_succ]
          by_cases hHere : keyed.key e = k
          · have hOther : keyed.key d ≠ k := by
              intro hSame
              have hMember : d ∈ rest := List.mem_of_getElem? (by simpa using hd)
              exact h.1 (List.mem_map.mpr ⟨d, hMember, hSame.trans hHere.symm⟩)
            simp [find, hHere, hOther]
          · have hStep : ∀ docs, keyed.find (e :: docs) k = keyed.find docs k := fun docs => by
              simp [find, hHere]
            rw [hStep, hStep, hRest]

end Keyed

/-- A query with its options. A limit of zero is none. -/
structure Query (Doc : Type u) where
  matching : Doc → Bool
  time : Doc → Nat
  skip : Nat
  limit : Nat

namespace Query
variable {Doc : Type u}

def limited (limit : Nat) (docs : List Doc) : List Doc := if limit = 0 then docs else docs.take limit

/-- The matching documents, newest first. -/
structure Order (q : Query Doc) (docs order : List Doc) : Prop where
  perm : order.Perm (docs.filter q.matching)
  newest : order.Pairwise fun a b => q.time b ≤ q.time a

/-- An answer to the query. -/
def Answers (q : Query Doc) (docs answer : List Doc) : Prop :=
  ∃ order, q.Order docs order ∧ answer = limited q.limit (order.drop q.skip)

variable {q : Query Doc} {docs answer : List Doc}

theorem limited_initial (limit : Nat) (docs : List Doc) : limited limit docs <+: docs := by
  rw [limited]
  split
  · exact List.prefix_rfl
  · exact List.take_prefix limit docs

theorem length_limited (limit : Nat) (docs : List Doc) :
    (limited limit docs).length = if limit = 0 then docs.length else min limit docs.length := by
  rw [limited]
  split
  · rfl
  · rw [List.length_take]

/-- The matching documents can be put in the order that the query asks for. Ties may be broken in
any way. -/
theorem exists_order (q : Query Doc) (docs : List Doc) : ∃ order, q.Order docs order := by
  let newer (a b : Doc) : Bool := q.time b ≤ q.time a
  refine ⟨(docs.filter q.matching).mergeSort newer, List.mergeSort_perm _ _, ?_⟩
  have hSorted := @List.pairwise_mergeSort _ newer (fun a b c => by
    simp only [newer, decide_eq_true_eq]
    intro hFirst hSecond
    exact hSecond.trans hFirst) (fun a b => by
    simp only [newer, Bool.or_eq_true, decide_eq_true_eq]
    exact le_total _ _) (docs.filter q.matching)
  exact hSorted.imp fun h => by simpa [newer] using h

/-- Every query has an answer. -/
theorem exists_answer (q : Query Doc) (docs : List Doc) : ∃ answer, q.Answers docs answer := by
  obtain ⟨order, hOrder⟩ := exists_order q docs
  exact ⟨_, order, hOrder, rfl⟩

theorem Answers.mem (h : q.Answers docs answer) {d : Doc} (hd : d ∈ answer) :
    d ∈ docs ∧ q.matching d = true := by
  obtain ⟨order, hOrder, rfl⟩ := h
  have hMember := List.mem_of_mem_drop ((limited_initial _ _).subset hd)
  exact List.mem_filter.mp (hOrder.perm.subset hMember)

theorem Answers.newest (h : q.Answers docs answer) :
    answer.Pairwise fun a b => q.time b ≤ q.time a := by
  obtain ⟨order, hOrder, rfl⟩ := h
  exact hOrder.newest.sublist ((limited_initial _ _).sublist.trans (List.drop_sublist _ _))

/-- What a limit leaves out of an answer is not newer than what is in it. So a reader of the newest
documents misses older ones only. -/
theorem Answers.left (h : q.Answers docs answer) (hSkip : q.skip = 0) :
    ∃ left, (answer ++ left).Perm (docs.filter q.matching) ∧
      (∀ a ∈ answer, ∀ d ∈ left, q.time d ≤ q.time a) ∧
        answer.length = if q.limit = 0 then (docs.filter q.matching).length
          else min q.limit (docs.filter q.matching).length := by
  obtain ⟨order, hOrder, rfl⟩ := h
  rw [hSkip, List.drop_zero]
  obtain ⟨left, hLeft⟩ := limited_initial q.limit order
  have hNewest := hOrder.newest
  rw [← hLeft, List.pairwise_append] at hNewest
  refine ⟨left, ?_, hNewest.2.2, ?_⟩
  · rw [hLeft]
    exact hOrder.perm
  · rw [length_limited, hOrder.perm.length_eq]

/-- Without a limit nothing is left out. -/
theorem Answers.whole (h : q.Answers docs answer) (hSkip : q.skip = 0) (hLimit : q.limit = 0) :
    answer.Perm (docs.filter q.matching) := by
  obtain ⟨order, hOrder, rfl⟩ := h
  rw [hSkip, hLimit, List.drop_zero, limited, if_pos rfl]
  exact hOrder.perm

/-- Where no two documents have the same time there is one order. Documents of one time may be
answered in any order, and this is the only freedom. -/
theorem Order.unique {first second : List Doc} (hFirst : q.Order docs first)
    (hSecond : q.Order docs second) (hTimes : ((docs.filter q.matching).map q.time).Nodup) :
    first = second := by
  refine List.Perm.eq_of_pairwise ?_ hFirst.newest hSecond.newest
    (hFirst.perm.trans hSecond.perm.symm)
  intro a b ha hb hab hba
  exact List.inj_on_of_nodup_map hTimes (hFirst.perm.subset ha) (hSecond.perm.subset hb)
    (Nat.le_antisymm hba hab)

theorem flatMap_pages (order : List Doc) (limit count : Nat) :
    (List.range count).flatMap (fun n => (order.drop (n * limit)).take limit) =
      order.take (count * limit) := by
  induction count with
  | zero => simp
  | succ count ih =>
      rw [List.range_succ, List.flatMap_append, ih, List.flatMap_singleton, Nat.succ_mul,
        List.take_add]

/-- The page that begins after `skip` documents. -/
def page (q : Query Doc) (skip : Nat) : Query Doc := { q with skip := skip }

/-- Pages of an unchanged collection put together are the newest documents, each once. The pages may
be asked for at different times, as long as nothing is written in between. -/
theorem pages_tile {pages : Nat → List Doc} {count : Nat} (hLimit : q.limit ≠ 0)
    (hTimes : ((docs.filter q.matching).map q.time).Nodup)
    (hPages : ∀ n < count, (q.page (n * q.limit)).Answers docs (pages n)) :
    ∃ order, q.Order docs order ∧
      (List.range count).flatMap pages = order.take (count * q.limit) := by
  obtain ⟨order, hOrder⟩ := exists_order q docs
  refine ⟨order, hOrder, ?_⟩
  rw [← flatMap_pages]
  refine List.flatMap_congr fun n hn => ?_
  obtain ⟨own, hOwn, hPage⟩ := hPages n (List.mem_range.mp hn)
  have hSame : own = order := Order.unique (show q.Order docs own from ⟨hOwn.perm, hOwn.newest⟩)
    hOrder hTimes
  rw [hPage, hSame, limited, if_neg (show (q.page (n * q.limit)).limit ≠ 0 from hLimit)]
  rfl

end Query

end Documents
