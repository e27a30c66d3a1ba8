import BalanceKit.Library.OrderedMap
import BalanceKit.Library.Text

/-! Values of the source language as documents hold them. An object is the list
of its own fields in insertion order, with each name at most once. -/

inductive Js where
  | undefined
  | null
  | bool (value : Bool)
  | num (value : Rat)
  | str (value : String)
  | arr (items : List Js)
  | obj (fields : List (String × Js))
  deriving Inhabited

namespace Js

/-- `value.key`, which is undefined for a field that the value does not have. -/
def get : Js → String → Js
  | obj fields, key => (fields.lookup key).getD undefined
  | _, _ => undefined

/-- Neither undefined nor null has fields, and reading one throws. -/
def isNullish : Js → Bool
  | undefined | null => true
  | _ => false

/-- The conversion to a boolean that `!`, `&&` and `||` perform. -/
def truthy : Js → Bool
  | undefined => false
  | null => false
  | bool b => b
  | num q => decide (q ≠ 0)
  | str s => decide (s ≠ "")
  | arr _ => true
  | obj _ => true

/-- `a || b`. -/
def orElse (a b : Js) : Js := if a.truthy then a else b

/-- Assign a field: an existing one keeps its position. -/
def setField (fields : List (String × Js)) (key : String) (value : Js) : List (String × Js) :=
  match fields with
  | [] => [(key, value)]
  | (k, v) :: rest => if k = key then (k, value) :: rest else (k, v) :: setField rest key value

/-- `value.key = x` on an object; other values are left alone. -/
def set : Js → String → Js → Js
  | obj fields, key, value => obj (setField fields key value)
  | other, _, _ => other

/-- `delete value.key`. -/
def delete : Js → String → Js
  | obj fields, key => obj (fields.filter fun f => f.1 ≠ key)
  | other, _ => other

/-- The fields that `...value` contributes to an object literal. -/
def fields : Js → List (String × Js)
  | obj fs => fs
  | arr xs => xs.zipIdx.map fun x => (toString x.2, x.1)
  | str s => (Text.units s).zipIdx.map fun u => (toString u.2, str u.1)
  | _ => []

/-- `{ ...a, ...b }`. -/
def spread (a b : Js) : Js := obj (b.fields.foldl (fun fs f => setField fs f.1 f.2) a.fields)

/-- The items of an array. -/
def items : Js → List Js
  | arr xs => xs
  | _ => []

def isArray : Js → Bool
  | arr _ => true
  | _ => false

/-- `'key' in value` for own fields. -/
def has : Js → String → Bool
  | obj fs, key => (fs.lookup key).isSome
  | _, _ => false

@[simp] theorem items_arr (xs : List Js) : (arr xs).items = xs := rfl

@[simp] theorem truthy_arr (xs : List Js) : (arr xs).truthy = true := rfl

@[simp] theorem orElse_arr (xs : List Js) (b : Js) : (arr xs).orElse b = arr xs := rfl

theorem truthy_natCast {n : Nat} (h : n ≠ 0) : (num n).truthy = true := by
  simpa [truthy] using h

theorem orElse_of_truthy {a b : Js} (h : a.truthy = true) : a.orElse b = a := by
  simp [orElse, h]

theorem orElse_of_falsy {a b : Js} (h : a.truthy = false) : a.orElse b = b := by
  simp [orElse, h]

theorem lookup_cons_of_ne {key other : String} (h : other ≠ key) (value : Js)
    (rest : List (String × Js)) : List.lookup other ((key, value) :: rest) = rest.lookup other := by
  rw [List.lookup_cons, beq_eq_false_iff_ne.mpr h]

theorem lookup_setField (fs : List (String × Js)) (key other : String) (value : Js) :
    (setField fs key value).lookup other =
      if other = key then some value else fs.lookup other := by
  induction fs with
  | nil =>
      by_cases h : other = key
      · simp [setField, h]
      · simp [setField, h, lookup_cons_of_ne h]
  | cons f rest ih =>
      obtain ⟨k, v⟩ := f
      by_cases hKey : k = key
      · subst hKey
        by_cases h : other = k
        · simp [setField, h]
        · simp [setField, h, lookup_cons_of_ne h]
      · by_cases h : other = k
        · simp [setField, hKey, h]
        · simp [setField, hKey, lookup_cons_of_ne h, ih]

/-- An object after an assignment. -/
theorem get_set_obj (fs : List (String × Js)) (key other : String) (value : Js) :
    ((obj fs).set key value).get other = if other = key then value else (obj fs).get other := by
  show ((setField fs key value).lookup other).getD undefined = _
  rw [lookup_setField]
  by_cases h : other = key
  · rw [if_pos h, if_pos h]
    rfl
  · rw [if_neg h, if_neg h]
    rfl

/-- An assignment of what the field already holds. -/
theorem setField_of_lookup {fs : List (String × Js)} {key : String} {value : Js}
    (h : fs.lookup key = some value) : setField fs key value = fs := by
  induction fs with
  | nil => cases h
  | cons f rest ih =>
      obtain ⟨k, v⟩ := f
      by_cases hKey : k = key
      · subst hKey
        obtain rfl : v = value := by simpa using h
        simp [setField]
      · rw [lookup_cons_of_ne fun hSame => hKey hSame.symm] at h
        simp [setField, hKey, ih h]

/-- A new field goes to the end. -/
theorem setField_of_not_mem {fs : List (String × Js)} {key : String} (h : key ∉ fs.map Prod.fst)
    (value : Js) : setField fs key value = fs ++ [(key, value)] := by
  induction fs with
  | nil => rfl
  | cons f rest ih =>
      rw [List.map_cons, List.mem_cons, not_or] at h
      rw [setField, if_neg (Ne.symm h.1), ih h.2]
      rfl

/-- An object after a deletion. -/
theorem lookup_delete (fs : List (String × Js)) (key other : String) :
    (fs.filter fun f => f.1 ≠ key).lookup other =
      if other = key then none else fs.lookup other := by
  by_cases h : other = key
  · rw [if_pos h, h]
    exact OrderedMap.lookup_delete
  · rw [if_neg h]
    exact OrderedMap.lookup_delete_of_ne h

end Js
