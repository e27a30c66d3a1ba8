import BalanceKit.Core.CacheMongo

/-! The transformation of portfolio data, which every save applies twice: once in the listener
and once in `savePortfolioSnapshot`. -/
namespace BalanceKit

/-- The listener has its own copy of the method. -/
def PortfolioMongoListener.transformPortfolioData (data : Js) : Js :=
  DbService.transformPortfolioData data

namespace TransformStability
open DbService

section Steps
variable (fs data : List (String × Js))

def value (key : String) : Js := (Js.obj fs).get key

/-- A field that gives way to another one with the given content. -/
def rename (source target : String) (content : Js) : List (String × Js) :=
  (Js.setField fs target content).filter fun f => f.1 ≠ source

/-- A field is truthy and the one that it is renamed to is not. -/
def renamed (source target : String) : Bool :=
  (value fs source).truthy && !(value fs target).truthy

/-- The first test: the data has its format already. -/
def inFormat : Bool := renamed fs "native" "nativeBalance"

def renameNative : List (String × Js) :=
  if renamed fs "nativeBalance" "native" then
    rename fs "nativeBalance" "native" (.obj (value fs "nativeBalance").fields)
  else fs

def ensureBlockNumber : List (String × Js) :=
  if !(value fs "blockNumber").truthy then Js.setField fs "blockNumber" (.num 0) else fs

/-- What is renamed is decided and read on the original object. -/
def renameTokens : List (String × Js) :=
  if renamed data "tokens" "fungibles" then rename fs "tokens" "fungibles" (value data "tokens")
  else fs

def transformed : List (String × Js) :=
  if inFormat fs then fs else renameTokens (ensureBlockNumber (renameNative fs)) fs

/-- The method in steps. It assigns and deletes on the object, one field after the other, and each
step is a function of the fields. -/
theorem transformPortfolioData_obj :
    transformPortfolioData (.obj fs) = .obj (transformed fs) := by
  have hNative : (if ((Js.obj fs).get "nativeBalance").truthy &&
        !((Js.obj fs).get "native").truthy then
      ((Js.obj fs).set "native" (.obj ((Js.obj fs).get "nativeBalance").fields)).delete
        "nativeBalance"
      else Js.obj fs) = .obj (renameNative fs) := by
    unfold renameNative renamed value
    split <;> rfl
  have hBlock : ∀ gs : List (String × Js), (if !((Js.obj gs).get "blockNumber").truthy then
      (Js.obj gs).set "blockNumber" (.num 0) else .obj gs) = .obj (ensureBlockNumber gs) := by
    intro gs
    unfold ensureBlockNumber value
    split <;> rfl
  have hTokens : ∀ gs : List (String × Js), (if ((Js.obj fs).get "tokens").truthy &&
        !((Js.obj fs).get "fungibles").truthy then
      ((Js.obj gs).set "fungibles" ((Js.obj fs).get "tokens")).delete "tokens"
      else .obj gs) = .obj (renameTokens gs fs) := by
    intro gs
    unfold renameTokens renamed value
    split <;> rfl
  unfold transformed transformPortfolioData
  by_cases hFormat : inFormat fs = true
  · rw [if_pos hFormat]
    exact if_pos hFormat
  · rw [if_neg hFormat, ← hTokens, ← hBlock, ← hNative]
    exact if_neg hFormat

end Steps

section Fields
variable {fs gs data : List (String × Js)} {key source target : String} {content : Js}

theorem value_of_lookup (h : gs.lookup key = fs.lookup key) : value gs key = value fs key :=
  congrArg (fun field => field.getD Js.undefined) h

theorem renamed_of_values (hSource : value gs source = value fs source)
    (hTarget : value gs target = value fs target) :
    renamed gs source target = renamed fs source target := by
  rw [renamed, hSource, hTarget, renamed]

/-- After a renaming the old name is gone and the new one has the content. All other fields are
where they were. -/
theorem lookup_rename : (rename fs source target content).lookup key =
    if key = source then none else if key = target then some content else fs.lookup key := by
  rw [rename, Js.lookup_delete, Js.lookup_setField]

theorem value_rename_source : value (rename fs source target content) source = .undefined := by
  show ((rename fs source target content).lookup source).getD _ = _
  rw [lookup_rename, if_pos rfl]
  rfl

theorem value_rename_target (h : target ≠ source) :
    value (rename fs source target content) target = content := by
  show ((rename fs source target content).lookup target).getD _ = _
  rw [lookup_rename, if_neg h, if_pos rfl]
  rfl

theorem lookup_renameNative (hNative : key ≠ "native") (hBalance : key ≠ "nativeBalance") :
    (renameNative fs).lookup key = fs.lookup key := by
  unfold renameNative
  split
  · rw [lookup_rename, if_neg hBalance, if_neg hNative]
  · rfl

theorem lookup_ensureBlockNumber (h : key ≠ "blockNumber") :
    (ensureBlockNumber fs).lookup key = fs.lookup key := by
  unfold ensureBlockNumber
  split
  · rw [Js.lookup_setField, if_neg h]
  · rfl

theorem lookup_renameTokens (hTokens : key ≠ "tokens") (hFungibles : key ≠ "fungibles") :
    (renameTokens fs data).lookup key = fs.lookup key := by
  unfold renameTokens
  split
  · rw [lookup_rename, if_neg hTokens, if_neg hFungibles]
  · rfl

/-- A block number that has been filled in is filled in again with the same one. -/
theorem ensureBlockNumber_of_filled
    (h : gs.lookup "blockNumber" = (ensureBlockNumber fs).lookup "blockNumber") :
    ensureBlockNumber gs = gs := by
  unfold ensureBlockNumber at h ⊢
  by_cases hThere : (value fs "blockNumber").truthy = true
  · simp only [hThere, Bool.not_true, Bool.false_eq_true, if_false] at h
    rw [if_neg]
    simp [value_of_lookup h, hThere]
  · simp only [hThere, Bool.not_false, if_true, Js.lookup_setField] at h
    rw [Js.setField_of_lookup h, ite_self]

end Fields

section Stability
variable (fs : List (String × Js))

/-- The steps after the first test leave the other steps' fields alone. -/
theorem lookup_transformed_of_not_inFormat (h : inFormat fs = false) {key : String}
    (hBlock : key ≠ "blockNumber") (hTokens : key ≠ "tokens") (hFungibles : key ≠ "fungibles") :
    (transformed fs).lookup key = (renameNative fs).lookup key := by
  rw [transformed, h]
  exact (lookup_renameTokens hTokens hFungibles).trans (lookup_ensureBlockNumber hBlock)

/-- What becomes of the two names of the native balance is decided by their own step. The later
steps are about other fields and see the object that it has left. -/
theorem value_transformed_of_native (h : inFormat fs = false) {key : String}
    (hKey : key = "native" ∨ key = "nativeBalance") :
    value (transformed fs) key = value (renameNative fs) key := by
  apply value_of_lookup
  apply lookup_transformed_of_not_inFormat fs h
  all_goals rcases hKey with rfl | rfl <;> decide

/-- A native balance that is renamed is copied field by field, and its old name is gone. -/
theorem native_transformed (h : renamed fs "nativeBalance" "native" = true) :
    value (transformed fs) "native" = .obj (value fs "nativeBalance").fields ∧
      value (transformed fs) "nativeBalance" = .undefined := by
  obtain ⟨hBalance, hNative⟩ : (value fs "nativeBalance").truthy = true ∧
      (value fs "native").truthy = false := by simpa [renamed] using h
  have hFormat : inFormat fs = false := by simp [inFormat, renamed, hNative]
  have hRename : renameNative fs = _ := if_pos h
  constructor
  · rw [value_transformed_of_native fs hFormat (.inl rfl), hRename,
      value_rename_target (by decide)]
  · rw [value_transformed_of_native fs hFormat (.inr rfl), hRename, value_rename_source]

/-- One that is not renamed stays where it is, under either name. The other steps do not touch
it. -/
theorem native_transformed_of_not_renamed (h : renamed fs "nativeBalance" "native" = false)
    {key : String} (hKey : key = "native" ∨ key = "nativeBalance") :
    value (transformed fs) key = value fs key := by
  cases hFormat : inFormat fs with
  | true => rw [transformed, if_pos hFormat]
  | false =>
      have hRename : renameNative fs = fs := if_neg (Bool.eq_false_iff.mp h)
      rw [value_transformed_of_native fs hFormat hKey, hRename]

/-- Data in its format is returned as it came, without so much as a block number. The test looks at
the two names of the native balance. -/
theorem transformed_of_inFormat (h : inFormat fs = true) : transformed fs = fs := if_pos h

/-- The tokens as the transformation leaves them, where it does not return early. -/
theorem tokens_transformed (hFormat : inFormat fs = false)
    (h : renamed fs "tokens" "fungibles" = true) :
    value (transformed fs) "fungibles" = value fs "tokens" ∧
      value (transformed fs) "tokens" = .undefined := by
  have hTransformed : transformed fs = rename (ensureBlockNumber (renameNative fs)) "tokens"
      "fungibles" (value fs "tokens") := by
    rw [transformed, hFormat]
    exact if_pos h
  rw [hTransformed]
  exact ⟨value_rename_target (by decide), value_rename_source⟩

theorem tokens_transformed_of_not_renamed
    (h : inFormat fs = true ∨ renamed fs "tokens" "fungibles" = false) {key : String}
    (hKey : key = "tokens" ∨ key = "fungibles") :
    value (transformed fs) key = value fs key := by
  cases hFormat : inFormat fs with
  | true => rw [transformed, if_pos hFormat]
  | false =>
      have hTokens : renamed fs "tokens" "fungibles" = false := by simpa [hFormat] using h
      have hTransformed : transformed fs = ensureBlockNumber (renameNative fs) := by
        rw [transformed, hFormat]
        exact if_neg (Bool.eq_false_iff.mp hTokens)
      apply value_of_lookup
      rw [hTransformed, lookup_ensureBlockNumber, lookup_renameNative]
      all_goals rcases hKey with rfl | rfl <;> decide

theorem lookup_transformed {key : String}
    (h : key ∉ ["native", "nativeBalance", "tokens", "fungibles", "blockNumber"]) :
    (transformed fs).lookup key = fs.lookup key := by
  simp only [List.mem_cons, List.not_mem_nil, or_false, not_or] at h
  obtain ⟨hNative, hBalance, hTokens, hFungibles, hBlock⟩ := h
  cases hFormat : inFormat fs with
  | true => rw [transformed, if_pos hFormat]
  | false =>
      rw [lookup_transformed_of_not_inFormat fs hFormat hBlock hTokens hFungibles,
        lookup_renameNative hNative hBalance]

/-- After one application no step finds anything left to do. So a portfolio may be transformed by
each layer that it goes through. -/
theorem transformed_transformed : transformed (transformed fs) = transformed fs := by
  cases hFormat : inFormat fs with
  | true => rw [transformed_of_inFormat fs hFormat, transformed_of_inFormat fs hFormat]
  | false =>
      cases hNative : renamed fs "nativeBalance" "native" with
      | true =>
          obtain ⟨hCopy, hGone⟩ := native_transformed fs hNative
          apply transformed_of_inFormat
          rw [inFormat, renamed, hCopy, hGone]
          rfl
      | false =>
          have hKept : ∀ key, key = "native" ∨ key = "nativeBalance" →
              value (transformed fs) key = value fs key :=
            fun key hKey => native_transformed_of_not_renamed fs hNative hKey
          have hFirst : renameNative (transformed fs) = transformed fs := by
            rw [renameNative, renamed_of_values (hKept _ (.inr rfl)) (hKept _ (.inl rfl)), hNative]
            rfl
          have hSecond : ensureBlockNumber (transformed fs) = transformed fs := by
            apply ensureBlockNumber_of_filled
            rw [transformed, hFormat]
            exact lookup_renameTokens (by decide) (by decide)
          have hThird : renamed (transformed fs) "tokens" "fungibles" = false := by
            cases hTokens : renamed fs "tokens" "fungibles" with
            | true =>
                rw [renamed, (tokens_transformed fs hFormat hTokens).2]
                rfl
            | false =>
                have hSame := fun key => @tokens_transformed_of_not_renamed fs (.inr hTokens) key
                rw [renamed_of_values (hSame _ (.inl rfl)) (hSame _ (.inr rfl)), hTokens]
          have hNot : inFormat (transformed fs) = false := by
            rw [inFormat, renamed_of_values (hKept _ (.inl rfl)) (hKept _ (.inr rfl))]
            exact hFormat
          rw [transformed, hNot, hFirst, hSecond, renameTokens, hThird]
          rfl

end Stability

/-- A value is among the results under its own name. -/
def Kept (x : List (String × Js)) (name : String) : Prop :=
  (value x name).truthy = true → (transformPortfolioData (.obj x)).get name = value x name

/-- A value is among the results, under its own name or copied under the new one. -/
def Moved (x : List (String × Js)) (source target : String) (copy : Js → Js) : Prop :=
  (value x source).truthy = true →
    (transformPortfolioData (.obj x)).get source = value x source ∨
      (transformPortfolioData (.obj x)).get target = copy (value x source)

/-- What repeated saves of an object rely on, where `copy` is what a native balance becomes
under its new name. The service stores what the listener has transformed as if it had been
given the object itself. -/
structure Stable (copy : Js → Js) (x : List (String × Js)) : Prop where
  idempotent : transformPortfolioData (PortfolioMongoListener.transformPortfolioData (.obj x)) =
    transformPortfolioData (.obj x)
  stored : ∀ s now chain chainId address provider mongoTtlSeconds,
    some (PortfolioMongoListener.handlePortfolioRedisUpdated s now chain chainId address (.obj x)
        provider mongoTtlSeconds).snapshots =
      savePortfolioSnapshot s.snapshots now chain chainId address (.ofPortfolio (.obj x)) provider
        mongoTtlSeconds
  native : Kept x "native"
  nativeBalance : Moved x "nativeBalance" "native" copy
  tokens : Moved x "tokens" "fungibles" id
  fungibles : Kept x "fungibles"
  others : ∀ key ∉ ["native", "nativeBalance", "tokens", "fungibles", "blockNumber"],
    (transformPortfolioData (.obj x)).fields.lookup key = x.lookup key

variable (x : List (String × Js))

/-- A save depends on the portfolio by what the transformation makes of it. Two portfolios with one
transformed form cannot be told apart once they are saved. -/
theorem savePortfolioSnapshot_congr {snapshots : List PortfolioSnapshot} {now : Nat}
    {chain : ChainName} {chainId : Nat} {address : String} {provider : Option String}
    {ttlSeconds : Option Nat} {portfolio other : Js}
    (h : transformPortfolioData portfolio = transformPortfolioData other) :
    savePortfolioSnapshot snapshots now chain chainId address (.ofPortfolio portfolio) provider
        ttlSeconds =
      savePortfolioSnapshot snapshots now chain chainId address (.ofPortfolio other) provider
        ttlSeconds := by
  rw [savePortfolioSnapshot_of_plain (namedKey_ofPortfolio portfolio),
    savePortfolioSnapshot_of_plain (namedKey_ofPortfolio other), insertDocument_ofPortfolio,
    insertDocument_ofPortfolio, funext (updateDocument_ofPortfolio portfolio),
    funext (updateDocument_ofPortfolio other), h]

/-- Transforming twice is transforming once. The first pass leaves nothing that the second one
would rename or fill in. -/
theorem transform_transform : transformPortfolioData (transformPortfolioData (.obj x)) =
    transformPortfolioData (.obj x) := by
  rw [transformPortfolioData_obj, transformPortfolioData_obj, transformed_transformed]

/-- A truthy native balance is not replaced by one of the other name. The step that renames is taken
only where the new name has nothing truthy. -/
theorem kept_native : Kept x "native" := by
  intro hThere
  rw [transformPortfolioData_obj]
  have hNot : renamed x "nativeBalance" "native" = false := by simp [renamed, hThere]
  exact native_transformed_of_not_renamed x hNot (.inl rfl)

/-- A native balance under its old name stays there, or is found as a copy under the new one. -/
theorem moved_nativeBalance : Moved x "nativeBalance" "native" fun v => .obj v.fields := by
  intro _
  rw [transformPortfolioData_obj]
  cases hRenamed : renamed x "nativeBalance" "native" with
  | true => exact .inr (native_transformed x hRenamed).1
  | false => exact .inl (native_transformed_of_not_renamed x hRenamed (.inr rfl))

/-- Tokens under their old name stay there, or are found under the new one. -/
theorem moved_tokens : Moved x "tokens" "fungibles" id := by
  intro _
  rw [transformPortfolioData_obj]
  cases hFormat : inFormat x with
  | true => exact .inl (tokens_transformed_of_not_renamed x (.inl hFormat) (.inl rfl))
  | false =>
      cases hRenamed : renamed x "tokens" "fungibles" with
      | true => exact .inr (tokens_transformed x hFormat hRenamed).1
      | false => exact .inl (tokens_transformed_of_not_renamed x (.inr hRenamed) (.inl rfl))

/-- Truthy tokens under the new name are not replaced by those under the old one. The old name keeps
its own value beside them. -/
theorem kept_fungibles : Kept x "fungibles" := by
  intro hThere
  rw [transformPortfolioData_obj]
  have hNot : renamed x "tokens" "fungibles" = false := by simp [renamed, hThere]
  exact tokens_transformed_of_not_renamed x (.inr hNot) (.inr rfl)

/-- The transformation is stable for every object. A native balance that is an object is the
same as its copy. -/
theorem stable_transformPortfolioData : Stable (fun v => .obj v.fields) x where
  idempotent := transform_transform x
  stored s now chain chainId address provider mongoTtlSeconds := by
    rw [← PortfolioMongoListener.savePortfolioSnapshot_handlePortfolioRedisUpdated]
    exact savePortfolioSnapshot_congr (transform_transform x)
  native := kept_native x
  nativeBalance := moved_nativeBalance x
  tokens := moved_tokens x
  fungibles := kept_fungibles x
  others key hKey := by
    rw [transformPortfolioData_obj]
    exact lookup_transformed x hKey

/-- The fields of a number are none, so a native balance that is one is not kept. Spreading it gives
an empty object, with no field of the balance in it. -/
theorem not_stable_number : ¬ Stable id [("nativeBalance", .num 5)] := by
  intro h
  have hKept := h.nativeBalance (by decide)
  have hSource : (transformPortfolioData (.obj [("nativeBalance", .num 5)])).get "nativeBalance" =
    .undefined := rfl
  have hTarget : (transformPortfolioData (.obj [("nativeBalance", .num 5)])).get "native" =
    .obj [] := rfl
  rw [hSource, hTarget] at hKept
  rcases hKept with hSame | hSame <;> cases hSame

/-- No later reader can tell which number it was. -/
example : transformPortfolioData (.obj [("nativeBalance", .num 5)]) =
    transformPortfolioData (.obj [("nativeBalance", .num 6)]) := rfl

end TransformStability

end BalanceKit
