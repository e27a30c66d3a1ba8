import BalanceKit.Library.Text

/-! The error codes of the application with their status, message and exposure. -/
namespace BalanceKit

inductive ErrorCode where
  | commonInternalError | commonBadRequest | commonNotFound | commonUnauthorized
  | commonForbidden | commonValidationError
  | blockchainInvalidAddress | blockchainInvalidChain | blockchainInvalidTransaction
  | providerAuthFailed | providerUnavailable | providerRateLimit | providerNotSupported
  | providerRequestFailed
  | balanceFetchFailed | balanceParsingError | balanceChainNotSupported
  | cacheSetFailed | cacheGetFailed
  deriving DecidableEq, Repr

namespace ErrorCode

def all : List ErrorCode :=
  [commonInternalError, commonBadRequest, commonNotFound, commonUnauthorized, commonForbidden,
    commonValidationError, blockchainInvalidAddress, blockchainInvalidChain,
    blockchainInvalidTransaction, providerAuthFailed, providerUnavailable, providerRateLimit,
    providerNotSupported, providerRequestFailed, balanceFetchFailed, balanceParsingError,
    balanceChainNotSupported, cacheSetFailed, cacheGetFailed]

def value : ErrorCode → String
  | commonInternalError => "COMMON_INTERNAL_ERROR"
  | commonBadRequest => "COMMON_BAD_REQUEST"
  | commonNotFound => "COMMON_NOT_FOUND"
  | commonUnauthorized => "COMMON_UNAUTHORIZED"
  | commonForbidden => "COMMON_FORBIDDEN"
  | commonValidationError => "COMMON_VALIDATION_ERROR"
  | blockchainInvalidAddress => "BLOCKCHAIN_INVALID_ADDRESS"
  | blockchainInvalidChain => "BLOCKCHAIN_INVALID_CHAIN"
  | blockchainInvalidTransaction => "BLOCKCHAIN_INVALID_TRANSACTION"
  | providerAuthFailed => "PROVIDER_AUTH_FAILED"
  | providerUnavailable => "PROVIDER_UNAVAILABLE"
  | providerRateLimit => "PROVIDER_RATE_LIMIT"
  | providerNotSupported => "PROVIDER_NOT_SUPPORTED"
  | providerRequestFailed => "PROVIDER_REQUEST_FAILED"
  | balanceFetchFailed => "BALANCE_FETCH_FAILED"
  | balanceParsingError => "BALANCE_PARSING_ERROR"
  | balanceChainNotSupported => "BALANCE_CHAIN_NOT_SUPPORTED"
  | cacheSetFailed => "CACHE_SET_FAILED"
  | cacheGetFailed => "CACHE_GET_FAILED"

end ErrorCode

/-- The level `public` of the source is `exposed` here. -/
inductive ExposureLevel where
  | exposed | masked | hidden
  deriving DecidableEq, Repr

structure ErrorDetails where
  httpStatus : Int
  message : String
  exposureLevel : ExposureLevel
  deriving DecidableEq

/-- An entry of `ERROR_MAPPINGS`. -/
def errorMapping : ErrorCode → ErrorDetails
  | .commonInternalError => ⟨500, "伺服器發生錯誤", .hidden⟩
  | .commonBadRequest => ⟨400, "無效的請求", .exposed⟩
  | .commonNotFound => ⟨404, "找不到請求的資源", .exposed⟩
  | .commonUnauthorized => ⟨401, "未授權的訪問", .exposed⟩
  | .commonForbidden => ⟨403, "禁止訪問該資源", .exposed⟩
  | .commonValidationError => ⟨400, "請求參數驗證失敗", .exposed⟩
  | .blockchainInvalidAddress => ⟨400, "無效的區塊鏈地址", .exposed⟩
  | .blockchainInvalidChain => ⟨400, "無效的區塊鏈類型", .exposed⟩
  | .blockchainInvalidTransaction => ⟨400, "無效的交易資訊", .exposed⟩
  | .providerAuthFailed => ⟨401, "提供者API認證失敗", .masked⟩
  | .providerUnavailable => ⟨503, "區塊鏈提供者服務不可用", .masked⟩
  | .providerRateLimit => ⟨429, "超過提供者API請求限制", .masked⟩
  | .providerNotSupported => ⟨501, "不支援的區塊鏈提供者", .masked⟩
  | .providerRequestFailed => ⟨502, "提供者API請求失敗", .masked⟩
  | .balanceFetchFailed => ⟨503, "無法獲取區塊鏈餘額", .masked⟩
  | .balanceParsingError => ⟨500, "餘額資料解析錯誤", .hidden⟩
  | .balanceChainNotSupported => ⟨400, "該區塊鏈不支援餘額查詢", .exposed⟩
  | .cacheSetFailed => ⟨500, "設置快取失敗", .hidden⟩
  | .cacheGetFailed => ⟨500, "獲取快取失敗", .hidden⟩

def errorMappings : List (String × ErrorDetails) :=
  ErrorCode.all.map fun code => (code.value, errorMapping code)

def getErrorCodeFromStatus (status : Int) : ErrorCode :=
  if status = 400 then .commonBadRequest
  else if status = 401 then .commonUnauthorized
  else if status = 403 then .commonForbidden
  else if status = 404 then .commonNotFound
  else .commonInternalError

/-- The table answers for the members of its prototype too, which have no exposure level. -/
def getErrorDetails (errorCode : String) : Text.Lookup ErrorDetails :=
  match Text.lookup errorMappings errorCode with
  | .missing => .own (errorMapping .commonInternalError)
  | found => found

/-- The `exposureLevel` of what was found, `none` for undefined. -/
def exposureLevel : Text.Lookup ErrorDetails → Option ExposureLevel
  | .own details => some details.exposureLevel
  | _ => none

/-- A code finds its own details. The table is an object, and the key is one of its own. -/
theorem getErrorDetails_value (code : ErrorCode) :
    getErrorDetails code.value = .own (errorMapping code) := by
  cases code <;> rfl

/-- A text belongs to one entry of the table only. The codes of the application are pairwise
different. -/
theorem errorMapping_eq_of_value {code other : ErrorCode} (h : code.value = other.value) :
    errorMapping code = errorMapping other := by
  have hDetails := congrArg getErrorDetails h
  rw [getErrorDetails_value, getErrorDetails_value] at hDetails
  exact Text.Lookup.own.inj hDetails

theorem errorMappings_lookup_of_other {errorCode : String}
    (h : ∀ code : ErrorCode, errorCode ≠ code.value) : errorMappings.lookup errorCode = none := by
  rw [List.lookup_eq_none_iff]
  intro entry hEntry
  obtain ⟨code, -, rfl⟩ := List.mem_map.mp hEntry
  simpa using h code

/-- Other texts find the details of the internal error, unless the prototype has them. -/
theorem getErrorDetails_of_other {errorCode : String}
    (h : ∀ code : ErrorCode, errorCode ≠ code.value)
    (hInherited : errorCode ∉ Text.objectPrototype) :
    getErrorDetails errorCode = .own (errorMapping .commonInternalError) := by
  rw [getErrorDetails, Text.lookup, errorMappings_lookup_of_other h]
  simp [hInherited]

/-- Details that are not those of the internal error belong to the code that was asked for. -/
theorem getErrorDetails_cases (errorCode : String) :
    (∃ code : ErrorCode, errorCode = code.value ∧
        getErrorDetails errorCode = .own (errorMapping code)) ∨
      exposureLevel (getErrorDetails errorCode) ∈ [some .hidden, none] := by
  by_cases hCode : ∃ code : ErrorCode, errorCode = code.value
  · obtain ⟨code, rfl⟩ := hCode
    exact .inl ⟨code, rfl, getErrorDetails_value code⟩
  · right
    have hOther : ∀ code : ErrorCode, errorCode ≠ code.value :=
      fun code hSame => hCode ⟨code, hSame⟩
    by_cases hInherited : errorCode ∈ Text.objectPrototype
    · rw [getErrorDetails, Text.lookup, errorMappings_lookup_of_other hOther]
      simp [hInherited, exposureLevel]
    · rw [getErrorDetails_of_other hOther hInherited]
      exact List.mem_cons_self

end BalanceKit
