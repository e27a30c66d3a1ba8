import BalanceKit.Common.ErrorCodes
import BalanceKit.Library.Conversion

/-! The filter that answers every exception, and what its bodies say in production. -/
namespace BalanceKit

/-- What may be thrown: an `HttpException`, another `Error`, or a value that is neither. -/
inductive Exception where
  | httpException (status : Int) (response : Js) (message : String)
  | error (message : String)
  | other

/-- The exception of the application itself. Its details stay out in production. -/
def ApplicationException.create (isProduction : Bool) (errorCode : ErrorCode)
    (details customMessage : Option String) : Exception :=
  let message := (Text.present customMessage).getD (errorMapping errorCode).message
  .httpException (errorMapping errorCode).httpStatus
    (.obj ([("error", .str errorCode.value), ("message", .str message)] ++
      match Text.present details with
      | some text => if isProduction then [] else [("details", .str text)]
      | none => []))
    message

/-- An exception of the framework, with the reason phrase of its status. -/
def BuiltInException.create (status : Int) (message : Js) (reason text : String) : Exception :=
  .httpException status
    (.obj [("message", message), ("error", .str reason), ("statusCode", .num status)]) text

structure ErrorRequest where
  method : String
  url : String

/-- The body of the answer. Times are milliseconds. -/
structure ErrorResponse where
  statusCode : Int
  errorCode : Js
  message : Js
  timestamp : Nat
  path : String
  details : Option Js

namespace HttpExceptionFilter

/-- The second of the parts between the occurrences of a separator. -/
def secondPart (separator : List Char) : List Char → Option (List Char)
  | [] => none
  | c :: rest =>
      if separator.isPrefixOf (c :: rest) then
        some (firstPart ((c :: rest).drop separator.length))
      else secondPart separator rest
where
  firstPart : List Char → List Char
    | [] => []
    | c :: rest => if separator.isPrefixOf (c :: rest) then [] else c :: firstPart rest

/-- The four variables that the first half of `catch` assigns. -/
structure Classified where
  status : Int
  errorCode : Js
  message : Js
  details : Js

/-- The first pattern that the message of an `Error` matches. -/
def classifyError (text : String) : Classified :=
  if Text.includes text "401 Unauthorized" || Text.includes text "Must be authenticated" then
    ⟨401, .str ErrorCode.providerAuthFailed.value,
      .str (errorMapping .providerAuthFailed).message, .str "請確認API金鑰是否正確設置"⟩
  else if Text.includes text "Invalid" && Text.includes text "address" then
    ⟨400, .str ErrorCode.blockchainInvalidAddress.value,
      .str (errorMapping .blockchainInvalidAddress).message, .null⟩
  else if Text.includes text "無法獲取餘額" then
    ⟨503, .str ErrorCode.balanceFetchFailed.value,
      .str (errorMapping .balanceFetchFailed).message,
      match secondPart "無法獲取餘額:".toList text.toList with
      | some part => (Js.str (Text.trim (String.ofList part))).orElse .null
      | none => .null⟩
  else if Text.includes text "Chain" && Text.includes text "not supported" then
    ⟨400, .str ErrorCode.blockchainInvalidChain.value,
      .str (errorMapping .blockchainInvalidChain).message, .null⟩
  else if Text.includes text "沒有找到區塊鏈類型" then
    ⟨501, .str ErrorCode.providerNotSupported.value,
      .str (errorMapping .providerNotSupported).message, .str text⟩
  else ⟨500, .str ErrorCode.commonInternalError.value, .str text, .null⟩

/-- `typeof value === 'object'`. -/
def isObject : Js → Bool
  | .null | .arr _ | .obj _ => true
  | _ => false

/-- Reading a field of null throws. -/
def classify : Exception → Option Classified
  | .httpException status response message =>
      if isObject response then
        match response with
        | .null => none
        | response =>
            some ⟨status,
              (response.get "error").orElse (.str (getErrorCodeFromStatus status).value),
              (response.get "message").orElse (.str message),
              (response.get "details").orElse .null⟩
      else some ⟨status, .str (getErrorCodeFromStatus status).value, .str message, .null⟩
  | .error message => some (classifyError message)
  | .other => some ⟨500, .str ErrorCode.commonInternalError.value, .str "伺服器發生錯誤", .null⟩

def hiddenMessage : String := "服務暫時不可用，請稍後再試"

def startsWith (text start : String) : Bool := start.toList.isPrefixOf text.toList

/-- The message by the exposure of the code. Only a text has the method `startsWith`. -/
def productionMessage (c : Classified) : Option Js := do
  let key ← c.errorCode.text
  match exposureLevel (getErrorDetails key) with
  | some .hidden => some (.str hiddenMessage)
  | some .masked =>
      match c.errorCode with
      | .str code =>
          some (if startsWith code "PROVIDER_" then .str "區塊鏈服務暫時不可用"
            else if startsWith code "BALANCE_" then .str "無法獲取餘額資訊，請稍後再試"
            else c.message)
      | _ => none
  | _ => some c.message

def responseMessage (isProduction : Bool) (c : Classified) : Option Js :=
  if isProduction then productionMessage c else some c.message

/-- The body that is sent, if `catch` gets that far. Its log line is written before, and
needs the texts of code and message. -/
def catchException (isProduction : Bool) (request : ErrorRequest) (now : Nat) (e : Exception) :
    Option ErrorResponse := do
  let c ← classify e
  let message ← responseMessage isProduction c
  let _ ← c.errorCode.text
  let _ ← c.message.text
  return ⟨c.status, c.errorCode, message, now, request.url,
    if c.details.truthy && !isProduction then some c.details else none⟩

end HttpExceptionFilter

end BalanceKit
