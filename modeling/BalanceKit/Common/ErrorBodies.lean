import BalanceKit.Common.HttpExceptionFilter

/-! What the bodies of the filter say: which of them depend on the message of the exception,
and which carry a code of the application. -/
namespace BalanceKit.ErrorBodies
open HttpExceptionFilter

section Production
variable {c d : Classified} {request : ErrorRequest} {e : Exception} {b : ErrorResponse}
  {isProduction : Bool} {now : Nat}

/-- What `catch` needs to send a body, and what it is. Neither the code nor the message can be sent
without a text. -/
theorem catchException_eq_some_iff : catchException isProduction request now e = some b ↔
    ∃ c, classify e = some c ∧ c.errorCode.text.isSome = true ∧ c.message.text.isSome = true ∧
      ∃ message, responseMessage isProduction c = some message ∧
        b = ⟨c.status, c.errorCode, message, now, request.url,
          if c.details.truthy && !isProduction then some c.details else none⟩ := by
  simp only [catchException, Option.bind_eq_bind, Option.bind_eq_some_iff, Option.pure_def,
    Option.some.injEq, Option.isSome_iff_exists]
  constructor
  · rintro ⟨c, hClassified, message, hMessage, code, hCode, text, hText, rfl⟩
    exact ⟨c, hClassified, ⟨code, hCode⟩, ⟨text, hText⟩, message, hMessage, rfl⟩
  · rintro ⟨c, hClassified, ⟨code, hCode⟩, ⟨text, hText⟩, message, hMessage, rfl⟩
    exact ⟨c, hClassified, message, hMessage, code, hCode, text, hText, rfl⟩

/-- The exposure of the code is hidden or masked. -/
def Withheld (c : Classified) : Prop :=
  ∃ key, c.errorCode.text = some key ∧
    exposureLevel (getErrorDetails key) ∈ [some .hidden, some .masked]

/-- The masked codes belong to the two families that have a message of their own, which is sent in
place of that of the error. -/
theorem family_of_masked {code : ErrorCode} (h : (errorMapping code).exposureLevel = .masked) :
    startsWith code.value "PROVIDER_" = true ∨ startsWith code.value "BALANCE_" = true := by
  revert h
  cases code <;> decide

/-- The message beside a code of the application. Only an exposed code keeps the message of its
error. -/
theorem productionMessage_of_code {code : ErrorCode} (h : c.errorCode = .str code.value) :
    productionMessage c = some
      (match (errorMapping code).exposureLevel with
      | .hidden => .str hiddenMessage
      | .masked =>
          if startsWith code.value "PROVIDER_" then .str "區塊鏈服務暫時不可用"
          else if startsWith code.value "BALANCE_" then .str "無法獲取餘額資訊，請稍後再試"
          else c.message
      | .exposed => c.message) := by
  rw [productionMessage, h, Js.text_str, Option.bind_eq_bind, Option.bind_some,
    getErrorDetails_value, exposureLevel]
  cases (errorMapping code).exposureLevel <;> rfl

/-- A message that is withheld is replaced by one for the code. -/
theorem productionMessage_of_withheld (h : Withheld c) (hCode : d.errorCode = c.errorCode) :
    productionMessage d = productionMessage c := by
  obtain ⟨key, hKey, hLevel⟩ := h
  simp only [productionMessage, hCode, hKey, Option.bind_eq_bind, Option.bind_some]
  rcases getErrorDetails_cases key with ⟨code, rfl, hDetails⟩ | hOther
  · rw [hDetails] at hLevel ⊢
    cases hExposure : (errorMapping code).exposureLevel with
    | exposed => simp [exposureLevel, hExposure] at hLevel
    | hidden => simp [exposureLevel, hExposure]
    | masked =>
        simp only [exposureLevel, hExposure]
        cases hText : c.errorCode with
        | str text =>
            obtain rfl : text = code.value := by simpa [hText] using hKey
            rcases family_of_masked hExposure with hProvider | hBalance
            · simp only [hProvider, if_true]
            · simp only [hBalance, if_true]
        | _ => rfl
  · have hHidden : exposureLevel (getErrorDetails key) = some .hidden := by
      simp only [List.mem_cons, List.not_mem_nil, or_false] at hLevel hOther
      rcases hOther with hHidden | hNone
      · exact hHidden
      · simp [hNone] at hLevel
    rw [hHidden]

/-- A body without its time stamp. -/
def untimed (b : ErrorResponse) : ErrorResponse := { b with timestamp := 0 }

/-- The body for a code that is withheld, from what may be known: status, code and path. Nothing of
the exception enters beyond these, so two exceptions that share them are told apart by nobody. -/
theorem untimed_of_withheld (h : Withheld c) (hClassified : classify e = some c) :
    (catchException true request now e).map untimed =
      if c.message.text.isSome then
        (productionMessage ⟨c.status, c.errorCode, .null, .null⟩).map fun message =>
          ⟨c.status, c.errorCode, message, 0, request.url, none⟩
      else none := by
  have hMessage := @productionMessage_of_withheld c ⟨c.status, c.errorCode, .null, .null⟩ h rfl
  obtain ⟨key, hKey, -⟩ := h
  rw [hMessage, catchException, hClassified]
  cases hSent : productionMessage c with
  | none => cases c.message.text <;> simp [responseMessage, hSent]
  | some message =>
      cases hText : c.message.text <;> simp [responseMessage, hSent, hKey, hText, untimed]

/-- A code that is withheld has a message to show for it, so that its body is sent. An array
that has the text of a code is none: it has no method `startsWith`. -/
theorem sent_of_withheld {key : String} (h : Withheld c) (hClassified : classify e = some c)
    (hCode : c.errorCode = .str key) (hText : c.message.text.isSome = true) :
    ∃ b, catchException true request now e = some b := by
  obtain ⟨message, hMessage⟩ : ∃ message, productionMessage c = some message := by
    obtain ⟨own, hOwn, hLevel⟩ := h
    obtain rfl : key = own := by simpa [hCode] using hOwn
    simp only [List.mem_cons, List.not_mem_nil, or_false] at hLevel
    rcases hLevel with hHidden | hMasked
    · exact ⟨.str hiddenMessage, by simp [productionMessage, hCode, hHidden]⟩
    · simp [productionMessage, hCode, hMasked]
  exact ⟨_, catchException_eq_some_iff.mpr ⟨c, hClassified, by rw [hCode, Js.text_str]; rfl, hText,
    message, hMessage, rfl⟩⟩

end Production

/-- Two exceptions of one status and code that is withheld are answered alike, whatever else
they say. Both are answered where the code is a text and both messages have one: a message
without a text ends the filter before it answers. -/
theorem bodies_of_withheld {request : ErrorRequest} {e₁ e₂ : Exception} {c₁ c₂ : Classified}
    (h₁ : classify e₁ = some c₁) (h₂ : classify e₂ = some c₂) (hStatus : c₁.status = c₂.status)
    (hCode : c₁.errorCode = c₂.errorCode) (hWithheld : Withheld c₁) (now₁ now₂ : Nat) :
    (∀ b₁ b₂, catchException true request now₁ e₁ = some b₁ →
      catchException true request now₂ e₂ = some b₂ → untimed b₁ = untimed b₂) ∧
    (c₁.message.text.isSome = c₂.message.text.isSome →
      (catchException true request now₁ e₁).map untimed =
        (catchException true request now₂ e₂).map untimed) ∧
    (∀ key, c₁.errorCode = .str key → c₁.message.text.isSome = true →
      c₂.message.text.isSome = true →
      ∃ b₁ b₂, catchException true request now₁ e₁ = some b₁ ∧
        catchException true request now₂ e₂ = some b₂) := by
  have hWithheld₂ : Withheld c₂ := by
    unfold Withheld at hWithheld ⊢
    rwa [← hCode]
  have hAlike : c₁.message.text.isSome = c₂.message.text.isSome →
      (catchException true request now₁ e₁).map untimed =
        (catchException true request now₂ e₂).map untimed := by
    intro hTexts
    rw [untimed_of_withheld hWithheld h₁, untimed_of_withheld hWithheld₂ h₂, hStatus, hCode,
      hTexts]
  refine ⟨?_, hAlike, ?_⟩
  · intro b₁ b₂ hSent₁ hSent₂
    obtain ⟨c, hClassified₁, -, hText₁, -⟩ := catchException_eq_some_iff.mp hSent₁
    obtain ⟨d, hClassified₂, -, hText₂, -⟩ := catchException_eq_some_iff.mp hSent₂
    obtain rfl : c = c₁ := Option.some.inj (hClassified₁.symm.trans h₁)
    obtain rfl : d = c₂ := Option.some.inj (hClassified₂.symm.trans h₂)
    have hSame := hAlike (hText₁.trans hText₂.symm)
    rw [hSent₁, hSent₂] at hSame
    exact Option.some.inj hSame
  · intro key hKey hText₁ hText₂
    obtain ⟨b₁, hSent₁⟩ := sent_of_withheld hWithheld h₁ hKey hText₁
    obtain ⟨b₂, hSent₂⟩ := sent_of_withheld hWithheld₂ h₂ (hCode ▸ hKey) hText₂
    exact ⟨b₁, b₂, hSent₁, hSent₂⟩

/-- The two errors differ in what the cache said, and the answers do not. Both are sent in
production, with the message of their code. -/
theorem bodies_of_withheld_cacheErrors :
    ∃ b₁ b₂,
      catchException true ⟨"GET", "/v1/api/balances"⟩ 1
        (ApplicationException.create true .cacheGetFailed none (some "10.0.0.5 refused")) =
          some b₁ ∧
      catchException true ⟨"GET", "/v1/api/balances"⟩ 2
        (ApplicationException.create true .cacheGetFailed none (some "out of memory")) =
          some b₂ ∧
      untimed b₁ = untimed b₂ := by
  obtain ⟨hAlike, -, hSent⟩ := @bodies_of_withheld ⟨"GET", "/v1/api/balances"⟩
    (ApplicationException.create true .cacheGetFailed none (some "10.0.0.5 refused"))
    (ApplicationException.create true .cacheGetFailed none (some "out of memory"))
    _ _ rfl rfl rfl rfl ⟨_, rfl, by decide⟩ 1 2
  obtain ⟨b₁, b₂, hSent₁, hSent₂⟩ := hSent _ rfl rfl rfl
  exact ⟨b₁, b₂, hSent₁, hSent₂, hAlike b₁ b₂ hSent₁ hSent₂⟩

section Codes

/-- The table of the codes gives the code this status. What `getErrorCodeFromStatus` makes of
a status plays no part in it. -/
def Consistent (code : ErrorCode) (status : Int) : Prop :=
  (errorMapping code).httpStatus = status

/-- The value is the text of a code that is consistent with the status. -/
def CodeFor (status : Int) (value : Js) : Prop :=
  ∃ code : ErrorCode, value = .str code.value ∧ Consistent code status

/-- The response of the exception names a code of the application. -/
def CarriesCode : Exception → Prop
  | .httpException _ response _ => ∃ code : ErrorCode, response.get "error" = .str code.value
  | _ => False

/-- Every environment gets a code for its status, and the message of a client error without
a code of its own is not hidden. -/
structure WellFormed (request : ErrorRequest) (now : Nat) (e : Exception) : Prop where
  code : ∀ isProduction, ∃ b, catchException isProduction request now e = some b ∧
    CodeFor b.statusCode b.errorCode
  readable : ¬ CarriesCode e → ∀ c b, classify e = some c →
    catchException true request now e = some b → c.status ∈ [400, 401, 403, 404] →
    b.message = .str hiddenMessage → c.message = .str hiddenMessage

/-- The statuses of the common codes. The filter has no code of its own for any other. -/
def commonStatuses : List Int := [400, 401, 403, 404, 500]

/-- The response names a code for the status, or names none where the status is one of a
common code. The message has a text, and the response is not `null`. What is no object names
nothing, and is not read for a message either. -/
def CleanResponse (status : Int) (response : Js) (message : String) : Prop :=
  response ≠ .null ∧ ((response.get "message").orElse (.str message)).text.isSome = true ∧
    ((response.get "error").truthy = false ∧ status ∈ commonStatuses ∨
      CodeFor status (response.get "error"))

def Clean : Exception → Prop
  | .httpException status response message => CleanResponse status response message
  | .error _ | .other => True

variable {request : ErrorRequest} {now : Nat} {e : Exception} {c : Classified}
  {status : Int} {response : Js} {message text : String}

/-- The code that the filter chooses for a status has that status for the common ones only:
any other status is answered with the code of the internal error. -/
theorem consistent_getErrorCodeFromStatus_iff :
    Consistent (getErrorCodeFromStatus status) status ↔ status ∈ commonStatuses := by
  constructor
  · intro h
    unfold Consistent getErrorCodeFromStatus at h
    split_ifs at h <;> simp only [errorMapping] at h <;> subst h <;> decide
  · intro h
    simp only [commonStatuses, List.mem_cons, List.not_mem_nil, or_false] at h
    rcases h with rfl | rfl | rfl | rfl | rfl <;> rfl

/-- The code that is derived from a status fits it exactly for the common ones. Every other status
is given the code of an internal error, whose status is 500. -/
theorem codeFor_status_iff :
    CodeFor status (.str (getErrorCodeFromStatus status).value) ↔ status ∈ commonStatuses := by
  rw [← consistent_getErrorCodeFromStatus_iff]
  constructor
  · rintro ⟨code, hValue, hConsistent⟩
    rwa [Consistent, errorMapping_eq_of_value (Js.str.inj hValue)]
  · exact fun h => ⟨_, rfl, h⟩

/-- The patterns for other errors come with the status of their code. So an error that no pattern
recognises is an internal one, with its own status. -/
theorem codeFor_classifyError : CodeFor (classifyError text).status (classifyError text).errorCode ∧
    (∃ shown, (classifyError text).message = .str shown) := by
  unfold classifyError
  split_ifs
  all_goals exact ⟨⟨_, rfl, rfl⟩, _, rfl⟩

/-- What is classified with a code for its status and a message that has a text is answered. The
time, the path and the id of the request are always there. -/
theorem answered (hClassified : classify e = some c) (hCode : CodeFor c.status c.errorCode)
    (hText : c.message.text.isSome = true) (isProduction : Bool) :
    ∃ b, catchException isProduction request now e = some b ∧
      CodeFor b.statusCode b.errorCode := by
  obtain ⟨code, hValue, hConsistent⟩ := hCode
  have hKey : c.errorCode.text = some code.value := by rw [hValue, Js.text_str]
  obtain ⟨message, hMessage⟩ : ∃ message, responseMessage isProduction c = some message := by
    cases isProduction with
    | false => exact ⟨_, rfl⟩
    | true => exact ⟨_, productionMessage_of_code hValue⟩
  refine ⟨_, catchException_eq_some_iff.mpr ⟨c, hClassified, by rw [hKey]; rfl, hText, message,
    hMessage, rfl⟩, code, hValue, hConsistent⟩

/-- The codes that the filter chooses for a client error are exposed, or say what is the matter
in their own words. -/
theorem not_hidden_of_chosen {code : ErrorCode} (hCode : c.errorCode = .str code.value)
    (hLevel : (errorMapping code).exposureLevel ≠ .hidden) {b : ErrorResponse}
    (hClassified : classify e = some c)
    (hSent : catchException true request now e = some b)
    (hHidden : b.message = .str hiddenMessage) : c.message = .str hiddenMessage := by
  obtain ⟨d, hOther, -, -, message, hMessage, rfl⟩ := catchException_eq_some_iff.mp hSent
  obtain rfl : d = c := Option.some.inj (hOther.symm.trans hClassified)
  replace hMessage : productionMessage d = some message := hMessage
  rw [productionMessage_of_code hCode] at hMessage
  have hShown := Option.some.inj hMessage
  replace hHidden : message = .str hiddenMessage := hHidden
  rw [hHidden] at hShown
  cases hExposure : (errorMapping code).exposureLevel with
  | hidden => exact absurd hExposure hLevel
  | exposed => rw [hExposure] at hShown; exact hShown
  | masked =>
      rw [hExposure] at hShown
      rcases family_of_masked hExposure with hProvider | hBalance
      · simp [hProvider, hiddenMessage] at hShown
      · by_cases hProvider : startsWith code.value "PROVIDER_" = true
        · simp [hProvider, hiddenMessage] at hShown
        · simp [hProvider, hBalance, hiddenMessage] at hShown

/-- The status of a client error stands for a code that is not hidden. None of the four is taken for
an internal error. -/
theorem exposed_of_clientError (h : status ∈ ([400, 401, 403, 404] : List Int)) :
    (errorMapping (getErrorCodeFromStatus status)).exposureLevel ≠ .hidden := by
  simp only [List.mem_cons, List.not_mem_nil, or_false] at h
  rcases h with rfl | rfl | rfl | rfl <;> decide

/-- The patterns for other errors hide the internal error only. -/
theorem chosen_of_classifyError (h : (classifyError text).status ≠ 500) :
    ∃ code : ErrorCode, (classifyError text).errorCode = .str code.value ∧
      (errorMapping code).exposureLevel ≠ .hidden := by
  revert h
  unfold classifyError
  split_ifs
  all_goals first
    | exact fun _ => ⟨_, rfl, by decide⟩
    | exact fun h => absurd rfl h

/-- A response is read for its fields, and what is no object has none of them. A text as the
response is a message and has no code. -/
theorem classify_of_ne_null (hNull : response ≠ .null) :
    classify (.httpException status response message) =
      some ⟨status, (response.get "error").orElse (.str (getErrorCodeFromStatus status).value),
        (response.get "message").orElse (.str message),
        (response.get "details").orElse .null⟩ := by
  unfold classify
  cases response with
  | null => exact absurd rfl hNull
  | _ => rfl

/-- A clean response names a code for the status, and one of its own only if it carries it. -/
theorem classify_of_clean (h : CleanResponse status response message) :
    ∃ c, classify (.httpException status response message) = some c ∧ c.status = status ∧
      CodeFor status c.errorCode ∧ c.message.text.isSome = true ∧
      (¬ CarriesCode (.httpException status response message) →
        c.errorCode = .str (getErrorCodeFromStatus status).value) := by
  obtain ⟨hNull, hText, hError⟩ := h
  refine ⟨_, classify_of_ne_null hNull, rfl, ?_, hText, ?_⟩
  · rcases hError with ⟨hFalsy, hStatus⟩ | ⟨code, hValue, hConsistent⟩
    · rw [Js.orElse_of_falsy hFalsy]
      exact codeFor_status_iff.mpr hStatus
    · refine ⟨code, ?_, hConsistent⟩
      rw [hValue]
      cases code <;> rfl
  · intro hCarries
    rcases hError with ⟨hFalsy, -⟩ | ⟨code, hValue, -⟩
    · exact Js.orElse_of_falsy hFalsy
    · exact absurd ⟨code, hValue⟩ hCarries

/-- An answer with a code for its status needs a clean response. The code is either one that the
response names or the one derived from the status. -/
theorem clean_of_codeFor {b : ErrorResponse}
    (hSent : catchException false request now (.httpException status response message) = some b)
    (hCode : CodeFor b.statusCode b.errorCode) : CleanResponse status response message := by
  obtain ⟨c, hClassified, -, hText, shown, -, rfl⟩ := catchException_eq_some_iff.mp hSent
  have hNull : response ≠ .null := by
    rintro rfl
    cases hClassified
  obtain rfl := Option.some.inj ((classify_of_ne_null hNull).symm.trans hClassified)
  replace hCode : CodeFor status
      ((response.get "error").orElse (.str (getErrorCodeFromStatus status).value)) := hCode
  refine ⟨hNull, hText, ?_⟩
  cases hError : (response.get "error").truthy with
  | false =>
      rw [Js.orElse_of_falsy hError] at hCode
      exact .inl ⟨rfl, codeFor_status_iff.mp hCode⟩
  | true =>
      rw [Js.orElse_of_truthy hError] at hCode
      exact .inr hCode

/-- The filter does what is expected of it for exactly the clean exceptions. Both directions are
about every exception that has a status, not only about those of the application. -/
theorem wellFormed_iff_clean (request : ErrorRequest) (now : Nat) (e : Exception) :
    WellFormed request now e ↔ Clean e := by
  constructor
  · intro h
    cases e with
    | httpException status response message =>
        obtain ⟨b, hSent, hCode⟩ := h.code false
        exact clean_of_codeFor hSent hCode
    | error text => trivial
    | other => trivial
  · intro hClean
    cases e with
    | httpException status response message =>
        obtain ⟨c, hClassified, rfl, hCode, hText, hOwn⟩ := classify_of_clean hClean
        refine ⟨answered hClassified hCode hText, ?_⟩
        intro hCarries d b hOther hSent hStatus hHidden
        obtain rfl : d = c := Option.some.inj (hOther.symm.trans hClassified)
        exact not_hidden_of_chosen (hOwn hCarries) (exposed_of_clientError hStatus) hClassified
          hSent hHidden
    | error text =>
        obtain ⟨hCode, shown, hShown⟩ := @codeFor_classifyError text
        refine ⟨answered rfl hCode (by rw [hShown, Js.text_str]; rfl), ?_⟩
        intro _ c b hClassified hSent hStatus hHidden
        obtain rfl := Option.some.inj hClassified
        have hNot : (classifyError text).status ≠ 500 := by
          intro hInternal
          rw [hInternal] at hStatus
          exact absurd hStatus (by decide)
        obtain ⟨code, hValue, hLevel⟩ := chosen_of_classifyError hNot
        exact not_hidden_of_chosen hValue hLevel rfl hSent hHidden
    | other =>
        refine ⟨answered rfl ⟨.commonInternalError, rfl, rfl⟩ (by rw [Js.text_str]; rfl), ?_⟩
        intro _ c b hClassified _ hStatus
        obtain rfl := Option.some.inj hClassified
        exact absurd hStatus (by decide)

/-- A status that is not one of a common code needs a response that names a code for it. -/
theorem not_clean_uncommon (h : status ∉ commonStatuses) :
    ¬ Clean (.httpException status (.str text) message) := by
  rintro ⟨-, -, ⟨-, hCommon⟩ | ⟨code, hValue, -⟩⟩
  · exact h hCommon
  · cases hValue

/-- The reason phrase of a built-in exception is taken for its code. A text such as `Not Found` is
no code of the table, so no status fits it. -/
theorem not_clean_builtIn {reason : String} (hReason : reason ≠ "")
    (hCode : ∀ code : ErrorCode, reason ≠ code.value) (status : Int) (message : Js)
    (text : String) : ¬ Clean (BuiltInException.create status message reason text) := by
  rintro ⟨-, -, ⟨hFalsy, -⟩ | ⟨code, hValue, -⟩⟩
  · have hTruthy : (Js.str reason).truthy = false := hFalsy
    simp [Js.truthy, hReason] at hTruthy
  · exact hCode code (Js.str.inj hValue)

/-- Its message is not shown in production, even where it is one of a client error. -/
theorem hidden_builtIn {reason : String} {shown : Js} {b : ErrorResponse} (hReason : reason ≠ "")
    (hCode : ∀ code : ErrorCode, reason ≠ code.value)
    (hInherited : reason ∉ Text.objectPrototype)
    (hSent : catchException true request now (BuiltInException.create status shown reason text) =
      some b) : b.message = .str hiddenMessage := by
  obtain ⟨c, hClassified, -, -, message, hMessage, rfl⟩ := catchException_eq_some_iff.mp hSent
  have hTruthy : (Js.str reason).truthy = true := by simpa [Js.truthy] using hReason
  have hOwn : c.errorCode = .str reason := by
    rw [← Option.some.inj ((classify_of_ne_null (by rintro ⟨⟩)).symm.trans hClassified)]
    exact Js.orElse_of_truthy hTruthy
  replace hMessage : productionMessage c = some message := hMessage
  rw [productionMessage, hOwn, Js.text_str, Option.bind_eq_bind, Option.bind_some,
    getErrorDetails_of_other hCode hInherited] at hMessage
  exact (Option.some.inj hMessage).symm

/-- The exceptions of the application name a code with their status. Their message has a text as
well, so the filter does what is expected of it. -/
theorem clean_applicationException (isProduction : Bool) (code : ErrorCode)
    (details customMessage : Option String) :
    Clean (ApplicationException.create isProduction code details customMessage) := by
  refine ⟨by rintro ⟨⟩, ?_, .inr ⟨code, rfl, rfl⟩⟩
  show ((Js.str _).orElse _).text.isSome = true
  unfold Js.orElse
  split <;> rw [Js.text_str] <;> rfl

/-- The exception of the endpoints for a chain that there is not. -/
def chainNotFound : Exception :=
  BuiltInException.create 404 (.str "Chain doge not supported") "Not Found"
    "Chain doge not supported"

/-- The error of an unknown chain is sent without a code that fits its status. -/
theorem not_wellFormed_chainNotFound :
    ¬ WellFormed ⟨"GET", "/v1/api/chains/doge/validate/x"⟩ 0 chainNotFound := by
  intro h
  obtain ⟨b, hSent, code, hValue, -⟩ := h.code true
  obtain rfl := Option.some.inj hSent
  have hText : Js.str "Not Found" = .str code.value := hValue
  exact absurd (Js.str.inj hText) (by cases code <;> decide)

end Codes

end BalanceKit.ErrorBodies
