import BalanceKit.Library.Hex
import BalanceKit.Library.Text

/-! The check of the signature header of a webhook request. -/
namespace BalanceKit.Signature

/-- The output of HMAC-SHA256. -/
abbrev Digest := { bytes : List UInt8 // bytes.length = 32 }

/-- Remove one leading `sha256=` or `0x`, in any case. -/
def stripScheme (header : String) : String :=
  if (header.toList.take 7).map Char.toLower = "sha256=".toList then
    String.ofList (header.toList.drop 7)
  else if (header.toList.take 2).map Char.toLower = "0x".toList then
    String.ofList (header.toList.drop 2)
  else header

def normalize (header : String) : String := Text.toLowerCase (Text.trim (stripScheme header))

inductive Verdict where
  | valid | invalid | threw
  deriving DecidableEq

/-- Buffers of different lengths make the comparison throw. -/
def timingSafeEqual (remote localBytes : List UInt8) : Verdict :=
  if remote.length ≠ localBytes.length then .threw
  else if remote = localBytes then .valid
  else .invalid

theorem eq_of_timingSafeEqual {remote localBytes : List UInt8}
    (h : timingSafeEqual remote localBytes = .valid) : remote = localBytes := by
  unfold timingSafeEqual at h
  by_cases hLength : remote.length ≠ localBytes.length
  · rw [if_pos hLength] at h
    cases h
  · by_cases hSame : remote = localBytes
    · exact hSame
    · rw [if_neg hLength, if_neg hSame] at h
      cases h

variable (hmac : String → List UInt8 → Digest)

/-- The hexadecimal HMAC of a body. -/
def signatureOf (signingKey : String) (rawBody : List UInt8) : String :=
  String.ofList (Hex.encode (hmac signingKey rawBody).val)

/-- The comparison of a normalised signature with the one computed here. -/
def compareSignatures (remoteSig localSig : String) : Verdict :=
  if Text.utf16Length remoteSig ≠ 64 then .invalid
  else timingSafeEqual (Hex.decode remoteSig.toList) (Hex.decode localSig.toList)

def validateAlchemySignature (signatureHeader : String) (rawBody : Option (List UInt8))
    (signingKey : String) : Verdict :=
  match rawBody with
  | none => .invalid
  | some body =>
      if signatureHeader = "" ∨ signingKey = "" then .invalid
      else compareSignatures (normalize signatureHeader) (signatureOf hmac signingKey body)

variable {hmac}

theorem toLowerCase_of_hex {text : String} (h : ∀ c ∈ text.toList, (Hex.value c).isSome = true) :
    Text.toLowerCase text = String.ofList (text.toList.map Char.toLower) := by
  refine Text.toLowerCase_of_ne fun c hc => ⟨?_, ?_⟩ <;>
    · rintro rfl
      exact absurd (h _ hc) (by decide)

/-- Sixty-four units that decode to a digest are its lower-case digits. -/
theorem eq_of_compareSignatures {remoteSig : String} {digest : Digest}
    (h : compareSignatures remoteSig (String.ofList (Hex.encode digest.val)) = .valid) :
    Text.toLowerCase remoteSig = String.ofList (Hex.encode digest.val) := by
  unfold compareSignatures at h
  by_cases hLength : Text.utf16Length remoteSig ≠ 64
  · rw [if_pos hLength] at h
    cases h
  · rw [if_neg hLength, String.toList_ofList, Hex.decode_encode] at h
    have hBytes := eq_of_timingSafeEqual h
    have hWhole : remoteSig.toList.length ≤ 2 * (Hex.decode remoteSig.toList).length := by
      have hUnits := Text.length_le_utf16Length remoteSig
      rw [hBytes, digest.property]
      omega
    rw [toLowerCase_of_hex (Hex.decode_whole_iff.mp hWhole).2, ← Hex.encode_decode hWhole, hBytes]

theorem utf16Length_signatureOf (signingKey : String) (body : List UInt8) :
    Text.utf16Length (signatureOf hmac signingKey body) = 64 := by
  have hBasic : ∀ c ∈ Hex.encode (hmac signingKey body).val, c.toNat < 0x10000 := by
    intro c hc
    have hAll : (Hex.digits.all fun d => decide (d.toNat < 0x10000)) = true := by decide
    exact of_decide_eq_true (List.all_eq_true.mp hAll c (Hex.mem_digits_of_mem_encode hc))
  rw [Text.utf16Length, signatureOf, String.toList_ofList, Text.codeUnits_of_basic hBasic,
    Hex.length_encode, (hmac signingKey body).property]

theorem ne_empty_of_signed {header signingKey : String} {body : List UInt8}
    (hSigned : normalize header = signatureOf hmac signingKey body) : header ≠ "" := by
  rintro rfl
  have hLength := @utf16Length_signatureOf hmac signingKey body
  rw [← hSigned] at hLength
  exact absurd hLength (by decide)

/-- A header that is the HMAC under one key is accepted under another exactly when
both keys give the same HMAC. -/
theorem validateAlchemySignature_of_signed {header signingKey other : String} {body : List UInt8}
    (hSigned : normalize header = signatureOf hmac signingKey body) :
    validateAlchemySignature hmac header (some body) other = .valid ↔
      other ≠ "" ∧ hmac other body = hmac signingKey body := by
  simp only [validateAlchemySignature, ne_empty_of_signed hSigned, false_or, hSigned]
  by_cases hOther : other = ""
  · simp [hOther]
  · rw [if_neg hOther, compareSignatures, if_neg (by simp [utf16Length_signatureOf]), signatureOf,
      signatureOf, String.toList_ofList, String.toList_ofList, Hex.decode_encode,
      Hex.decode_encode]
    constructor
    · intro hValid
      exact ⟨hOther, Subtype.ext (eq_of_timingSafeEqual hValid).symm⟩
    · rintro ⟨-, hSame⟩
      simp [timingSafeEqual, hSame]

/-- An accepted header is the HMAC of the body, up to the scheme, blanks and case. -/
theorem normalize_of_valid {signatureHeader signingKey : String} {rawBody : Option (List UInt8)}
    (h : validateAlchemySignature hmac signatureHeader rawBody signingKey = .valid) :
    ∃ body, rawBody = some body ∧ normalize signatureHeader = signatureOf hmac signingKey body := by
  cases rawBody with
  | none => cases h
  | some body =>
      simp only [validateAlchemySignature] at h
      by_cases hEmpty : signatureHeader = "" ∨ signingKey = ""
      · rw [if_pos hEmpty] at h
        cases h
      · rw [if_neg hEmpty] at h
        refine ⟨body, rfl, ?_⟩
        rw [signatureOf, ← eq_of_compareSignatures h, normalize, Text.toLowerCase_toLowerCase]

end BalanceKit.Signature
