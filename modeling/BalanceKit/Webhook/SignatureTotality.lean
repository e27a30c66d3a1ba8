import BalanceKit.Webhook.Authentication

/-! The headers for which the check of a signature returns. Sixty-four characters are
taken for thirty-two bytes before they are decoded. -/
namespace BalanceKit.Authentication
open Signature

/-- The answer that the request is given, once it has one. -/
def State.reply (s : State) (i : Nat) : Option Reply :=
  (s.handlings[i]?).bind fun h =>
    match h.phase with
    | .answered reply => some reply
    | _ => none

/-- The check returns, accepts the signature and nothing else, and a request without it
is answered with 401. -/
structure Total (hmac : String → List UInt8 → Digest) (header : String) (body : List UInt8)
    (signingKey : String) : Prop where
  returns : validateAlchemySignature hmac header (some body) signingKey ≠ .threw
  exact : validateAlchemySignature hmac header (some body) signingKey = .valid ↔
    normalize header = signatureOf hmac signingKey body
  rejects : normalize header ≠ signatureOf hmac signingKey body →
    ∀ (s : State) (i : Nat) (h : Handling), s.handlings[i]? = some h →
      h.request.signature = some header → h.request.rawBody = some body →
        ∃ message, (verifyRequest hmac s i h (some signingKey)).reply i =
          some (.exception 401 message)

/-- The normalised header is of another length, or hexadecimal. -/
def Decodable (header : String) : Prop :=
  Text.utf16Length (normalize header) = 64 →
    ∀ c ∈ (normalize header).toList, (Hex.value c).isSome = true

instance (header : String) : Decidable (Decodable header) :=
  decidable_of_iff (Text.utf16Length (normalize header) = 64 →
    ((normalize header).toList.all fun c => (Hex.value c).isSome) = true)
    (by simp [Decodable])

variable {hmac : String → List UInt8 → Digest} {header signingKey : String} {body : List UInt8}

/-- A hexadecimal digit is one code unit. -/
theorem codeUnits_of_hex {text : List Char} (h : ∀ c ∈ text, (Hex.value c).isSome = true) :
    Text.codeUnits text = text.length := by
  refine Text.codeUnits_of_basic fun c hc => ?_
  obtain ⟨n, hValue⟩ := Option.isSome_iff_exists.mp (h c hc)
  obtain ⟨hRange, hDigit⟩ := Hex.value_spec hValue
  have hAll : (Hex.digits.all fun d => decide (d.toNat < 0x10000)) = true := by decide
  have hLower : c.toLower.toNat < 0x10000 := by
    rw [← hDigit]
    exact of_decide_eq_true (List.all_eq_true.mp hAll _ (Hex.digit_mem hRange))
  rcases Text.toLower_cases c with hSame | ⟨-, -, hHigh⟩
  · rwa [hSame] at hLower
  · omega

/-- Sixty-four units decode to thirty-two bytes exactly when all are hexadecimal. -/
theorem length_decode_iff {text : String} (hLength : Text.utf16Length text = 64) :
    (Hex.decode text.toList).length = 32 ↔ ∀ c ∈ text.toList, (Hex.value c).isSome = true := by
  constructor
  · intro hDecoded
    have hUnits := Text.length_le_utf16Length text
    exact (Hex.decode_whole_iff.mp (by omega)).2
  · intro hHex
    have hUnits : text.toList.length = 64 := (codeUnits_of_hex hHex).symm.trans hLength
    have hWhole := Hex.decode_whole_iff.mpr ⟨by omega, hHex⟩
    have hEncoded := congrArg List.length (Hex.encode_decode hWhole)
    rw [Hex.length_encode, List.length_map] at hEncoded
    omega

theorem compareSignatures_threw_iff {text : String} {digest : Digest} :
    compareSignatures text (String.ofList (Hex.encode digest.val)) = .threw ↔
      Text.utf16Length text = 64 ∧ (Hex.decode text.toList).length ≠ 32 := by
  unfold compareSignatures
  by_cases hLength : Text.utf16Length text = 64
  · rw [if_neg (not_not.mpr hLength), String.toList_ofList, Hex.decode_encode, timingSafeEqual,
      digest.property]
    by_cases hDecoded : (Hex.decode text.toList).length = 32
    · rw [if_neg (not_not.mpr hDecoded)]
      refine iff_of_false ?_ fun h => h.2 hDecoded
      split <;> simp
    · rw [if_pos hDecoded]
      exact iff_of_true rfl ⟨hLength, hDecoded⟩
  · rw [if_pos hLength]
    exact iff_of_false (by simp) fun h => hLength h.1

theorem reply_move {s : State} {i : Nat} {h : Handling} {reply : Reply}
    (hHandling : s.handlings[i]? = some h) :
    (s.move i (h.setPhase (.answered reply))).reply i = some reply := by
  have hIndex : i < s.handlings.length := (List.getElem?_eq_some_iff.mp hHandling).1
  simp [State.reply, State.move, Handling.setPhase, hIndex]

section Headers
variable (hKey : signingKey ≠ "")
include hKey

/-- The check throws on every header that cannot be decoded, and on no other. -/
theorem threw_iff :
    validateAlchemySignature hmac header (some body) signingKey = .threw ↔ ¬ Decodable header := by
  by_cases hHeader : header = ""
  · subst hHeader
    refine iff_of_false (by simp [validateAlchemySignature]) ?_
    rw [not_not]
    decide
  · simp only [validateAlchemySignature, hHeader, hKey, or_self, if_false, signatureOf,
      compareSignatures_threw_iff, Decodable]
    rw [Classical.not_imp]
    apply and_congr_right
    intro hLength
    rw [Ne, length_decode_iff hLength]

theorem valid_iff :
    validateAlchemySignature hmac header (some body) signingKey = .valid ↔
      normalize header = signatureOf hmac signingKey body := by
  constructor
  · intro hValid
    obtain ⟨own, hOwn, hSigned⟩ := normalize_of_valid hValid
    obtain rfl := Option.some.inj hOwn
    exact hSigned
  · exact fun hSigned => (validateAlchemySignature_of_signed hSigned).mpr ⟨hKey, rfl⟩

/-- A request without the signature is answered by the check, with 401 unless it throws. -/
theorem reply_verifyRequest {s : State} {i : Nat} {h : Handling}
    (hUnsigned : normalize header ≠ signatureOf hmac signingKey body)
    (hHandling : s.handlings[i]? = some h) (hHeader : h.request.signature = some header)
    (hBody : h.request.rawBody = some body) :
    (verifyRequest hmac s i h (some signingKey)).reply i =
      some (if Decodable header then invalidSignature else .crashed) := by
  have hInvalid := mt (valid_iff hKey).mp hUnsigned
  rw [verifyRequest, Text.present_some hKey]
  simp only [hHeader, hBody, Option.getD_some]
  by_cases hDecodable : Decodable header
  · rw [if_pos hDecodable]
    have hReturns : validateAlchemySignature hmac header (some body) signingKey ≠ .threw :=
      mt (threw_iff hKey).mp (not_not.mpr hDecodable)
    cases hVerdict : validateAlchemySignature hmac header (some body) signingKey with
    | valid => exact absurd hVerdict hInvalid
    | threw => exact absurd hVerdict hReturns
    | invalid => exact reply_move hHandling
  · rw [if_neg hDecodable, (threw_iff hKey).mpr hDecodable]
    exact reply_move hHandling

/-- The check is total and exact exactly on the headers that are of another length than
a signature or hexadecimal. -/
theorem total_iff : Total hmac header body signingKey ↔ Decodable header := by
  constructor
  · intro h
    by_contra hUndecodable
    exact h.returns ((threw_iff hKey).mpr hUndecodable)
  · intro hDecodable
    refine ⟨mt (threw_iff hKey).mp (not_not.mpr hDecodable), valid_iff hKey, ?_⟩
    intro hUnsigned s i h hHandling hHeader hBody
    refine ⟨"Invalid webhook signature", ?_⟩
    rw [reply_verifyRequest hKey hUnsigned hHandling hHeader hBody, if_pos hDecodable]
    rfl

end Headers

/-- A header that is too short. -/
theorem total_short_header : Total bodyHmac "sha256=ab" signedBody "key" :=
  (total_iff (by decide)).mpr (by decide)

/-- Sixty-four characters that are no digits. -/
def undecodableHeader : String :=
  "zzzzzzzzzzzzzzzzzzzzzzzzzzzzzzzzzzzzzzzzzzzzzzzzzzzzzzzzzzzzzzzz"

/-- The comparison throws, and the request is not answered with 401. -/
theorem not_total_undecodableHeader :
    validateAlchemySignature bodyHmac undecodableHeader (some signedBody) "key" = .threw ∧
      ¬ Total bodyHmac undecodableHeader signedBody "key" := by
  have hThrew : validateAlchemySignature bodyHmac undecodableHeader (some signedBody) "key" =
      .threw := by
    decide +kernel
  exact ⟨hThrew, fun h => h.returns hThrew⟩

end BalanceKit.Authentication
