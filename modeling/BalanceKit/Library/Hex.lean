import BalanceKit.Library.Text
import Mathlib.Data.List.GetD

/-! Bytes as hexadecimal text. Decoding accepts both cases and, like the source
language, stops at the first pair that is not hexadecimal. -/
namespace Hex

def digits : List Char := "0123456789abcdef".toList

def digit (n : Nat) : Char := digits.getD n '0'

def value (c : Char) : Option Nat := digits.findIdx? fun d => d == c.toLower

def encode (bytes : List UInt8) : List Char :=
  bytes.flatMap fun b => [digit (b.toNat / 16), digit (b.toNat % 16)]

def decode : List Char → List UInt8
  | high :: low :: rest =>
      match value high, value low with
      | some x, some y => UInt8.ofNat (16 * x + y) :: decode rest
      | _, _ => []
  | _ => []

/-- The value of a digit is below sixteen, and tells the digit up to its case. -/
theorem value_spec {c : Char} {n : Nat} (h : value c = some n) : n < 16 ∧ digit n = c.toLower := by
  obtain ⟨hLt, hDigit, -⟩ := List.findIdx?_eq_some_iff_getElem.mp h
  refine ⟨hLt, ?_⟩
  rw [digit, List.getD_eq_getElem _ _ hLt]
  simpa using hDigit

theorem value_digit {n : Nat} (h : n < 16) : value (digit n) = some n := by
  have hAll : ∀ i : Fin 16, value (digit i) = some i.val := by decide
  exact hAll ⟨n, h⟩

theorem length_encode (bytes : List UInt8) : (encode bytes).length = 2 * bytes.length := by
  induction bytes with
  | nil => rfl
  | cons b rest ih =>
      rw [encode, List.flatMap_cons, List.length_append, ← encode, ih, List.length_cons]
      simp only [List.length_cons, List.length_nil]
      omega

theorem digit_mem {n : Nat} (h : n < 16) : digit n ∈ digits := by
  rw [digit, List.getD_eq_getElem _ _ h]
  exact List.getElem_mem _

theorem mem_digits_of_mem_encode {bytes : List UInt8} {c : Char} (h : c ∈ encode bytes) :
    c ∈ digits := by
  obtain ⟨b, -, hDigit⟩ := List.mem_flatMap.mp h
  have hByte : b.toNat < 256 := b.toNat_lt
  simp only [List.mem_cons, List.not_mem_nil, or_false] at hDigit
  rcases hDigit with rfl | rfl
  · exact digit_mem (by omega)
  · exact digit_mem (by omega)

theorem decode_encode (bytes : List UInt8) : decode (encode bytes) = bytes := by
  induction bytes with
  | nil => rfl
  | cons b rest ih =>
      have hByte : b.toNat < 256 := b.toNat_lt
      have hSplit : 16 * (b.toNat / 16) + b.toNat % 16 = b.toNat := by omega
      rw [encode, List.flatMap_cons, List.cons_append, List.cons_append, List.nil_append, decode,
        value_digit (by omega), value_digit (by omega)]
      simp only [hSplit, UInt8.ofNat_toNat]
      exact congrArg (b :: ·) ih

/-- Decoding stops at a pair that is not hexadecimal. What was decoded before that pair is kept, and
no error is reported. -/
theorem decode_of_no_pair {high low : Char} {rest : List Char}
    (h : ∀ x y, value high = some x → value low = some y → False) :
    decode (high :: low :: rest) = [] := by
  rw [decode]
  split
  · rename_i x y hHigh hLow
    exact absurd hLow (h x y hHigh)
  · rfl

theorem value_toLower (c : Char) : value c.toLower = value c := by
  rw [value, value, Text.toLower_toLower]

/-- The case of the digits does not matter. -/
theorem decode_map_toLower (text : List Char) : decode (text.map Char.toLower) = decode text := by
  induction text using decode.induct with
  | case1 high low rest x y hHigh hLow ih =>
      simp only [List.map_cons, decode, value_toLower, hHigh, hLow, ih]
  | case2 high low rest hNone =>
      have hLower : ∀ x y, value high.toLower = some x → value low.toLower = some y → False := by
        simpa only [value_toLower] using hNone
      rw [List.map_cons, List.map_cons, decode_of_no_pair hLower, decode_of_no_pair hNone]
  | case3 text hShort =>
      match text with
      | [] => rfl
      | [c] => rfl
      | high :: low :: rest => exact absurd rfl (hShort high low rest)

/-- Whole pairs in front are decoded on their own. This splits a text at any even place. -/
theorem decode_append {text : List Char} (hPairs : text.length % 2 = 0)
    (hDigits : ∀ c ∈ text, (value c).isSome = true) (rest : List Char) :
    decode (text ++ rest) = decode text ++ decode rest := by
  induction text using decode.induct with
  | case1 high low others x y hHigh hLow ih =>
      have hOthers := ih (by simpa [Nat.add_assoc] using hPairs) fun c hc => hDigits c (by simp [hc])
      simp only [List.cons_append, decode, hHigh, hLow, hOthers]
  | case2 high low others hNone =>
      obtain ⟨x, hHigh⟩ := Option.isSome_iff_exists.mp (hDigits high (by simp))
      obtain ⟨y, hLow⟩ := Option.isSome_iff_exists.mp (hDigits low (by simp))
      exact absurd hLow (hNone x y hHigh)
  | case3 text hShort =>
      match text with
      | [] => rfl
      | [c] => simp at hPairs
      | high :: low :: others => exact absurd rfl (hShort high low others)

theorem decode_zeros (n : Nat) : decode (List.replicate (2 * n) '0') = List.replicate n 0 := by
  induction n with
  | zero => rfl
  | succ n ih =>
      have hPair : value '0' = some 0 := by decide
      rw [Nat.mul_succ, List.replicate_succ, List.replicate_succ, decode, hPair, ih]
      rfl

/-- Text decodes without a remainder when its digits come in pairs and nothing else
is in it. -/
theorem decode_whole_iff {text : List Char} :
    text.length ≤ 2 * (decode text).length ↔
      text.length % 2 = 0 ∧ ∀ c ∈ text, (value c).isSome = true := by
  induction text using decode.induct with
  | case1 high low rest x y hHigh hLow ih =>
      simp only [decode, hHigh, hLow, List.length_cons, List.forall_mem_cons, Option.isSome_some,
        true_and]
      have hLengths : rest.length + 1 + 1 ≤ 2 * ((decode rest).length + 1) ↔
          rest.length ≤ 2 * (decode rest).length := by omega
      have hPairs : (rest.length + 1 + 1) % 2 = 0 ↔ rest.length % 2 = 0 := by omega
      rw [hLengths, hPairs, ih]
  | case2 high low rest hNone =>
      refine iff_of_false (by simp [decode_of_no_pair hNone]) ?_
      rintro ⟨-, hAll⟩
      obtain ⟨x, hHigh⟩ := Option.isSome_iff_exists.mp (hAll high (by simp))
      obtain ⟨y, hLow⟩ := Option.isSome_iff_exists.mp (hAll low (by simp))
      exact hNone x y hHigh hLow
  | case3 text hShort =>
      match text with
      | [] => simp [decode]
      | [c] => simp [decode]
      | high :: low :: rest => exact absurd rfl (hShort high low rest)

/-- Text that decodes without a remainder is the encoding of its bytes, up to
case. -/
theorem encode_decode {text : List Char} (h : text.length ≤ 2 * (decode text).length) :
    encode (decode text) = text.map Char.toLower := by
  induction text using decode.induct with
  | case1 high low rest x y hHigh hLow ih =>
      simp only [decode, hHigh, hLow, List.length_cons] at h
      obtain ⟨hx, hHighDigit⟩ := value_spec hHigh
      obtain ⟨hy, hLowDigit⟩ := value_spec hLow
      have hByte : (UInt8.ofNat (16 * x + y)).toNat = 16 * x + y := by
        rw [UInt8.toNat_ofNat']
        omega
      have hFirst : (16 * x + y) / 16 = x := by omega
      have hSecond : (16 * x + y) % 16 = y := by omega
      simp only [decode, hHigh, hLow, encode, List.flatMap_cons, hByte, hFirst, hSecond,
        hHighDigit, hLowDigit, List.map_cons, List.cons_append, List.nil_append]
      exact congrArg (high.toLower :: low.toLower :: ·) (ih (by omega))
  | case2 high low rest hNone =>
      rw [decode_of_no_pair hNone] at h
      simp at h
  | case3 text hShort =>
      match text with
      | [] => rfl
      | [c] => simp [decode] at h
      | high :: low :: rest => exact absurd rfl (hShort high low rest)

end Hex
