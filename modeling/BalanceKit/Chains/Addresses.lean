import BalanceKit.Chains.Constants
import BalanceKit.Library.Base58
import BalanceKit.Library.Hex
import BalanceKit.Library.Text

/-! Which texts the chain services accept as addresses. The checks themselves belong
to the libraries of the two families of chains. -/
namespace BalanceKit

/-- `isAddress` for EVM chains, and whether `new PublicKey` returns for Solana. -/
structure AddressLibraries where
  isAddress : String → Bool
  isPublicKey : String → Bool

/-- `isValidAddress` of the chain's service. -/
def AddressLibraries.isValidAddress (libraries : AddressLibraries) (chain : ChainName)
    (address : String) : Bool :=
  if isEvmChain chain then libraries.isAddress address else libraries.isPublicKey address

/-- Letters and digits only, and at least one of them. -/
def Alphanumeric (text : String) : Prop := text ≠ "" ∧ ∀ c ∈ text.toList, c.isAlphanum = true

/-- What the libraries document: an EVM address is hexadecimal or an ICAP text, and
a public key is thirty-two bytes in base 58. -/
structure AddressLibraries.Documented (libraries : AddressLibraries) : Prop where
  evm : ∀ text, libraries.isAddress text = true → Alphanumeric text
  solana : ∀ text, libraries.isPublicKey text = true ↔
    ∃ decoded, Base58.decode text = some decoded ∧ decoded.length = 32

theorem isAlphanum_of_base58 {c : Char} (h : c ∈ Base58.alphabet) : c.isAlphanum = true := by
  have hAll : (Base58.alphabet.all fun c => c.isAlphanum) = true := by decide
  exact List.all_eq_true.mp hAll c h

/-- A text that Base58 decodes to the bytes of an account consists of letters and digits. It is not
empty, because nothing decodes to nothing. -/
theorem alphanumeric_of_base58 {text : String} {decoded : List UInt8}
    (h : Base58.decode text = some decoded) (hLength : decoded.length = 32) :
    Alphanumeric text := by
  refine ⟨?_, fun c hc => isAlphanum_of_base58 (Base58.mem_alphabet_of_decode h c hc)⟩
  rintro rfl
  have := Base58.length_decode_le h
  simp [hLength] at this

/-- Every address that is accepted consists of letters and digits, on whatever chain. In particular
none has a delimiter of keys or a special character of patterns. -/
theorem alphanumeric_of_valid {libraries : AddressLibraries} (hLibraries : libraries.Documented)
    {chain : ChainName} {address : String}
    (h : libraries.isValidAddress chain address = true) : Alphanumeric address := by
  unfold AddressLibraries.isValidAddress at h
  split at h
  · exact hLibraries.evm address h
  · obtain ⟨decoded, hDecode, hLength⟩ := (hLibraries.solana address).mp h
    exact alphanumeric_of_base58 hDecode hLength

/-- A public key has at least as many characters as bytes. -/
theorem length_of_publicKey {libraries : AddressLibraries} (hLibraries : libraries.Documented)
    {address : String} (h : libraries.isPublicKey address = true) :
    32 ≤ address.toList.length := by
  obtain ⟨decoded, hDecode, hLength⟩ := (hLibraries.solana address).mp h
  have := Base58.length_decode_le hDecode
  omega

def isHexText (text : List Char) : Bool :=
  text.length == 40 && text.all fun c => (Hex.value c).isSome

/-- Forty hexadecimal digits of any case, with or without `0x` before them. -/
def isEvmHex (address : String) : Bool :=
  match address.toList with
  | '0' :: 'x' :: digits => isHexText digits
  | digits => isHexText digits

theorem isEvmHex_cases {address : String} (h : isEvmHex address = true) :
    ∃ digits, isHexText digits = true ∧
      (address.toList = '0' :: 'x' :: digits ∨ address.toList = digits) := by
  unfold isEvmHex at h
  split at h
  · rename_i digits hDigits
    exact ⟨digits, h, .inl hDigits⟩
  · exact ⟨_, h, .inr rfl⟩

theorem length_isHexText {text : List Char} (h : isHexText text = true) : text.length = 40 := by
  simp only [isHexText, Bool.and_eq_true, beq_iff_eq] at h
  exact h.1

/-- The `x` of the prefix is not a digit. -/
theorem not_prefix_isHexText {digits rest : List Char} (h : isHexText digits = true) :
    ¬ digits <+: '0' :: 'x' :: rest := by
  intro hPrefix
  have hLength := length_isHexText h
  have hAll : (digits.all fun c => (Hex.value c).isSome) = true := by
    simp only [isHexText, Bool.and_eq_true] at h
    exact h.2
  match digits, hLength with
  | _ :: c :: _, _ =>
      obtain ⟨-, hRest⟩ := List.cons_prefix_cons.mp hPrefix
      obtain ⟨rfl, -⟩ := List.cons_prefix_cons.mp hRest
      have hDigit := List.all_eq_true.mp hAll 'x' (by simp)
      exact absurd hDigit (by decide)

/-- No hexadecimal address begins another. Those with the prefix are all of one length, and so are
those without it. -/
theorem eq_of_prefix_isEvmHex {a b : String} (ha : isEvmHex a = true) (hb : isEvmHex b = true)
    (h : a.toList <+: b.toList) : a = b := by
  obtain ⟨as, hAs, hFormA⟩ := isEvmHex_cases ha
  obtain ⟨bs, hBs, hFormB⟩ := isEvmHex_cases hb
  have hLengthA := length_isHexText hAs
  have hLengthB := length_isHexText hBs
  refine String.toList_inj.mp (h.eq_of_length ?_)
  rcases hFormA with hA | hA <;> rcases hFormB with hB | hB <;> rw [hA, hB] at h ⊢
  · simp [hLengthA, hLengthB]
  · have := h.length_le
    simp at this
    omega
  · exact absurd h (not_prefix_isHexText hAs)
  · omega

theorem isAlphanum_of_hex {c : Char} (h : (Hex.value c).isSome = true) : c.isAlphanum = true := by
  obtain ⟨n, hValue⟩ := Option.isSome_iff_exists.mp h
  obtain ⟨hRange, hDigit⟩ := Hex.value_spec hValue
  by_cases hUpper : c.val ≥ 'A'.val ∧ c.val ≤ 'Z'.val
  · have hIsUpper : c.isUpper = true := decide_eq_true hUpper
    change (c.isUpper || c.isLower || c.isDigit) = true
    rw [hIsUpper]
    rfl
  · have hMember := Hex.digit_mem hRange
    rw [hDigit, Text.toLower_of_not_upper hUpper] at hMember
    have hAll : (Hex.digits.all fun c => c.isAlphanum) = true := by decide
    exact List.all_eq_true.mp hAll c hMember

theorem alphanumeric_of_isEvmHex {address : String} (h : isEvmHex address = true) :
    Alphanumeric address := by
  obtain ⟨digits, hDigits, hForm⟩ := isEvmHex_cases h
  have hLength := length_isHexText hDigits
  have hEach : ∀ c ∈ digits, c.isAlphanum = true := by
    simp only [isHexText, Bool.and_eq_true, List.all_eq_true] at hDigits
    exact fun c hc => isAlphanum_of_hex (hDigits.2 c hc)
  constructor
  · rintro rfl
    rcases hForm with hForm | hForm <;> simp_all
  · intro c hc
    rcases hForm with hForm | hForm <;> rw [hForm] at hc
    · rcases List.mem_cons.mp hc with rfl | hc
      · decide
      rcases List.mem_cons.mp hc with rfl | hc
      · decide
      · exact hEach c hc
    · exact hEach c hc

theorem length_of_isEvmHex {address : String} (h : isEvmHex address = true) :
    40 ≤ address.toList.length := by
  obtain ⟨digits, hDigits, hForm⟩ := isEvmHex_cases h
  have hLength := length_isHexText hDigits
  rcases hForm with hForm | hForm <;> rw [hForm]
  · simp [hLength]
  · omega

/-- The two checks without the checksum of mixed-case addresses. -/
def uncheckedLibraries : AddressLibraries :=
  ⟨isEvmHex, fun text => (Base58.decode text).any fun decoded => decoded.length == 32⟩

theorem documented_uncheckedLibraries : uncheckedLibraries.Documented where
  evm _ h := alphanumeric_of_isEvmHex h
  solana text := by simp [uncheckedLibraries, Option.any_eq_true]

end BalanceKit
