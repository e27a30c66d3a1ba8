import BalanceKit.Library.Conversion

/-! Quantities of the JSON-RPC interface: natural numbers as hexadecimal texts behind `0x`,
without leading zeros. -/

namespace Number
variable {base : Nat}

theorem digit_digitChar {d : Nat} (hDigit : d < base) (hBase : base ≤ 16) :
    digit base d.digitChar = some d := by
  have hAll : ∀ i : Fin 16,
      "0123456789abcdef".toList.findIdx? (fun c => c == (Nat.digitChar i).toLower) = some i.val := by
    decide
  rw [digit, hAll ⟨d, by omega⟩, Option.filter_some, if_pos (by simpa using hDigit)]

/-- The last digit is worth itself, and the digits before it are worth the base times their
number. -/
theorem natural_append_digit (digits : List Char) (c : Char) :
    natural base (digits ++ [c]) =
      (natural base digits).bind fun read => (digit base c).map fun d => base * read + d := by
  rw [natural, List.foldlM_append]
  show (natural base digits).bind _ = _
  congr 1
  funext read
  simp

/-- A number is read back from its digits. -/
theorem natural_toDigits (hBase : 1 < base) (hSmall : base ≤ 16) (n : Nat) :
    natural base (Nat.toDigits base n) = some n := by
  induction n using Nat.strongRecOn with
  | ind n ih =>
      rcases Nat.lt_or_ge n base with hDigit | hMore
      · rw [Nat.toDigits_of_lt_base hDigit]
        simp [natural, digit_digitChar hDigit hSmall]
      · have hLess : n / base < n := Nat.div_lt_self (by omega) hBase
        have hLast : n % base < base := Nat.mod_lt _ (by omega)
        rw [Nat.toDigits_of_base_le hBase hMore, natural_append_digit, ih _ hLess,
          digit_digitChar hLast hSmall]
        exact congrArg some (Nat.div_add_mod n base)

theorem digit_of_natural {digits : List Char} {n : Nat} (h : natural base digits = some n) :
    ∀ c ∈ digits, (digit base c).isSome := by
  induction digits using List.reverseRecOn generalizing n with
  | nil => simp
  | append_singleton rest last ih =>
      rw [natural_append_digit] at h
      obtain ⟨read, hRest, hLast⟩ := Option.bind_eq_some_iff.mp h
      obtain ⟨d, hDigit, -⟩ := Option.map_eq_some_iff.mp hLast
      intro c hc
      rcases List.mem_append.mp hc with hMem | hMem
      · exact ih hRest c hMem
      · rw [List.mem_singleton.mp hMem, hDigit]
        rfl

end Number

namespace BigInt

/-- `n.toString(16)`. -/
def toHex : Int → String
  | .ofNat n => String.ofList (Nat.toDigits 16 n)
  | .negSucc n => "-" ++ String.ofList (Nat.toDigits 16 (n + 1))

end BigInt

namespace Quantity

def encode (n : Nat) : String := "0x" ++ BigInt.toHex n

def decode (text : String) : Option Nat :=
  match text.toList with
  | '0' :: 'x' :: digits =>
      if digits = ['0'] then some 0
      else if digits = [] ∨ digits.head? = some '0' then none
      else Number.natural 16 digits
  | _ => none

theorem toList_encode (n : Nat) : (encode n).toList = '0' :: 'x' :: Nat.toDigits 16 n := by
  show ("0x" ++ String.ofList (Nat.toDigits 16 n)).toList = _
  simp

theorem head_toDigits {n : Nat} (hPos : 0 < n) : (Nat.toDigits 16 n).head? ≠ some '0' := by
  induction n using Nat.strongRecOn with
  | ind n ih =>
      rcases Nat.lt_or_ge n 16 with hDigit | hMore
      · have hAll : ∀ i : Fin 16, 0 < i.val → Nat.digitChar i ≠ '0' := by decide
        rw [Nat.toDigits_of_lt_base hDigit]
        simpa using hAll ⟨n, hDigit⟩ hPos
      · have hLess : n / 16 < n := Nat.div_lt_self hPos (by omega)
        rw [Nat.toDigits_of_base_le (by omega) hMore, List.head?_append_of_ne_nil _ Nat.toDigits_ne_nil]
        exact ih _ hLess (by omega)

/-- A quantity is read back. -/
theorem decode_encode (n : Nat) : decode (encode n) = some n := by
  rw [decode, toList_encode]
  rcases Nat.eq_zero_or_pos n with rfl | hPos
  · rfl
  · have hHead := head_toDigits hPos
    have hZero : Nat.toDigits 16 n ≠ ['0'] := fun hDigits => hHead (by rw [hDigits]; rfl)
    show (if _ then _ else if _ then _ else _) = _
    rw [if_neg hZero, if_neg (by simp [hHead, Nat.toDigits_ne_nil])]
    exact Number.natural_toDigits (by omega) (by omega) n

/-- A number below zero is written as no quantity. The sign before the prefix makes it no
hexadecimal text. -/
theorem decode_negSucc (n : Nat) : decode ("0x" ++ BigInt.toHex (.negSucc n)) = none := by
  have hText : ("0x" ++ BigInt.toHex (.negSucc n)).toList =
      '0' :: 'x' :: '-' :: Nat.toDigits 16 (n + 1) := by
    show ("0x" ++ ("-" ++ String.ofList (Nat.toDigits 16 (n + 1)))).toList = _
    simp
  rw [decode, hText]
  show (if _ then _ else if _ then _ else _) = _
  rw [if_neg (by simp), if_neg (by simp)]
  exact Option.eq_none_iff_forall_ne_some.mpr fun read hRead => by
    have := Number.digit_of_natural hRead '-' List.mem_cons_self
    revert this
    decide

theorem isSpace_of_digit {c : Char} (h : (Number.digit 16 c).isSome) : Text.isSpace c = false := by
  have hAll : ∀ i : Fin 128, (Number.digit 16 (Char.ofNat i)).isSome →
      Text.isSpace (Char.ofNat i) = false := by
    decide +kernel
  have hCode : c.toNat < 128 := by
    have hDigits : "0123456789abcdef".toList.all (fun d => d.toNat < 128) = true := by decide
    obtain ⟨d, hDigit⟩ := Option.isSome_iff_exists.mp h
    obtain ⟨hFound, -⟩ := Option.filter_eq_some_iff.mp hDigit
    obtain ⟨hBound, hSame, -⟩ := List.findIdx?_eq_some_iff_getElem.mp hFound
    have hLower := of_decide_eq_true (List.all_eq_true.mp hDigits _ (List.getElem_mem hBound))
    rw [beq_iff_eq.mp hSame] at hLower
    rcases Text.toLower_cases c with hKept | ⟨hShifted, -, -⟩
    · rwa [hKept] at hLower
    · omega
  simpa using hAll ⟨c.toNat, hCode⟩ (by simpa using h)

/-- `BigInt` reads every quantity, and as the number that it is. The other direction fails: `BigInt`
also reads decimal texts. -/
theorem ofText_of_decode {text : String} {n : Nat} (h : decode text = some n) :
    BigInt.ofText text = some (n : Int) := by
  unfold decode at h
  split at h
  · rename_i digits hText
    obtain ⟨hDigits, hNonempty⟩ : Number.natural 16 digits = some n ∧ digits ≠ [] := by
      split_ifs at h with hZero hBad
      · subst hZero
        exact ⟨h, by simp⟩
      · exact ⟨h, fun hEmpty => hBad (.inl hEmpty)⟩
    have hTrim : Text.trim text = text := Text.trim_of_forall fun c hc => by
      rw [hText] at hc
      simp only [List.mem_cons] at hc
      rcases hc with rfl | rfl | hDigit
      · rfl
      · rfl
      · exact isSpace_of_digit (Number.digit_of_natural hDigits c hDigit)
    rw [BigInt.ofText, hTrim, hText]
    show BigInt.literal 16 digits = _
    rw [BigInt.literal, if_neg hNonempty, hDigits]
    rfl
  · cases h

end Quantity
