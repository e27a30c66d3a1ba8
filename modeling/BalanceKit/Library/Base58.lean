import Mathlib.Data.List.TakeWhile

/-! Base58 texts. A leading `1` stands for a zero byte, and the other digits are
one number written in base 58. -/
namespace Base58

def alphabet : List Char :=
  ['1', '2', '3', '4', '5', '6', '7', '8', '9', 'A', 'B', 'C', 'D', 'E', 'F', 'G', 'H', 'J', 'K',
    'L', 'M', 'N', 'P', 'Q', 'R', 'S', 'T', 'U', 'V', 'W', 'X', 'Y', 'Z', 'a', 'b', 'c', 'd', 'e',
    'f', 'g', 'h', 'i', 'j', 'k', 'm', 'n', 'o', 'p', 'q', 'r', 's', 't', 'u', 'v', 'w', 'x', 'y',
    'z']

/-- The number that the digits write, or nothing if one is not of the alphabet. -/
def number (text : List Char) (read : Nat) : Option Nat :=
  match text with
  | [] => some read
  | c :: rest =>
      if alphabet.contains c then number rest (read * 58 + alphabet.idxOf c) else none

/-- The bytes of a number, the highest first. A number of `k` base-58 digits has
at most `k` bytes. -/
def bytes : Nat → Nat → List UInt8
  | 0, _ => []
  | fuel + 1, n => if n = 0 then [] else bytes fuel (n / 256) ++ [UInt8.ofNat n]

def decode (text : String) : Option (List UInt8) :=
  let zeros := text.toList.takeWhile fun c => c == '1'
  let digits := text.toList.dropWhile fun c => c == '1'
  (number digits 0).map fun n => zeros.map (fun _ => 0) ++ bytes digits.length n

theorem mem_alphabet_of_number {text : List Char} {read n : Nat} (h : number text read = some n) :
    ∀ c ∈ text, c ∈ alphabet := by
  induction text generalizing read with
  | nil =>
      intro c hc
      cases hc
  | cons d rest ih =>
      unfold number at h
      split at h
      · rename_i hDigit
        intro c hc
        rcases List.mem_cons.mp hc with rfl | hRest
        · exact List.contains_iff_mem.mp hDigit
        · exact ih h c hRest
      · cases h

theorem length_bytes_le (fuel n : Nat) : (bytes fuel n).length ≤ fuel := by
  induction fuel generalizing n with
  | zero => exact Nat.le_refl _
  | succ fuel ih =>
      unfold bytes
      split
      · exact Nat.zero_le _
      · have := ih (n / 256)
        simpa using this

theorem mem_alphabet_of_decode {text : String} {decoded : List UInt8}
    (h : decode text = some decoded) : ∀ c ∈ text.toList, c ∈ alphabet := by
  obtain ⟨n, hNumber, -⟩ := Option.map_eq_some_iff.mp h
  intro c hc
  rw [← @List.takeWhile_append_dropWhile _ (fun c => c == '1') text.toList] at hc
  rcases List.mem_append.mp hc with hZero | hDigit
  · have hOne : c = '1' := by simpa using List.mem_takeWhile_imp hZero
    rw [hOne]
    exact List.mem_cons_self
  · exact mem_alphabet_of_number hNumber c hDigit

/-- Decoding does not lengthen a text. Each character stands for less than a byte, and a leading `1`
for one zero. -/
theorem length_decode_le {text : String} {decoded : List UInt8} (h : decode text = some decoded) :
    decoded.length ≤ text.toList.length := by
  obtain ⟨n, -, rfl⟩ := Option.map_eq_some_iff.mp h
  have hSplit := congrArg List.length
    (@List.takeWhile_append_dropWhile _ (fun c => c == '1') text.toList)
  have hBytes := length_bytes_le (text.toList.dropWhile fun c => c == '1').length n
  simp only [List.length_append, List.length_map] at hSplit ⊢
  omega

end Base58
