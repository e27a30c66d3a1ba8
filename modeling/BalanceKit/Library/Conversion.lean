import BalanceKit.Library.Js
import BalanceKit.Library.Number

/-! Conversions of the source language: of a value to a text, as templates and property keys
do it, and of a text to an integer of any size. -/

namespace Js

/-- Array elements that are written as nothing. -/
def isNothing : Js → Bool
  | undefined | null => true
  | _ => false

mutual

/-- `String(value)`. Data is never a function, so an own field `toString` leaves an object
without a text, which is a `TypeError`. -/
def text : Js → Option String
  | undefined => some "undefined"
  | null => some "null"
  | bool b => some (if b then "true" else "false")
  | num q => some (Number.toText (.finite q))
  | str s => some s
  | arr xs => (texts xs).map fun parts => ",".intercalate parts
  | obj fs => if (fs.lookup "toString").isSome then none else some "[object Object]"

/-- The parts that `join` puts together. -/
def texts : List Js → Option (List String)
  | [] => some []
  | x :: rest => do
      let part ← text x
      let parts ← texts rest
      return (if x.isNothing then "" else part) :: parts

end

@[simp] theorem text_str (s : String) : (str s).text = some s := by
  rw [text]

end Js

namespace BigInt

def literal (base : Nat) (digits : List Char) : Option Int :=
  if digits = [] then none else (Number.natural base digits).map Int.ofNat

/-- `BigInt(text)`, with `none` for a `SyntaxError`. -/
def ofText (text : String) : Option Int :=
  match (Text.trim text).toList with
  | [] => some 0
  | '0' :: 'x' :: digits | '0' :: 'X' :: digits => literal 16 digits
  | '0' :: 'o' :: digits | '0' :: 'O' :: digits => literal 8 digits
  | '0' :: 'b' :: digits | '0' :: 'B' :: digits => literal 2 digits
  | '-' :: digits => (literal 10 digits).map Neg.neg
  | '+' :: digits => literal 10 digits
  | digits => literal 10 digits

theorem literal_toDigits (n : Nat) : literal 10 (Nat.toDigits 10 n) = some (n : Int) := by
  have hDigits : ∀ c ∈ Nat.toDigits 10 n, c.isDigit = true := by
    intro c hc
    exact Text.isDigit_of_mem_toString (n := n) (by simpa using hc)
  rw [literal, if_neg Nat.toDigits_ne_nil, Number.natural_of_isDigit hDigits,
    Nat.ofDigitChars_ten_toDigits]
  rfl

theorem trim_of_digits {text : String} {digits : List Char}
    (hText : ∀ c ∈ text.toList, c = '-' ∨ c ∈ digits) (h : ∀ c ∈ digits, c.isDigit = true) :
    Text.trim text = text := by
  refine Text.trim_of_forall fun c hc => ?_
  rcases hText c hc with rfl | hDigit
  · decide
  · exact @Text.of_isDigit (fun c => Text.isSpace c = false) (by decide) c (h c hDigit)

/-- An integer is read back from its digits, so it can be handed on as a text. -/
theorem ofText_toString (n : Int) : ofText (toString n) = some n := by
  have hDigits : ∀ m : Nat, ∀ c ∈ Nat.toDigits 10 m, c.isDigit = true := fun m c hc =>
    Text.isDigit_of_mem_toString (n := m) (by simpa using hc)
  cases n with
  | ofNat m =>
      have hList : (toString (Int.ofNat m)).toList = Nat.toDigits 10 m := by
        show (toString m).toList = _
        simp
      have hLetter : ∀ d ∈ Nat.toDigits 10 m, d ≠ 'x' ∧ d ≠ 'X' ∧ d ≠ 'o' ∧ d ≠ 'O' ∧ d ≠ 'b' ∧
          d ≠ 'B' ∧ d ≠ '-' ∧ d ≠ '+' := fun d hd =>
        @Text.of_isDigit (fun d => d ≠ 'x' ∧ d ≠ 'X' ∧ d ≠ 'o' ∧ d ≠ 'O' ∧ d ≠ 'b' ∧ d ≠ 'B' ∧
          d ≠ '-' ∧ d ≠ '+') (by decide) d (hDigits m d hd)
      have hTrim : Text.trim (toString (Int.ofNat m)) = toString (Int.ofNat m) :=
        trim_of_digits (fun c hc => .inr (hList ▸ hc)) (hDigits m)
      have hNonempty := Nat.toDigits_ne_nil (n := m) (b := 10)
      have hLiteral := literal_toDigits m
      rw [ofText, hTrim, hList]
      split <;> simp_all
  | negSucc m =>
      have hList : (toString (Int.negSucc m)).toList = '-' :: Nat.toDigits 10 (m + 1) := by
        show ("-" ++ toString (m + 1)).toList = _
        simp
      have hTrim : Text.trim (toString (Int.negSucc m)) = toString (Int.negSucc m) :=
        trim_of_digits (fun c hc => by rw [hList] at hc; exact List.mem_cons.mp hc)
          (hDigits (m + 1))
      rw [ofText, hTrim, hList]
      show (literal 10 _).map Neg.neg = _
      rw [literal_toDigits]
      rfl

end BigInt
