import BalanceKit.Library.Text
import Mathlib.Data.Int.Log
import Mathlib.Data.List.TakeDrop
import Mathlib.Data.List.TakeWhile
import Mathlib.Data.Rat.Floor

/-! Numbers of the source language, which are doubles, and the texts they are read from
and printed as. A finite double is the rational number that it stands for, so the two
zeros are one. -/

inductive Number where
  | nan
  | infinity (negative : Bool)
  | finite (value : Rat)
  deriving DecidableEq

namespace Number

/-- The nearest integer, and the even one of two. -/
def roundHalfEven (q : Rat) : Int :=
  let rest := q - ⌊q⌋
  if rest < 1 / 2 then ⌊q⌋
  else if 1 / 2 < rest then ⌊q⌋ + 1
  else if ⌊q⌋ % 2 = 0 then ⌊q⌋
  else ⌊q⌋ + 1

/-- The double nearest to a positive rational: 53 binary digits, and none after the
1074th place. -/
def ofPositive (q : Rat) : Number :=
  let exponent := max (Int.log 2 q - 52) (-1074)
  let value := (roundHalfEven (q / 2 ^ exponent) : Rat) * 2 ^ exponent
  if 2 ^ 1024 ≤ value then infinity false else finite value

def neg : Number → Number
  | nan => nan
  | infinity negative => infinity !negative
  | finite value => finite (-value)

def ofRat (q : Rat) : Number :=
  if q = 0 then finite 0 else if 0 < q then ofPositive q else neg (ofPositive (-q))

section Reading

def digit (base : Nat) (c : Char) : Option Nat :=
  ("0123456789abcdef".toList.findIdx? fun d => d == c.toLower).filter (· < base)

/-- The value of a text of digits. -/
def natural (base : Nat) (text : List Char) : Option Nat :=
  text.foldlM (fun read c => (digit base c).map fun d => base * read + d) 0

/-- The digits after `e`, with or without a sign. -/
def exponentPart : List Char → Option Int
  | [] => some 0
  | _ :: '-' :: digits => if digits = [] then none else (natural 10 digits).map fun n => -(n : Int)
  | _ :: '+' :: digits => if digits = [] then none else (natural 10 digits).map Int.ofNat
  | _ :: digits => if digits = [] then none else (natural 10 digits).map Int.ofNat

/-- A decimal literal without a sign. -/
def unsignedDecimal (text : List Char) : Number :=
  let (mantissa, exponent) := text.span fun c => c != 'e' && c != 'E'
  let (whole, point) := mantissa.span fun c => c != '.'
  let fraction := point.drop 1
  if whole = [] ∧ fraction = [] then nan
  else
    match natural 10 (whole ++ fraction), exponentPart exponent with
    | some digits, some e => ofRat (digits * 10 ^ (e - fraction.length))
    | _, _ => nan

def unsigned (text : List Char) : Number :=
  if text = "Infinity".toList then infinity false else unsignedDecimal text

/-- A literal of another base. -/
def integerLiteral (base : Nat) (digits : List Char) : Number :=
  if digits = [] then nan
  else
    match natural base digits with
    | some n => ofRat n
    | none => nan

/-- `Number(text)`. -/
def ofText (text : String) : Number :=
  match (Text.trim text).toList with
  | [] => finite 0
  | '0' :: 'x' :: digits | '0' :: 'X' :: digits => integerLiteral 16 digits
  | '0' :: 'o' :: digits | '0' :: 'O' :: digits => integerLiteral 8 digits
  | '0' :: 'b' :: digits | '0' :: 'B' :: digits => integerLiteral 2 digits
  | '-' :: literal => neg (unsigned literal)
  | '+' :: literal => unsigned literal
  | literal => unsigned literal

/-- The exponent at the beginning of a text. A mark without digits is none. -/
def exponentPrefix : List Char → Int
  | mark :: rest =>
      if mark = 'e' ∨ mark = 'E' then
        match rest with
        | '-' :: digits => -((natural 10 (digits.takeWhile Char.isDigit)).getD 0 : Nat)
        | '+' :: digits => ((natural 10 (digits.takeWhile Char.isDigit)).getD 0 : Nat)
        | digits => ((natural 10 (digits.takeWhile Char.isDigit)).getD 0 : Nat)
      else 0
  | [] => 0

/-- The value of the longest decimal literal that a text begins with. -/
def decimalPrefix (text : List Char) : Option Rat :=
  let whole := text.takeWhile Char.isDigit
  let (fraction, rest) :=
    match text.dropWhile Char.isDigit with
    | '.' :: more => (more.takeWhile Char.isDigit, more.dropWhile Char.isDigit)
    | rest => ([], rest)
  if whole = [] ∧ fraction = [] then none
  else
    (natural 10 (whole ++ fraction)).map fun digits =>
      (digits : Rat) * 10 ^ (exponentPrefix rest - fraction.length)

/-- `parseFloat(text)` without rounding, and `none` for what is no finite number. -/
def parseFloat (text : String) : Option Rat :=
  match text.toList.dropWhile Text.isSpace with
  | '-' :: literal => (decimalPrefix literal).map Neg.neg
  | '+' :: literal => decimalPrefix literal
  | literal => decimalPrefix literal

end Reading

section Printing

/-- The digits of `q` to `count` places, where they still read as `q`. The second number
is the position of the decimal point before or after the first digit. -/
def decimal (q : Rat) (count : Nat) : Option (List Char × Int) :=
  let unit : Rat := 10 ^ (Int.log 10 q + 1 - count)
  let low := ⌊q / unit⌋.toNat
  let reads (n : Nat) : Bool := ofPositive (n * unit) = finite q
  let nearest := (roundHalfEven (q / unit)).toNat
  let found := ([nearest, low, low + 1].filter fun n => n ≠ 0).find? reads
  found.map fun n =>
    let digits := (toString n).toList
    ((digits.reverse.dropWhile (· == '0')).reverse, Int.log 10 q + 1 - count + digits.length)

/-- The shortest digits that read as `q`. -/
def shortest (q : Rat) : List Char × Int :=
  ((List.range' 1 17).findSome? (decimal q)).getD ([], 0)

def zeros (n : Int) : List Char := List.replicate n.toNat '0'

/-- The digits with their decimal point, or with an exponent where it is far away. -/
def layout (digits : List Char) (point : Int) : List Char :=
  if digits.length ≤ point ∧ point ≤ 21 then digits ++ zeros (point - digits.length)
  else if 0 < point ∧ point ≤ 21 then
    digits.take point.toNat ++ '.' :: digits.drop point.toNat
  else if -6 < point ∧ point ≤ 0 then '0' :: '.' :: (zeros (-point) ++ digits)
  else
    digits.take 1 ++ (if digits.length = 1 then [] else '.' :: digits.drop 1) ++
      'e' :: (if point - 1 < 0 then '-' else '+') :: (toString (point - 1).natAbs).toList

/-- An integer below `2 ^ 53` has no shorter digits than its own. -/
def printPositive (q : Rat) : String :=
  if q.den = 1 ∧ q < 2 ^ 53 then toString q.num.toNat
  else
    let (digits, point) := shortest q
    String.ofList (layout digits point)

/-- `String(number)`. -/
def toText : Number → String
  | nan => "NaN"
  | infinity negative => if negative then "-Infinity" else "Infinity"
  | finite value =>
      if value = 0 then "0"
      else if 0 < value then printPositive value
      else "-" ++ printPositive (-value)

/-- A number that is not negative, rounded to some decimal places, and up from the middle. -/
def fixed (places : Nat) (q : Rat) : String :=
  let digits := (toString ⌊q * 10 ^ places + 1 / 2⌋.toNat).toList
  let padded := List.replicate (places + 1 - digits.length) '0' ++ digits
  String.ofList (padded.take (padded.length - places) ++
    '.' :: padded.drop (padded.length - places))

/-- `number.toFixed(places)` for at least one place. -/
def toFixed (places : Nat) : Number → String
  | finite q =>
      if 10 ^ 21 ≤ q ∨ q ≤ -10 ^ 21 then toText (finite q)
      else if q < 0 then "-" ++ fixed places (-q)
      else fixed places q
  | other => toText other

end Printing

section Integers

theorem roundHalfEven_intCast (m : Int) : roundHalfEven (m : Rat) = m := by
  unfold roundHalfEven
  rw [Int.floor_intCast, sub_self, if_pos (by norm_num)]

variable {n : Nat}

/-- Integers below `2 ^ 53` are doubles. -/
theorem ofPositive_natCast (hPos : 0 < n) (hSafe : n < 2 ^ 53) :
    ofPositive (n : Rat) = finite n := by
  have hLog : Nat.log 2 n < 53 := Nat.log_lt_of_lt_pow hPos.ne' hSafe
  obtain ⟨k, hExponent⟩ : ∃ k : Nat, max (Int.log 2 (n : Rat) - 52) (-1074) = -(k : Int) := by
    refine ⟨(-max (Int.log 2 (n : Rat) - 52) (-1074)).toNat, ?_⟩
    rw [Int.log_natCast]
    omega
  have hScaled : (n : Rat) / 2 ^ (-(k : Int)) = ((n * 2 ^ k : Nat) : Int) := by
    rw [zpow_neg, zpow_natCast, div_inv_eq_mul]
    push_cast
    ring
  have hBack : (((n * 2 ^ k : Nat) : Int) : Rat) * 2 ^ (-(k : Int)) = n := by
    rw [zpow_neg, zpow_natCast]
    push_cast
    field_simp
  have hFinite : ¬ (2 ^ 1024 : Rat) ≤ n := by
    have hBound : (n : Rat) < 2 ^ 53 := by exact_mod_cast hSafe
    have hPowers : (2 : Rat) ^ 53 ≤ 2 ^ 1024 := pow_le_pow_right₀ (by norm_num) (by norm_num)
    exact not_le.mpr (hBound.trans_le hPowers)
  unfold ofPositive
  simp only [hExponent, hScaled, roundHalfEven_intCast, hBack, if_neg hFinite]

theorem digit_of_isDigit {c : Char} (h : c.isDigit = true) :
    digit 10 c = some (c.toNat - '0'.toNat) := by
  exact @Text.of_isDigit (fun c => digit 10 c = some (c.toNat - '0'.toNat)) (by decide) c h

theorem natural_of_isDigit {digits : List Char} (h : ∀ c ∈ digits, c.isDigit = true) :
    natural 10 digits = some (Nat.ofDigitChars 10 digits 0) := by
  have hFold : ∀ read : Nat, digits.foldlM
      (fun read c => (digit 10 c).map fun d => 10 * read + d) read =
        some (Nat.ofDigitChars 10 digits read) := by
    induction digits with
    | nil => simp
    | cons c rest ih =>
        intro read
        rw [List.foldlM_cons, digit_of_isDigit (h c (by simp)), Nat.ofDigitChars_cons]
        exact ih (fun d hd => h d (by simp [hd])) _
  exact hFold 0

theorem unsigned_of_isDigit {digits : List Char} (hNonempty : digits ≠ [])
    (h : ∀ c ∈ digits, c.isDigit = true) :
    unsigned digits = ofRat (Nat.ofDigitChars 10 digits 0 : Nat) := by
  have hSpan : ∀ stop : Char → Bool, (∀ c, c.isDigit = true → stop c = true) →
      digits.span stop = (digits, []) := by
    intro stop hStop
    have hTake : digits.takeWhile stop = digits :=
      List.takeWhile_eq_self_iff.mpr fun c hc => hStop c (h c hc)
    have hDrop := List.takeWhile_append_dropWhile (p := stop) (l := digits)
    rw [hTake] at hDrop
    rw [List.span_eq_takeWhile_dropWhile, hTake, List.append_right_eq_self.mp hDrop]
  have hName : digits ≠ "Infinity".toList := by
    rintro rfl
    exact absurd (h 'I' (by decide)) (by decide)
  have hMantissa := hSpan (fun c => c != 'e' && c != 'E') fun c hc =>
    @Text.of_isDigit (fun c => (c != 'e' && c != 'E') = true) (by decide) c hc
  have hWhole := hSpan (fun c => c != '.') fun c hc =>
    @Text.of_isDigit (fun c => (c != '.') = true) (by decide) c hc
  rw [unsigned, if_neg hName, unsignedDecimal, hMantissa]
  simp only [hWhole, List.drop_nil, hNonempty, false_and, if_false, List.append_nil,
    natural_of_isDigit h, exponentPart]
  simp

/-- A text of digits is read as the number that it writes. -/
theorem ofText_of_isDigit {text : String} (hNonempty : text ≠ "")
    (h : ∀ c ∈ text.toList, c.isDigit = true) :
    ofText text = ofRat (Nat.ofDigitChars 10 text.toList 0 : Nat) := by
  have hTrim : Text.trim text = text := Text.trim_of_forall fun c hc =>
    @Text.of_isDigit (fun c => Text.isSpace c = false) (by decide) c (h c hc)
  have hText : text.toList ≠ [] := fun hEmpty => hNonempty (String.toList_eq_nil_iff.mp hEmpty)
  have hUnsigned := unsigned_of_isDigit hText h
  have hOther : ∀ d ∈ text.toList, d ≠ 'x' ∧ d ≠ 'X' ∧ d ≠ 'o' ∧ d ≠ 'O' ∧ d ≠ 'b' ∧ d ≠ 'B' ∧
      d ≠ '-' ∧ d ≠ '+' := fun d hd =>
    @Text.of_isDigit (fun d => d ≠ 'x' ∧ d ≠ 'X' ∧ d ≠ 'o' ∧ d ≠ 'O' ∧ d ≠ 'b' ∧ d ≠ 'B' ∧
      d ≠ '-' ∧ d ≠ '+') (by decide) d (h d hd)
  unfold ofText
  rw [hTrim, ← hUnsigned]
  split <;> simp_all

/-- A minus in front of the digits. -/
theorem ofText_minus {digits : List Char} (hNonempty : digits ≠ [])
    (h : ∀ c ∈ digits, c.isDigit = true) :
    ofText (String.ofList ('-' :: digits)) =
      neg (ofRat (Nat.ofDigitChars 10 digits 0 : Nat)) := by
  have hTrim : Text.trim (String.ofList ('-' :: digits)) = String.ofList ('-' :: digits) := by
    apply Text.trim_of_forall
    intro c hc
    rw [String.toList_ofList] at hc
    rcases List.mem_cons.mp hc with rfl | hDigit
    · rfl
    · exact @Text.of_isDigit (fun c => Text.isSpace c = false) (by decide) c (h c hDigit)
  rw [ofText, hTrim, String.toList_ofList, ← unsigned_of_isDigit hNonempty h]
  rfl

/-- `parseFloat` reads a text of digits to its end. -/
theorem parseFloat_of_isDigit {text : String} (hNonempty : text ≠ "")
    (h : ∀ c ∈ text.toList, c.isDigit = true) :
    parseFloat text = some ((Nat.ofDigitChars 10 text.toList 0 : Nat) : Rat) := by
  have hText : text.toList ≠ [] := fun hEmpty => hNonempty (String.toList_eq_nil_iff.mp hEmpty)
  have hStart : text.toList.dropWhile Text.isSpace = text.toList := by
    apply List.dropWhile_eq_self_iff.mpr
    intro hLength
    have hDigit := h _ (List.getElem_mem hLength)
    simpa using @Text.of_isDigit (fun c => Text.isSpace c = false) (by decide) _ hDigit
  have hWhole : text.toList.takeWhile Char.isDigit = text.toList :=
    List.takeWhile_eq_self_iff.mpr h
  have hRest : text.toList.dropWhile Char.isDigit = [] := List.dropWhile_eq_nil_iff.mpr h
  have hLiteral : decimalPrefix text.toList =
      some ((Nat.ofDigitChars 10 text.toList 0 : Nat) : Rat) := by
    unfold decimalPrefix
    simp [hWhole, hRest, hText, natural_of_isDigit h, exponentPrefix]
  have hSign : ∀ c ∈ text.toList, c ≠ '-' ∧ c ≠ '+' := fun c hc =>
    @Text.of_isDigit (fun c => c ≠ '-' ∧ c ≠ '+') (by decide) c (h c hc)
  unfold parseFloat
  rw [hStart, ← hLiteral]
  split
  · rename_i literal hMinus
    exact absurd rfl (hSign '-' (by simp [hMinus])).1
  · rename_i literal hPlus
    exact absurd rfl (hSign '+' (by simp [hPlus])).2
  · rfl

/-- Of a hexadecimal literal it reads the zero in front. -/
theorem parseFloat_hexLiteral {text : String} {digits : List Char}
    (h : text.toList = '0' :: 'x' :: digits) : parseFloat text = some 0 := by
  have hStart : text.toList.dropWhile Text.isSpace = '0' :: 'x' :: digits := by
    rw [h, List.dropWhile_cons, if_neg (by decide)]
  have hZero : natural 10 ['0'] = some 0 := by decide
  unfold parseFloat
  rw [hStart]
  show decimalPrefix ('0' :: 'x' :: digits) = some 0
  unfold decimalPrefix
  simp [hZero, exponentPrefix]

theorem toText_natCast (hPos : 0 < n) (hSafe : n < 2 ^ 53) :
    toText (finite n) = toString n := by
  have hNonzero : (n : Rat) ≠ 0 := by exact_mod_cast hPos.ne'
  have hPositive : (0 : Rat) < n := by exact_mod_cast hPos
  have hBound : (n : Rat) < 2 ^ 53 := by exact_mod_cast hSafe
  rw [toText, if_neg hNonzero, if_pos hPositive, printPositive,
    if_pos ⟨Rat.den_natCast n, hBound⟩]
  rfl

/-- A safe integer is read back from its digits. -/
theorem ofText_toString (hPos : 0 < n) (hSafe : n < 2 ^ 53) : ofText (toString n) = finite n := by
  have hNonzero : (n : Rat) ≠ 0 := by exact_mod_cast hPos.ne'
  have hPositive : (0 : Rat) < n := by exact_mod_cast hPos
  have hDigits : (toString n).toList = Nat.toDigits 10 n := by simp
  have hNonempty : toString n ≠ "" := by
    intro hEmpty
    rw [hEmpty] at hDigits
    exact Nat.toDigits_ne_nil hDigits.symm
  rw [ofText_of_isDigit hNonempty fun c hc => Text.isDigit_of_mem_toString hc, hDigits,
    Nat.ofDigitChars_ten_toDigits, ofRat, if_neg hNonzero, if_pos hPositive,
    ofPositive_natCast hPos hSafe]

end Integers

end Number
