import BalanceKit.Library.Hex
import BalanceKit.Library.Js
import BalanceKit.Library.Number

/-! JSON texts of values, as `JSON.stringify` writes and `JSON.parse` reads them. Reading
what was written gives the value back, without what is undefined in it. -/
namespace Json

section Writing

/-- The characters that are escaped by a letter of their own. -/
def shortEscapes : List (Char × Char) :=
  [('"', '"'), ('\\', '\\'), ('\x08', 'b'), ('\x0c', 'f'), ('\n', 'n'), ('\r', 'r'), ('\t', 't')]

/-- The other control characters are escaped by their number. -/
def escape (c : Char) : List Char :=
  match shortEscapes.lookup c with
  | some mark => ['\\', mark]
  | none =>
      if c.toNat < 32 then
        ['\\', 'u', '0', '0', Hex.digit (c.toNat / 16), Hex.digit (c.toNat % 16)]
      else [c]

def quote (s : String) : List Char := '"' :: (s.toList.flatMap escape ++ ['"'])

def isUndefined : Js → Bool
  | .undefined => true
  | _ => false

def numberText (q : Rat) : List Char := (Number.toText (Number.ofRat q)).toList

mutual

/-- An undefined value is written as null where it cannot be left out. -/
def text : Js → List Char
  | .undefined | .null => ['n', 'u', 'l', 'l']
  | .bool true => ['t', 'r', 'u', 'e']
  | .bool false => ['f', 'a', 'l', 's', 'e']
  | .num q => numberText q
  | .str s => quote s
  | .arr items => '[' :: ([','].intercalate (itemTexts items) ++ [']'])
  | .obj fields => '{' :: ([','].intercalate (fieldTexts fields) ++ ['}'])

def itemTexts : List Js → List (List Char)
  | [] => []
  | item :: rest => text item :: itemTexts rest

def fieldTexts : List (String × Js) → List (List Char)
  | [] => []
  | (key, value) :: rest =>
      if isUndefined value then fieldTexts rest
      else (quote key ++ ':' :: text value) :: fieldTexts rest

end

/-- `JSON.stringify`, which has no text for what is undefined. -/
def stringify (value : Js) : Option String :=
  if isUndefined value then none else some (String.ofList (text value))

end Writing

section Reading

def isSpace (c : Char) : Bool := c == ' ' || c == '\n' || c == '\r' || c == '\t'

def skip (text : List Char) : List Char := text.dropWhile isSpace

def unescapes : List (Char × Char) := ('/', '/') :: shortEscapes.map fun e => (e.2, e.1)

def codePoint (n : Nat) : Option Char := if n.isValidChar then some (Char.ofNat n) else none

def surrogatePair (high low : Nat) : Option Char :=
  if 0xd800 ≤ high ∧ high < 0xdc00 ∧ 0xdc00 ≤ low ∧ low < 0xe000 then
    codePoint (0x10000 + (high - 0xd800) * 0x400 + (low - 0xdc00))
  else none

/-- The rest of a string, up to the closing quote. A lone surrogate is no character. -/
def string : List Char → Option (List Char × List Char)
  | [] => none
  | '"' :: rest => some ([], rest)
  | '\\' :: 'u' :: a :: b :: c :: d :: rest =>
      match Number.natural 16 [a, b, c, d] with
      | some n =>
          match codePoint n with
          | some ch => (string rest).map fun read => (ch :: read.1, read.2)
          | none =>
              match rest with
              | '\\' :: 'u' :: e :: f :: g :: h :: more =>
                  match (Number.natural 16 [e, f, g, h]).bind (surrogatePair n) with
                  | some ch => (string more).map fun read => (ch :: read.1, read.2)
                  | none => none
              | _ => none
      | none => none
  | '\\' :: mark :: rest =>
      match unescapes.lookup mark with
      | some c => (string rest).map fun read => (c :: read.1, read.2)
      | none => none
  | c :: rest =>
      if c.toNat < 32 then none else (string rest).map fun read => (c :: read.1, read.2)

/-- One digit at least. -/
def digits (text : List Char) : Option (List Char × List Char) :=
  let read := text.takeWhile Char.isDigit
  if read = [] then none else some (read, text.dropWhile Char.isDigit)

def fraction : List Char → Option (List Char × List Char)
  | '.' :: rest => (digits rest).map fun read => ('.' :: read.1, read.2)
  | rest => some ([], rest)

def exponent : List Char → Option (List Char × List Char)
  | mark :: rest =>
      if mark = 'e' ∨ mark = 'E' then
        match rest with
        | '+' :: more => (digits more).map fun read => (mark :: '+' :: read.1, read.2)
        | '-' :: more => (digits more).map fun read => (mark :: '-' :: read.1, read.2)
        | more => (digits more).map fun read => (mark :: read.1, read.2)
      else some ([], mark :: rest)
  | [] => some ([], [])

/-- A literal without its sign; a leading zero stands alone. -/
def unsigned (text : List Char) : Option (List Char × List Char) := do
  let (whole, rest) ← digits text
  if whole.head? = some '0' ∧ whole ≠ ['0'] then none
  let (places, rest) ← fraction rest
  let (power, rest) ← exponent rest
  return (whole ++ places ++ power, rest)

def signed : List Char → Option (List Char × List Char)
  | '-' :: rest => (unsigned rest).map fun read => ('-' :: read.1, read.2)
  | rest => unsigned rest

/-- A literal that is out of range has no value here. -/
def number (text : List Char) : Option (Js × List Char) :=
  match signed text with
  | some (literal, rest) =>
      match Number.ofText (String.ofList literal) with
      | .finite q => some (.num q, rest)
      | _ => none
  | none => none

mutual

/-- One value, with the text after it. The fuel bounds the number of calls in a row. -/
def value : Nat → List Char → Option (Js × List Char)
  | 0, _ => none
  | fuel + 1, text =>
      match skip text with
      | '"' :: rest => (string rest).map fun read => (.str (String.ofList read.1), read.2)
      | '[' :: rest =>
          match skip rest with
          | ']' :: after => some (.arr [], after)
          | _ => (items fuel rest).map fun read => (.arr read.1, read.2)
      | '{' :: rest =>
          match skip rest with
          | '}' :: after => some (.obj [], after)
          | _ => (members fuel rest).map fun read =>
              (.obj (read.1.foldl (fun fs f => Js.setField fs f.1 f.2) []), read.2)
      | 'n' :: 'u' :: 'l' :: 'l' :: rest => some (.null, rest)
      | 't' :: 'r' :: 'u' :: 'e' :: rest => some (.bool true, rest)
      | 'f' :: 'a' :: 'l' :: 's' :: 'e' :: rest => some (.bool false, rest)
      | rest => number rest

def items : Nat → List Char → Option (List Js × List Char)
  | 0, _ => none
  | fuel + 1, text =>
      match value fuel text with
      | some (item, rest) =>
          match skip rest with
          | ',' :: more => (items fuel more).map fun read => (item :: read.1, read.2)
          | ']' :: after => some ([item], after)
          | _ => none
      | none => none

def members : Nat → List Char → Option (List (String × Js) × List Char)
  | 0, _ => none
  | fuel + 1, text =>
      match skip text with
      | '"' :: rest =>
          match string rest with
          | some (key, rest) =>
              match skip rest with
              | ':' :: rest =>
                  match value fuel rest with
                  | some (item, rest) =>
                      match skip rest with
                      | ',' :: more => (members fuel more).map fun read =>
                          ((String.ofList key, item) :: read.1, read.2)
                      | '}' :: after => some ([(String.ofList key, item)], after)
                      | _ => none
                  | none => none
              | _ => none
          | none => none
      | _ => none

end

/-- `JSON.parse`, with `none` where it throws. -/
def parse (text : String) : Option Js :=
  match value (text.toList.length + 1) text.toList with
  | some (read, rest) => if skip rest = [] then some read else none
  | none => none

end Reading

section Numbers

/-- The text goes on behind a value as it does inside a list or an object, or not at all. -/
def Ends (rest : List Char) : Prop := ∀ c ∈ rest.head?, c = ',' ∨ c = ']' ∨ c = '}'

theorem ends_nil : Ends [] := by simp [Ends]

/-- Behind an item of a list or a field of an object comes a comma or the closing bracket, and
each of them ends a number. -/
theorem ends_cons {c : Char} (h : c = ',' ∨ c = ']' ∨ c = '}') (rest : List Char) :
    Ends (c :: rest) := by simpa [Ends] using h

variable {n : Nat} {rest : List Char}

/-- The decimal digits of a number are what the reader takes for digits. -/
theorem isDigit_toDigits {c : Char} (h : c ∈ Nat.toDigits 10 n) : c.isDigit = true :=
  Nat.isDigit_of_mem_toDigits (by norm_num) (by norm_num) h

/-- Below 2^53 every integer is a double of its own, so nothing is rounded away. -/
theorem ofRat_natCast (hSafe : n < 2 ^ 53) : Number.ofRat n = .finite n := by
  rcases Nat.eq_zero_or_pos n with rfl | hPos
  · simp [Number.ofRat]
  · have hNonzero : (n : Rat) ≠ 0 := by exact_mod_cast hPos.ne'
    have hPositive : (0 : Rat) < n := by exact_mod_cast hPos
    rw [Number.ofRat, if_neg hNonzero, if_pos hPositive, Number.ofPositive_natCast hPos hSafe]

/-- An integer is written with its decimal digits, where they are exact. -/
theorem numberText_natCast (hSafe : n < 2 ^ 53) : numberText n = Nat.toDigits 10 n := by
  rw [numberText, ofRat_natCast hSafe]
  rcases Nat.eq_zero_or_pos n with rfl | hPos
  · rfl
  · rw [Number.toText_natCast hPos hSafe]
    simp

/-- A negative integer is written with one minus sign before the digits of its magnitude. -/
theorem numberText_neg (hPos : 0 < n) (hSafe : n < 2 ^ 53) :
    numberText (-n : Rat) = '-' :: Nat.toDigits 10 n := by
  have hPositive : (0 : Rat) < n := by exact_mod_cast hPos
  have hNonzero : (-n : Rat) ≠ 0 := neg_ne_zero.mpr hPositive.ne'
  have hNegative : ¬ (0 : Rat) < -n := by linarith
  have hDigits := Number.toText_natCast hPos hSafe
  rw [Number.toText, if_neg hPositive.ne', if_pos hPositive] at hDigits
  rw [numberText, Number.ofRat, if_neg hNonzero, if_neg hNegative, neg_neg,
    Number.ofPositive_natCast hPos hSafe, Number.neg, Number.toText, if_neg hNonzero,
    if_neg hNegative, neg_neg, hDigits]
  simp

/-- Only zero begins with a zero. -/
theorem head?_toDigits (n : Nat) (hZero : (Nat.toDigits 10 n).head? = some '0') : n = 0 := by
  induction n using Nat.strong_induction_on with
  | _ n ih =>
      rcases Nat.lt_or_ge n 10 with hSmall | hLarge
      · rw [Nat.toDigits_of_lt_base hSmall] at hZero
        have hAll : ∀ d < 10, [d.digitChar].head? = some '0' → d = 0 := by decide
        exact hAll n hSmall hZero
      · rw [Nat.toDigits_of_base_le (by norm_num) hLarge,
          List.head?_append_of_ne_nil _ Nat.toDigits_ne_nil] at hZero
        have hTens := ih (n / 10) (by omega) hZero
        omega

/-- The reader takes a run of digits whole and stops at the end of the value. -/
theorem digits_append {read : List Char} (hDigits : ∀ c ∈ read, c.isDigit = true)
    (hNonempty : read ≠ []) (hEnds : Ends rest) : digits (read ++ rest) = some (read, rest) := by
  have hStop : rest.takeWhile Char.isDigit = [] ∧ rest.dropWhile Char.isDigit = rest := by
    cases rest with
    | nil => exact ⟨rfl, rfl⟩
    | cons c more =>
        have hOther : c.isDigit = false := by
          rcases hEnds c (by simp) with rfl | rfl | rfl <;> rfl
        exact ⟨by rw [List.takeWhile_cons, hOther]; rfl, by rw [List.dropWhile_cons, hOther]; rfl⟩
  rw [digits, List.takeWhile_append_of_pos hDigits, List.dropWhile_append_of_pos hDigits,
    hStop.1, hStop.2, List.append_nil]
  exact if_neg hNonempty

/-- Behind an integer there is no fraction to read, because no value ends in a point. -/
theorem fraction_of_ends (hEnds : Ends rest) : fraction rest = some ([], rest) := by
  unfold fraction
  split
  · rcases hEnds '.' (by simp) with h | h | h <;> cases h
  · rfl

/-- Nor is there an exponent: what comes behind the value is no letter. -/
theorem exponent_of_ends (hEnds : Ends rest) : exponent rest = some ([], rest) := by
  cases rest with
  | nil => rfl
  | cons c more =>
      have hOther : ¬ (c = 'e' ∨ c = 'E') := by
        rcases hEnds c (by simp) with rfl | rfl | rfl <;> decide
      simp only [exponent, if_neg hOther]

/-- The digits of an integer are read as one literal. A zero in front is no obstacle, since only
zero itself begins with one. -/
theorem unsigned_digits (hEnds : Ends rest) :
    unsigned (Nat.toDigits 10 n ++ rest) = some (Nat.toDigits 10 n, rest) := by
  have hRead := digits_append (fun c hc => isDigit_toDigits hc) (@Nat.toDigits_ne_nil n 10) hEnds
  have hLeading : ¬ ((Nat.toDigits 10 n).head? = some '0' ∧ Nat.toDigits 10 n ≠ ['0']) := by
    rintro ⟨hZero, hOther⟩
    rw [head?_toDigits n hZero] at hOther
    exact hOther rfl
  rw [unsigned, hRead]
  show (if _ then _ else _) = _
  rw [if_neg hLeading, fraction_of_ends hEnds]
  show (exponent rest).bind _ = _
  rw [exponent_of_ends hEnds]
  simp

/-- A natural number is read back from its digits, and the text behind them is left as it is. -/
theorem number_natCast (hSafe : n < 2 ^ 53) (hEnds : Ends rest) :
    number (Nat.toDigits 10 n ++ rest) = some (.num n, rest) := by
  have hSigned : signed (Nat.toDigits 10 n ++ rest) = some (Nat.toDigits 10 n, rest) := by
    rw [← unsigned_digits hEnds]
    unfold signed
    split
    · rename_i more hMinus
      obtain ⟨c, others, hDigits⟩ := List.exists_cons_of_ne_nil (@Nat.toDigits_ne_nil n 10)
      have hDigit : c.isDigit = true := @isDigit_toDigits n c (by simp [hDigits])
      rw [hDigits] at hMinus
      rw [(List.cons.inj hMinus).1] at hDigit
      cases hDigit
    · rfl
  have hDigits : ∀ c ∈ (String.ofList (Nat.toDigits 10 n)).toList, c.isDigit = true := by
    intro c hc
    rw [String.toList_ofList] at hc
    exact isDigit_toDigits hc
  have hNonempty : String.ofList (Nat.toDigits 10 n) ≠ "" := fun hEmpty =>
    Nat.toDigits_ne_nil (String.ofList_eq_empty_iff.mp hEmpty)
  rw [number, hSigned]
  simp only [Number.ofText_of_isDigit hNonempty hDigits, String.toList_ofList,
    Nat.ofDigitChars_ten_toDigits, ofRat_natCast hSafe]

/-- So is a negative one. The sign is read first and applied to the value of the digits. -/
theorem number_neg (hSafe : n < 2 ^ 53) (hEnds : Ends rest) :
    number ('-' :: Nat.toDigits 10 n ++ rest) = some (.num (-n), rest) := by
  have hSigned : signed ('-' :: Nat.toDigits 10 n ++ rest) =
      some ('-' :: Nat.toDigits 10 n, rest) := by
    rw [List.cons_append, signed, unsigned_digits hEnds]
    rfl
  rw [number, hSigned]
  simp only [Number.ofText_minus Nat.toDigits_ne_nil fun c hc => isDigit_toDigits hc,
    Nat.ofDigitChars_ten_toDigits, ofRat_natCast hSafe, Number.neg]

/-- An integer is written by its sign and its magnitude, and these are the two cases. -/
theorem intCast_cases (m : Int) :
    m < 0 ∧ (m : Rat) = -(m.natAbs : Nat) ∨ (m : Rat) = (m.natAbs : Nat) := by
  rcases lt_or_ge m 0 with hNegative | hNatural
  · left
    rw [Nat.cast_natAbs, abs_of_neg hNegative]
    simpa using hNegative
  · right
    rw [Nat.cast_natAbs, abs_of_nonneg hNatural]

/-- An integer is read back. -/
theorem number_intCast {m : Int} (hSafe : m.natAbs < 2 ^ 53) (hEnds : Ends rest) :
    number (numberText m ++ rest) = some (.num m, rest) := by
  rcases intCast_cases m with ⟨hNegative, hCast⟩ | hCast
  · rw [hCast, numberText_neg (by omega) hSafe, number_neg hSafe hEnds]
  · rw [hCast, numberText_natCast hSafe, number_natCast hSafe hEnds]

end Numbers


section Strings

/-- The two hexadecimal digits of an escaped control character give its number again. There are 32
cases. -/
theorem natural_control : ∀ n < 32,
    Number.natural 16 ['0', '0', Hex.digit (n / 16), Hex.digit (n % 16)] = some n := by decide

/-- Every character is a code point, so reading its number gives the character itself. -/
theorem codePoint_toNat (c : Char) : codePoint c.toNat = some c := by
  have hValid : c.toNat.isValidChar := c.valid
  rw [codePoint, if_pos hValid, Char.ofNat_toNat]

/-- A letter escape stands for one character, and the rest of the string is read behind it. -/
theorem string_of_short {c mark : Char} (h : (c, mark) ∈ shortEscapes) (rest : List Char) :
    string ('\\' :: mark :: rest) = (string rest).map fun read => (c :: read.1, read.2) := by
  have hMark : mark ≠ 'u' ∧ unescapes.lookup mark = some c := by
    have hAll : ∀ e ∈ shortEscapes, e.2 ≠ 'u' ∧ unescapes.lookup e.2 = some e.1 := by decide
    exact hAll _ h
  rw [string]
  · rw [hMark.2]
  · intro a b d e more hSame
    exact absurd hSame hMark.1

/-- One escaped character is read back. -/
theorem string_escape (c : Char) (rest : List Char) :
    string (escape c ++ rest) = (string rest).map fun read => (c :: read.1, read.2) := by
  by_cases hShort : ∃ mark, (c, mark) ∈ shortEscapes
  · obtain ⟨mark, hMark⟩ := hShort
    have hAll : ∀ e ∈ shortEscapes, escape e.1 = ['\\', e.2] := by decide
    rw [hAll _ hMark]
    exact string_of_short hMark rest
  · have hLookup : shortEscapes.lookup c = none := by
      apply List.lookup_eq_none_iff.mpr
      intro e he
      simp only [bne_iff_ne, ne_eq]
      rintro rfl
      exact hShort ⟨e.2, he⟩
    by_cases hControl : c.toNat < 32
    · simp only [escape, hLookup, if_pos hControl, List.cons_append, List.nil_append]
      rw [string, natural_control _ hControl]
      simp only [codePoint_toNat]
    · have hQuote : c ≠ '"' := by
        rintro rfl
        exact hShort ⟨'"', by decide⟩
      have hBackslash : c ≠ '\\' := by
        rintro rfl
        exact hShort ⟨'\\', by decide⟩
      simp only [escape, hLookup, if_neg hControl, List.cons_append, List.nil_append]
      rw [string, if_neg hControl]
      · exact hQuote
      · intro _ _ _ _ _ hSame
        exact absurd hSame hBackslash
      · intro _ _ hSame
        exact absurd hSame hBackslash

/-- Nothing that a string holds ends it early. -/
theorem string_flatMap_escape (text rest : List Char) :
    string (text.flatMap escape ++ '"' :: rest) = some (text, rest) := by
  induction text with
  | nil => rw [List.flatMap_nil, List.nil_append, string]
  | cons c others ih =>
      rw [List.flatMap_cons, List.append_assoc, string_escape, ih]
      rfl

/-- No character below 32 is left in a quoted string: those characters are written with letters or
with hexadecimal digits. -/
theorem control_escape {c d : Char} (h : d ∈ escape c) : 32 ≤ d.toNat := by
  unfold escape at h
  split at h
  · rename_i mark hLookup
    have hMark := OrderedMap.mem_of_lookup hLookup
    have hAll : ∀ e ∈ shortEscapes, 32 ≤ e.2.toNat := by decide
    simp only [List.mem_cons, List.not_mem_nil, or_false] at h
    rcases h with rfl | rfl
    · decide
    · exact hAll _ hMark
  · split at h
    · rename_i hControl
      have hDigit : ∀ n < 16, 32 ≤ (Hex.digit n).toNat := by decide
      simp only [List.mem_cons, List.not_mem_nil, or_false] at h
      rcases h with rfl | rfl | rfl | rfl | rfl | rfl
      · decide
      · decide
      · decide
      · decide
      · exact hDigit _ (by omega)
      · exact hDigit _ (by omega)
    · rename_i hPrintable
      rw [List.mem_singleton.mp h]
      omega

end Strings


section RoundTrip

mutual

/-- What a reader gets back: null in a list for what is undefined, and no field. -/
def clean : Js → Js
  | .undefined => .null
  | .arr items => .arr (cleanItems items)
  | .obj fields => .obj (cleanFields fields)
  | other => other

def cleanItems : List Js → List Js
  | [] => []
  | item :: rest => clean item :: cleanItems rest

def cleanFields : List (String × Js) → List (String × Js)
  | [] => []
  | (key, value) :: rest =>
      if isUndefined value then cleanFields rest else (key, clean value) :: cleanFields rest

end

mutual

/-- The numbers are exact integers, and no object has a field twice. -/
def Plain : Js → Prop
  | .num q => ∃ m : Int, q = m ∧ m.natAbs < 2 ^ 53
  | .arr items => PlainItems items
  | .obj fields => (fields.map Prod.fst).Nodup ∧ PlainFields fields
  | _ => True

def PlainItems : List Js → Prop
  | [] => True
  | item :: rest => Plain item ∧ PlainItems rest

def PlainFields : List (String × Js) → Prop
  | [] => True
  | (_, value) :: rest => Plain value ∧ PlainFields rest

end

/-- Reading back drops fields and adds none, and the others keep their order. -/
theorem cleanFields_keys (fields : List (String × Js)) :
    ((cleanFields fields).map Prod.fst).Sublist (fields.map Prod.fst) := by
  induction fields with
  | nil => simp [cleanFields]
  | cons f rest ih =>
      obtain ⟨key, value⟩ := f
      by_cases h : isUndefined value = true
      · simp only [cleanFields, if_pos h, List.map_cons]
        exact ih.cons key
      · simp only [cleanFields, if_neg h, List.map_cons]
        exact ih.cons_cons key

/-- An object that is written without any field is read back without any. -/
theorem cleanFields_eq_nil {fields : List (String × Js)} (h : fieldTexts fields = []) :
    cleanFields fields = [] := by
  induction fields with
  | nil => rfl
  | cons f rest ih =>
      obtain ⟨key, value⟩ := f
      by_cases hUndefined : isUndefined value = true
      · simp only [fieldTexts, if_pos hUndefined] at h
        simp only [cleanFields, if_pos hUndefined, ih h]
      · simp only [fieldTexts, if_neg hUndefined] at h
        cases h

/-- A field of an object that was read back. -/
theorem get_clean {fields : List (String × Js)} (hKeys : (fields.map Prod.fst).Nodup)
    (key : String) : (clean (.obj fields)).get key =
      if isUndefined ((Js.obj fields).get key) then .undefined
      else clean ((Js.obj fields).get key) := by
  have hLookup : (cleanFields fields).lookup key =
      ((fields.lookup key).filter fun x => !isUndefined x).map clean := by
    induction fields with
    | nil => rfl
    | cons f rest ih =>
        obtain ⟨k, x⟩ := f
        rw [List.map_cons, List.nodup_cons] at hKeys
        have hRest := ih hKeys.2
        by_cases hSame : key = k
        · subst hSame
          by_cases hUndefined : isUndefined x = true
          · have hNone : (cleanFields rest).lookup key = none :=
              OrderedMap.lookup_eq_none_iff.mpr fun hMember =>
                hKeys.1 ((cleanFields_keys rest).subset hMember)
            simp [cleanFields, hUndefined, hNone]
          · simp [cleanFields, hUndefined]
        · rw [Js.lookup_cons_of_ne hSame, ← hRest]
          by_cases hUndefined : isUndefined x = true
          · simp only [cleanFields, if_pos hUndefined]
          · simp only [cleanFields, if_neg hUndefined]
            exact Js.lookup_cons_of_ne hSame _ _
  rw [clean, Js.get, Js.get, hLookup]
  cases hField : fields.lookup key with
  | none => rfl
  | some x =>
      by_cases hUndefined : isUndefined x = true
      · simp [Option.filter, hUndefined]
      · simp [Option.filter, hUndefined]

/-- Fields under new keys go to the end of an object. -/
theorem foldl_setField {fields before : List (String × Js)}
    (h : ((before ++ fields).map Prod.fst).Nodup) :
    fields.foldl (fun fs f => Js.setField fs f.1 f.2) before = before ++ fields := by
  induction fields generalizing before with
  | nil => simp
  | cons f rest ih =>
      have hNew : f.1 ∉ before.map Prod.fst := by
        intro hMember
        rw [List.map_append] at h
        exact (List.nodup_append.mp h).2.2 _ hMember _ (by simp) rfl
      have hSet : Js.setField before f.1 f.2 = before ++ [f] := Js.setField_of_not_mem hNew f.2
      rw [List.foldl_cons, hSet, ih (by simpa using h)]
      simp

/-- A text that begins with no blank is not shortened by skipping blanks. -/
theorem skip_cons {c : Char} (h : isSpace c = false) (rest : List Char) :
    skip (c :: rest) = c :: rest := by rw [skip, List.dropWhile_cons, h]; rfl

/-- What the text of a value begins with. -/
def Starts (text : List Char) : Prop := ∃ c more, text = c :: more ∧ isSpace c = false ∧ c ≠ ']'

/-- The text of an integer begins with its sign or with a digit. -/
theorem starts_number {m : Int} (hSafe : m.natAbs < 2 ^ 53) :
    ∃ c more, numberText m = c :: more ∧ (c = '-' ∨ c.isDigit = true) := by
  rcases intCast_cases m with ⟨hNegative, hCast⟩ | hCast
  · exact ⟨'-', _, by rw [hCast, numberText_neg (by omega) hSafe], .inl rfl⟩
  · obtain ⟨c, more, hDigits⟩ := List.exists_cons_of_ne_nil (@Nat.toDigits_ne_nil m.natAbs 10)
    exact ⟨c, more, by rw [hCast, numberText_natCast hSafe, hDigits],
      .inr (@isDigit_toDigits m.natAbs c (by simp [hDigits]))⟩

/-- Such a character opens no string, list, object or literal, so the reader goes on to read a
number. -/
theorem not_mark_of_number {c : Char} (h : c = '-' ∨ c.isDigit = true) :
    isSpace c = false ∧ c ≠ ']' ∧ c ≠ '"' ∧ c ≠ '[' ∧ c ≠ '\x7b' ∧ c ≠ 'n' ∧ c ≠ 't' ∧ c ≠ 'f' := by
  rcases h with rfl | hDigit
  · decide
  · exact @Text.of_isDigit (fun c => isSpace c = false ∧ c ≠ ']' ∧ c ≠ '"' ∧ c ≠ '[' ∧
      c ≠ '\x7b' ∧ c ≠ 'n' ∧ c ≠ 't' ∧ c ≠ 'f') (by decide) c hDigit

/-- The text of a value is not empty, and its first character neither is a blank nor closes a
list. The reader needs this to tell an empty list from one with items. -/
theorem starts_text {x : Js} (hPlain : Plain x) : Starts (text x) := by
  cases x with
  | undefined => exact ⟨'n', _, rfl, rfl, by decide⟩
  | null => exact ⟨'n', _, rfl, rfl, by decide⟩
  | bool b =>
      cases b with
      | true => exact ⟨'t', _, rfl, rfl, by decide⟩
      | false => exact ⟨'f', _, rfl, rfl, by decide⟩
  | num q =>
      obtain ⟨m, rfl, hSafe⟩ := hPlain
      obtain ⟨c, more, hText, hFirst⟩ := starts_number hSafe
      obtain ⟨hSpace, hClose, -⟩ := not_mark_of_number hFirst
      exact ⟨c, more, hText, hSpace, hClose⟩
  | str s => exact ⟨'"', _, rfl, rfl, by decide⟩
  | arr items => exact ⟨'[', _, by rw [text], rfl, by decide⟩
  | obj fields => exact ⟨'\x7b', _, by rw [text], rfl, by decide⟩

/-- One value read back, with enough fuel for its text. -/
def ReadsBack (x : Js) : Prop :=
  ∀ fuel rest, (text x).length < fuel → Ends rest →
    value fuel (text x ++ rest) = some (clean x, rest)

/-- The items of a list are read back in order, up to the closing bracket. The induction is on the
items after the first, and each item takes one unit of fuel. -/
theorem items_texts {first : Js} {others : List Js} (hReads : ∀ x ∈ first :: others, ReadsBack x)
    {fuel : Nat} {rest : List Char}
    (hFuel : ([','].intercalate (itemTexts (first :: others))).length + 1 < fuel) :
    items fuel ([','].intercalate (itemTexts (first :: others)) ++ ']' :: rest) =
      some (cleanItems (first :: others), rest) := by
  induction others generalizing first fuel with
  | nil =>
      obtain ⟨fuel, rfl⟩ : ∃ n, fuel = n + 1 := ⟨fuel - 1, by omega⟩
      have hFirst := hReads first (by simp) fuel (']' :: rest)
      simp only [itemTexts, List.intercalate_singleton] at hFuel ⊢
      have hValue := hFirst (by omega) (ends_cons (by simp) rest)
      rw [items, hValue]
      simp only [skip_cons (show isSpace ']' = false from rfl), cleanItems]
  | cons second others ih =>
      obtain ⟨fuel, rfl⟩ : ∃ n, fuel = n + 1 := ⟨fuel - 1, by omega⟩
      have hFirst := hReads first (by simp) fuel
      have hOthers := @ih second (fun x hx => hReads x (by simp [List.mem_cons.mp hx])) fuel
      simp only [itemTexts] at hFuel hOthers ⊢
      rw [List.intercalate_cons_cons] at hFuel ⊢
      simp only [List.length_append, List.length_cons, List.length_nil] at hFuel
      have hValue := fun more => hFirst (',' :: more) (by omega) (ends_cons (.inl rfl) more)
      simp only [List.append_assoc, List.cons_append, List.nil_append]
      rw [items, hValue]
      simp only [skip_cons (show isSpace ',' = false from rfl), hOthers (by omega), Option.map_some]
      rfl

/-- The fields of an object are read back in order, without the undefined ones, which have no
text. At least one field is needed, because an empty object is read by another rule. -/
theorem members_texts {fields : List (String × Js)} (hReads : ∀ f ∈ fields, ReadsBack f.2)
    {fuel : Nat} {rest : List Char} (hSome : fieldTexts fields ≠ [])
    (hFuel : ([','].intercalate (fieldTexts fields)).length + 1 < fuel) :
    members fuel ([','].intercalate (fieldTexts fields) ++ '\x7d' :: rest) =
      some (cleanFields fields, rest) := by
  induction fields generalizing fuel with
  | nil => exact absurd rfl hSome
  | cons f others ih =>
      obtain ⟨key, x⟩ := f
      have hOthers := @ih (fun f hf => hReads f (by simp [hf]))
      by_cases hUndefined : isUndefined x = true
      · simp only [fieldTexts, cleanFields, if_pos hUndefined] at hSome hFuel ⊢
        exact hOthers hSome hFuel
      · obtain ⟨fuel, rfl⟩ : ∃ n, fuel = n + 1 := ⟨fuel - 1, by omega⟩
        have hField : ReadsBack x := hReads (key, x) (by simp)
        simp only [fieldTexts, cleanFields, if_neg hUndefined] at hFuel ⊢
        cases hMore : fieldTexts others with
        | nil =>
            rw [hMore, List.intercalate_singleton] at hFuel
            simp only [quote, List.length_append, List.length_cons, List.length_nil] at hFuel
            have hValue := hField fuel ('\x7d' :: rest) (by omega) (ends_cons (by simp) rest)
            rw [List.intercalate_singleton, cleanFields_eq_nil hMore]
            simp only [quote, List.append_assoc, List.cons_append, List.nil_append]
            rw [members, skip_cons rfl]
            simp only [string_flatMap_escape, skip_cons (show isSpace ':' = false from rfl), hValue,
              skip_cons (show isSpace '\x7d' = false from rfl), String.ofList_toList]
        | cons second more =>
            rw [hMore, List.intercalate_cons_cons] at hFuel
            simp only [quote, List.length_append, List.length_cons, List.length_nil] at hFuel
            have hRest := @hOthers fuel (by simp [hMore]) (by rw [hMore]; omega)
            rw [hMore] at hRest
            rw [List.intercalate_cons_cons]
            simp only [quote, List.append_assoc, List.cons_append, List.nil_append]
            have hValue := fun more =>
              hField fuel (',' :: more) (by omega) (ends_cons (.inl rfl) more)
            rw [members, skip_cons rfl]
            simp only [string_flatMap_escape, skip_cons (show isSpace ':' = false from rfl), hValue,
              skip_cons (show isSpace ',' = false from rfl), String.ofList_toList, hRest,
              Option.map_some]

theorem value_cons {fuel : Nat} {c : Char} {rest : List Char} (h : c = '-' ∨ c.isDigit = true) :
    value (fuel + 1) (c :: rest) = number (c :: rest) := by
  obtain ⟨hSpace, -, hQuote, hList, hObject, hNull, hTrue, hFalse⟩ := not_mark_of_number h
  rw [value, skip_cons hSpace]
  split
  · rename_i hSame
    exact absurd (List.cons.inj hSame).1 hQuote
  · rename_i hSame
    exact absurd (List.cons.inj hSame).1 hList
  · rename_i hSame
    exact absurd (List.cons.inj hSame).1 hObject
  · rename_i hSame
    exact absurd (List.cons.inj hSame).1 hNull
  · rename_i hSame
    exact absurd (List.cons.inj hSame).1 hTrue
  · rename_i hSame
    exact absurd (List.cons.inj hSame).1 hFalse
  · rfl

theorem readsBack_num {m : Int} (hSafe : m.natAbs < 2 ^ 53) : ReadsBack (.num m) := by
  intro fuel rest hFuel hEnds
  obtain ⟨fuel, rfl⟩ : ∃ n, fuel = n + 1 := ⟨fuel - 1, by omega⟩
  obtain ⟨c, more, hText, hFirst⟩ := starts_number hSafe
  have hRead := number_intCast hSafe hEnds
  rw [hText, List.cons_append] at hRead
  rw [text, hText, List.cons_append, value_cons hFirst, hRead]
  rfl

/-- A list of texts with commas between them begins with the first character of the first text. -/
theorem intercalate_begins (c : Char) (more : List Char) (others : List (List Char))
    (rest : List Char) : ∃ after, [','].intercalate ((c :: more) :: others) ++ rest = c :: after := by
  cases others with
  | nil => exact ⟨_, by rw [List.intercalate_singleton, List.cons_append]⟩
  | cons second others =>
      exact ⟨_, by rw [List.intercalate_cons_cons, List.cons_append, List.cons_append,
        List.cons_append]⟩

/-- The text of an object's first field begins with the quote of its key, so an object with a
field is not taken for an empty one. -/
theorem fieldTexts_begins {fields : List (String × Js)} {first : List Char}
    {others : List (List Char)} (h : fieldTexts fields = first :: others) :
    ∃ more, first = '"' :: more := by
  induction fields with
  | nil => cases h
  | cons f rest ih =>
      obtain ⟨key, x⟩ := f
      by_cases hUndefined : isUndefined x = true
      · simp only [fieldTexts, if_pos hUndefined] at h
        exact ih h
      · simp only [fieldTexts, if_neg hUndefined] at h
        exact ⟨_, (List.cons.inj h).1.symm⟩

theorem readsBack_arr {xs : List Js} (hPlain : PlainItems xs) (hReads : ∀ x ∈ xs, ReadsBack x) :
    ReadsBack (.arr xs) := by
  intro fuel rest hFuel hEnds
  obtain ⟨fuel, rfl⟩ : ∃ n, fuel = n + 1 := ⟨fuel - 1, by omega⟩
  rw [text] at hFuel ⊢
  simp only [List.length_cons, List.length_append, List.length_nil] at hFuel
  simp only [List.cons_append, List.append_assoc, List.nil_append]
  cases xs with
  | nil => rfl
  | cons first others =>
      have hItems := @items_texts first others hReads fuel rest (by omega)
      obtain ⟨c, more, hText, hSpace, hClose⟩ := starts_text hPlain.1
      obtain ⟨after, hBegin⟩ := intercalate_begins c more (itemTexts others) (']' :: rest)
      rw [← hText, ← itemTexts] at hBegin
      rw [value, skip_cons rfl]
      rw [hBegin] at hItems ⊢
      simp only [skip_cons hSpace, hItems, Option.map_some, clean]
      split
      · rename_i hSame
        exact absurd (List.cons.inj hSame).1 hClose
      · rfl

/-- An object is read back when its fields are. Its keys differ, so no field that is read replaces
an earlier one. -/
theorem readsBack_obj {fields : List (String × Js)} (hKeys : (fields.map Prod.fst).Nodup)
    (hReads : ∀ f ∈ fields, ReadsBack f.2) : ReadsBack (.obj fields) := by
  intro fuel rest hFuel hEnds
  obtain ⟨fuel, rfl⟩ : ∃ n, fuel = n + 1 := ⟨fuel - 1, by omega⟩
  rw [text] at hFuel ⊢
  simp only [List.length_cons, List.length_append, List.length_nil] at hFuel
  simp only [List.cons_append, List.append_assoc, List.nil_append]
  have hClean : ((([] ++ cleanFields fields : List (String × Js))).map Prod.fst).Nodup :=
    hKeys.sublist (cleanFields_keys fields)
  cases hTexts : fieldTexts fields with
  | nil =>
      rw [value, clean, cleanFields_eq_nil hTexts]
      rfl
  | cons first others =>
      have hMembers := @members_texts fields hReads fuel rest (by simp [hTexts]) (by omega)
      obtain ⟨more, rfl⟩ := fieldTexts_begins hTexts
      obtain ⟨after, hBegin⟩ := intercalate_begins '"' more others ('\x7d' :: rest)
      rw [hTexts, hBegin] at hMembers
      rw [value, skip_cons rfl, hBegin]
      simp only [skip_cons (show isSpace '"' = false from rfl), hMembers, Option.map_some, clean,
        foldl_setField hClean, List.nil_append]
      rfl

mutual

/-- Every plain value is read back, whatever text comes behind it. The induction follows the
value, with one lemma for each of its forms. -/
theorem readsBack : ∀ x, Plain x → ReadsBack x
  | .undefined, _ => by
      intro fuel rest hFuel _
      obtain ⟨fuel, rfl⟩ : ∃ n, fuel = n + 1 := ⟨fuel - 1, by omega⟩
      rfl
  | .null, _ => by
      intro fuel rest hFuel _
      obtain ⟨fuel, rfl⟩ : ∃ n, fuel = n + 1 := ⟨fuel - 1, by omega⟩
      rfl
  | .bool b, _ => by
      intro fuel rest hFuel _
      obtain ⟨fuel, rfl⟩ : ∃ n, fuel = n + 1 := ⟨fuel - 1, by omega⟩
      cases b <;> rfl
  | .num q, hPlain => by
      obtain ⟨m, rfl, hSafe⟩ := hPlain
      exact readsBack_num hSafe
  | .str s, _ => by
      intro fuel rest hFuel _
      obtain ⟨fuel, rfl⟩ : ∃ n, fuel = n + 1 := ⟨fuel - 1, by omega⟩
      rw [text, quote, List.cons_append, List.append_assoc, List.cons_append, List.nil_append,
        value, skip_cons rfl]
      simp only [string_flatMap_escape, Option.map_some, String.ofList_toList]
      rfl
  | .arr xs, hPlain => readsBack_arr hPlain (readsBack_items xs hPlain)
  | .obj fields, hPlain => readsBack_obj hPlain.1 (readsBack_fields fields hPlain.2)

theorem readsBack_items : ∀ xs, PlainItems xs → ∀ x ∈ xs, ReadsBack x
  | [], _ => by simp
  | first :: rest, hPlain => by
      intro x hx
      rcases List.mem_cons.mp hx with hFirst | hRest
      · rw [hFirst]
        exact readsBack first hPlain.1
      · exact readsBack_items rest hPlain.2 x hRest

theorem readsBack_fields : ∀ fields, PlainFields fields → ∀ f ∈ fields, ReadsBack f.2
  | [], _ => by simp
  | (key, first) :: rest, hPlain => by
      intro f hf
      rcases List.mem_cons.mp hf with hFirst | hRest
      · rw [hFirst]
        exact readsBack first hPlain.1
      · exact readsBack_fields rest hPlain.2 f hRest

end

/-- What was written reads as the same value, without what is undefined in it. -/
theorem parse_stringify {x : Js} {written : String} (hPlain : Plain x)
    (hWritten : stringify x = some written) : parse written = some (clean x) := by
  rw [stringify] at hWritten
  split at hWritten
  · cases hWritten
  · obtain rfl := Option.some.inj hWritten
    have hRead := readsBack x hPlain ((text x).length + 1) [] (by omega) ends_nil
    rw [List.append_nil] at hRead
    rw [parse, String.toList_ofList, hRead]
    rfl

/-- A quoted string is on one line, whatever the string holds. -/
theorem printable_quote {s : String} {c : Char} (h : c ∈ quote s) : 32 ≤ c.toNat := by
  rw [quote, List.mem_cons, List.mem_append, List.mem_singleton] at h
  rcases h with rfl | hInside | rfl
  · decide
  · obtain ⟨d, -, hd⟩ := List.mem_flatMap.mp hInside
    exact control_escape hd
  · decide

theorem printable_number {m : Int} (hSafe : m.natAbs < 2 ^ 53) {c : Char}
    (h : c ∈ numberText m) : 32 ≤ c.toNat := by
  have hDigit : c ∈ Nat.toDigits 10 m.natAbs → 32 ≤ c.toNat := fun hc =>
    @Text.of_isDigit (fun c => 32 ≤ c.toNat) (by decide) c (isDigit_toDigits hc)
  rcases intCast_cases m with ⟨hNegative, hCast⟩ | hCast
  · rw [hCast, numberText_neg (by omega) hSafe] at h
    rcases List.mem_cons.mp h with rfl | hc
    · decide
    · exact hDigit hc
  · rw [hCast, numberText_natCast hSafe] at h
    exact hDigit h

/-- The commas between the texts of items or fields are printable themselves. -/
theorem printable_intercalate {texts : List (List Char)}
    (hTexts : ∀ t ∈ texts, ∀ c ∈ t, 32 ≤ c.toNat) {c : Char}
    (h : c ∈ [','].intercalate texts) : 32 ≤ c.toNat := by
  induction texts with
  | nil => cases h
  | cons first rest ih =>
      cases rest with
      | nil =>
          rw [List.intercalate_singleton] at h
          exact hTexts first (by simp) c h
      | cons second others =>
          rw [List.intercalate_cons_cons, List.mem_append, List.mem_append, List.mem_singleton] at h
          rcases h with (hFirst | rfl) | hOthers
          · exact hTexts first (by simp) c hFirst
          · decide
          · exact ih (fun t ht => hTexts t (List.mem_cons_of_mem _ ht)) hOthers

mutual

/-- The text of a value stands on one line, whatever strings are in it. -/
theorem printable_text : ∀ x, Plain x → ∀ c ∈ text x, 32 ≤ c.toNat
  | .undefined, _ => by simp [text]
  | .null, _ => by simp [text]
  | .bool true, _ => by simp [text]
  | .bool false, _ => by simp [text]
  | .num q, hPlain => by
      obtain ⟨m, rfl, hSafe⟩ := hPlain
      intro c hc
      exact printable_number hSafe hc
  | .str s, _ => fun c hc => printable_quote hc
  | .arr xs, hPlain => by
      intro c hc
      rw [text, List.mem_cons, List.mem_append, List.mem_singleton] at hc
      rcases hc with rfl | hInside | rfl
      · decide
      · exact printable_intercalate (printable_items xs hPlain) hInside
      · decide
  | .obj fields, hPlain => by
      intro c hc
      rw [text, List.mem_cons, List.mem_append, List.mem_singleton] at hc
      rcases hc with rfl | hInside | rfl
      · decide
      · exact printable_intercalate (printable_fields fields hPlain.2) hInside
      · decide

theorem printable_items : ∀ xs, PlainItems xs → ∀ t ∈ itemTexts xs, ∀ c ∈ t, 32 ≤ c.toNat
  | [], _ => by simp [itemTexts]
  | first :: rest, hPlain => by
      intro t ht c hc
      rw [itemTexts, List.mem_cons] at ht
      rcases ht with hFirst | hRest
      · rw [hFirst] at hc
        exact printable_text first hPlain.1 c hc
      · exact printable_items rest hPlain.2 t hRest c hc

/-- The texts of the fields of an object are printable, keys and values alike. -/
theorem printable_fields :
    ∀ fields, PlainFields fields → ∀ t ∈ fieldTexts fields, ∀ c ∈ t, 32 ≤ c.toNat
  | [], _ => by simp [fieldTexts]
  | (key, first) :: rest, hPlain => by
      intro t ht c hc
      by_cases hUndefined : isUndefined first = true
      · simp only [fieldTexts, if_pos hUndefined] at ht
        exact printable_fields rest hPlain.2 t ht c hc
      · simp only [fieldTexts, if_neg hUndefined, List.mem_cons] at ht
        rcases ht with hFirst | hRest
        · rw [hFirst, List.mem_append, List.mem_cons] at hc
          rcases hc with hKey | rfl | hValue
          · exact printable_quote hKey
          · decide
          · exact printable_text first hPlain.1 c hValue
        · exact printable_fields rest hPlain.2 t hRest c hc

end

end RoundTrip

end Json
