import Mathlib.Data.List.Infix

/-! Strings and plain objects of the source language. -/
namespace Text

/-- The lower case of a character. Of those outside ASCII only `İ` and the Kelvin sign
have ASCII characters in it; the others are left alone, as they keep their length and
are compared with ASCII texts only. -/
def lowerCase (c : Char) : List Char :=
  if c = '\u0130' then ['i', '\u0307'] else if c = '\u212a' then ['k'] else [c.toLower]

def toLowerCase (s : String) : String := String.ofList (s.toList.flatMap lowerCase)

/-- The parts of a text between occurrences of the separator. -/
def split (s : String) (separator : Char) : List String :=
  (s.toList.splitOn separator).map String.ofList

def includes (s part : String) : Bool := decide (part.toList <:+: s.toList)

/-- White space and line ends, as `trim` and `parseInt` skip them. -/
def isSpace (c : Char) : Bool :=
  ['\t', '\n', '\x0b', '\x0c', '\r', ' ', '\u00a0', '\u1680', '\u2028', '\u2029', '\u202f',
    '\u205f', '\u3000', '\ufeff'].contains c || decide ('\u2000' ≤ c ∧ c ≤ '\u200a')

def trim (s : String) : String :=
  String.ofList (((s.toList.dropWhile isSpace).reverse.dropWhile isSpace).reverse)

def codeUnits : List Char → Nat
  | [] => 0
  | c :: rest => (if c.toNat < 0x10000 then 1 else 2) + codeUnits rest

/-- The code units of a text, one text for each. Half of a pair is no character, and is
written as the replacement character. -/
def units (s : String) : List String :=
  s.toList.flatMap fun c =>
    if c.toNat < 0x10000 then [String.ofList [c]] else ["\ufffd", "\ufffd"]

/-- The length in code units. -/
def utf16Length (s : String) : Nat := codeUnits s.toList

theorem codeUnits_of_basic {text : List Char} (h : ∀ c ∈ text, c.toNat < 0x10000) :
    codeUnits text = text.length := by
  induction text with
  | nil => rfl
  | cons c rest ih =>
      have hRest := ih fun d hd => h d (List.mem_cons_of_mem _ hd)
      rw [codeUnits, if_pos (h c List.mem_cons_self), hRest, List.length_cons, Nat.add_comm]

/-- The number that a stretch of decimal digits starts with. -/
def leadingDigits : List Char → Option Nat → Option Nat
  | c :: rest, read =>
      if c.isDigit then leadingDigits rest (some (read.getD 0 * 10 + (c.toNat - '0'.toNat)))
      else read
  | [], read => read

/-- `parseInt(s, 10)`, with `none` for `NaN`. -/
def parseInt (s : String) : Option Int :=
  match s.toList.dropWhile isSpace with
  | '-' :: rest => (leadingDigits rest none).map fun n => -(n : Int)
  | '+' :: rest => (leadingDigits rest none).map Int.ofNat
  | digits => (leadingDigits digits none).map Int.ofNat

/-- An absent or empty string is falsy. -/
def present : Option String → Option String
  | some s => if s = "" then none else some s
  | none => none

/-- An absent number and zero are falsy. -/
def nonzero : Option Nat → Option Nat
  | some (n + 1) => some (n + 1)
  | _ => none

theorem present_some {s : String} (h : s ≠ "") : present (some s) = some s := by
  simp [present, h]

theorem eq_some_of_present {text : Option String} {s : String} (h : present text = some s) :
    text = some s := by
  unfold present at h
  split at h
  · split at h
    · cases h
    · exact h
  · cases h

/-- The prototype members that every plain object answers for. -/
def objectPrototype : List String :=
  ["constructor", "__proto__", "hasOwnProperty", "isPrototypeOf", "propertyIsEnumerable",
    "toLocaleString", "toString", "valueOf", "__defineGetter__", "__defineSetter__",
    "__lookupGetter__", "__lookupSetter__"]

/-- The result of reading `object[key]` on a plain object whose own values are
of type `α`. An inherited member is a truthy value of another type. -/
inductive Lookup (α : Type*) where
  | own (value : α)
  | inherited
  | missing
  deriving DecidableEq

/-- Read a key of a plain object with the given own entries. -/
def lookup {α : Type*} (entries : List (String × α)) (key : String) : Lookup α :=
  match entries.lookup key with
  | some value => .own value
  | none => if key ∈ objectPrototype then .inherited else .missing

theorem toLower_of_not_upper {c : Char} (h : ¬ (c.val ≥ 'A'.val ∧ c.val ≤ 'Z'.val)) :
    c.toLower = c := by
  unfold Char.toLower
  rw [dif_neg h]

/-- Only the upper-case letters move, to the letters 32 places after them. Every other character is
its own lower case. -/
theorem toLower_cases (c : Char) :
    c.toLower = c ∨ c.toLower.toNat = c.toNat + 32 ∧ 65 ≤ c.toNat ∧ c.toNat ≤ 90 := by
  by_cases hUpper : c.val ≥ 'A'.val ∧ c.val ≤ 'Z'.val
  · have hLow : 65 ≤ c.val.toNat := UInt32.le_iff_toNat_le.mp hUpper.1
    have hHigh : c.val.toNat ≤ 90 := UInt32.le_iff_toNat_le.mp hUpper.2
    refine .inr ⟨?_, hLow, hHigh⟩
    unfold Char.toLower
    rw [dif_pos hUpper]
    have hSum : (c.val + 32).toNat = (c.val.toNat + 32) % 2 ^ 32 := UInt32.toNat_add c.val 32
    show (c.val + 32).toNat = c.val.toNat + 32
    omega
  · exact .inl (toLower_of_not_upper hUpper)

theorem toLower_toLower (c : Char) : c.toLower.toLower = c.toLower := by
  by_cases hUpper : c.val ≥ 'A'.val ∧ c.val ≤ 'Z'.val
  · refine toLower_of_not_upper ?_
    unfold Char.toLower
    rw [dif_pos hUpper]
    simp [UInt32.le_iff_toNat_le] at hUpper ⊢
    omega
  · rw [toLower_of_not_upper hUpper, toLower_of_not_upper hUpper]

/-- Two characters outside ASCII have a lower case of their own: the dotted capital I and the
Kelvin sign. All others are lowered one by one. -/
theorem lowerCase_of_ne {c : Char} (hDotted : c ≠ '\u0130') (hKelvin : c ≠ '\u212a') :
    lowerCase c = [c.toLower] := by
  rw [lowerCase, if_neg hDotted, if_neg hKelvin]

/-- A lower case is its own lower case. -/
theorem flatMap_lowerCase (c : Char) : (lowerCase c).flatMap lowerCase = lowerCase c := by
  by_cases hDotted : c = '\u0130'
  · subst hDotted
    decide
  by_cases hKelvin : c = '\u212a'
  · subst hKelvin
    decide
  have hKept : ∀ other : Char, 128 ≤ other.toNat → c ≠ other → c.toLower ≠ other := by
    rintro other hOther hNe rfl
    rcases toLower_cases c with hSame | hMoved
    · exact hNe hSame.symm
    · omega
  rw [lowerCase_of_ne hDotted hKelvin, List.flatMap_singleton,
    lowerCase_of_ne (hKept _ (by decide) hDotted) (hKept _ (by decide) hKelvin), toLower_toLower]

theorem toLowerCase_toLowerCase (s : String) : toLowerCase (toLowerCase s) = toLowerCase s := by
  rw [toLowerCase, toLowerCase, String.toList_ofList, List.flatMap_assoc]
  simp only [flatMap_lowerCase]

/-- A text without those two characters keeps its length when it is lowered. -/
theorem toLowerCase_of_ne {s : String} (h : ∀ c ∈ s.toList, c ≠ '\u0130' ∧ c ≠ '\u212a') :
    toLowerCase s = String.ofList (s.toList.map Char.toLower) := by
  have hEach : ∀ c ∈ s.toList, lowerCase c = [c.toLower] := fun c hc =>
    lowerCase_of_ne (h c hc).1 (h c hc).2
  rw [toLowerCase, List.flatMap_congr hEach, ← List.map_eq_flatMap]

/-- Where the lower case has neither an `i` nor a `k`, each character has one of its own. The
lengths of the two texts agree then as well. -/
theorem toLowerCase_eq_map {s : String} (h : ∀ c ∈ (toLowerCase s).toList, c ≠ 'i' ∧ c ≠ 'k') :
    toLowerCase s = String.ofList (s.toList.map Char.toLower) := by
  refine toLowerCase_of_ne fun c hc => ?_
  have hLower : ∀ d ∈ lowerCase c, d ≠ 'i' ∧ d ≠ 'k' := fun d hd =>
    h d (by rw [toLowerCase, String.toList_ofList]; exact List.mem_flatMap.mpr ⟨c, hc, hd⟩)
  refine ⟨?_, ?_⟩
  · rintro rfl
    exact (hLower 'i' (by decide)).1 rfl
  · rintro rfl
    exact (hLower 'k' (by decide)).2 rfl

theorem length_le_utf16Length (s : String) : s.toList.length ≤ utf16Length s := by
  unfold utf16Length
  induction s.toList with
  | nil => exact Nat.le_refl _
  | cons c rest ih =>
      simp only [List.length_cons, codeUnits]
      split <;> omega

theorem isDigit_of_mem_toString {n : Nat} {c : Char} (h : c ∈ (toString n).toList) :
    c.isDigit = true := by
  have hDigits : (toString n).toList = Nat.toDigits 10 n := by simp
  rw [hDigits] at h
  exact Nat.isDigit_of_mem_toDigits (by decide) (by decide) h

/-- What holds of the ten digits holds of every character that is one. -/
theorem of_isDigit {P : Char → Prop} (hAll : ∀ i : Fin 10, P (Char.ofNat (48 + i))) {c : Char}
    (h : c.isDigit = true) : P c := by
  obtain ⟨hLow, hHigh⟩ := Char.isDigit_iff_toNat.mp h
  change 48 ≤ c.toNat at hLow
  change c.toNat ≤ 57 at hHigh
  have hDigit := hAll ⟨c.toNat - 48, by omega⟩
  rwa [Nat.add_sub_cancel' hLow, Char.ofNat_toNat] at hDigit

theorem trim_of_forall {s : String} (h : ∀ c ∈ s.toList, isSpace c = false) : trim s = s := by
  have hNone : ∀ text : List Char, (∀ c ∈ text, isSpace c = false) →
      text.dropWhile isSpace = text := by
    intro text hText
    cases text with
    | nil => rfl
    | cons c rest => rw [List.dropWhile_cons, if_neg (by simp [hText c])]
  rw [trim, hNone _ h, hNone _ fun c hc => h c (List.mem_reverse.mp hc), List.reverse_reverse,
    String.ofList_toList]

/-- `parts.join(delimiter)` for a delimiter of one character. -/
theorem toList_intercalate_cons (delimiter : Char) (first : String) (parts : List String) :
    ((String.singleton delimiter).intercalate (first :: parts)).toList =
      first.toList ++ parts.flatMap fun part => delimiter :: part.toList := by
  induction parts generalizing first with
  | nil => simp
  | cons part rest ih =>
      rw [String.intercalate_cons_cons, String.toList_append, ih]
      simp

/-- Parts without the delimiter are found again. This is what makes a joined key readable. -/
theorem split_intercalate {delimiter : Char} {parts : List String} (hParts : parts ≠ [])
    (hEach : ∀ part ∈ parts, delimiter ∉ part.toList) :
    split ((String.singleton delimiter).intercalate parts) delimiter = parts := by
  have hLists : ∀ text ∈ parts.map String.toList, delimiter ∉ text := by
    intro text hText
    obtain ⟨part, hPart, rfl⟩ := List.mem_map.mp hText
    exact hEach part hPart
  rw [split, String.toList_intercalate, String.toList_singleton,
    List.splitOn_intercalate delimiter hLists (by simpa using hParts), List.map_map]
  simp

/-- Joining the parts of a text gives the text again. Splitting loses nothing, empty parts
included. -/
theorem intercalate_split (s : String) (delimiter : Char) :
    (String.singleton delimiter).intercalate (split s delimiter) = s := by
  apply String.toList_inj.mp
  rw [split, String.toList_intercalate, String.toList_singleton, List.map_map]
  simp [Function.comp_def, List.intercalate_splitOn]

section Delimited
variable {α : Type*} {delimiter : α} {a b tail : List α}

/-- A stretch without the delimiter does not reach past one. Two texts that agree so far have their
delimiters at the same place. -/
theorem prefix_append_delimited (ha : delimiter ∉ a)
    (hTail : tail = [] ∨ ∃ rest, tail = delimiter :: rest) : a <+: b ++ tail ↔ a <+: b := by
  constructor
  · intro h
    rcases List.prefix_or_prefix_of_prefix h (List.prefix_append b tail) with hShort | hLong
    · exact hShort
    · obtain ⟨rest, rfl⟩ := hLong
      have hRest := (List.prefix_append_right_inj b).mp h
      cases rest with
      | nil => simp
      | cons x xs =>
          rcases hTail with rfl | ⟨after, rfl⟩
          · simp at hRest
          · obtain ⟨rfl, -⟩ := List.cons_prefix_cons.mp hRest
            exact absurd (by simp) ha
  · exact fun h => h.trans (List.prefix_append b tail)

/-- What begins with the delimiter is not found in a stretch without it. -/
theorem infix_append_of_not_mem (hb : delimiter ∉ b) :
    delimiter :: a <:+: b ++ tail ↔ delimiter :: a <:+: tail := by
  induction b with
  | nil => simp
  | cons x xs ih =>
      have hx : delimiter ≠ x := fun h => hb (by simp [h])
      have hxs : delimiter ∉ xs := fun h => hb (by simp [h])
      rw [List.cons_append, List.infix_cons_iff, ih hxs]
      simp [List.cons_prefix_cons, hx]

/-- A stretch that ends with the delimiter is not found across the last one. -/
theorem append_delimiter_prefix_iff (hTail : delimiter ∉ tail) :
    a ++ [delimiter] <+: b ++ delimiter :: tail ↔ a = b ∨ a ++ [delimiter] <+: b := by
  induction b generalizing a with
  | nil =>
      cases a with
      | nil => simp
      | cons x xs =>
          have hPast : ¬ xs ++ [delimiter] <+: tail := fun h => hTail (h.subset (by simp))
          simp [List.cons_prefix_cons, hPast]
  | cons y ys ih =>
      cases a with
      | nil => simp [List.cons_prefix_cons]
      | cons x xs =>
          rw [List.cons_append, List.cons_append, List.cons_prefix_cons,
            List.cons_prefix_cons, ih, List.cons.injEq, and_or_left]

/-- A stretch after the delimiter begins at one before the last, or begins the tail. The text is cut
at its last delimiter for this. -/
theorem delimiter_infix_iff (ha : delimiter ∉ a) (hTail : delimiter ∉ tail) :
    delimiter :: a <:+: b ++ delimiter :: tail ↔ delimiter :: a <:+: b ∨ a <+: tail := by
  induction b with
  | nil =>
      have hPast : ¬ delimiter :: a <:+: tail := fun h => hTail (h.subset List.mem_cons_self)
      simp [List.infix_cons_iff, List.cons_prefix_cons, hPast]
  | cons y ys ih =>
      rw [List.cons_append, List.infix_cons_iff, List.infix_cons_iff, ih, List.cons_prefix_cons,
        List.cons_prefix_cons, prefix_append_delimited ha (.inr ⟨tail, rfl⟩), or_assoc]

/-- Two texts with the same first delimiter agree before it and after it. The part before it has
none, so there is one way to split. -/
theorem append_delimiter_inj {s t : List α} (ha : delimiter ∉ a) (hb : delimiter ∉ b)
    (h : a ++ delimiter :: s = b ++ delimiter :: t) : a = b ∧ s = t := by
  induction a generalizing b with
  | nil =>
      cases b with
      | nil => exact ⟨rfl, (List.cons.inj h).2⟩
      | cons y ys => exact absurd (by simp [(List.cons.inj h).1]) hb
  | cons x xs ih =>
      cases b with
      | nil => exact absurd (by simp [(List.cons.inj h).1]) ha
      | cons y ys =>
          obtain ⟨rfl, hRest⟩ := List.cons.inj h
          obtain ⟨rfl, hTail⟩ := ih (fun hx => ha (by simp [hx])) (fun hy => hb (by simp [hy])) hRest
          exact ⟨rfl, hTail⟩

end Delimited

end Text
