import Mathlib.Data.List.Infix

/-! Glob patterns as Redis matches them: `*`, `?`, bracket sets with ranges and
negation, and backslash escapes. A pattern is first read into tokens. -/
namespace Glob

inductive Token where
  | star
  | any
  | literal (c : Char)
  | set (negated : Bool) (ranges : List (Char × Char))
  deriving DecidableEq

/-- The bounds of a range are swapped when they are out of order. -/
def range (a b : Char) : Char × Char := if a ≤ b then (a, b) else (b, a)

/-- Read a pattern. The first argument is the bracket set being read, if any;
a set that is never closed extends to the end of the pattern. -/
def tokenize : Option (Bool × List (Char × Char)) → List Char → List Token
  | none, [] => []
  | none, '*' :: rest => .star :: tokenize none rest
  | none, '?' :: rest => .any :: tokenize none rest
  | none, '[' :: '^' :: rest => tokenize (some (true, [])) rest
  | none, '[' :: rest => tokenize (some (false, [])) rest
  | none, '\\' :: c :: rest => .literal c :: tokenize none rest
  | none, c :: rest => .literal c :: tokenize none rest
  | some (negated, ranges), [] => [.set negated ranges]
  | some (negated, ranges), '\\' :: c :: rest => tokenize (some (negated, range c c :: ranges)) rest
  | some (negated, ranges), ']' :: rest => .set negated ranges :: tokenize none rest
  | some (negated, ranges), a :: '-' :: b :: rest =>
      tokenize (some (negated, range a b :: ranges)) rest
  | some (negated, ranges), c :: rest => tokenize (some (negated, range c c :: ranges)) rest

/-- Try `rest` on every suffix of the text. -/
def matchStar (rest : List Char → Bool) : List Char → Bool
  | [] => rest []
  | c :: cs => rest (c :: cs) || matchStar rest cs

def Token.accepts : Token → Char → Bool
  | .star, _ => true
  | .any, _ => true
  | .literal d, c => c == d
  | .set negated ranges, c => (ranges.any fun r => decide (r.1 ≤ c ∧ c ≤ r.2)) != negated

def matchTokens : List Token → List Char → Bool
  | [], text => text.isEmpty
  | .star :: ts, text => matchStar (matchTokens ts) text
  | _ :: _, [] => false
  | t :: ts, c :: cs => t.accepts c && matchTokens ts cs

/-- The text matches the glob pattern. -/
def matchesPattern (pattern text : String) : Bool :=
  matchTokens (tokenize none pattern.toList) text.toList

/-- The characters that a pattern reads as themselves. -/
def Plain (c : Char) : Prop := c ≠ '*' ∧ c ≠ '?' ∧ c ≠ '[' ∧ c ≠ '\\'

instance (c : Char) : Decidable (Plain c) :=
  inferInstanceAs (Decidable (c ≠ '*' ∧ c ≠ '?' ∧ c ≠ '[' ∧ c ≠ '\\'))

theorem plain_append {a b : String} (ha : ∀ c ∈ a.toList, Plain c) (hb : ∀ c ∈ b.toList, Plain c) :
    ∀ c ∈ (a ++ b).toList, Plain c := by
  intro c hc
  rw [String.toList_append] at hc
  rcases List.mem_append.mp hc with hLeft | hRight
  · exact ha c hLeft
  · exact hb c hRight

theorem tokenize_plain {c : Char} (h : Plain c) (rest : List Char) :
    tokenize none (c :: rest) = .literal c :: tokenize none rest := by
  obtain ⟨hStar, hAny, hSet, hEscape⟩ := h
  rw [tokenize.eq_def]
  split <;> simp_all

theorem tokenize_plain_append {text : List Char} (h : ∀ c ∈ text, Plain c) (rest : List Char) :
    tokenize none (text ++ rest) = text.map .literal ++ tokenize none rest := by
  induction text with
  | nil => rfl
  | cons c cs ih =>
      rw [List.cons_append, tokenize_plain (h c (by simp)), ih fun d hd => h d (by simp [hd])]
      rfl

theorem matchStar_iff {rest : List Char → Bool} {text : List Char} :
    matchStar rest text = true ↔ ∃ skipped tail, text = skipped ++ tail ∧ rest tail = true := by
  induction text with
  | nil =>
      constructor
      · exact fun h => ⟨[], [], rfl, h⟩
      · rintro ⟨skipped, tail, hText, h⟩
        obtain ⟨-, rfl⟩ := List.append_eq_nil_iff.mp hText.symm
        exact h
  | cons c cs ih =>
      simp only [matchStar, Bool.or_eq_true, ih]
      constructor
      · rintro (h | ⟨skipped, tail, rfl, h⟩)
        · exact ⟨[], c :: cs, rfl, h⟩
        · exact ⟨c :: skipped, tail, rfl, h⟩
      · rintro ⟨skipped, tail, hText, h⟩
        cases skipped with
        | nil => exact .inl (by simpa [hText] using h)
        | cons d skipped =>
            obtain ⟨rfl, rfl⟩ := List.cons.inj hText
            exact .inr ⟨skipped, tail, rfl, h⟩

/-- A literal stretch of the pattern consumes the same stretch of the text. If the text begins
differently, nothing matches. -/
theorem matchTokens_literals {lits : List Char} {ts : List Token} {text : List Char} :
    matchTokens (lits.map .literal ++ ts) text = true ↔
      ∃ tail, text = lits ++ tail ∧ matchTokens ts tail = true := by
  induction lits generalizing text with
  | nil => simp
  | cons l lits ih =>
      cases text with
      | nil => simp [matchTokens]
      | cons c cs =>
          simp only [List.map_cons, List.cons_append, matchTokens, Token.accepts,
            Bool.and_eq_true, beq_iff_eq, ih, List.cons.injEq]
          constructor
          · rintro ⟨rfl, tail, rfl, h⟩
            exact ⟨tail, ⟨rfl, rfl⟩, h⟩
          · rintro ⟨tail, ⟨rfl, rfl⟩, h⟩
            exact ⟨rfl, tail, rfl, h⟩

/-- A plain text followed by `*` matches exactly the texts that begin with it. -/
theorem matchesPattern_star {lits text : String} (h : ∀ c ∈ lits.toList, Plain c) :
    matchesPattern (lits ++ "*") text = true ↔ lits.toList <+: text.toList := by
  have hTokens : tokenize none (lits ++ "*").toList = lits.toList.map .literal ++ [.star] := by
    rw [String.toList_append, tokenize_plain_append h]
    rfl
  rw [matchesPattern, hTokens, matchTokens_literals]
  constructor
  · rintro ⟨tail, hText, -⟩
    exact ⟨tail, hText.symm⟩
  · rintro ⟨tail, hText⟩
    exact ⟨tail, hText.symm, matchStar_iff.mpr ⟨tail, [], by simp, rfl⟩⟩

/-- Two plain texts, each followed by `*`: the second occurs after the first. What is between the
two and behind them may be anything, also empty. -/
theorem matchesPattern_star_star {lits mid text : String} (hLits : ∀ c ∈ lits.toList, Plain c)
    (hMid : ∀ c ∈ mid.toList, Plain c) :
    matchesPattern (lits ++ "*" ++ mid ++ "*") text = true ↔
      ∃ rest, text.toList = lits.toList ++ rest ∧ mid.toList <:+: rest := by
  have hTokens : tokenize none (lits ++ "*" ++ mid ++ "*").toList =
      lits.toList.map .literal ++ (.star :: (mid.toList.map .literal ++ [.star])) := by
    have hSplit : (lits ++ "*" ++ mid ++ "*").toList = lits.toList ++ '*' :: (mid.toList ++ ['*']) := by
      simp
    have hTail : tokenize none (mid.toList ++ ['*']) = mid.toList.map .literal ++ [.star] := by
      rw [tokenize_plain_append hMid]
      rfl
    rw [hSplit, tokenize_plain_append hLits, ← hTail]
    rfl
  rw [matchesPattern, hTokens, matchTokens_literals]
  apply exists_congr
  intro rest
  apply and_congr_right
  intro _
  show matchStar (matchTokens (mid.toList.map .literal ++ [.star])) rest = true ↔ _
  rw [matchStar_iff]
  constructor
  · rintro ⟨skipped, tail, rfl, h⟩
    obtain ⟨after, rfl, -⟩ := matchTokens_literals.mp h
    exact ⟨skipped, after, by simp⟩
  · rintro ⟨skipped, after, rfl⟩
    exact ⟨skipped, mid.toList ++ after, by simp,
      matchTokens_literals.mpr ⟨after, rfl, matchStar_iff.mpr ⟨after, [], by simp, rfl⟩⟩⟩

/-- A pattern of so many stars, each followed by the delimiter, and then plain text. -/
def starred (delimiter : Char) (lits : List Char) : Nat → List Char
  | 0 => lits
  | n + 1 => '*' :: delimiter :: starred delimiter lits n

/-- The stars may cross delimiters, so the pattern asks only for enough of them before
the last. -/
theorem matches_starred {delimiter : Char} {lits : List Char} (hDelimiter : Plain delimiter)
    (hLits : ∀ c ∈ lits, Plain c) (n : Nat) (text : List Char) :
    matchTokens (tokenize none (starred delimiter lits (n + 1))) text = true ↔
      ∃ stem, text = stem ++ delimiter :: lits ∧ n ≤ stem.count delimiter := by
  have hStep : ∀ (rest text : List Char),
      matchTokens (tokenize none ('*' :: delimiter :: rest)) text = true ↔
        ∃ skipped tail, text = skipped ++ delimiter :: tail ∧
          matchTokens (tokenize none rest) tail = true := by
    intro rest text
    have hTokens : tokenize none ('*' :: delimiter :: rest) =
        .star :: ([delimiter].map .literal ++ tokenize none rest) := by
      rw [← tokenize_plain_append (by simpa using hDelimiter)]
      rfl
    rw [hTokens, matchTokens, matchStar_iff]
    simp only [matchTokens_literals]
    constructor
    · rintro ⟨skipped, _, rfl, tail, rfl, hTail⟩
      exact ⟨skipped, tail, rfl, hTail⟩
    · rintro ⟨skipped, tail, rfl, hTail⟩
      exact ⟨skipped, _, rfl, tail, rfl, hTail⟩
  induction n generalizing text with
  | zero =>
      have hTokens : tokenize none lits = lits.map .literal := by
        simpa [tokenize] using tokenize_plain_append hLits []
      have hRest : ∀ tail, matchTokens (tokenize none lits) tail = true ↔ tail = lits := by
        intro tail
        have hLiterals := @matchTokens_literals lits [] tail
        simpa [hTokens, matchTokens] using hLiterals
      rw [starred, starred, hStep]
      simp [hRest]
  | succ n ih =>
      rw [starred, hStep]
      simp only [ih]
      constructor
      · rintro ⟨skipped, _, rfl, stem, rfl, hCount⟩
        refine ⟨skipped ++ delimiter :: stem, by simp, ?_⟩
        rw [List.count_append, List.count_cons_self]
        omega
      · rintro ⟨stem, rfl, hCount⟩
        have hMember : delimiter ∈ stem := List.count_pos_iff.mp (by omega)
        obtain ⟨skipped, tail, rfl, hNot⟩ := List.eq_append_cons_of_mem hMember
        refine ⟨skipped, tail ++ delimiter :: lits, by simp, tail, rfl, ?_⟩
        rw [List.count_append, List.count_eq_zero_of_not_mem hNot, List.count_cons_self] at hCount
        omega

end Glob
