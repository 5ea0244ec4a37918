-- SUMMARY: The tokens of a JSON document.
import DexTrail.Json.Literal

/-!
# Tokens of JSON

`Token.lex` divides a document into tokens, dropping the blanks between them. A
number is the longest run of characters that numbers are made of, and must then
have the form of a number: so `01`, `1.` and `-` are refused here.
-/

namespace DexTrail.Json

inductive Token where
  | openBrace
  | closeBrace
  | openBracket
  | closeBracket
  | comma
  | colon
  | null
  | bool (b : Bool)
  | number (spelling : List Char)
  | string (literal : Literal)
  deriving DecidableEq, Inhabited

/-- The blanks that may stand between tokens. -/
def isBlank (c : Char) : Bool := c == ' ' || c == '\t' || c == '\n' || c == '\r'

/-! ## Numbers -/

/-- Characters that numbers are made of. -/
def isNumberChar (c : Char) : Bool :=
  c.isDigit || c == '-' || c == '+' || c == '.' || c == 'e' || c == 'E'

/-- Digits at the start, and what follows them. -/
def spanDigits (cs : List Char) : List Char × List Char := cs.span Char.isDigit

/-- An exponent, or nothing. -/
def isExponent : List Char → Bool
  | [] => true
  | c :: cs =>
    let digits := match cs with
      | '+' :: ds => ds
      | '-' :: ds => ds
      | ds => ds
    (c == 'e' || c == 'E') && !digits.isEmpty && digits.all Char.isDigit

/-- A fraction or nothing, then an exponent or nothing. -/
def isFraction : List Char → Bool
  | '.' :: cs =>
    let (digits, rest) := spanDigits cs
    !digits.isEmpty && isExponent rest
  | cs => isExponent cs

/-- Whether a spelling has the form of a number. -/
def isNumber (cs : List Char) : Bool :=
  let unsigned := match cs with
    | '-' :: rest => rest
    | rest => rest
  let (digits, rest) := spanDigits unsigned
  !digits.isEmpty && (digits.head? != some '0' || digits.length == 1) && isFraction rest

/-- The longest run of characters of numbers, and what follows it. -/
def spanNumber : List Symbol → List Char × List Symbol
  | some c :: rest =>
    if isNumberChar c then
      let (cs, rest) := spanNumber rest
      (c :: cs, rest)
    else ([], some c :: rest)
  | rest => ([], rest)

theorem length_spanNumber (s : List Symbol) :
    (spanNumber s).1.length + (spanNumber s).2.length = s.length := by
  induction s with
  | nil => rfl
  | cons a s ih =>
    cases a with
    | none => simp [spanNumber]
    | some c =>
      rw [spanNumber]
      split
      · simp only [List.length_cons]
        omega
      · simp

/-! ## Tokens -/

namespace Token

/-- The token that a document starts with, and what follows it. -/
def next? : List Symbol → Option (Token × List Symbol)
  | some '\x7b' :: rest => some (.openBrace, rest)
  | some '\x7d' :: rest => some (.closeBrace, rest)
  | some '[' :: rest => some (.openBracket, rest)
  | some ']' :: rest => some (.closeBracket, rest)
  | some ',' :: rest => some (.comma, rest)
  | some ':' :: rest => some (.colon, rest)
  | some '"' :: rest => (Literal.scan rest).map fun (lit, rest) => (.string lit, rest)
  | some 'n' :: some 'u' :: some 'l' :: some 'l' :: rest => some (.null, rest)
  | some 't' :: some 'r' :: some 'u' :: some 'e' :: rest => some (.bool true, rest)
  | some 'f' :: some 'a' :: some 'l' :: some 's' :: some 'e' :: rest => some (.bool false, rest)
  | s =>
    let (cs, rest) := spanNumber s
    if isNumber cs then some (.number cs, rest) else none

theorem length_scan {s rest : List Symbol} {lit : Literal} (h : Literal.scan s = some (lit, rest)) :
    rest.length < s.length := by
  fun_induction Literal.scan s generalizing lit rest with
  | case1 => simp at h
  | case2 => simp_all
  | case3 => simp at h
  | case4 a b c d r _ _ ih =>
    obtain ⟨⟨l, q⟩, hq, he⟩ := Option.map_eq_some_iff.1 h
    have := ih hq
    simp only [Prod.mk.injEq] at he
    simp only [List.length_cons, ← he.2]
    omega
  | case5 => simp at h
  | case6 e r _ _ _ ih =>
    obtain ⟨⟨l, q⟩, hq, he⟩ := Option.map_eq_some_iff.1 h
    have := ih hq
    simp only [Prod.mk.injEq] at he
    simp only [List.length_cons, ← he.2]
    omega
  | case7 => simp at h
  | case8 => simp at h
  | case9 s r _ _ _ _ _ ih =>
    obtain ⟨⟨l, q⟩, hq, he⟩ := Option.map_eq_some_iff.1 h
    have := ih hq
    simp only [Prod.mk.injEq] at he
    simp only [List.length_cons, ← he.2]
    omega

theorem length_next? {s rest : List Symbol} {t : Token} (h : next? s = some (t, rest)) :
    rest.length < s.length := by
  unfold next? at h
  split at h
  case h_7 r =>
    obtain ⟨⟨l, q⟩, hq, he⟩ := Option.map_eq_some_iff.1 h
    have := length_scan hq
    simp only [Prod.mk.injEq] at he
    simp only [List.length_cons, ← he.2]
    omega
  case h_11 =>
    have hl := length_spanNumber s
    revert h
    cases hs : spanNumber s with
    | mk cs r =>
      simp only [hs] at hl ⊢
      intro h
      split at h
      · next hn =>
        have : cs ≠ [] := by
          rintro rfl
          exact absurd hn (by decide)
        have := List.length_pos_iff.2 this
        simp only [Option.some.injEq, Prod.mk.injEq] at h
        simp only [← h.2]
        omega
      · simp at h
  all_goals
    simp only [Option.some.injEq, Prod.mk.injEq] at h
    simp only [List.length_cons, ← h.2]
    omega

/-- The tokens of a document. -/
def lex (s : List Symbol) : Option (List Token) :=
  match s with
  | [] => some []
  | some c :: rest =>
    if isBlank c then lex rest
    else
      match h : next? (some c :: rest) with
      | none => none
      | some (t, after) =>
        have := length_next? h
        (lex after).map (t :: ·)
  | none :: _ => none
termination_by s.length
decreasing_by
  · simp
  · exact this

end Token

end DexTrail.Json
