-- SUMMARY: Printed values fall back into their tokens.
import DexTrail.Json.Printer
import DexTrail.Json.Token
import Mathlib.Data.List.TakeDrop
import Mathlib.Data.List.TakeWhile

/-!
# Lexing printed values

The lexer undoes the printer: the text of a value, with whatever blanks the
indentation puts between them, falls into the tokens of the value. This needs the
strings of the value to be literals that `Literal.encode` wrote and its numbers to
be decimal numerals (`Value.IsWritten`). A number must also be followed by
something that cannot belong to it (`EndsNumber`).
-/

namespace DexTrail.Json

/-! ## Literals -/

/-- The two low digits of a control character's escape write its code. -/
theorem hexUnit?_control {n : Nat} (h : n < 32) :
    hexUnit? (some '0') (some '0') (some (Nat.digitChar (n / 16)))
      (some (Nat.digitChar (n % 16))) = some n := by
  have hdigit : ∀ d < 16, hexDigit? (Nat.digitChar d) = some d := by decide
  have hhigh := hdigit (n / 16) (by omega)
  have hlow := hdigit (n % 16) (Nat.mod_lt n (by decide))
  have hzero : hexDigit? '0' = some 0 := by decide
  simp only [hexUnit?, hexNumber?, Option.bind_eq_bind, Option.bind_some, List.foldlM_cons,
    List.foldlM_nil, hhigh, hlow, hzero, Option.map_some, Option.pure_def]
  exact congrArg some (by omega)

theorem toNat_lt_of_control {c : Char} (h : c < ' ') : c.toNat < 32 := h

namespace Literal

/-- A character that needs no escape stands for itself. -/
theorem scan_plain {c : Char} (hquote : c ≠ '"') (hback : c ≠ '\\') (hc : ¬c < ' ')
    (rest : List Symbol) :
    scan (some c :: rest) = (scan rest).map fun (lit, after) => (some c :: lit, after) := by
  have hany : (some c).any (· < ' ') = false := decide_eq_false hc
  rw [scan.eq_def]
  split
  case h_6 heq =>
    obtain ⟨rfl, rfl⟩ := List.cons.inj heq
    rw [hany]
    rfl
  all_goals simp_all

theorem decode?_plain {c : Char} (hback : c ≠ '\\') (rest : Literal) :
    decode? (some c :: rest) = (decode? rest).map (c :: ·) := by
  rw [decode?.eq_def]
  split <;> simp_all

theorem scan_encodeChar (c : Char) (rest : List Symbol) :
    scan ((encodeChar c).map some ++ rest) =
      (scan rest).map fun (lit, after) => ((encodeChar c).map some ++ lit, after) := by
  unfold encodeChar
  split
  case h_8 hquote hback _ _ _ _ _ =>
    split
    · next hc =>
      have hu := hexUnit?_control (toNat_lt_of_control hc)
      simp only [List.map_cons, List.map_nil, List.cons_append, List.nil_append, scan, hu]
    · next hc =>
      exact scan_plain hquote hback hc rest
  all_goals rfl

/-- A written literal ends at the quote after it. -/
theorem scan_encode (s : String) (rest : List Symbol) :
    scan (encode s ++ some '"' :: rest) = some (encode s, rest) := by
  unfold encode
  induction s.toList with
  | nil => rfl
  | cons c cs ih =>
    rw [List.flatMap_cons, List.map_append, List.append_assoc, scan_encodeChar, ih]
    rfl

theorem decode?_encodeChar (c : Char) (rest : Literal) :
    decode? ((encodeChar c).map some ++ rest) = (decode? rest).map (c :: ·) := by
  unfold encodeChar
  split
  case h_8 hquote hback _ _ _ _ _ =>
    split
    · next hc =>
      have hlt := toNat_lt_of_control hc
      have hhigh : isHighSurrogate c.toNat = false := by
        simp only [isHighSurrogate, Bool.and_eq_false_iff, decide_eq_false_iff_not]
        omega
      have hlow : isLowSurrogate c.toNat = false := by
        simp only [isLowSurrogate, Bool.and_eq_false_iff, decide_eq_false_iff_not]
        omega
      simp only [List.map_cons, List.map_nil, List.cons_append, List.nil_append]
      rw [decode?.eq_def]
      simp only [hexUnit?_control hlt, hhigh, hlow, Bool.false_eq_true, if_false, Char.ofNat_toNat]
    · next hc =>
      exact decode?_plain hback rest
  all_goals rfl

/-- A written literal denotes the text that was written. -/
@[simp] theorem text?_encode (s : String) : text? (encode s) = some s := by
  have h : decode? (encode s) = some s.toList := by
    unfold encode
    induction s.toList with
    | nil => rfl
    | cons c cs ih =>
      rw [List.flatMap_cons, List.map_append, decode?_encodeChar, ih]
      rfl
  rw [text?, h, Option.map_some, String.ofList_toList]

theorem reduceOption_encode (s : String) : (encode s).reduceOption.map some = encode s := by
  have hdef : (encode s).reduceOption = (encode s).filterMap id := rfl
  rw [hdef, encode, List.filterMap_map]
  simp

end Literal

/-! ## Numbers -/

/-- What follows cannot belong to a number before it. -/
def EndsNumber (rest : List Symbol) : Prop := spanNumber rest = ([], rest)

theorem endsNumber_nil : EndsNumber [] := rfl

theorem endsNumber_cons {c : Char} (h : isNumberChar c = false) (rest : List Symbol) :
    EndsNumber (some c :: rest) := by
  rw [EndsNumber, spanNumber, if_neg (Bool.eq_false_iff.1 h)]

theorem spanNumber_append {cs : List Char} {rest : List Symbol}
    (h : ∀ c ∈ cs, isNumberChar c) (hrest : EndsNumber rest) :
    spanNumber (cs.map some ++ rest) = (cs, rest) := by
  induction cs with
  | nil => exact hrest
  | cons c cs ih =>
    obtain ⟨hc, hcs⟩ := List.forall_mem_cons.1 h
    rw [List.map_cons, List.cons_append, spanNumber, if_pos hc, ih hcs]

theorem isNumberChar_of_isDigit {c : Char} (h : c.isDigit) : isNumberChar c := by
  simp [isNumberChar, h]

theorem isNumberChar_of_mem_write {n : Int} {c : Char} (h : c ∈ Decimal.write n) :
    isNumberChar c := by
  cases n with
  | ofNat n => exact isNumberChar_of_isDigit (Decimal.isDigit_of_mem_writeNat h)
  | negSucc n =>
    rcases List.mem_cons.1 h with rfl | h
    · decide
    · exact isNumberChar_of_isDigit (Decimal.isDigit_of_mem_writeNat h)

theorem spanDigits_writeNat (n : Nat) :
    spanDigits (Decimal.writeNat n) = (Decimal.writeNat n, []) := by
  have hall : ∀ c ∈ Decimal.writeNat n, c.isDigit :=
    fun _ hc => Decimal.isDigit_of_mem_writeNat hc
  rw [spanDigits, List.span_eq_takeWhile_dropWhile, List.takeWhile_eq_self_iff.2 hall,
    List.dropWhile_eq_nil_iff.2 hall]

/-- A numeral has no zero before other digits. -/
theorem writeNat_shortest (n : Nat) :
    ((Decimal.writeNat n).head? != some '0' || (Decimal.writeNat n).length == 1) = true := by
  rcases Nat.eq_zero_or_pos n with rfl | hn
  · rfl
  · simp [Decimal.head?_writeNat hn]

theorem isNumber_write (n : Int) : isNumber (Decimal.write n) = true := by
  have hne (k : Nat) : (Decimal.writeNat k).isEmpty = false := by
    simpa using Decimal.writeNat_ne_nil k
  cases n with
  | ofNat n =>
    have hminus : ∀ cs, Decimal.writeNat n ≠ '-' :: cs := by
      intro cs h
      have hd := Decimal.isDigit_of_mem_writeNat (n := n) (c := '-') (by simp [h])
      exact absurd hd (by decide)
    rw [Decimal.write, isNumber.eq_2 _ fun cs h => hminus cs h]
    simp only [spanDigits_writeNat, hne, writeNat_shortest]
    rfl
  | negSucc n =>
    rw [Decimal.write, isNumber]
    simp only [spanDigits_writeNat, hne, writeNat_shortest]
    rfl

/-! ## Tokens -/

namespace Token

theorem next?_number {cs : List Char} {rest : List Symbol} (h : isNumber cs)
    (hcs : ∀ c ∈ cs, isNumberChar c) (hrest : EndsNumber rest) :
    next? (cs.map some ++ rest) = some (.number cs, rest) := by
  have hspan := spanNumber_append hcs hrest
  cases cs with
  | nil => exact absurd h (by decide)
  | cons c cs =>
    have hc := hcs c List.mem_cons_self
    rw [List.map_cons, List.cons_append] at hspan ⊢
    unfold next?
    split
    case h_11 =>
      rw [hspan]
      exact if_pos h
    -- no other token starts with a character of numbers
    all_goals
      next heq =>
        obtain ⟨hce, -⟩ := List.cons.inj heq
        cases hce
        exact absurd hc (by decide)

theorem lex_of_next? {c : Char} {rest after : List Symbol} {t : Token} (hc : isBlank c = false)
    (h : next? (some c :: rest) = some (t, after)) :
    lex (some c :: rest) = (lex after).map (t :: ·) := by
  rw [lex, if_neg (Bool.eq_false_iff.1 hc)]
  split
  · next hn => rw [hn] at h; cases h
  · next hn =>
    rw [hn] at h
    cases h
    rfl

theorem lex_blank {c : Char} (hc : isBlank c) (rest : List Symbol) :
    lex (some c :: rest) = lex rest := by
  rw [lex, if_pos hc]

theorem lex_newLine (level : Nat) (rest : List Symbol) :
    lex ((Printer.newLine level).map some ++ rest) = lex rest := by
  rw [Printer.newLine, List.map_cons, List.cons_append, lex_blank (by decide)]
  induction 2 * level with
  | zero => rfl
  | succ n ih =>
    rw [List.replicate_succ, List.map_cons, List.cons_append, lex_blank (by decide), ih]

theorem lex_literal (s : String) (rest : List Symbol) :
    lex ((Printer.literal (Literal.encode s)).map some ++ rest) =
      (lex rest).map (.string (Literal.encode s) :: ·) := by
  have hquoted : (Printer.literal (Literal.encode s)).map some ++ rest =
      some '"' :: (Literal.encode s ++ some '"' :: rest) := by
    simp [Printer.literal, Literal.reduceOption_encode]
  rw [hquoted]
  apply lex_of_next? (by decide)
  rw [next?, Literal.scan_encode]
  rfl

theorem lex_numeral (n : Int) {rest : List Symbol} (hrest : EndsNumber rest) :
    lex ((Decimal.write n).map some ++ rest) =
      (lex rest).map (.number (Decimal.write n) :: ·) := by
  have hnext := next?_number (isNumber_write n) (fun _ => isNumberChar_of_mem_write) hrest
  have hfirst : ∀ c ∈ Decimal.write n, isBlank c = false := by
    intro c hc
    have := isNumberChar_of_mem_write hc
    cases hb : isBlank c with
    | false => rfl
    | true =>
      simp only [isBlank, Bool.or_eq_true, beq_iff_eq] at hb
      rcases hb with ((rfl | rfl) | rfl) | rfl <;> exact absurd this (by decide)
  cases hw : Decimal.write n with
  | nil =>
    have := isNumber_write n
    rw [hw] at this
    exact absurd this (by decide)
  | cons c cs =>
    rw [hw] at hnext hfirst
    exact lex_of_next? (hfirst c List.mem_cons_self) hnext

end Token

/-! ## Whole values -/

namespace Value

/-- Values as writers make them: strings are encoded text, numbers are decimal
numerals, and the names of members are encoded text. -/
inductive IsWritten : Value → Prop where
  | null : IsWritten .null
  | bool (b : Bool) : IsWritten (.bool b)
  | ofInt (n : Int) : IsWritten (.ofInt n)
  | ofString (s : String) : IsWritten (.ofString s)
  | array {items : List Value} (h : ∀ v ∈ items, IsWritten v) : IsWritten (.array items)
  | object {members : List (Literal × Value)} (hnames : ∀ m ∈ members, ∃ s, m.1 = Literal.encode s)
    (h : ∀ m ∈ members, IsWritten m.2) : IsWritten (.object members)

theorem isWritten_ofStrings (ss : List String) : (ofStrings ss).IsWritten := by
  refine .array fun v hv => ?_
  obtain ⟨s, -, rfl⟩ := List.mem_map.1 hv
  exact .ofString s

theorem isWritten_ofMembers {members : List (String × Value)}
    (h : ∀ m ∈ members, m.2.IsWritten) : (ofMembers members).IsWritten := by
  refine .object ?_ ?_
  all_goals
    intro m hm
    obtain ⟨e, he, rfl⟩ := List.mem_map.1 hm
  · exact ⟨e.1, rfl⟩
  · exact h e he

mutual

/-- The tokens of a value in their order. -/
def tokens : Value → List Token
  | .null => [.null]
  | .bool b => [.bool b]
  | .number spelling => [.number spelling]
  | .string lit => [.string lit]
  | .array [] => [.openBracket, .closeBracket]
  | .array (v :: vs) => .openBracket :: tokens v ++ moreItemTokens vs ++ [.closeBracket]
  | .object [] => [.openBrace, .closeBrace]
  | .object (m :: ms) => .openBrace :: memberTokens m ++ moreMemberTokens ms ++ [.closeBrace]

def moreItemTokens : List Value → List Token
  | [] => []
  | v :: vs => .comma :: tokens v ++ moreItemTokens vs

def memberTokens : Literal × Value → List Token
  | (name, v) => .string name :: .colon :: tokens v

def moreMemberTokens : List (Literal × Value) → List Token
  | [] => []
  | m :: ms => .comma :: memberTokens m ++ moreMemberTokens ms

end

/-- The text of the value falls into its tokens, at any level and before anything
that ends a number. -/
def Lexes (v : Value) : Prop :=
  ∀ level rest, EndsNumber rest →
    Token.lex ((Printer.value level v).map some ++ rest) = (Token.lex rest).map (v.tokens ++ ·)

end Value

namespace Token

open Value

theorem endsNumber_newLine (level : Nat) (rest : List Symbol) :
    EndsNumber ((Printer.newLine level).map some ++ rest) := endsNumber_cons (by decide) _

theorem endsNumber_moreItems (level : Nat) (vs : List Value) {rest : List Symbol}
    (h : EndsNumber rest) : EndsNumber ((Printer.moreItems level vs).map some ++ rest) := by
  cases vs with
  | nil => exact h
  | cons v vs =>
    rw [Printer.moreItems]
    exact endsNumber_cons (by decide) _

theorem endsNumber_moreMembers (level : Nat) (ms : List (Literal × Value)) {rest : List Symbol}
    (h : EndsNumber rest) : EndsNumber ((Printer.moreMembers level ms).map some ++ rest) := by
  cases ms with
  | nil => exact h
  | cons m ms =>
    rw [Printer.moreMembers]
    exact endsNumber_cons (by decide) _

/-! ### Tokens of one character -/

theorem lex_openBracket (rest : List Symbol) :
    lex (some '[' :: rest) = (lex rest).map (.openBracket :: ·) := lex_of_next? (by decide) rfl

theorem lex_closeBracket (rest : List Symbol) :
    lex (some ']' :: rest) = (lex rest).map (.closeBracket :: ·) := lex_of_next? (by decide) rfl

theorem lex_openBrace (rest : List Symbol) :
    lex (some '\x7b' :: rest) = (lex rest).map (.openBrace :: ·) := lex_of_next? (by decide) rfl

theorem lex_closeBrace (rest : List Symbol) :
    lex (some '\x7d' :: rest) = (lex rest).map (.closeBrace :: ·) := lex_of_next? (by decide) rfl

theorem lex_comma (rest : List Symbol) :
    lex (some ',' :: rest) = (lex rest).map (.comma :: ·) := lex_of_next? (by decide) rfl

theorem lex_colon (rest : List Symbol) :
    lex (some ':' :: rest) = (lex rest).map (.colon :: ·) := lex_of_next? (by decide) rfl

/-! ### Parts of containers -/

theorem lex_moreItems {vs : List Value} (h : ∀ v ∈ vs, v.Lexes) (level : Nat) {rest : List Symbol}
    (hrest : EndsNumber rest) :
    lex ((Printer.moreItems level vs).map some ++ rest) =
      (lex rest).map (moreItemTokens vs ++ ·) := by
  induction vs with
  | nil => simp [Printer.moreItems, moreItemTokens]
  | cons v vs ih =>
    obtain ⟨hv, hvs⟩ := List.forall_mem_cons.1 h
    have hmore := endsNumber_moreItems level vs hrest
    simp only [Printer.moreItems, List.map_append, List.map_cons, List.cons_append,
      List.append_assoc]
    rw [lex_comma, lex_newLine, hv level _ hmore, ih hvs]
    simp [moreItemTokens, Function.comp_def]

theorem lex_member {name : Literal} {v : Value} (hname : ∃ s, name = Literal.encode s)
    (hv : v.Lexes) (level : Nat) {rest : List Symbol} (hrest : EndsNumber rest) :
    lex ((Printer.member level (name, v)).map some ++ rest) =
      (lex rest).map (memberTokens (name, v) ++ ·) := by
  obtain ⟨s, rfl⟩ := hname
  simp only [Printer.member, List.map_append, List.map_cons, List.cons_append, List.nil_append,
    List.append_assoc]
  rw [lex_literal, lex_colon, lex_blank (by decide), hv level _ hrest]
  simp [memberTokens, Function.comp_def]

theorem lex_moreMembers {ms : List (Literal × Value)}
    (hnames : ∀ m ∈ ms, ∃ s, m.1 = Literal.encode s) (h : ∀ m ∈ ms, m.2.Lexes) (level : Nat)
    {rest : List Symbol} (hrest : EndsNumber rest) :
    lex ((Printer.moreMembers level ms).map some ++ rest) =
      (lex rest).map (moreMemberTokens ms ++ ·) := by
  induction ms with
  | nil => simp [Printer.moreMembers, moreMemberTokens]
  | cons m ms ih =>
    obtain ⟨name, v⟩ := m
    obtain ⟨hname, hnames⟩ := List.forall_mem_cons.1 hnames
    obtain ⟨hv, hvs⟩ := List.forall_mem_cons.1 h
    have hmore := endsNumber_moreMembers level ms hrest
    simp only [Printer.moreMembers, List.map_append, List.map_cons, List.cons_append,
      List.append_assoc]
    rw [lex_comma, lex_newLine, lex_member hname hv level hmore, ih hnames hvs]
    simp [moreMemberTokens, Function.comp_def]

end Token

namespace Value

open Token

theorem lexes_array {items : List Value} (h : ∀ v ∈ items, v.Lexes) : (array items).Lexes := by
  intro level rest hrest
  cases items with
  | nil =>
    simp only [Printer.value, tokens, List.map_cons, List.map_nil, List.cons_append,
      List.nil_append]
    rw [lex_openBracket, lex_closeBracket]
    simp [Function.comp_def]
  | cons v vs =>
    obtain ⟨hv, hvs⟩ := List.forall_mem_cons.1 h
    simp only [Printer.value, List.map_append, List.map_cons, List.map_nil, List.cons_append,
      List.nil_append, List.append_assoc]
    rw [lex_openBracket, lex_newLine,
      hv _ _ (endsNumber_moreItems _ _ (endsNumber_newLine _ _)),
      lex_moreItems hvs _ (endsNumber_newLine _ _), lex_newLine, lex_closeBracket]
    simp [tokens, Function.comp_def]

theorem lexes_object {members : List (Literal × Value)}
    (hnames : ∀ m ∈ members, ∃ s, m.1 = Literal.encode s) (h : ∀ m ∈ members, m.2.Lexes) :
    (object members).Lexes := by
  intro level rest hrest
  cases members with
  | nil =>
    simp only [Printer.value, tokens, List.map_cons, List.map_nil, List.cons_append,
      List.nil_append]
    rw [lex_openBrace, lex_closeBrace]
    simp [Function.comp_def]
  | cons m ms =>
    obtain ⟨name, v⟩ := m
    obtain ⟨hname, hnames⟩ := List.forall_mem_cons.1 hnames
    obtain ⟨hv, hvs⟩ := List.forall_mem_cons.1 h
    simp only [Printer.value, List.map_append, List.map_cons, List.map_nil, List.cons_append,
      List.nil_append, List.append_assoc]
    rw [lex_openBrace, lex_newLine,
      lex_member hname hv _ (endsNumber_moreMembers _ _ (endsNumber_newLine _ _)),
      lex_moreMembers hnames hvs _ (endsNumber_newLine _ _), lex_newLine, lex_closeBrace]
    simp [tokens, Function.comp_def]

/-- Every written value is printed as text that falls into its tokens. -/
theorem IsWritten.lexes {v : Value} (h : v.IsWritten) : v.Lexes := by
  induction h with
  | null =>
    intro level rest _
    exact lex_of_next? (by decide) rfl
  | bool b =>
    intro level rest _
    cases b <;> exact lex_of_next? (by decide) rfl
  | ofInt n =>
    intro level rest hrest
    simp only [Value.ofInt, Printer.value, tokens]
    exact lex_numeral n hrest
  | ofString s =>
    intro level rest hrest
    simp only [Value.ofString, Printer.value, tokens]
    exact lex_literal s rest
  | array _ ih => exact lexes_array ih
  | object hnames _ ih => exact lexes_object hnames ih

/-- The text of a written value falls into its tokens. -/
theorem IsWritten.lex_print {v : Value} (h : v.IsWritten) :
    lex (v.print.toList.map some) = some v.tokens := by
  have hlex := h.lexes 0 [] endsNumber_nil
  rw [List.append_nil] at hlex
  rw [Value.print, String.toList_ofList, hlex, lex]
  simp

end Value

end DexTrail.Json
