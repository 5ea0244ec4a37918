-- SUMMARY: Printed strings and keys are read back, whatever the style they are printed in.
import DexTrail.Toml.Printer
import Mathlib.Data.List.Induction
import Mathlib.Data.List.Infix

/-!
# Reading printed strings

A string is printed in one of four styles. The basic styles escape what they cannot hold, so
their scanners read back any characters (`Quoted.basic_flatMap_escape`,
`Quoted.multiBasic_escapeLines`). The literal styles hold the characters as they are and are
chosen only when the closing marks cannot be met too early. A string over several lines may
end in marks of its own before the closing ones, so what follows it must not be another mark.
-/

namespace DexTrail.Toml

open Printer (escape escapeLines longestRun)

/-! ## Escapes -/

/-- The two digits of an escape denote the character. -/
theorem Quoted.hexChar?_hexDigits {c : Char} (h : c.toNat < 256) :
    hexChar? ['0', '0', Printer.hexDigit (c.toNat / 16), Printer.hexDigit (c.toNat % 16)] =
      some c := by
  have hdigit : ∀ d < 16, hexDigit? (Printer.hexDigit d) = some d := by decide
  have hhigh := hdigit (c.toNat / 16) (by omega)
  have hlow := hdigit (c.toNat % 16) (Nat.mod_lt _ (by decide))
  have hzero : hexDigit? '0' = some 0 := by decide
  have hnumber : hexNumber? ['0', '0', Printer.hexDigit (c.toNat / 16),
      Printer.hexDigit (c.toNat % 16)] = some c.toNat := by
    simp only [hexNumber?, List.foldlM_cons, List.foldlM_nil, hzero, hhigh, hlow, Option.map_some,
      Option.bind_eq_bind, Option.bind_some, Option.pure_def]
    exact congrArg some (by omega)
  have hvalid : c.toNat.isValidChar := c.valid
  rw [hexChar?, hnumber, Option.bind_some, if_pos hvalid, Char.ofNat_toNat]

/-- Only characters of one byte need an escape. -/
theorem toNat_lt_of_not_isPlain {c : Char} (h : isPlain c = false) : c.toNat < 256 := by
  simp only [isPlain, Bool.or_eq_false_iff, decide_eq_false_iff_not] at h
  have hsmall : c.toNat < 128 := Nat.lt_of_not_le h.2
  omega

/-- An escaped character starts with itself or a backslash. -/
theorem Printer.escape_cases (c : Char) :
    (escape c = [c] ∧ isPlain c ∧ c ≠ '"' ∧ c ≠ '\\') ∨ ∃ cs, escape c = '\\' :: cs := by
  unfold escape
  split
  case h_8 hquote hback =>
    split
    · next hplain => exact .inl ⟨rfl, hplain, hquote, hback⟩
    · exact .inr ⟨_, rfl⟩
  all_goals exact .inr ⟨_, rfl⟩

/-! ## Basic strings -/

namespace Quoted

theorem basic_plain {c : Char} (hplain : isPlain c) (hquote : c ≠ '"') (hback : c ≠ '\\')
    (rest : List Char) : basic (c :: rest) = consTo c (basic rest) := by
  rw [basic.eq_def]
  split <;> simp_all

theorem basic_escape (c : Char) (rest : List Char) :
    basic (escape c ++ rest) = consTo c (basic rest) := by
  unfold escape
  split
  case h_8 hquote hback =>
    split
    · next hplain => exact basic_plain hplain hquote hback rest
    · next hplain =>
      have hhex := hexChar?_hexDigits (toNat_lt_of_not_isPlain (Bool.eq_false_iff.2 hplain))
      simp only [List.cons_append, List.nil_append, basic, hhex]
  all_goals rfl

/-- Escaped characters are read up to the closing mark. -/
theorem basic_flatMap_escape (cs rest : List Char) :
    basic (cs.flatMap escape ++ '"' :: rest) = some (cs, rest) := by
  induction cs with
  | nil => rfl
  | cons c cs ih =>
    rw [List.flatMap_cons, List.append_assoc, basic_escape, ih]
    rfl

/-! ## Literal strings -/

theorem literal_append {cs : List Char} (hplain : ∀ c ∈ cs, isPlain c) (hmark : '\'' ∉ cs)
    (rest : List Char) : literal (cs ++ '\'' :: rest) = some (cs, rest) := by
  induction cs with
  | nil => rfl
  | cons c cs ih =>
    obtain ⟨hc, hcs⟩ := List.forall_mem_cons.1 hplain
    rw [List.mem_cons, not_or] at hmark
    rw [List.cons_append, literal, if_pos hc, ih hcs hmark.2]
    · rfl
    · rintro rfl
      exact hmark.1 rfl

/-! ## Basic strings over several lines -/

theorem multiBasic_plain {c : Char} (hplain : isPlain c) (hquote : c ≠ '"') (hback : c ≠ '\\')
    (rest : List Char) : multiBasic false (c :: rest) = consTo c (multiBasic false rest) := by
  have hreturn : isPlain '\r' = false := rfl
  rw [multiBasic.eq_def]
  split <;> simp_all

theorem multiBasic_escape (c : Char) (rest : List Char) :
    multiBasic false (escape c ++ rest) = consTo c (multiBasic false rest) := by
  unfold escape
  split
  case h_8 hquote hback =>
    split
    · next hplain => exact multiBasic_plain hplain hquote hback rest
    · next hplain =>
      have hhex := hexChar?_hexDigits (toNat_lt_of_not_isPlain (Bool.eq_false_iff.2 hplain))
      simp only [List.cons_append, List.nil_append, multiBasic, hhex]
  all_goals rfl

/-- A mark that two more do not follow belongs to the string. -/
theorem multiBasic_quote {rest : List Char} (h : ∀ more, rest ≠ '"' :: '"' :: more) :
    multiBasic false ('"' :: rest) = consTo '"' (multiBasic false rest) :=
  multiBasic.eq_5 false rest (fun _ => h _) (fun _ => h _) h

/-- What is left of a printed string starts with a mark only if it starts with one itself and
fewer than two stand before it. -/
theorem escapeLines_eq_quote_cons {run : Nat} {cs more : List Char} {closing : List Char}
    (h : escapeLines run cs ++ closing = '"' :: more) :
    (cs = [] ∧ closing = '"' :: more) ∨
      ∃ ds, cs = '"' :: ds ∧ run < 2 ∧ more = escapeLines (run + 1) ds ++ closing := by
  unfold escapeLines at h
  split at h
  · exact .inl ⟨rfl, h⟩
  · cases h
  · next ds =>
    split at h
    · next hrun => exact .inr ⟨ds, rfl, hrun, (List.cons.inj h).2.symm⟩
    · cases h
  · next c ds _ hquote =>
    rcases Printer.escape_cases c with ⟨hc, -, hne, -⟩ | ⟨es, hc⟩
    · rw [hc] at h
      exact absurd (List.cons.inj h).1 hne
    · rw [hc] at h
      cases (List.cons.inj h).1

/-- Printed lines are read up to the closing marks, however many marks stand before. -/
theorem multiBasic_escapeLines {rest : List Char} (hrest : ∀ more, rest ≠ '"' :: more)
    (cs : List Char) (run : Nat) :
    multiBasic false (escapeLines run cs ++ '"' :: '"' :: '"' :: rest) = some (cs, rest) := by
  induction cs generalizing run with
  | nil => exact multiBasic.eq_4 false rest (fun _ => hrest _) hrest
  | cons c cs ih =>
    by_cases hnewline : c = '\n'
    · rw [hnewline, escapeLines, List.cons_append, multiBasic, ih]
      rfl
    by_cases hquote : c = '"'
    · subst hquote
      rw [escapeLines]
      split
      · next hrun =>
        by_cases hmarks : ∃ more, escapeLines (run + 1) cs ++ '"' :: '"' :: '"' :: rest =
            '"' :: '"' :: more
        · -- no more than two marks stand before the closing ones
          obtain ⟨more, hmore⟩ := hmarks
          rcases escapeLines_eq_quote_cons hmore with ⟨rfl, -⟩ | ⟨ds, rfl, hrun', hds⟩
          · exact multiBasic.eq_3 false rest hrest
          · rcases escapeLines_eq_quote_cons hds.symm with ⟨rfl, -⟩ | ⟨-, -, hrun'', -⟩
            · rw [escapeLines, if_pos hrun']
              exact multiBasic.eq_2 false rest
            · omega
        · rw [List.cons_append, multiBasic_quote fun more h => hmarks ⟨more, h⟩, ih]
          rfl
      · have hescape := multiBasic_escape '"' (escapeLines 0 cs ++ '"' :: '"' :: '"' :: rest)
        rw [ih] at hescape
        exact hescape
    · rw [escapeLines, List.append_assoc, multiBasic_escape, ih]
      · rfl
      · exact hnewline
      · exact hquote

/-! ## Literal strings over several lines -/

/-- A character that does not complete the closing marks belongs to the string. -/
theorem multiLiteral_plain {c : Char} (hplain : isPlain c) {rest : List Char}
    (h : c = '\'' → ∀ more, rest ≠ '\'' :: '\'' :: more) :
    multiLiteral (c :: rest) = consTo c (multiLiteral rest) := by
  rw [multiLiteral.eq_7 c rest (fun _ hc => h hc _) (fun _ hc => h hc _) (fun more hc => h hc more),
    if_pos hplain]
  · rintro rfl
    cases hplain
  · rintro more rfl -
    cases hplain

/-- Lines without three marks in a row are read up to the closing marks. -/
theorem multiLiteral_append {rest : List Char} (hrest : ∀ more, rest ≠ '\'' :: more)
    {cs : List Char} (hplain : ∀ c ∈ cs, isPlain c ∨ c = '\n')
    (hmarks : ¬['\'', '\'', '\''] <:+: cs) :
    multiLiteral (cs ++ '\'' :: '\'' :: '\'' :: rest) = some (cs, rest) := by
  induction cs with
  | nil => exact multiLiteral.eq_4 rest (fun _ => hrest _) hrest
  | cons c cs ih =>
    obtain ⟨hc, hcs⟩ := List.forall_mem_cons.1 hplain
    have ih := ih hcs fun h => hmarks (h.trans (List.suffix_cons c cs).isInfix)
    rw [List.cons_append]
    rcases hc with hc | rfl
    · by_cases hends : c = '\'' ∧ ∃ more, cs ++ '\'' :: '\'' :: '\'' :: rest = '\'' :: '\'' :: more
      · -- no more than two marks stand before the closing ones
        obtain ⟨rfl, more, hmore⟩ := hends
        rcases cs with _ | ⟨d, _ | ⟨e, es⟩⟩
        · exact multiLiteral.eq_3 rest hrest
        · cases (List.cons.inj hmore).1
          exact multiLiteral.eq_2 rest
        · cases (List.cons.inj hmore).1
          cases (List.cons.inj (List.cons.inj hmore).2).1
          exact absurd (List.prefix_append ['\'', '\'', '\''] es).isInfix hmarks
      · rw [multiLiteral_plain hc fun hmark more h => hends ⟨hmark, more, h⟩, ih]
        rfl
    · rw [multiLiteral, ih]
      rfl

end Quoted

/-! ## The style of a string -/

namespace Printer

/-- How a character extends the longest run of a mark so far and the one at the end. -/
def extendRun (mark : Char) : Nat × Nat → Char → Nat × Nat :=
  fun (longest, run) c => if c == mark then (max longest (run + 1), run + 1) else (longest, 0)

theorem longestRun_eq (mark : Char) (cs : List Char) :
    longestRun mark cs = (cs.foldl (extendRun mark) (0, 0)).1 := rfl

theorem le_foldl_extendRun (mark : Char) (cs : List Char) (s : Nat × Nat) :
    s.1 ≤ (cs.foldl (extendRun mark) s).1 := by
  induction cs generalizing s with
  | nil => exact Nat.le_refl _
  | cons c cs ih =>
    refine Nat.le_trans ?_ (ih _)
    unfold extendRun
    dsimp only
    split
    · exact Nat.le_max_left _ _
    · exact Nat.le_refl _

theorem add_le_foldl_extendRun (mark : Char) (n : Nat) (s : Nat × Nat) (h : s.2 ≤ s.1) :
    s.2 + n ≤ ((List.replicate n mark).foldl (extendRun mark) s).1 := by
  induction n generalizing s with
  | zero => exact h
  | succ n ih =>
    have hstep : extendRun mark s mark = (max s.1 (s.2 + 1), s.2 + 1) := by
      simp [extendRun]
    rw [List.replicate_succ, List.foldl_cons, hstep]
    have := ih (max s.1 (s.2 + 1), s.2 + 1) (Nat.le_max_right _ _)
    omega

/-- The run at the end is no longer than the longest. -/
theorem run_le_foldl_extendRun (mark : Char) (cs : List Char) :
    (cs.foldl (extendRun mark) (0, 0)).2 ≤ (cs.foldl (extendRun mark) (0, 0)).1 := by
  induction cs using List.reverseRecOn with
  | nil => exact Nat.le_refl _
  | append_singleton cs c ih =>
    rw [List.foldl_append, List.foldl_cons, List.foldl_nil]
    unfold extendRun
    dsimp only
    split
    · exact Nat.le_max_right _ _
    · exact Nat.zero_le _

/-- Marks in a row are no more than the longest run of them. -/
theorem le_longestRun_of_infix {mark : Char} {n : Nat} {cs : List Char}
    (h : List.replicate n mark <:+: cs) : n ≤ longestRun mark cs := by
  obtain ⟨before, after, rfl⟩ := h
  rw [longestRun_eq, List.foldl_append, List.foldl_append]
  refine Nat.le_trans ?_ (le_foldl_extendRun mark after _)
  have := add_le_foldl_extendRun mark n _ (run_le_foldl_extendRun mark before)
  omega

theorem not_mem_of_longestRun {mark : Char} {cs : List Char} (h : longestRun mark cs = 0) :
    mark ∉ cs := by
  intro hmark
  obtain ⟨before, after, rfl⟩ := List.append_of_mem hmark
  have hone : List.replicate 1 mark <:+: before ++ mark :: after := ⟨before, after, by simp⟩
  have := le_longestRun_of_infix hone
  omega

theorem isPlain_of_not_needsEscape {cs : List Char} (h : cs.any needsEscape = false) :
    ∀ c ∈ cs, isPlain c ∨ c = '\n' := by
  intro c hc
  have := List.any_eq_false.1 h c hc
  by_cases hplain : isPlain c
  · exact .inl hplain
  · exact .inr (by simpa [needsEscape, hplain] using this)

/-- A literal string has neither marks nor line breaks, and nothing that needs an escape. -/
theorem Style.of_eq_literal {cs : List Char} (h : Style.of cs = .literal) :
    (∀ c ∈ cs, isPlain c) ∧ '\'' ∉ cs := by
  unfold Style.of at h
  simp only at h
  split at h
  · cases h
  · split at h
    · next hliteral =>
      simp only [Bool.and_eq_true, Bool.not_eq_true', beq_iff_eq] at hliteral
      obtain ⟨⟨hwritable, hmarks⟩, hnewline⟩ := hliteral
      refine ⟨fun c hc => ?_, not_mem_of_longestRun hmarks⟩
      refine (isPlain_of_not_needsEscape hwritable c hc).resolve_right ?_
      rintro rfl
      simp [hc] at hnewline
    · split at h <;> try cases h
      split at h <;> try cases h
      split at h <;> cases h

/-- A literal string over several lines has no three marks in a row, and nothing that needs an
escape. -/
theorem Style.of_eq_multiLiteral {cs : List Char} (h : Style.of cs = .multiLiteral) :
    (∀ c ∈ cs, isPlain c ∨ c = '\n') ∧ ¬['\'', '\'', '\''] <:+: cs := by
  unfold Style.of at h
  simp only at h
  split at h
  · cases h
  · split at h
    · cases h
    · split at h
      · cases h
      · split at h
        · next hliteral =>
          simp only [Bool.and_eq_true, Bool.not_eq_true', decide_eq_true_eq] at hliteral
          refine ⟨isPlain_of_not_needsEscape hliteral.1, fun hmarks => ?_⟩
          have hrun : 3 ≤ longestRun '\'' cs := le_longestRun_of_infix hmarks
          omega
        · split at h <;> cases h

end Printer

/-! ## Strings -/

/-- A character that may stand by itself in a string breaks no line. -/
theorem newline?_of_isPlain {c : Char} (h : isPlain c) (rest : List Char) :
    newline? (c :: rest) = none := by
  unfold newline?
  split
  · next heq =>
    cases heq
    cases h
  · next heq =>
    cases heq
    cases h
  · rfl

namespace Quoted

theorem any_basic {cs : List Char} (h : ∀ more, cs ≠ '"' :: '"' :: more) :
    any ('"' :: cs) = basic cs :=
  any.eq_2 cs fun more => h more

theorem any_literal {cs : List Char} (h : ∀ more, cs ≠ '\'' :: '\'' :: more) :
    any ('\'' :: cs) = literal cs :=
  any.eq_4 cs fun more => h more

/-- The line break after the opening marks is dropped, and nothing else is. -/
theorem dropFirstNewline_opening {cs ls : List Char} (h : '\n' ∉ cs → newline? ls = none) :
    dropFirstNewline (Printer.opening cs ++ ls) = ls := by
  unfold Printer.opening
  split
  · rfl
  · next hnewline =>
    have hnewline : '\n' ∉ cs := by simpa using hnewline
    rw [List.nil_append, dropFirstNewline, h hnewline, Option.getD_none]

/-- Printed lines start with a line break only if the string does. -/
theorem newline?_escapeLines {cs : List Char} (h : '\n' ∉ cs) (closing : List Char) :
    newline? (escapeLines 0 cs ++ '"' :: closing) = none := by
  cases cs with
  | nil => rfl
  | cons c cs =>
    have hnewline : c ≠ '\n' := by
      rintro rfl
      exact h List.mem_cons_self
    by_cases hquote : c = '"'
    · rw [hquote]
      rfl
    rw [escapeLines, List.append_assoc]
    · rcases Printer.escape_cases c with ⟨hc, hplain, -, -⟩ | ⟨es, hc⟩
      · rw [hc]
        exact newline?_of_isPlain hplain _
      · rw [hc]
        rfl
    · exact hnewline
    · exact hquote

/-- Three marks do not open a string that is printed between single ones. -/
theorem flatMap_escape_ne_quotes {rest : List Char} (hrest : ∀ more, rest ≠ '"' :: more)
    (cs more : List Char) : cs.flatMap escape ++ '"' :: rest ≠ '"' :: '"' :: more := by
  cases cs with
  | nil =>
    intro h
    exact hrest more (List.cons.inj h).2
  | cons c cs =>
    rw [List.flatMap_cons, List.append_assoc]
    rcases Printer.escape_cases c with ⟨hc, -, hne, -⟩ | ⟨es, hc⟩
    · rw [hc]
      exact fun h => hne (List.cons.inj h).1
    · rw [hc]
      exact fun h => absurd (List.cons.inj h).1 (by decide)

/-- A printed string is read back, when no mark follows it. -/
theorem any_string (s : String) {next : Char} (hnext : next ≠ '"') (hnext' : next ≠ '\'')
    (rest : List Char) :
    any (Printer.string s ++ next :: rest) = some (s.toList, next :: rest) := by
  have hquote : ∀ more, next :: rest ≠ '"' :: more := fun more h => hnext (List.cons.inj h).1
  have happ : ∀ more, next :: rest ≠ '\'' :: more := fun more h => hnext' (List.cons.inj h).1
  unfold Printer.string
  dsimp only
  split
  · -- between quotation marks
    rw [List.append_assoc, List.cons_append, List.singleton_append,
      any_basic (flatMap_escape_ne_quotes hquote _), basic_flatMap_escape]
  · next hstyle =>
    obtain ⟨hplain, hmark⟩ := Printer.Style.of_eq_literal hstyle
    rw [List.append_assoc, List.cons_append, List.singleton_append, any_literal ?_,
      literal_append hplain hmark]
    intro more h
    cases hs : s.toList with
    | nil =>
      rw [hs] at h
      exact happ more (List.cons.inj h).2
    | cons c cs =>
      rw [hs] at h hmark
      exact hmark ((List.cons.inj h).1 ▸ List.mem_cons_self)
  · have hstart : any (['"', '"', '"'] ++ Printer.opening s.toList ++ escapeLines 0 s.toList ++
        ['"', '"', '"'] ++ next :: rest) =
        multiBasic false (dropFirstNewline (Printer.opening s.toList ++
          (escapeLines 0 s.toList ++ '"' :: '"' :: '"' :: next :: rest))) := by
      simp only [List.append_assoc]
      rfl
    rw [hstart, dropFirstNewline_opening fun h => newline?_escapeLines h _,
      multiBasic_escapeLines hquote]
  · next hstyle =>
    obtain ⟨hplain, hmarks⟩ := Printer.Style.of_eq_multiLiteral hstyle
    have hstart : any (['\'', '\'', '\''] ++ Printer.opening s.toList ++ s.toList ++
        ['\'', '\'', '\''] ++ next :: rest) =
        multiLiteral (dropFirstNewline (Printer.opening s.toList ++
          (s.toList ++ '\'' :: '\'' :: '\'' :: next :: rest))) := by
      simp only [List.append_assoc]
      rfl
    rw [hstart, dropFirstNewline_opening ?_, multiLiteral_append happ hplain hmarks]
    intro hnewline
    cases hs : s.toList with
    | nil => rfl
    | cons c cs =>
      rw [hs] at hplain hnewline
      refine newline?_of_isPlain ((hplain c List.mem_cons_self).resolve_right ?_) _
      rintro rfl
      exact hnewline List.mem_cons_self

end Quoted

/-! ## Keys -/

namespace Key

/-- A printed key starts with a bare character or a mark. -/
theorem key_eq_cons (s : String) :
    ∃ c cs, Printer.key s = c :: cs ∧ (isBare c ∨ c = '"' ∨ c = '\'') := by
  unfold Printer.key
  dsimp only
  split
  · next hbare =>
    simp only [Bool.and_eq_true, Bool.not_eq_true', List.isEmpty_eq_false_iff] at hbare
    obtain ⟨c, cs, hs⟩ := List.exists_cons_of_ne_nil hbare.1
    rw [hs, List.all_cons, Bool.and_eq_true] at hbare
    exact ⟨c, cs, hs, .inl hbare.2.1⟩
  · split
    · exact ⟨_, _, rfl, .inr (.inr rfl)⟩
    · exact ⟨_, _, rfl, .inr (.inl rfl)⟩

/-- A bare key goes on to the first character that is not bare. -/
theorem simple?_bare {cs rest : List Char} (hne : cs ≠ []) (hbare : ∀ c ∈ cs, isBare c)
    (hrest : ∀ c ∈ rest.head?, isBare c = false) :
    simple? (cs ++ rest) = some (String.ofList cs, rest) := by
  have hstop : rest.takeWhile isBare = [] ∧ rest.dropWhile isBare = rest := by
    cases rest with
    | nil => exact ⟨rfl, rfl⟩
    | cons c rest => simp [hrest c rfl]
  obtain ⟨c, ds, rfl⟩ := List.exists_cons_of_ne_nil hne
  have hc := hbare c List.mem_cons_self
  rw [simple?.eq_3]
  · rw [List.takeWhile_append_of_pos hbare, List.dropWhile_append_of_pos hbare, hstop.1, hstop.2,
      List.append_nil]
  · rintro more h
    rw [(List.cons.inj h).1] at hc
    cases hc
  · rintro more h
    rw [(List.cons.inj h).1] at hc
    cases hc

/-- A printed key is read back, when no bare character follows it. -/
theorem simple?_key (s : String) {rest : List Char} (hrest : ∀ c ∈ rest.head?, isBare c = false) :
    simple? (Printer.key s ++ rest) = some (s, rest) := by
  unfold Printer.key
  dsimp only
  split
  · next hbare =>
    simp only [Bool.and_eq_true, Bool.not_eq_true', List.isEmpty_eq_false_iff, List.all_eq_true]
      at hbare
    rw [simple?_bare hbare.1 hbare.2 hrest, String.ofList_toList]
  · split
    · next hliteral =>
      simp only [Bool.and_eq_true, Bool.not_eq_true', Bool.or_eq_false_iff] at hliteral
      obtain ⟨⟨⟨hwritable, hnewline⟩, hmark⟩, -⟩ := hliteral
      have hplain : ∀ c ∈ s.toList, isPlain c := by
        intro c hc
        refine (Printer.isPlain_of_not_needsEscape hwritable c hc).resolve_right ?_
        rintro rfl
        simp [hc] at hnewline
      rw [List.append_assoc, List.cons_append, List.singleton_append, simple?,
        Quoted.literal_append hplain (by simpa using hmark), Option.map_some]
      dsimp only
      rw [String.ofList_toList]
    · rw [List.append_assoc, List.cons_append, List.singleton_append, simple?,
        Quoted.basic_flatMap_escape, Option.map_some]
      dsimp only
      rw [String.ofList_toList]

end Key

end DexTrail.Toml
