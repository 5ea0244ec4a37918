-- SUMMARY: Printed headers and entries are read back as the statements they stand for.
import DexTrail.Proofs.Toml.Numerals
import DexTrail.Proofs.Toml.Strings
import DexTrail.Toml.Reader

/-!
# Reading printed statements

A printed document is a sequence of chunks, each the text of a header or of an entry up to the
end of its line. `Says` tells that a chunk is read as certain statements and leaves the rest of
the document untouched, so chunks are put together by appending them (`Says.append`). Whether
a chunk is an entry depends on its value alone: `Denotes` tells that a value is read up to the
end of its line.
-/

namespace DexTrail.Toml

/-! ## Blanks and line breaks -/

/-- A character that is neither passed over nor ends a line. -/
def stands (c : Char) : Bool := isPlain c && !isBlank c && c != '#'

theorem skipBlanks_cons {c : Char} (h : stands c) (cs : List Char) :
    skipBlanks (c :: cs) = c :: cs := by
  simp only [stands, Bool.and_eq_true, Bool.not_eq_true'] at h
  simp [skipBlanks, h.1.2]

theorem newline?_skipComment_cons {c : Char} (h : stands c) (cs : List Char) :
    newline? (skipComment (c :: cs)) = none := by
  simp only [stands, Bool.and_eq_true, bne_iff_ne] at h
  rw [skipComment]
  · exact newline?_of_isPlain h.1.1 cs
  · rintro more heq
    exact h.2 (List.cons.inj heq).1

theorem skipLines_cons {c : Char} (h : stands c) (cs : List Char) :
    skipLines (c :: cs) = c :: cs := by
  rw [skipLines, skipBlanks_cons h, newline?_skipComment_cons h]

/-- The blanks before a line's first character are passed over. -/
theorem skipLines_indent {c : Char} (h : stands c) (cs : List Char) :
    skipLines ([' ', ' ', ' ', ' '] ++ c :: cs) = c :: cs := by
  have hblanks : skipBlanks ([' ', ' ', ' ', ' '] ++ c :: cs) = c :: cs := skipBlanks_cons h cs
  rw [skipLines, hblanks, newline?_skipComment_cons h]

theorem skipLines_newline (cs : List Char) : skipLines ('\n' :: cs) = skipLines cs := by
  rw [skipLines]
  exact if_pos (Nat.lt_succ_self _)

/-! ## The starts of strings and keys -/

/-- A printed string starts with a mark. -/
theorem string_eq_cons (s : String) :
    ∃ c cs, Printer.string s = c :: cs ∧ (c = '"' ∨ c = '\'') := by
  unfold Printer.string
  dsimp only
  split
  · exact ⟨_, _, rfl, .inl rfl⟩
  · exact ⟨_, _, rfl, .inr rfl⟩
  · exact ⟨_, _, rfl, .inl rfl⟩
  · exact ⟨_, _, rfl, .inr rfl⟩

theorem stands_of_mark {c : Char} (h : c = '"' ∨ c = '\'') : stands c := by
  rcases h with rfl | rfl <;> rfl

theorem skipBlanks_string (s : String) (rest : List Char) :
    skipBlanks (Printer.string s ++ rest) = Printer.string s ++ rest := by
  obtain ⟨c, cs, hs, hc⟩ := string_eq_cons s
  rw [hs]
  exact skipBlanks_cons (stands_of_mark hc) _

theorem skipLines_string (s : String) (rest : List Char) :
    skipLines (Printer.string s ++ rest) = Printer.string s ++ rest := by
  obtain ⟨c, cs, hs, hc⟩ := string_eq_cons s
  rw [hs]
  exact skipLines_cons (stands_of_mark hc) _

theorem skipLines_indent_string (s : String) (rest : List Char) :
    skipLines ([' ', ' ', ' ', ' '] ++ (Printer.string s ++ rest)) = Printer.string s ++ rest := by
  obtain ⟨c, cs, hs, hc⟩ := string_eq_cons s
  rw [hs]
  exact skipLines_indent (stands_of_mark hc) _

theorem toNat_lt_of_isBare {c : Char} (h : Key.isBare c) : c.toNat < 128 := by
  have hupper (h : c.isUpper = true) : c.val ≤ 'Z'.val := (of_decide_eq_true h).2
  have hlower (h : c.isLower = true) : c.val ≤ 'z'.val :=
    of_decide_eq_true (Bool.and_eq_true_iff.1 h).2
  have hdigit (h : c.isDigit = true) : c.val ≤ '9'.val :=
    of_decide_eq_true (Bool.and_eq_true_iff.1 h).2
  have hsmall {bound : UInt32} (hbound : bound.toNat < 128) (hle : c.val ≤ bound) :
      c.toNat < 128 := Nat.lt_of_le_of_lt (UInt32.le_iff_toNat_le.1 hle) hbound
  have hcases : (c.isUpper || c.isLower || c.isDigit || c == '_' || c == '-') = true := h
  simp only [Bool.or_eq_true, beq_iff_eq] at hcases
  rcases hcases with (((h | h) | h) | rfl) | rfl
  · exact hsmall (by decide) (hupper h)
  · exact hsmall (by decide) (hlower h)
  · exact hsmall (by decide) (hdigit h)
  · decide
  · decide

/-- A printed key starts with a character that stands, and not with a bracket. -/
theorem stands_of_key {c : Char} (h : Key.isBare c ∨ c = '"' ∨ c = '\'') :
    stands c ∧ c ≠ '[' := by
  rcases h with h | h
  · have hall : ∀ n < 128, Key.isBare (Char.ofNat n) →
        stands (Char.ofNat n) ∧ Char.ofNat n ≠ '[' := by decide
    have hc := hall c.toNat (toNat_lt_of_isBare h)
    rw [Char.ofNat_toNat] at hc
    exact hc h
  · exact ⟨stands_of_mark h, by rcases h with rfl | rfl <;> decide⟩

theorem skipBlanks_key (s : String) (rest : List Char) :
    skipBlanks (Printer.key s ++ rest) = Printer.key s ++ rest := by
  obtain ⟨c, cs, hs, hc⟩ := Key.key_eq_cons s
  rw [hs]
  exact skipBlanks_cons (stands_of_key hc).1 _

/-- A line that starts with a key is no header. -/
theorem key_ne_bracket (s : String) (rest more : List Char) :
    Printer.key s ++ rest ≠ '[' :: more := by
  obtain ⟨c, cs, hs, hc⟩ := Key.key_eq_cons s
  rw [hs]
  exact fun heq => (stands_of_key hc).2 (List.cons.inj heq).1

/-! ## Paths of keys -/

namespace Key

/-- A key is the last of its path when no dot follows. -/
theorem dotted?_key (s : String) {rest : List Char} (hrest : ∀ c ∈ rest.head?, isBare c = false)
    (hdot : ∀ more, skipBlanks rest ≠ '.' :: more) :
    dotted? (Printer.key s ++ rest) = some ([s], skipBlanks rest) := by
  rw [dotted?, skipBlanks_key, simple?_key s hrest]
  dsimp only
  split
  · next more hmore => exact absurd hmore (hdot more)
  · rfl

/-- A dot after a key leads to the next one. -/
theorem dotted?_key_dot (s : String) (cs : List Char) :
    dotted? (Printer.key s ++ '.' :: cs) =
      (dotted? cs).map fun (keys, rest) => (s :: keys, rest) := by
  have hrest : ∀ d ∈ ('.' :: cs).head?, isBare d = false := by
    rintro d hd
    cases hd
    rfl
  have hshorter : cs.length < (Printer.key s ++ '.' :: cs).length := by
    rw [List.length_append, List.length_cons]
    omega
  have hdot : skipBlanks ('.' :: cs) = '.' :: cs := rfl
  rw [dotted?, skipBlanks_key, simple?_key s hrest]
  dsimp only
  rw [hdot]
  exact if_pos hshorter

/-- The keys of a header are read up to its bracket. -/
theorem dotted?_keys {path : List String} (hpath : path ≠ []) (rest : List Char) :
    dotted? (List.intercalate ['.'] (path.map Printer.key) ++ ']' :: rest) =
      some (path, ']' :: rest) := by
  induction path with
  | nil => exact absurd rfl hpath
  | cons s path ih =>
    cases path with
    | nil =>
      have hrest : ∀ c ∈ (']' :: rest).head?, isBare c = false := by
        rintro c hc
        cases hc
        rfl
      have hend : skipBlanks (']' :: rest) = ']' :: rest := rfl
      have hlast := dotted?_key s hrest fun more h => by cases (List.cons.inj (hend ▸ h)).1
      rw [hend] at hlast
      simpa [List.intercalate] using hlast
    | cons s' path =>
      have hjoin : List.intercalate ['.'] ((s :: s' :: path).map Printer.key) ++ ']' :: rest =
          Printer.key s ++ '.' ::
            (List.intercalate ['.'] ((s' :: path).map Printer.key) ++ ']' :: rest) := by
        simp [List.intercalate]
      rw [hjoin, dotted?_key_dot, ih (List.cons_ne_nil _ _)]
      rfl

end Key

/-! ## Values -/

/-- A value that starts with neither bracket nor brace holds no others. -/
theorem value?_eq_scalar? {c : Char} (hbracket : c ≠ '[') (hbrace : c ≠ '\x7b') (depth : Nat)
    (cs : List Char) : value? depth (c :: cs) = scalar? (c :: cs) := by
  cases depth with
  | zero => rfl
  | succ depth =>
    rw [value?.eq_4]
    · rintro more heq
      exact hbracket (List.cons.inj heq).1
    · rintro more heq
      exact hbrace (List.cons.inj heq).1

/-- A printed string is a value, when no mark follows it. -/
theorem value?_string (s : String) (depth : Nat) {next : Char} (hnext : next ≠ '"')
    (hnext' : next ≠ '\'') (rest : List Char) :
    value? depth (Printer.string s ++ next :: rest) = some (.string s, next :: rest) := by
  obtain ⟨c, cs, hs, hc⟩ := string_eq_cons s
  have hread := Quoted.any_string s hnext hnext' rest
  have hmark : (c == '"' || c == '\'') = true := by simpa using hc
  rw [hs, List.cons_append] at hread ⊢
  rw [value?_eq_scalar?]
  · unfold scalar?
    dsimp only
    rw [if_pos hmark, hread, Option.map_some]
    dsimp only
    rw [String.ofList_toList]
  · rcases hc with rfl | rfl <;> decide
  · rcases hc with rfl | rfl <;> decide

/-- A numeral up to the end of its line is an integer. -/
theorem value?_writeNat {n : Nat} (h : (n : Int) ≤ Int64.maxValue.toInt) (depth : Nat)
    (rest : List Char) :
    value? depth (Decimal.writeNat n ++ '\n' :: rest) = some (.integer n, '\n' :: rest) := by
  obtain ⟨d, ds, hn⟩ := List.exists_cons_of_ne_nil (Decimal.writeNat_ne_nil n)
  have hdigit : d.isDigit := Decimal.isDigit_of_mem_writeNat (hn ▸ List.mem_cons_self)
  have hdate := DateTime.any?_digits
    (fun c hc => Decimal.isDigit_of_mem_writeNat (n := n) hc) rest
  have hfloat := Number.float?_writeNat n rest
  have hinteger := Number.integer?_writeNat h rest
  have hne {c : Char} (hc : c.isDigit = false) : d ≠ c := by
    rintro rfl
    rw [hc] at hdigit
    cases hdigit
  rw [hn, List.cons_append] at hdate hfloat hinteger ⊢
  rw [value?_eq_scalar? (hne rfl) (hne rfl)]
  unfold scalar?
  dsimp only
  rw [if_neg, if_neg, hdate]
  · dsimp only
    rw [hfloat]
    dsimp only
    rw [hinteger, Option.map_some]
  · simp [hne]
  · simp [hne]

/-! ## Arrays -/

theorem items?_end (item : Scanner Value) (rest : List Char) :
    items? item (']' :: rest) = some ([], rest) := by
  have hstart : skipLines (']' :: rest) = ']' :: rest := skipLines_cons rfl rest
  rw [items?, hstart]
  rfl

section Items

variable {item : Scanner Value} {cs start after rest : List Char} {v : Value}

/-- An item with the closing bracket after it is the last one. -/
theorem items?_last (hstart : skipLines cs = start) (hend : ∀ more, start ≠ ']' :: more)
    (hitem : item start = some (v, after)) (hafter : skipLines after = ']' :: rest) :
    items? item cs = some ([v], rest) := by
  rw [items?, hstart]
  split
  · exact absurd rfl (hend _)
  · rw [hitem]
    dsimp only
    rw [hafter]
    rfl

/-- After an item with a comma the other items follow. -/
theorem items?_more (hstart : skipLines cs = start) (hend : ∀ more, start ≠ ']' :: more)
    (hitem : item start = some (v, after)) (hafter : skipLines after = ',' :: rest)
    (hshorter : rest.length < cs.length) :
    items? item cs = (items? item rest).map fun (vs, rest) => (v :: vs, rest) := by
  rw [items?, hstart]
  split
  · exact absurd rfl (hend _)
  · rw [hitem]
    dsimp only
    rw [hafter]
    exact if_pos hshorter

end Items

/-- A printed string is no closing bracket. -/
theorem string_ne_bracket (s : String) (rest more : List Char) :
    Printer.string s ++ rest ≠ ']' :: more := by
  obtain ⟨c, cs, hs, hc⟩ := string_eq_cons s
  intro heq
  rw [hs, List.cons_append] at heq
  rw [(List.cons.inj heq).1] at hc
  rcases hc with hc | hc <;> cases hc

/-- The only item of an array stands on the line of its brackets. -/
theorem items?_single (s : String) (depth : Nat) (rest : List Char) :
    items? (value? depth) (Printer.string s ++ ']' :: rest) = some ([.string s], rest) := by
  have hitem : value? depth (Printer.string s ++ ']' :: rest) = some (.string s, ']' :: rest) :=
    value?_string s depth (by decide) (by decide) rest
  exact items?_last (skipLines_string s _) (string_ne_bracket s _) hitem (skipLines_cons rfl rest)

/-- Items on lines of their own are read line by line. -/
theorem items?_lines (ss : List String) (depth : Nat) (rest : List Char) :
    items? (value? depth)
        ('\n' :: ((ss.flatMap fun s => [' ', ' ', ' ', ' '] ++ Printer.string s ++ [',', '\n']) ++
          ']' :: rest)) =
      some (ss.map .string, rest) := by
  induction ss with
  | nil =>
    have hstart : skipLines ('\n' :: ']' :: rest) = ']' :: rest := by
      rw [skipLines_newline]
      exact skipLines_cons rfl rest
    rw [List.flatMap_nil, List.nil_append, items?, hstart]
    rfl
  | cons s ss ih =>
    let more := '\n' ::
      ((ss.flatMap fun s => [' ', ' ', ' ', ' '] ++ Printer.string s ++ [',', '\n']) ++ ']' :: rest)
    have hline : ('\n' :: (((s :: ss).flatMap fun s =>
        [' ', ' ', ' ', ' '] ++ Printer.string s ++ [',', '\n']) ++ ']' :: rest)) =
        '\n' :: ([' ', ' ', ' ', ' '] ++ (Printer.string s ++ ',' :: more)) := by
      simp [more]
    have hitem : value? depth (Printer.string s ++ ',' :: more) = some (.string s, ',' :: more) :=
      value?_string s depth (by decide) (by decide) more
    have hstart : skipLines ('\n' :: ([' ', ' ', ' ', ' '] ++ (Printer.string s ++ ',' :: more))) =
        Printer.string s ++ ',' :: more := by
      rw [skipLines_newline, skipLines_indent_string]
    have hshorter : more.length <
        ('\n' :: ([' ', ' ', ' ', ' '] ++ (Printer.string s ++ ',' :: more))).length := by
      simp only [List.length_append, List.length_cons]
      omega
    rw [hline, items?_more hstart (string_ne_bracket s _) hitem (skipLines_cons rfl more) hshorter,
      ih]
    rfl

/-- A printed array of strings is a value. -/
theorem value?_strings (ss : List String) (depth : Nat) (rest : List Char) :
    value? (depth + 1) (Printer.strings ss ++ rest) = some (.array (ss.map .string), rest) := by
  unfold Printer.strings
  split
  · exact congrArg (Option.map _) (items?_end (value? depth) rest)
  · next s =>
    rw [List.append_assoc, List.cons_append, value?, List.singleton_append, items?_single]
    rfl
  · next ss _ _ =>
    rw [List.append_assoc, List.cons_append, List.cons_append, value?, List.singleton_append,
      items?_lines]
    rfl

/-! ## Values at the end of a line -/

/-- The characters are read as the value, up to the end of their line. -/
def Denotes (cs : List Char) (v : Value) : Prop :=
  ∀ rest, value? maxDepth (skipBlanks (cs ++ '\n' :: rest)) = some (v, '\n' :: rest)

theorem denotes_string (s : String) : Denotes (Printer.string s) (.string s) := by
  intro rest
  rw [skipBlanks_string]
  exact value?_string s maxDepth (by decide) (by decide) rest

theorem denotes_strings (ss : List String) :
    Denotes (Printer.strings ss) (.array (ss.map .string)) := by
  intro rest
  have hblanks : skipBlanks (Printer.strings ss ++ '\n' :: rest) =
      Printer.strings ss ++ '\n' :: rest := by
    unfold Printer.strings
    split
    · rfl
    · rfl
    · rfl
  rw [hblanks]
  exact value?_strings ss 78 ('\n' :: rest)

theorem denotes_writeNat {n : Nat} (h : (n : Int) ≤ Int64.maxValue.toInt) :
    Denotes (Decimal.writeNat n) (.integer n) := by
  intro rest
  obtain ⟨d, ds, hn⟩ := List.exists_cons_of_ne_nil (Decimal.writeNat_ne_nil n)
  have hdigit : d.isDigit := Decimal.isDigit_of_mem_writeNat (hn ▸ List.mem_cons_self)
  have hbare : Key.isBare d := by simp [Key.isBare, Char.isAlphanum, hdigit]
  have hblanks : skipBlanks (Decimal.writeNat n ++ '\n' :: rest) =
      Decimal.writeNat n ++ '\n' :: rest := by
    rw [hn]
    exact skipBlanks_cons (stands_of_key (.inl hbare)).1 _
  rw [hblanks]
  exact value?_writeNat h maxDepth rest

/-! ## Statements -/

theorem statement?_header {path : List String} (hpath : path ≠ [])
    (hlimit : path.length < Key.limit) (rest : List Char) :
    statement? (Printer.header path ++ rest) = some (.table path, rest) := by
  have hheader : Printer.header path ++ rest =
      '[' :: (List.intercalate ['.'] (path.map Printer.key) ++ ']' :: '\n' :: rest) := by
    simp [Printer.header]
  have hkeys : Key.path? (List.intercalate ['.'] (path.map Printer.key) ++ ']' :: '\n' :: rest) =
      some (path, ']' :: '\n' :: rest) := by
    rw [Key.path?, Key.dotted?_keys hpath]
    simp [hlimit]
  rw [hheader, statement?.eq_2]
  · rw [hkeys]
    rfl
  · -- a header of one more table starts with two brackets
    rintro more heq
    obtain ⟨s, path, rfl⟩ := List.exists_cons_of_ne_nil hpath
    have hfirst : ∃ ds, List.intercalate ['.'] ((s :: path).map Printer.key) =
        Printer.key s ++ ds := by
      cases path <;> simp [List.intercalate]
    obtain ⟨ds, hds⟩ := hfirst
    rw [hds, List.append_assoc] at heq
    exact key_ne_bracket s _ _ heq

theorem statement?_entry (name : String) {cs : List Char} {v : Value} (h : Denotes cs v)
    (rest : List Char) :
    statement? (Printer.entry name cs ++ rest) = some (.entry [name] v, rest) := by
  have hentry : Printer.entry name cs ++ rest =
      Printer.key name ++ ' ' :: '=' :: ' ' :: (cs ++ '\n' :: rest) := by
    simp [Printer.entry]
  have hrest : ∀ c ∈ (' ' :: '=' :: ' ' :: (cs ++ '\n' :: rest)).head?, Key.isBare c = false := by
    rintro c hc
    cases hc
    rfl
  have hblanks : skipBlanks (' ' :: '=' :: ' ' :: (cs ++ '\n' :: rest)) =
      '=' :: ' ' :: (cs ++ '\n' :: rest) := rfl
  have hdot : ∀ more, skipBlanks (' ' :: '=' :: ' ' :: (cs ++ '\n' :: rest)) ≠ '.' :: more := by
    rintro more heq
    cases (List.cons.inj (hblanks ▸ heq)).1
  have hkey : Key.path? (Printer.key name ++ ' ' :: '=' :: ' ' :: (cs ++ '\n' :: rest)) =
      some ([name], '=' :: ' ' :: (cs ++ '\n' :: rest)) := by
    rw [Key.path?, Key.dotted?_key name hrest hdot]
    rfl
  have hvalue : value? maxDepth (skipBlanks (' ' :: (cs ++ '\n' :: rest))) =
      some (v, '\n' :: rest) := h rest
  rw [hentry, statement?.eq_3]
  · rw [hkey]
    change ((value? maxDepth (skipBlanks (' ' :: (cs ++ '\n' :: rest)))).bind _) = _
    rw [hvalue]
    rfl
  · exact fun more => key_ne_bracket name _ _
  · exact fun more => key_ne_bracket name _ _

/-! ## Documents -/

/-- The statement on a line comes before those that follow it. -/
theorem statements?_line {cs start rest : List Char} {st : Statement} {c : Char} {ds : List Char}
    (hstart : skipLines cs = start) (hc : start = c :: ds) (hstands : stands c)
    (hstatement : statement? start = some (st, rest)) (hshorter : rest.length < cs.length) :
    statements? cs = (statements? rest).map (st :: ·) := by
  rw [statements?, hstart]
  split
  · cases hc
  · next heq =>
    cases hc
    cases hstands
  · rw [hstatement]
    exact if_pos hshorter

/-- The chunk is read as the statements, and what follows it is read by itself. -/
def Says (chunk : List Char) (sts : List Statement) : Prop :=
  ∀ rest, statements? (chunk ++ rest) = (statements? rest).map (sts ++ ·)

theorem Says.nil : Says [] [] := by
  intro rest
  simp

theorem Says.append {chunk chunk' : List Char} {sts sts' : List Statement} (h : Says chunk sts)
    (h' : Says chunk' sts') : Says (chunk ++ chunk') (sts ++ sts') := by
  intro rest
  rw [List.append_assoc, h, h', Option.map_map]
  simp [Function.comp_def]

theorem Says.statements? {chunk : List Char} {sts : List Statement} (h : Says chunk sts) :
    statements? chunk = some sts := by
  have hlines : skipLines [] = [] := by
    rw [skipLines]
    rfl
  have hend : Toml.statements? [] = some [] := by
    rw [Toml.statements?, hlines]
  have hall := h []
  rw [List.append_nil, hend] at hall
  simpa using hall

theorem says_entry (name : String) {cs : List Char} {v : Value} (h : Denotes cs v) :
    Says (Printer.entry name cs) [.entry [name] v] := by
  intro rest
  obtain ⟨c, ds, hs, hc⟩ := Key.key_eq_cons name
  have hfirst : Printer.entry name cs ++ rest =
      c :: (ds ++ ([' ', '=', ' '] ++ cs ++ ['\n'] ++ rest)) := by
    simp [Printer.entry, hs]
  have hstands := (stands_of_key hc).1
  have hstart : skipLines (Printer.entry name cs ++ rest) = Printer.entry name cs ++ rest := by
    rw [hfirst]
    exact skipLines_cons hstands _
  refine statements?_line hstart hfirst hstands (statement?_entry name h rest) ?_
  simp only [Printer.entry, List.length_append, List.length_cons]
  omega

/-- The line of a header, with or without an empty line before it. -/
theorem says_header {path : List String} (hpath : path ≠ []) (hlimit : path.length < Key.limit) :
    Says (Printer.header path) [.table path] ∧
      Says ('\n' :: Printer.header path) [.table path] := by
  have hstart (rest : List Char) :
      skipLines (Printer.header path ++ rest) = Printer.header path ++ rest := skipLines_cons rfl _
  have hlength : 0 < (Printer.header path).length := Nat.succ_pos _
  constructor
  · intro rest
    refine statements?_line (hstart rest) rfl rfl (statement?_header hpath hlimit rest) ?_
    rw [List.length_append]
    omega
  · intro rest
    have hblank : skipLines ('\n' :: Printer.header path ++ rest) =
        Printer.header path ++ rest := by
      rw [List.cons_append, skipLines_newline, hstart]
    refine statements?_line hblank rfl rfl (statement?_header hpath hlimit rest) ?_
    rw [List.length_append, List.length_cons]
    omega

end DexTrail.Toml
