-- SUMMARY: A printed document of tables is read back as those tables.
import DexTrail.Proofs.Toml.Statements

/-!
# Reading printed documents

A document of a program's settings is a list of sections, each a header and the entries below
it. While its statements are carried out, the table of the section grows at the end of the
document: the header opens it (`Table.openTable_nest`), each entry adds to it
(`Table.workAt_nest`), and what was there before stays as it is. So the document that is read
has one entry for each section (`read?_sections`).
-/

namespace DexTrail.Toml

/-- A table with the entries of a header's line, below the tables that its header passes
through. -/
def nest (entries : Entries) : List String → Value
  | [] => .table .header entries
  | key :: below => .table .passed [(key, nest entries below)]

/-! ## Tables at the end of a table -/

namespace Table

theorem set_new {t : Table} {key : String} (h : t.get? key = none) (v : Value) :
    t.set key v = ⟨t.origin, t.entries ++ [(key, v)]⟩ := by
  rw [set, h]
  rfl

variable {before : Entries} {key : String}

theorem get?_last (h : before.lookup key = none) (origin : Origin) (v : Value) :
    get? ⟨origin, before ++ [(key, v)]⟩ key = some v := by
  rw [get?, List.lookup_append, h, Option.none_or, List.lookup_cons_self]

theorem set_last (h : before.lookup key = none) (origin : Origin) (v v' : Value) :
    set ⟨origin, before ++ [(key, v)]⟩ key v' = ⟨origin, before ++ [(key, v')]⟩ := by
  have hbefore : before.map (fun e => if e.1 == key then (key, v') else e) = before := by
    refine (List.map_congr_left fun e he => if_neg ?_).trans (List.map_id before)
    have hne := bne_iff_ne.1 (List.lookup_eq_none_iff.1 h e he)
    rw [beq_iff_eq]
    exact hne.symm
  have hlast : (if key == key then (key, v') else (key, v)) = (key, v') :=
    if_pos (beq_self_eq_true key)
  rw [set, get?_last h, if_pos Option.isSome_some, List.map_append, hbefore, List.map_singleton,
    hlast]

/-- A header opens its table at the end, and the tables that it passes through. -/
theorem openTable_nest (below : List String) {t : Table} {key : String} (h : t.get? key = none) :
    t.openTable (key :: below) = some ⟨t.origin, t.entries ++ [(key, nest [] below)]⟩ := by
  induction below generalizing key t with
  | nil =>
    simp only [openTable, List.getLast?_singleton, List.dropLast_singleton, workAt, h, set_new h]
    rfl
  | cons key' below ih =>
    have hpassed : openTable (key' :: below) ⟨.passed, []⟩ =
        some ⟨.passed, [(key', nest [] below)]⟩ := ih rfl
    have hstep : t.openTable (key :: key' :: below) =
        (openTable (key' :: below) ⟨.passed, []⟩).map fun child =>
          t.set key (.table child.origin child.entries) := by
      simp only [openTable, List.getLast?_cons_cons, List.dropLast_cons_cons]
      split
      · rfl
      · rw [workAt, h]
        rfl
    rw [hstep, hpassed, Option.map_some, set_new h]
    rfl

/-- An entry below the header of the last table is added to that table. -/
theorem workAt_nest {name : String} {v : Value} {entries : Entries}
    (hname : entries.lookup name = none) (below : List String) {before : Entries} {key : String}
    (h : before.lookup key = none) (origin : Origin) :
    workAt false (addPair [name] v) (key :: below) ⟨origin, before ++ [(key, nest entries below)]⟩ =
      some ⟨origin, before ++ [(key, nest (entries ++ [(name, v)]) below)]⟩ := by
  induction below generalizing key before origin with
  | nil =>
    have hadd : addPair [name] v ⟨.header, entries⟩ =
        some ⟨.header, entries ++ [(name, v)]⟩ := by
      have hget : get? ⟨.header, entries⟩ name = none := hname
      simp [addPair, workAt, addEntry, hget, set_new hget]
    rw [workAt, get?_last h]
    simp only [nest, workAt, hadd, Option.map_some, set_last h]
    rfl
  | cons key' below ih =>
    have hinner : workAt false (addPair [name] v) (key' :: below)
          ⟨.passed, [(key', nest entries below)]⟩ =
        some ⟨.passed, [(key', nest (entries ++ [(name, v)]) below)]⟩ := @ih [] key' rfl .passed
    rw [workAt, get?_last h]
    simp only [nest, hinner, Option.map_some, set_last h]
    rfl

end Table

/-! ## Sections -/

/-- A header and the entries below it. The header names a table of the document, and perhaps
tables below that one. -/
structure Section where
  name : String
  below : List String
  entries : Entries
  /-- The header is not too long to be read. -/
  short : (name :: below).length < Key.limit
  /-- No entry is set twice. -/
  distinct : (entries.map (·.1)).Nodup

namespace Section

def path (s : Section) : List String := s.name :: s.below

/-- What the section adds to the document. -/
def table (s : Section) : String × Value := (s.name, nest s.entries s.below)

def settings (s : Section) : List Statement := s.entries.map fun e => .entry [e.1] e.2

def statements (s : Section) : List Statement := .table s.path :: s.settings

end Section

/-- Among sections with different names, each is found by its name. -/
theorem lookup_table {sections : List Section} (hnames : (sections.map (·.name)).Nodup)
    {s : Section} (hs : s ∈ sections) :
    (sections.map Section.table).lookup s.name = some (nest s.entries s.below) := by
  induction sections with
  | nil => cases hs
  | cons t sections ih =>
    rw [List.map_cons, List.nodup_cons] at hnames
    rcases List.mem_cons.1 hs with rfl | hs
    · exact List.lookup_cons_self
    · have hne : (s.name == t.name) = false := by
        refine beq_eq_false_iff_ne.2 fun heq => hnames.1 ?_
        exact heq ▸ List.mem_map_of_mem hs
      rw [List.map_cons, List.lookup_cons, Section.table, hne]
      exact ih hnames.2 hs

/-! ### Carrying out a section -/

/-- The entries of a section are added to its table one after another. -/
theorem foldlM_settings {before : Entries} {key : String} (h : before.lookup key = none)
    (origin : Origin) (below : List String) {entries : Entries} (added : Entries)
    (hdistinct : ((added ++ entries).map (·.1)).Nodup) :
    (entries.map fun e => Statement.entry [e.1] e.2).foldlM Draft.step
        ⟨⟨origin, before ++ [(key, nest added below)]⟩, key :: below⟩ =
      some ⟨⟨origin, before ++ [(key, nest (added ++ entries) below)]⟩, key :: below⟩ := by
  induction entries generalizing added with
  | nil =>
    rw [List.append_nil]
    rfl
  | cons e entries ih =>
    obtain ⟨name, v⟩ := e
    have hname : added.lookup name = none := by
      refine List.lookup_eq_none_iff.2 fun e he => bne_iff_ne.2 ?_
      rw [List.map_append, List.nodup_append] at hdistinct
      exact (hdistinct.2.2 e.1 (List.mem_map_of_mem he) name List.mem_cons_self).symm
    have hadded : added ++ (name, v) :: entries = (added ++ [(name, v)]) ++ entries := by simp
    have hstep : Draft.step ⟨⟨origin, before ++ [(key, nest added below)]⟩, key :: below⟩
        (.entry [name] v) =
        some ⟨⟨origin, before ++ [(key, nest (added ++ [(name, v)]) below)]⟩, key :: below⟩ := by
      rw [Draft.step, Table.workAt_nest hname below h, Option.map_some]
    rw [List.map_cons, List.foldlM_cons, hstep, Option.bind_eq_bind, Option.bind_some, hadded]
    exact ih (added ++ [(name, v)]) (hadded ▸ hdistinct)

/-- A section with a new name adds its table at the end of the document. -/
theorem foldlM_section (s : Section) {before : Entries} (h : before.lookup s.name = none)
    (origin : Origin) (current : List String) :
    s.statements.foldlM Draft.step ⟨⟨origin, before⟩, current⟩ =
      some ⟨⟨origin, before ++ [s.table]⟩, s.path⟩ := by
  have hopen : Draft.step ⟨⟨origin, before⟩, current⟩ (.table s.path) =
      some ⟨⟨origin, before ++ [(s.name, nest [] s.below)]⟩, s.path⟩ := by
    have hget : Table.get? ⟨origin, before⟩ s.name = none := h
    rw [Draft.step, Section.path, Table.openTable_nest s.below hget, Option.map_some]
  rw [Section.statements, List.foldlM_cons, hopen, Option.bind_eq_bind, Option.bind_some]
  exact foldlM_settings h origin s.below [] s.distinct

/-- Sections with different names add their tables in their order. -/
theorem foldlM_sections {sections : List Section} {before : Entries} (origin : Origin)
    (current : List String)
    (hnames : (before.map (·.1) ++ sections.map (·.name)).Nodup) :
    ∃ last, (sections.flatMap Section.statements).foldlM Draft.step
        ⟨⟨origin, before⟩, current⟩ =
      some ⟨⟨origin, before ++ sections.map Section.table⟩, last⟩ := by
  induction sections generalizing before current with
  | nil =>
    rw [List.map_nil, List.append_nil]
    exact ⟨current, rfl⟩
  | cons s sections ih =>
    have hnew : before.lookup s.name = none := by
      refine List.lookup_eq_none_iff.2 fun e he => bne_iff_ne.2 ?_
      exact ((List.nodup_append.1 hnames).2.2 e.1 (List.mem_map_of_mem he) s.name
        List.mem_cons_self).symm
    have hnames' : ((before ++ [s.table]).map (·.1) ++ sections.map (·.name)).Nodup := by
      rw [List.map_append, List.append_assoc]
      exact hnames
    obtain ⟨last, hlast⟩ := ih s.path hnames'
    refine ⟨last, ?_⟩
    rw [List.flatMap_cons, List.foldlM_append, foldlM_section s hnew, Option.bind_eq_bind,
      Option.bind_some, hlast, List.append_assoc]
    rfl

/-! ### Printed sections -/

/-- The chunk is the section's header and, after it, something that says its entries. -/
def Section.IsPrinted (s : Section) (chunk : List Char) : Prop :=
  ∃ body, chunk = Printer.header s.path ++ body ∧ Says body s.settings

/-- A printed section is read as such, with or without an empty line before it. -/
theorem Section.IsPrinted.says {s : Section} {chunk : List Char} (h : s.IsPrinted chunk) :
    Says chunk s.statements ∧ Says ('\n' :: chunk) s.statements := by
  obtain ⟨body, rfl, hbody⟩ := h
  obtain ⟨hfirst, hspaced⟩ := says_header (List.cons_ne_nil s.name s.below) s.short
  exact ⟨hfirst.append hbody, hspaced.append hbody⟩

theorem intercalate_newline (chunk : List Char) (chunks : List (List Char)) :
    List.intercalate ['\n'] (chunk :: chunks) =
      chunk ++ chunks.flatMap fun chunk => '\n' :: chunk := by
  induction chunks generalizing chunk with
  | nil => simp [List.intercalate]
  | cons chunk' chunks ih =>
    rw [List.intercalate_cons_cons, ih]
    simp

/-- Printed sections with an empty line before each are read one after another. -/
theorem says_spaced {chunks : List (List Char)} {sections : List Section}
    (h : List.Forall₂ Section.IsPrinted sections chunks) :
    Says (chunks.flatMap fun chunk => '\n' :: chunk) (sections.flatMap Section.statements) := by
  induction h with
  | nil => exact Says.nil
  | cons hfirst _ ih => exact hfirst.says.2.append ih

/-- No printed document starts with a mark of the byte order. -/
theorem dropByteOrderMark_header (path : List String) (cs : List Char) :
    dropByteOrderMark (Printer.header path ++ cs) = Printer.header path ++ cs := rfl

/-- A document of printed sections with empty lines between them is read as their tables. -/
theorem read?_sections {sections : List Section} {chunks : List (List Char)}
    (h : List.Forall₂ Section.IsPrinted sections chunks)
    (hnames : (sections.map (·.name)).Nodup) :
    read? (String.ofList (List.intercalate ['\n'] chunks)) = some (sections.map Section.table) := by
  have hread : statements? (dropByteOrderMark (List.intercalate ['\n'] chunks)) =
      some (sections.flatMap Section.statements) := by
    cases h with
    | nil => exact Says.nil.statements?
    | @cons s chunk sections chunks hfirst hothers =>
      have hsays : Says (List.intercalate ['\n'] (chunk :: chunks))
          ((s :: sections).flatMap Section.statements) := by
        rw [intercalate_newline]
        exact hfirst.says.1.append (says_spaced hothers)
      have hmark : dropByteOrderMark (List.intercalate ['\n'] (chunk :: chunks)) =
          List.intercalate ['\n'] (chunk :: chunks) := by
        obtain ⟨body, rfl, -⟩ := hfirst
        rw [intercalate_newline, List.append_assoc, dropByteOrderMark_header]
      rw [hmark]
      exact hsays.statements?
  obtain ⟨last, hlast⟩ := @foldlM_sections sections [] .header [] hnames
  rw [read?, String.toList_ofList, hread]
  dsimp only [Option.bind_eq_bind, Option.bind_some]
  rw [Table.document, hlast]
  rfl

end DexTrail.Toml
