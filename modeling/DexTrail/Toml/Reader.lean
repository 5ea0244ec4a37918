-- SUMMARY: Reading TOML documents.
import DexTrail.Toml.DateTime
import DexTrail.Toml.Key
import DexTrail.Toml.Number
import DexTrail.Toml.Table

/-!
# Reading TOML

A document is first read as a list of statements, each a header or an entry, and
the statements are then carried out on an empty table one after another.
-/

namespace DexTrail.Toml

/-! ## Values -/

/-- A boolean. -/
def boolean? : Scanner Bool
  | 't' :: 'r' :: 'u' :: 'e' :: rest => some (true, rest)
  | 'f' :: 'a' :: 'l' :: 's' :: 'e' :: rest => some (false, rest)
  | _ => none

/-- A value that holds no others. -/
def scalar? : Scanner Value := fun cs =>
  match cs with
  | [] => none
  | c :: _ =>
    if c == '"' || c == '\'' then
      (Quoted.any cs).map fun (s, rest) => (.string (String.ofList s), rest)
    else if c == 't' || c == 'f' then
      (boolean? cs).map fun (b, rest) => (.boolean b, rest)
    else
      match DateTime.any? cs with
      | some (text, rest) => some (.datetime text, rest)
      | none =>
        match Number.float? cs with
        | some rest => some (.float, rest)
        | none => (Number.integer? cs).map fun (n, rest) => (.integer n, rest)

/-- The items of an array up to its closing bracket. A comma may follow the last
item. -/
def items? (item : Scanner Value) (cs : List Char) : Option (List Value × List Char) :=
  match skipLines cs with
  | ']' :: rest => some ([], rest)
  | start =>
    match item start with
    | none => none
    | some (v, afterItem) =>
      match skipLines afterItem with
      | ']' :: rest => some ([v], rest)
      | ',' :: rest =>
        if rest.length < cs.length then
          (items? item rest).map fun (vs, rest) => (v :: vs, rest)
        else none
      | _ => none
termination_by cs.length

/-- The entries of a table in braces up to its closing brace. No comma follows the
last entry, and all stands on one line. -/
def pairs? (item : Scanner Value) (cs : List Char) :
    Option (List (List String × Value) × List Char) :=
  match Key.path? cs with
  | none => none
  | some (path, '=' :: afterKey) =>
    match item (skipBlanks afterKey) with
    | none => none
    | some (v, afterItem) =>
      match skipBlanks afterItem with
      | '\x7d' :: rest => some ([(path, v)], rest)
      | ',' :: rest =>
        if rest.length < cs.length then
          (pairs? item rest).map fun (ps, rest) => ((path, v) :: ps, rest)
        else none
      | _ => none
  | some _ => none
termination_by cs.length

/-- A table in braces, from the opening brace on. -/
def braces? (item : Scanner Value) : Scanner Value := fun cs => do
  let (pairs, rest) ← match skipBlanks cs with
    | '\x7d' :: rest => some ([], rest)
    | _ => pairs? item cs
  let t ← pairs.foldlM (fun t (path, v) => Table.addPair path v t) (⟨.braces, []⟩ : Table)
  pure (.table t.origin t.entries, rest)

/-- A value that holds others up to a depth. -/
def value? : Nat → Scanner Value
  | 0, cs => scalar? cs
  | depth + 1, cs =>
    match cs with
    | '[' :: rest => (items? (value? depth) rest).map fun (vs, rest) => (.array vs, rest)
    | '\x7b' :: rest => braces? (value? depth) rest
    | cs => scalar? cs

/-- How deep arrays and tables in braces may be nested. -/
def maxDepth : Nat := 79

/-! ## Statements -/

inductive Statement where
  /-- The header of a table. -/
  | table (path : List String)
  /-- The header of one more table of a name. -/
  | element (path : List String)
  | entry (path : List String) (v : Value)
  deriving Inhabited

/-- The statement that stands at the start of a line, with the line's end. -/
def statement? : Scanner Statement
  | '[' :: '[' :: cs => do
    let (path, cs) ← Key.path? cs
    match cs with
    | ']' :: ']' :: cs => pure (.element path, ← lineEnd? cs)
    | _ => none
  | '[' :: cs => do
    let (path, cs) ← Key.path? cs
    match cs with
    | ']' :: cs => pure (.table path, ← lineEnd? cs)
    | _ => none
  | cs => do
    let (path, cs) ← Key.path? cs
    match cs with
    | '=' :: cs => do
      let (v, cs) ← value? maxDepth (skipBlanks cs)
      pure (.entry path v, ← lineEnd? cs)
    | _ => none

/-- The statements of a document. -/
def statements? (cs : List Char) : Option (List Statement) :=
  match skipLines cs with
  | [] => some []
  | '#' :: rest => if rest.all isPlain then some [] else none
  | start =>
    match statement? start with
    | none => none
    | some (s, rest) =>
      if rest.length < cs.length then (statements? rest).map (s :: ·) else none
termination_by cs.length

/-! ## Documents -/

/-- A document on its way: the whole, and the way to the table that entries go into. -/
structure Draft where
  whole : Table
  current : List String

/-- Carry out one statement. -/
def Draft.step (d : Draft) : Statement → Option Draft
  | .table path => (d.whole.openTable path).map fun whole => ⟨whole, path⟩
  | .element path => (d.whole.openElement path).map fun whole => ⟨whole, path⟩
  | .entry path v =>
    (Table.workAt false (Table.addPair path v) d.current d.whole).map fun whole =>
      { d with whole }

/-- A mark of the byte order at the start says nothing. -/
def dropByteOrderMark : List Char → List Char
  | '\ufeff' :: cs => cs
  | cs => cs

/-- The table that a document describes. -/
def read? (text : String) : Option Entries := do
  let statements ← statements? (dropByteOrderMark text.toList)
  let d ← statements.foldlM Draft.step ⟨.document, []⟩
  pure d.whole.entries

end DexTrail.Toml
