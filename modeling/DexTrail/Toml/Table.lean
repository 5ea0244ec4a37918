-- SUMMARY: Adding entries and tables to a table while a document is read.
import DexTrail.Toml.Value

/-!
# Building tables

An entry is set once. A table that a header opened, or that stands in braces, is
not extended by dotted keys from outside, and a header opens a table once, unless
the table was only passed through so far.
-/

namespace DexTrail.Toml

/-- A table while it is being built. -/
structure Table where
  origin : Origin
  entries : Entries

namespace Table

/-- The document before anything is read. -/
def document : Table := ⟨.header, []⟩

def get? (t : Table) (key : String) : Option Value := t.entries.lookup key

/-- Set the value of a key: in its place, or at the end for a new key. -/
def set (t : Table) (key : String) (v : Value) : Table :=
  if (t.get? key).isSome then
    { t with entries := t.entries.map fun e => if e.1 == key then (key, v) else e }
  else { t with entries := t.entries ++ [(key, v)] }

/-- Work on the table that a path leads to, through the last of tables of one
name. Missing tables are made. `dotted` says whether the path is that of a dotted
key or of a header. -/
def workAt (dotted : Bool) (work : Table → Option Table) : List String → Table → Option Table
  | [], t => work t
  | key :: path, t =>
    match t.get? key with
    | none =>
      (workAt dotted work path ⟨if dotted then .dotted else .passed, []⟩).map fun child =>
        t.set key (.table child.origin child.entries)
    | some (.table origin entries) =>
      if origin = .braces ∨ (dotted ∧ origin = .header) then none
      else
        (workAt dotted work path ⟨origin, entries⟩).map fun child =>
          t.set key (.table child.origin child.entries)
    | some (.tables elements) =>
      match elements.reverse with
      | [] => none
      | last :: before =>
        (workAt dotted work path ⟨.header, last⟩).map fun child =>
          t.set key (.tables (child.entries :: before).reverse)
    | some _ => none

/-- Set an entry for the first time. A dotted key sets it in a table that dotted
keys made, any other key does not. -/
def addEntry (isDotted : Bool) (key : String) (v : Value) (t : Table) : Option Table :=
  if (t.origin == .dotted) != isDotted then none
  else if (t.get? key).isSome then none
  else some (t.set key v)

/-- Set the entry that a path of keys names. -/
def addPair (path : List String) (v : Value) (t : Table) : Option Table :=
  match path.getLast? with
  | none => none
  | some key =>
    let above := path.dropLast
    workAt true (addEntry (!above.isEmpty) key v) above t

/-- Open the table that a header names. -/
def openTable (path : List String) (t : Table) : Option Table :=
  match path.getLast? with
  | none => none
  | some key =>
    workAt false (fun parent =>
      match parent.get? key with
      | none => some (parent.set key (.table .header []))
      | some (.table .passed entries) => some (parent.set key (.table .header entries))
      | some _ => none) path.dropLast t

/-- Open one more of the tables that a header names. -/
def openElement (path : List String) (t : Table) : Option Table :=
  match path.getLast? with
  | none => none
  | some key =>
    workAt false (fun parent =>
      match parent.get? key with
      | none => some (parent.set key (.tables [[]]))
      | some (.tables elements) => some (parent.set key (.tables (elements ++ [[]])))
      | some _ => none) path.dropLast t

end Table

end DexTrail.Toml
