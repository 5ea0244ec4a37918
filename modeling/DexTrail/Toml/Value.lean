-- SUMMARY: TOML values, and the tables of a document with what brought each of them about.

/-!
# TOML values

Tables are lists of entries in the order of writing. A table remembers how it
came about, because that decides what may still be added to it while a document
is read. A float has no value here: nothing that is read from a document is one.
-/

namespace DexTrail.Toml

/-- How a table came about. -/
inductive Origin where
  /-- Written in braces; nothing is added later. -/
  | braces
  /-- Opened by a header of its own, or the whole document. -/
  | header
  /-- Only passed through by the header of a table below it. -/
  | passed
  /-- Begun by a dotted key. -/
  | dotted
  deriving DecidableEq, Inhabited, Repr

inductive Value where
  | string (s : String)
  | integer (n : Int)
  | float
  | boolean (b : Bool)
  /-- A date, a time or both, in their normal form. -/
  | datetime (text : String)
  | array (items : List Value)
  | table (origin : Origin) (entries : List (String × Value))
  /-- Tables that were opened one after another under one name. -/
  | tables (elements : List (List (String × Value)))
  deriving Inhabited

/-- The entries of a table. -/
abbrev Entries := List (String × Value)

end DexTrail.Toml
