-- SUMMARY: JSON values as they are spelled.
import DexTrail.Text.Symbols

/-!
# JSON values

A value keeps numbers and strings as they are spelled, and the members of an
object in the order in which they are written, repeated names included. What a
spelling means is asked only of the values that a document needs: a string in a
part that nobody reads may hold anything.
-/

namespace DexTrail.Json

/-- What stands between the quotes of a string, escapes as they are written. -/
abbrev Literal := List Symbol

inductive Value where
  | null
  | bool (b : Bool)
  /-- A number by its spelling. -/
  | number (spelling : List Char)
  | string (literal : Literal)
  | array (items : List Value)
  /-- The members in the order of writing. -/
  | object (members : List (Literal × Value))
  deriving Inhabited

end DexTrail.Json
