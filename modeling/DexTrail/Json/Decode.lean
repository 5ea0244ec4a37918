-- SUMMARY: Reading typed data from JSON values.
import DexTrail.Data.SortedMap
import DexTrail.Json.Reader
import DexTrail.Text.Decimal

/-!
# Typed reading

A reader of a type takes a value to a member of the type or refuses it. Numbers
must be whole and in range. A structure may be written as an object, whose
unknown members are ignored and whose known members must not be repeated, or as
an array of its fields in their order.
-/

namespace DexTrail.Json.Decode

open Std

def bool : Value → Option Bool
  | .bool b => some b
  | _ => none

def text : Value → Option String
  | .string lit => lit.text?
  | _ => none

def int : Value → Option Int
  | .number spelling => Decimal.read? spelling
  | _ => none

def int32 (v : Value) : Option Int32 := (int v).bind Decimal.toInt32?

def uint32 (v : Value) : Option UInt32 := (int v).bind Decimal.toUInt32?

def list {α : Type} (item : Value → Option α) : Value → Option (List α)
  | .array items => items.mapM item
  | _ => none

/-- A value that may be missing, written as null. -/
def nullable {α : Type} (item : Value → Option α) : Value → Option (Option α)
  | .null => some none
  | v => (item v).map some

/-- An object whose member names are keys; of members with one key the last counts. -/
def map {α β : Type} [Ord α] [TransOrd α] [LawfulEqOrd α] (key : Literal → Option α)
    (item : Value → Option β) : Value → Option (SortedMap α β)
  | .object members =>
    (members.mapM fun (name, v) => do pure (← key name, ← item v)).map SortedMap.ofList
  | _ => none

/-- A key that is a whole number written without escapes. -/
def int32Key (name : Literal) : Option Int32 := do
  (← Decimal.read? (← name.mapM id)) |> Decimal.toInt32?

/-! ## Structures -/

/-- The values of the named fields of a structure, in the order of the names. -/
def fields (names : List String) : Value → Option (List (Option Value))
  | .array items =>
    if items.length ≤ names.length then
      some (items.map some ++ List.replicate (names.length - items.length) none)
    else none
  | .object members => do
    let members ← members.mapM fun (name, v) => do pure (← name.text?, v)
    names.mapM fun name =>
      match members.filter (·.1 == name) with
      | [] => some none
      | [(_, v)] => some (some v)
      | _ => none
  | _ => none

/-- A field that must be there. -/
def required {α : Type} (item : Value → Option α) (v : Option Value) : Option α := v.bind item

/-- A field that stands for `absent` when it is missing. -/
def defaulted {α : Type} (absent : α) (item : Value → Option α) : Option Value → Option α
  | none => some absent
  | some v => item v

end DexTrail.Json.Decode
