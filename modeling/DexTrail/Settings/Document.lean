-- SUMMARY: The configuration as a TOML document.
import DexTrail.Settings.Config
import DexTrail.Toml.Printer
import DexTrail.Toml.Reader

/-!
# The configuration document

A document has a table for each part of the configuration. Tables and settings
that are missing stand for their defaults, and unknown ones are ignored. A table
may also be written as an array of its settings in their order.
-/

namespace DexTrail

open Toml (Value)

/-! ## Reading settings -/

namespace Setting

def text : Value → Option String
  | .string s => some s
  | _ => none

/-- A number without a sign. -/
def count : Value → Option UInt64
  | .integer n => if 0 ≤ n then Decimal.toUInt64? n.toNat else none
  | _ => none

def texts : Value → Option (List String)
  | .array items => items.mapM text
  | _ => none

/-- The name under which a date appears where entries are wanted. -/
def dateKey : String := "$__toml_private_datetime"

/-- Texts by name. -/
def textsByName : Value → Option (SortedMap String String)
  | .table _ entries =>
    (entries.mapM fun (e : String × Value) => do pure (e.1, ← text e.2)).map SortedMap.ofList
  | .datetime date => some (.ofList [(dateKey, date)])
  | _ => none

/-- The settings of a table in the order of their names. -/
def ofTable (names : List String) : Value → Option (List (Option Value))
  | .table _ entries => some (names.map fun name => entries.lookup name)
  | .array items => some (inOrder items)
  | .tables elements => some (inOrder (elements.map (.table .header)))
  | .datetime _ => some (names.map fun _ => none)
  | _ => none
where
  inOrder (items : List Value) : List (Option Value) :=
    (items.map some ++ names.map fun _ => none).take names.length

/-- A setting, or what stands for it when it is missing. -/
def orElse {α : Type} (absent : α) (read : Value → Option α) : Option Value → Option α
  | none => some absent
  | some v => read v

end Setting

/-! ## Reading the configuration -/

namespace Config

/-- The settings of a table of the document; without the table none is set. -/
def section? (doc : Toml.Entries) (name : String) (settings : List String) :
    Option (List (Option Value)) :=
  match doc.lookup name with
  | none => some (settings.map fun _ => none)
  | some v => Setting.ofTable settings v

/-- The only setting of a table. -/
def single? {α : Type} (doc : Toml.Entries) (name setting : String) (absent : α)
    (read : Value → Option α) : Option α := do
  match ← section? doc name [setting] with
  | [v] => Setting.orElse absent read v
  | _ => none

/-- The configuration of a document. -/
def ofEntries? (doc : Toml.Entries) : Option Config := do
  match ← section? doc "tracking" ["framework_roots", "supported_isas"] with
  | [roots, isas] =>
    pure {
      ledgerPath := ← single? doc "storage" "ledger_path" default.ledgerPath Setting.text
      writeDebounceMs :=
        ← single? doc "persist" "write_debounce_ms" default.writeDebounceMs Setting.count
      frameworkRoots := ← Setting.orElse default.frameworkRoots Setting.texts roots
      supportedIsas := ← Setting.orElse default.supportedIsas Setting.texts isas
      filters := ← single? doc "compiler" "filters" default.filters Setting.textsByName
      optimizerCommand :=
        ← single? doc "optimizer" "command" default.optimizerCommand Setting.texts
      maintenanceIntervalSecs :=
        ← single? doc "maintenance" "interval_secs" default.maintenanceIntervalSecs Setting.count
      packageDatabase := ← single? doc "packages" "database" default.packageDatabase Setting.text }
  | _ => none

def parse? (text : String) : Option Config := (Toml.read? text).bind ofEntries?

/-! ## Printing -/

/-- A number that a document can hold. -/
def printCount? (n : UInt64) : Option (List Char) :=
  if (n.toNat : Int) ≤ Int64.maxValue.toInt then some (Decimal.writeNat n.toNat) else none

open Toml.Printer in
/-- The document of a configuration. Numbers of 64 bits that need all of them
cannot be written. -/
def print? (c : Config) : Option String := do
  let debounce ← printCount? c.writeDebounceMs
  let interval ← printCount? c.maintenanceIntervalSecs
  let tables : List (List Char) := [
    header ["storage"] ++ entry "ledger_path" (string c.ledgerPath),
    header ["persist"] ++ entry "write_debounce_ms" debounce,
    header ["tracking"] ++ entry "framework_roots" (strings c.frameworkRoots) ++
      entry "supported_isas" (strings c.supportedIsas),
    header ["compiler", "filters"] ++
      c.filters.toList.flatMap (fun (reason, filter) => entry reason (string filter)),
    header ["optimizer"] ++ entry "command" (strings c.optimizerCommand),
    header ["maintenance"] ++ entry "interval_secs" interval,
    header ["packages"] ++ entry "database" (string c.packageDatabase)]
  pure (String.ofList (List.intercalate ['\n'] tables))

end Config

end DexTrail
