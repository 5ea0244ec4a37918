-- SUMMARY: The ledger as a JSON document, and the checks that a document must pass.
import DexTrail.Disk.Path
import DexTrail.Json.Decode
import DexTrail.Json.Printer
import DexTrail.Usage.Ledger

/-!
# The ledger document

A ledger is written as a JSON object with a version number and the packages.
`LedgerDocument.read` decodes a document, checks its version, and then checks its
records: package names are not empty, paths are absolute, and every record names
an instruction set.
-/

namespace DexTrail

open Json

/-! ## Writing -/

def UsageRecord.encode (r : UsageRecord) : Value :=
  .ofMembers [
    ("owner_user_id", .ofInt r.owner.toInt),
    ("loader_isas", .ofStrings r.isas.toList),
    ("used_by_other_apps", .bool r.shared),
    ("primary_or_split", .bool r.code)]

def PackageUsage.encode (u : PackageUsage) : Value :=
  .ofMembers [("dex_files", .ofMembers (u.toList.map fun (path, r) => (path, r.encode)))]

/-- The packages of a ledger as an object. -/
def Ledger.encodePackages (l : Ledger) : Value :=
  .ofMembers (l.packages.toList.map fun (package, u) => (package, PackageUsage.encode u))

/-- A ledger without a version number. -/
def Ledger.encode (l : Ledger) : Value := .ofMembers [("packages", l.encodePackages)]

/-! ## Reading -/

def UsageRecord.decode (v : Value) : Option UsageRecord := do
  match ← Decode.fields
      ["owner_user_id", "loader_isas", "used_by_other_apps", "primary_or_split"] v with
  | [owner, isas, shared, code] =>
    pure {
      owner := ← Decode.required Decode.int32 owner
      isas := .ofList (← Decode.required (Decode.list Decode.text) isas)
      shared := ← Decode.defaulted false Decode.bool shared
      code := ← Decode.defaulted false Decode.bool code }
  | _ => none

def PackageUsage.decode (v : Value) : Option PackageUsage := do
  match ← Decode.fields ["dex_files"] v with
  | [files] => Decode.defaulted .empty (Decode.map Literal.text? UsageRecord.decode) files
  | _ => none

/-- The packages of a ledger. -/
def Ledger.decodePackages (v : Value) : Option Ledger :=
  (Decode.map Literal.text? PackageUsage.decode v).map Ledger.mk

/-- A ledger without a version number. -/
def Ledger.decode (v : Value) : Option Ledger := do
  match ← Decode.fields ["packages"] v with
  | [packages] => Decode.required decodePackages packages
  | _ => none

/-- The ledger that a document without a version number describes. -/
def Ledger.ofDocument? (doc : List Symbol) : Option Ledger := (Json.read? doc).bind decode

/-! ## Faults -/

/-- What is wrong with the records of a well-formed document. -/
inductive Corruption where
  | emptyName
  | relativePath (package path : String)
  | noIsas (package path : String)
  deriving DecidableEq, Inhabited

def Corruption.message : Corruption → String
  | .emptyName => "Corrupt ledger: empty package name"
  | .relativePath package path =>
    "Corrupt ledger: " ++ package ++ ": dex path is not absolute: " ++ path
  | .noIsas package path =>
    "Corrupt ledger: " ++ package ++ ": no loader instruction set for " ++ path

/-- Why a ledger file cannot be read or written. -/
inductive LedgerError where
  | io
  | malformed
  | unsupportedVersion (found : UInt32)
  | corrupt (fault : Corruption)
  deriving DecidableEq, Inhabited

/-- The first fault of a record, if it has one. -/
def UsageRecord.fault? (package path : String) (r : UsageRecord) : Option Corruption :=
  if !Path.isAbsolute path then some (.relativePath package path)
  else if r.isas.isEmpty then some (.noIsas package path)
  else none

/-- The first fault of a package, if it has one. -/
def PackageUsage.fault? (package : String) (u : PackageUsage) : Option Corruption :=
  if package.isEmpty then some .emptyName
  else u.toList.findSome? fun (path, r) => r.fault? package path

/-- The first fault of a ledger in the order of packages and paths, if it has one. -/
def Ledger.fault? (l : Ledger) : Option Corruption :=
  l.packages.toList.findSome? fun (package, u) => PackageUsage.fault? package u

/-! ## Documents -/

namespace LedgerDocument

/-- The version of the documents that are written and read. -/
def version : UInt32 := 1

/-- The text of the document of a ledger. -/
def write (l : Ledger) : String :=
  (Value.ofMembers [
    ("version", .ofInt version.toNat),
    ("packages", l.encodePackages)]).print

/-- Version and packages, unchecked. -/
def decode (v : Value) : Option (UInt32 × Ledger) := do
  match ← Decode.fields ["version", "packages"] v with
  | [found, packages] =>
    pure (← Decode.required Decode.uint32 found,
      ← Decode.defaulted .empty Ledger.decodePackages packages)
  | _ => none

/-- The ledger that a document describes. -/
def read (doc : List Symbol) : Except LedgerError Ledger :=
  match (Json.read? doc).bind decode with
  | none => .error .malformed
  | some (found, l) =>
    if found ≠ version then .error (.unsupportedVersion found)
    else
      match l.fault? with
      | some fault => .error (.corrupt fault)
      | none => .ok l

end LedgerDocument

/-- The text of an error that is not left to the file system or the decoder. -/
def LedgerError.message? : LedgerError → Option String
  | .io | .malformed => none
  | .unsupportedVersion found =>
    some ("Unsupported ledger version " ++ Decimal.text found.toNat ++ " (expected " ++
      Decimal.text LedgerDocument.version.toNat ++ ")")
  | .corrupt fault => some fault.message

def OwnerMismatch.message (e : OwnerMismatch) : String :=
  "Dex file " ++ e.path ++ " of " ++ e.package ++ " belongs to user " ++
    Decimal.text e.existing.toInt ++ ", not " ++ Decimal.text e.requested.toInt

end DexTrail
