-- SUMMARY: The package database as a JSON document.
import DexTrail.Json.Decode
import DexTrail.Package.Info

/-!
# The document of the package database

The database is an object from users to arrays of packages. A user is the name of
a member: a whole number without escapes, leading zeros or blanks.
-/

namespace DexTrail

/-- The fields of a package in their order. -/
def PackageInfo.fieldNames : List String :=
  ["package_name", "uid", "source_dir", "split_source_dirs", "data_dir",
    "device_protected_data_dir", "credential_protected_data_dir", "volume_uuid",
    "instruction_sets"]

open Json in
/-- A package. Its name and base file must be given. -/
def PackageInfo.decode (v : Value) : Option PackageInfo := do
  match ← Decode.fields fieldNames v with
  | [name, uid, base, splits, dataDir, deviceDir, credentialDir, volume, isas] =>
    let directory := Decode.defaulted none (Decode.nullable Decode.text)
    pure {
      name := ← Decode.required Decode.text name
      uid := ← Decode.defaulted 0 Decode.uint32 uid
      base := ← Decode.required Decode.text base
      splits := ← Decode.defaulted [] (Decode.list Decode.text) splits
      dataDir := ← directory dataDir
      deviceDir := ← directory deviceDir
      credentialDir := ← directory credentialDir
      volume := ← directory volume
      isas := ← Decode.defaulted [] (Decode.list Decode.text) isas }
  | _ => none

/-- The package that a document describes. -/
def PackageInfo.ofDocument? (doc : List Symbol) : Option PackageInfo :=
  (Json.read? doc).bind decode

/-- The packages of a database document. -/
def InstalledPackages.ofDocument? (doc : List Symbol) : Option InstalledPackages :=
  (Json.read? doc).bind
    (Json.Decode.map Json.Decode.int32Key (Json.Decode.list PackageInfo.decode))

end DexTrail
