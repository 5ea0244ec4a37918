-- SUMMARY: The package authority that reads a JSON file.
import DexTrail.Disk.FileTree
import DexTrail.Manager.Services
import DexTrail.Package.Document

/-!
# The package database

A missing database stands for no packages at all. One that cannot be decoded
gives no answer.
-/

namespace DexTrail.InstalledPackages

/-- The packages of the database at a path. -/
def readDatabase {links : Bool} (t : FileTree links) (cwd : Location) (path : String) :
    Except AuthorityError InstalledPackages :=
  let undecodable : AuthorityError := .unavailable path
  match t.read cwd path with
  | .ok content =>
    match ofDocument? (symbols content) with
    | some installed => .ok installed
    | none => .error undecodable
  | .error .notFound => .ok .empty
  | .error .isADirectory => .error undecodable
  | .error _ => .error .io

end DexTrail.InstalledPackages
