-- SUMMARY: The ledger's file: reading it and replacing it as a whole.
import DexTrail.Disk.FileTree
import DexTrail.Usage.Document

/-!
# The ledger file

The file is replaced by writing a temporary file beside it and giving that its
name, so a failure leaves the old content in place.
-/

namespace DexTrail

/-- Where a ledger is kept. -/
structure LedgerFile where
  path : String
  /-- The directory from which a relative path is walked. -/
  cwd : Location
  deriving DecidableEq, Inhabited

namespace LedgerFile

variable {links : Bool}

/-- The ledger in the file, or none when there is no file. -/
def read (f : LedgerFile) (t : FileTree links) : Except LedgerError (Option Ledger) :=
  match t.read f.cwd f.path with
  | .ok content => (LedgerDocument.read (symbols content)).map some
  | .error .notFound => .ok none
  | .error .isADirectory => .error .malformed
  | .error _ => .error .io

/-- The temporary file. -/
def temporary (f : LedgerFile) : String := Path.withSuffix f.path ".tmp"

/-- The directory that must be there before the file is written. -/
def parent? (f : LedgerFile) : Option String :=
  (Path.parent? f.path).filter fun parent => !parent.isEmpty

/-- Make the directory that the file is written into. -/
def makeParent (f : LedgerFile) (t : FileTree links) : FileTree links × Except DiskError Unit :=
  match f.parent? with
  | none => (t, .ok ())
  | some parent => t.makeDirs f.cwd parent

/-- Write a ledger in place of what the file holds. The answer says whether that
succeeded. -/
def write (f : LedgerFile) (l : Ledger) (t : FileTree links) : FileTree links × Bool :=
  match f.makeParent t with
  | (t, .error _) => (t, false)
  | (t, .ok ()) =>
    match t.writeFile f.cwd f.temporary (LedgerDocument.write l).toUTF8 with
    | .error _ => (t, false)
    | .ok t =>
      match t.renameFile f.cwd f.temporary f.path with
      | .ok t => (t, true)
      | .error _ =>
        match t.removeFile f.cwd f.temporary with
        | .ok t => (t, false)
        | .error _ => (t, false)

end LedgerFile

end DexTrail
