-- SUMMARY: What the manager asks of others: the package authority, the helper and the optimizer.
import DexTrail.Package.Info

/-!
# Services

The manager does not look at packages, files or compilers itself. It asks three
services, each of which may answer differently from one call to the next: a call
takes the state of the outside world and leaves another one. Calls of the helper
say whether the install lock is held.
-/

namespace DexTrail

/-! ## Requests and answers -/

/-- Why the package authority gives no answer. -/
inductive AuthorityError where
  | unavailable (reason : String)
  | io
  deriving DecidableEq, Inhabited

/-- Why the helper gives no answer. -/
inductive HelperError where
  | rejected (reason : String)
  | io
  deriving DecidableEq, Inhabited

/-- The two private storage areas of a package. -/
inductive StorageKind where
  | deviceProtected
  | credentialProtected
  deriving DecidableEq, Inhabited, Repr

def StorageKind.code : StorageKind → String
  | .deviceProtected => "de"
  | .credentialProtected => "ce"

/-- Remove what was generated for a dex file, if the file is gone. -/
structure Cleanup where
  path : String
  package : String
  uid : UInt32
  isas : List String
  volume : Option String
  storage : StorageKind
  deriving DecidableEq, Inhabited

/-- Compile a secondary dex file. -/
structure Optimization where
  app : PackageInfo
  path : String
  isas : SortedSet String
  filter : String
  shared : Bool
  force : Bool
  deriving DecidableEq, Inhabited

inductive OptimizeResult where
  | performed
  | skipped
  | failed
  deriving DecidableEq, Inhabited, Repr

/-- Whether the caller of the helper holds the install lock. -/
inductive InstallLock where
  | held
  | free
  deriving DecidableEq, Inhabited, Repr

/-! ## Services -/

/-- The services as functions on the state `ω` of the outside world. -/
structure Services (ω : Type) where
  /-- The package as it is installed for a user, if it is. -/
  lookup : String → UserId → ω → ω × Except AuthorityError (Option PackageInfo)
  /-- All installed packages. -/
  enumerate : ω → ω × Except AuthorityError InstalledPackages
  /-- Whether a file exists. -/
  fileExists : InstallLock → String → ω → ω × Except HelperError Bool
  /-- Clean up after a dex file unless it exists; the answer is whether it does. -/
  cleanUp : InstallLock → Cleanup → ω → ω × Except HelperError Bool
  optimize : Optimization → ω → ω × OptimizeResult

/-! ## Error texts -/

/-- The text of a failed enumeration or lookup that is not left to the system. -/
def AuthorityError.message? : AuthorityError → Option String
  | .unavailable reason =>
    some ("Package authority error: Package metadata unavailable: " ++ reason)
  | .io => none

def HelperError.message? : HelperError → Option String
  | .rejected reason => some ("Helper rejected request: " ++ reason)
  | .io => none

end DexTrail
