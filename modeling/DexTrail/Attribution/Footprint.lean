-- SUMMARY: Where one package keeps its code and, for each user, its private files.
import DexTrail.Attribution.Containment
import DexTrail.Package.Info

/-!
# Footprints

A footprint says which paths belong to a package: its base file, its splits, and
for each user who has the package everything under that user's data directories.
`Footprint.search` classifies a path by the first of these that matches.
-/

namespace DexTrail

/-! ## Kinds of match -/

/-- How a path matches a footprint. -/
inductive Match where
  | notFound
  | primary
  | split
  | secondary
  deriving DecidableEq, Inhabited, Repr

namespace Match

def isFound (m : Match) : Bool := m != .notFound

/-- Whether the path is part of the package's own installed code. -/
def isCode : Match → Bool
  | .primary | .split => true
  | .notFound | .secondary => false

def text : Match → String
  | .notFound => "not-found"
  | .primary => "primary"
  | .split => "split"
  | .secondary => "secondary"

end Match

/-! ## Footprints -/

structure Footprint where
  package : String
  base : String
  splits : SortedSet String
  /-- The data directories of each user who has the package. -/
  dirs : SortedMap UserId (SortedSet String)
  deriving DecidableEq, Inhabited

namespace Footprint

/-- The footprint of installed code that no user has storage for. -/
def ofCode (package base : String) (splits : List String) : Footprint :=
  { package, base, splits := .ofList splits, dirs := .empty }

def hasUser (f : Footprint) (user : UserId) : Bool := f.dirs.contains user

/-- The data directories known for the user. -/
def dirsOf? (f : Footprint) (user : UserId) : Option (SortedSet String) := f.dirs.get? user

/-- Replace base and splits; the data directories stay. -/
def setCode (f : Footprint) (base : String) (splits : List String) : Footprint :=
  { f with base, splits := .ofList splits }

/-- Add a data directory for a user. -/
def addDir (f : Footprint) (dir : String) (user : UserId) : Footprint :=
  { f with dirs := f.dirs.alter user fun known => some ((known.getD .empty).insert dir) }

/-- Whether adding the directory would change the footprint. -/
def lacksDir (f : Footprint) (dir : String) (user : UserId) : Bool :=
  match f.dirs.get? user with
  | none => true
  | some known => !known.contains dir

def removeUser (f : Footprint) (user : UserId) : Footprint :=
  { f with dirs := f.dirs.erase user }

/-! ### What each operation does to the data directories -/

@[simp] theorem package_setCode (f : Footprint) (base : String) (splits : List String) :
    (f.setCode base splits).package = f.package := rfl

@[simp] theorem package_addDir (f : Footprint) (dir : String) (user : UserId) :
    (f.addDir dir user).package = f.package := rfl

@[simp] theorem package_removeUser (f : Footprint) (user : UserId) :
    (f.removeUser user).package = f.package := rfl

@[simp] theorem dirsOf?_setCode (f : Footprint) (base : String) (splits : List String)
    (user : UserId) : (f.setCode base splits).dirsOf? user = f.dirsOf? user := rfl

theorem dirsOf?_addDir (f : Footprint) (dir : String) (user v : UserId) :
    (f.addDir dir user).dirsOf? v =
      if v = user then some (((f.dirsOf? user).getD .empty).insert dir) else f.dirsOf? v := by
  simp [addDir, dirsOf?, SortedMap.get?_alter]

theorem dirsOf?_removeUser (f : Footprint) (user v : UserId) :
    (f.removeUser user).dirsOf? v = if v = user then none else f.dirsOf? v := by
  simp [removeUser, dirsOf?, SortedMap.get?_erase]

/-! ### Searching -/

/-- What a loading package can claim by itself: its code and its data directory. -/
def ofLoader (info : PackageInfo) (user : UserId) : Footprint :=
  let code := ofCode info.name info.base info.splits
  match info.dataDir with
  | none => code
  | some dir => code.addDir dir user

/-- Classify a path for a user. A package without data directories for the user
is not installed for that user and matches nothing. -/
def search (f : Footprint) (path : String) (user : UserId) : Match :=
  match f.dirs.get? user with
  | none => .notFound
  | some dirs =>
    if f.base = path then .primary
    else if f.splits.contains path then .split
    else if dirs.any fun dir => isUnder dir path then .secondary
    else .notFound

end Footprint

end DexTrail
