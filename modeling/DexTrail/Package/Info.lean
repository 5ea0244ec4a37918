-- SUMMARY: Users of the device and what the package database says about an installed package.
import DexTrail.Data.SortedSet

/-!
# Installed packages

A package is known by its name, its code (a base file and its splits) and the
private storage that it has for the user for whom it is installed.
-/

namespace DexTrail

/-- A user of the device, as a signed 32-bit number. -/
abbrev UserId := Int32

/-- Stands for all users at once where an operation allows that. -/
def UserId.all : UserId := -1

/-- What the package database says about a package installed for one user. -/
structure PackageInfo where
  name : String
  uid : UInt32
  /-- The primary code file. -/
  base : String
  splits : List String
  dataDir : Option String
  /-- Storage that is readable before the user unlocks the device. -/
  deviceDir : Option String
  /-- Storage that is readable after the user unlocked the device. -/
  credentialDir : Option String
  /-- The storage volume, when it is not the internal one. -/
  volume : Option String
  isas : List String
  deriving DecidableEq, Inhabited

namespace PackageInfo

/-- The private directories, duplicates kept. -/
def dataDirs (info : PackageInfo) : List String :=
  [info.dataDir, info.deviceDir, info.credentialDir].filterMap id

end PackageInfo

/-- The packages installed for each user, in the order of installation. -/
abbrev InstalledPackages := SortedMap UserId (List PackageInfo)

namespace InstalledPackages

/-- The first package of that name installed for the user. -/
def find? (installed : InstalledPackages) (package : String) (user : UserId) :
    Option PackageInfo :=
  (installed.get? user).bind fun infos => infos.find? (·.name == package)

/-- For each package name the users who have it installed. -/
def usersByPackage (installed : InstalledPackages) : SortedMap String (SortedSet UserId) :=
  installed.toList.foldl (fun users (user, infos) =>
    infos.foldl (fun users info =>
      users.alter info.name fun known => some ((known.getD .empty).insert user)) users) .empty

end InstalledPackages

end DexTrail
