-- SUMMARY: How one dex file is used, and the files of a package.
import DexTrail.Package.Info

/-!
# Usage records

A record says for whom a dex file was loaded, in which instruction sets, whether
another package loaded it, and whether it is part of its owner's installed code.
Only the instruction sets and the shared mark of a record ever grow.
-/

namespace DexTrail

/-! ## Records -/

structure UsageRecord where
  owner : UserId
  /-- The instruction sets in which the file was loaded. -/
  isas : SortedSet String
  /-- Whether a package other than its owner loaded the file. -/
  shared : Bool
  /-- Whether the file is the owner's base file or one of its splits. -/
  code : Bool
  deriving DecidableEq, Inhabited

namespace UsageRecord

/-- The record of a first load. -/
def ofLoad (owner : UserId) (isa : String) (shared code : Bool) : UsageRecord :=
  { owner, isas := SortedSet.empty.insert isa, shared, code }

/-- Whether the file is not part of the installed code. -/
def isSecondary (r : UsageRecord) : Bool := !r.code

/-- Take up another load. -/
def merge (r : UsageRecord) (isa : String) (shared : Bool) : UsageRecord :=
  { r with isas := r.isas.insert isa, shared := r.shared || shared }

/-- Whether another load says anything new. -/
def mergeChanges (r : UsageRecord) (isa : String) (shared : Bool) : Bool :=
  !r.isas.contains isa || (shared && !r.shared)

end UsageRecord

/-! ## The files of a package -/

/-- The records of a package by path. -/
abbrev PackageUsage := SortedMap String UsageRecord

namespace PackageUsage

/-- The secondary files in path order. -/
def secondary (u : PackageUsage) : List (String × UsageRecord) :=
  u.toList.filter fun e => e.2.isSecondary

def hasSecondary (u : PackageUsage) : Bool := u.any fun _ r => r.isSecondary

/-- Whether another package uses some file. -/
def isShared (u : PackageUsage) : Bool := u.any fun _ r => r.shared

end PackageUsage

end DexTrail
