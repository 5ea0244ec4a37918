-- SUMMARY: The ledger of dex file usage and the operations that change it.
import DexTrail.Usage.Record

/-!
# The ledger

The ledger maps packages to their files' records. Every operation says whether
it changed something, which is what decides if the ledger is written again. A
package whose last record goes is itself dropped.
-/

namespace DexTrail

/-! ## Loads -/

/-- One load of a dex file, attributed to the package that owns the file. -/
structure DexLoad where
  package : String
  path : String
  user : UserId
  isa : String
  /-- Whether the loading package is not the owner. -/
  shared : Bool
  /-- Whether the file is part of the owner's installed code. -/
  code : Bool
  deriving DecidableEq, Inhabited

/-- A secondary file was recorded for one user and loaded for another. -/
structure OwnerMismatch where
  package : String
  path : String
  existing : UserId
  requested : UserId
  deriving DecidableEq, Inhabited

/-! ## Ledgers -/

structure Ledger where
  packages : SortedMap String PackageUsage
  deriving DecidableEq

namespace Ledger

def empty : Ledger := ⟨.empty⟩

instance : Inhabited Ledger := ⟨empty⟩

def usage? (l : Ledger) (package : String) : Option PackageUsage := l.packages.get? package

/-- The record of a file of a package. -/
def record? (l : Ledger) (package path : String) : Option UsageRecord :=
  (l.usage? package).bind fun u => u.get? path

/-- The number of packages. -/
def size (l : Ledger) : Nat := l.packages.size

def isEmpty (l : Ledger) : Bool := l.packages.isEmpty

/-- The number of records of all packages. -/
def recordCount (l : Ledger) : Nat := l.packages.values.foldl (fun n u => n + u.size) 0

/-- The packages that have a secondary file. -/
def withSecondary (l : Ledger) : List String :=
  (l.packages.toList.filter fun e => e.2.hasSecondary).map (·.1)

/-- Whether another package uses a file of this one. -/
def isShared (l : Ledger) (package : String) : Bool :=
  match l.usage? package with
  | none => false
  | some u => u.isShared

/-! ### Recording -/

/-- Put a record for a file of a package in place. -/
def setRecord (l : Ledger) (package path : String) (r : UsageRecord) : Ledger :=
  ⟨l.packages.insert package (((l.usage? package).getD .empty).insert path r)⟩

/-- Record a load. A package that loads its own installed code leaves no trace.
Loads of a known file are merged into its record, unless the file is secondary
and belongs to another user. The answer says whether the ledger changed. -/
def record (l : Ledger) (load : DexLoad) : Ledger × Except OwnerMismatch Bool :=
  if load.code && !load.shared then (l, .ok false)
  else
    match l.record? load.package load.path with
    | none =>
      (l.setRecord load.package load.path (.ofLoad load.user load.isa load.shared load.code),
        .ok true)
    | some r =>
      if r.isSecondary && !load.code && r.owner != load.user then
        (l, .error ⟨load.package, load.path, r.owner, load.user⟩)
      else
        (l.setRecord load.package load.path (r.merge load.isa load.shared),
          .ok (r.mergeChanges load.isa load.shared))

/-! ### Removing -/

/-- Keep those files of a package that `keep` selects. The answer says whether a
file went. A package left without files goes too. -/
def restrict (l : Ledger) (package : String) (keep : String → UsageRecord → Bool) :
    Ledger × Bool :=
  match l.usage? package with
  | none => (l, false)
  | some u =>
    let kept := u.filter keep
    let packages :=
      if kept.isEmpty then l.packages.erase package else l.packages.insert package kept
    (⟨packages⟩, kept.size != u.size)

/-- Drop the records of a package's installed code: after an update nobody is
known to use it. -/
def clearShared (l : Ledger) (package : String) : Ledger × Bool :=
  l.restrict package fun _ r => r.isSecondary

/-- Drop a package with all its records. -/
def removePackage (l : Ledger) (package : String) : Ledger × Bool :=
  (⟨l.packages.erase package⟩, l.packages.contains package)

/-- Drop the records of a package that belong to a user. -/
def removeUser (l : Ledger) (package : String) (user : UserId) : Ledger × Bool :=
  l.restrict package fun _ r => r.owner != user

/-- Drop the record of a file if it belongs to the user. -/
def removeFile (l : Ledger) (package path : String) (user : UserId) : Ledger × Bool :=
  match l.record? package path with
  | none => (l, false)
  | some r =>
    if r.owner = user then l.restrict package fun p _ => p != path else (l, false)

/-- Drop every record whose package is not installed for its owner. -/
def sync (l : Ledger) (installed : SortedMap String (SortedSet UserId)) : Ledger × Bool :=
  let keep (package : String) (u : PackageUsage) : PackageUsage :=
    match installed.get? package with
    | none => .empty
    | some users => u.filter fun _ r => users.contains r.owner
  let packages := l.packages.filterMap fun package u =>
    let kept := keep package u
    if kept.isEmpty then none else some kept
  (⟨packages⟩,
    l.packages.any fun package u =>
      !installed.contains package || (keep package u).size != u.size)

/-- The ledger that a document gives: packages without records are left out. -/
def ofDocument (doc : Ledger) : Ledger := ⟨doc.packages.filter fun _ u => !u.isEmpty⟩

/-! ## What each operation does to the records -/

/-- Ledgers that give every package the same files are equal. -/
theorem ext {l k : Ledger} (h : ∀ p, l.usage? p = k.usage? p) : l = k := by
  cases l
  cases k
  exact congrArg Ledger.mk (SortedMap.ext h)

@[simp] theorem usage?_empty (p : String) : empty.usage? p = none := rfl

@[simp] theorem record?_empty (p path : String) : empty.record? p path = none := rfl

theorem usage?_setRecord (l : Ledger) (p path q : String) (r : UsageRecord) :
    (l.setRecord p path r).usage? q =
      if q = p then some (((l.usage? p).getD .empty).insert path r) else l.usage? q := by
  simp [setRecord, usage?, SortedMap.get?_insert]

theorem record?_setRecord (l : Ledger) (p path q file : String) (r : UsageRecord) :
    (l.setRecord p path r).record? q file =
      if q = p ∧ file = path then some r else l.record? q file := by
  rw [record?, usage?_setRecord]
  by_cases hq : q = p
  · subst hq
    cases hu : l.usage? q <;> simp [record?, hu, SortedMap.get?_insert]
  · simp [hq, record?]

theorem record?_restrict (l : Ledger) (p q file : String) (keep : String → UsageRecord → Bool) :
    (l.restrict p keep).1.record? q file =
      if q = p then (l.record? q file).filter (keep file) else l.record? q file := by
  rw [restrict]
  cases hu : l.usage? p with
  | none =>
    by_cases hq : q = p
    · subst hq
      simp [record?, hu]
    · simp [hq]
  | some u =>
    by_cases hq : q = p
    · subst hq
      simp only [if_true, record?, hu, Option.bind_some, ← SortedMap.get?_filter]
      split
      · next he => simp [usage?, SortedMap.get?_erase, SortedMap.isEmpty_iff.1 he]
      · simp [usage?]
    · by_cases he : (SortedMap.filter keep u).isEmpty
      · simp [he, hq, record?, usage?, SortedMap.get?_erase]
      · simp [he, hq, record?, usage?, SortedMap.get?_insert]

theorem record?_removePackage (l : Ledger) (p q file : String) :
    (l.removePackage p).1.record? q file = if q = p then none else l.record? q file := by
  by_cases hq : q = p <;> simp [removePackage, record?, usage?, SortedMap.get?_erase, hq]

/-- After pruning, a record is there when it was and its package is installed for
its owner. -/
theorem record?_sync (l : Ledger) (installed : SortedMap String (SortedSet UserId))
    (p file : String) :
    (l.sync installed).1.record? p file =
      (l.record? p file).filter fun r =>
        (installed.get? p).any fun users => users.contains r.owner := by
  simp only [sync, record?, usage?, SortedMap.get?_filterMap]
  cases l.packages.get? p with
  | none => rfl
  | some u =>
    cases hi : installed.get? p with
    | none =>
      cases hr : SortedMap.get? u file <;>
        simp [SortedMap.isEmpty, SortedMap.empty, hr, Option.filter]
    | some users =>
      simp only [Option.bind_some, Option.any_some,
        ← SortedMap.get?_filter u fun _ r => users.contains r.owner]
      split
      · next he => simp [SortedMap.isEmpty_iff.1 he]
      · simp

/-! ## What is said of packages -/

theorem mem_withSecondary_iff {l : Ledger} {p : String} :
    p ∈ l.withSecondary ↔ ∃ path r, l.record? p path = some r ∧ r.isSecondary := by
  simp only [withSecondary, List.mem_map, List.mem_filter]
  constructor
  · rintro ⟨⟨q, u⟩, ⟨hu, hsecondary⟩, rfl⟩
    obtain ⟨path, r, hr, hr'⟩ := SortedMap.any_iff.1 hsecondary
    exact ⟨path, r, Option.bind_eq_some_iff.2 ⟨u, SortedMap.mem_toList_iff.1 hu, hr⟩, hr'⟩
  · rintro ⟨path, r, hr, hsecondary⟩
    obtain ⟨u, hu, hpath⟩ := Option.bind_eq_some_iff.1 hr
    exact ⟨(p, u), ⟨SortedMap.mem_toList_iff.2 hu, SortedMap.any_iff.2 ⟨path, r, hpath, hsecondary⟩⟩,
      rfl⟩

theorem isShared_iff {l : Ledger} {p : String} :
    l.isShared p ↔ ∃ path r, l.record? p path = some r ∧ r.shared := by
  unfold isShared record?
  cases l.usage? p with
  | none => simp
  | some u => exact SortedMap.any_iff

end Ledger

end DexTrail
