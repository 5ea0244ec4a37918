-- SUMMARY: Dropping the records of secondary files that are gone.
import DexTrail.Manager.State

/-!
# Reconciliation

Every secondary file of a package is looked at in path order. Its record goes
when the package is not installed for the owner, when the file lies in neither
storage area of the package, or when the helper says that the file is missing. A
service that fails drops nothing.
-/

namespace DexTrail

/-- The storage area in which a path lies. -/
def PackageInfo.storageOf? (info : PackageInfo) (path : String) : Option StorageKind :=
  if info.deviceDir.any fun dir => isUnder dir path then some .deviceProtected
  else if info.credentialDir.any fun dir => isUnder dir path then some .credentialProtected
  else none

structure ReconcileReport where
  /-- How many secondary files were looked at. -/
  examined : Nat
  /-- How many secondary records went. -/
  removed : Nat
  deriving DecidableEq, Inhabited

/-- Reconciliation on its way. -/
structure Sweep (ω : Type) where
  ledger : Ledger
  /-- The secondary paths whose records went. -/
  removed : SortedSet String
  world : ω

namespace Sweep

variable {ω : Type}

/-- Drop all records of a user, who has the package no more. -/
def dropUser (s : Sweep ω) (package : String) (usage : PackageUsage) (user : UserId) : Sweep ω :=
  match s.ledger.removeUser package user with
  | (ledger, true) =>
    let gone := usage.secondary.filter fun e => e.2.owner == user
    { s with ledger, removed := s.removed.insertMany (gone.map (·.1)) }
  | (ledger, false) => { s with ledger }

/-- Drop the record of a file. -/
def dropFile (s : Sweep ω) (package path : String) (user : UserId) : Sweep ω :=
  match s.ledger.removeFile package path user with
  | (ledger, true) => { s with ledger, removed := s.removed.insert path }
  | (ledger, false) => { s with ledger }

/-- Look at one secondary file of the usage that the package had at the start. -/
def examine (services : Services ω) (package : String) (usage : PackageUsage) (s : Sweep ω)
    (path : String) (r : UsageRecord) : Sweep ω :=
  match services.lookup package r.owner s.world with
  | (world, .error _) => { s with world }
  | (world, .ok none) => { s with world }.dropUser package usage r.owner
  | (world, .ok (some app)) =>
    match app.storageOf? path with
    | none => { s with world }.dropFile package path r.owner
    | some storage =>
      let request : Cleanup :=
        { path, package, uid := app.uid, isas := r.isas.toList, volume := app.volume, storage }
      match services.cleanUp .held request world with
      | (world, .ok false) => { s with world }.dropFile package path r.owner
      | (world, .ok true) => { s with world }
      | (world, .error _) => { s with world }

/-- Look at all secondary files of a package. -/
def run (services : Services ω) (package : String) (usage : PackageUsage) (s : Sweep ω) : Sweep ω :=
  usage.secondary.foldl (fun s (path, r) => s.examine services package usage path r) s

end Sweep

/-- Reconcile the secondary files of a package. -/
def Manager.reconcile {ω : Type} (services : Services ω) (m : Manager) (w : ω) (package : String) :
    Manager × ω × ReconcileReport :=
  match m.ledger.usage? package with
  | none => (m, w, ⟨0, 0⟩)
  | some usage =>
    let s := Sweep.run services package usage ⟨m.ledger, .empty, w⟩
    let removed := s.removed.size
    (m.updateLedger (s.ledger, removed > 0), s.world, ⟨usage.secondary.length, removed⟩)

end DexTrail
