-- SUMMARY: Idle maintenance: reconcile and compile everything that has secondary files.
import DexTrail.Manager.Optimize
import DexTrail.Manager.Reconcile

/-!
# Idle maintenance

The packages that have secondary files are taken in name order; each is
reconciled and then compiled.
-/

namespace DexTrail

structure MaintenanceReport where
  /-- How many packages were taken. -/
  packages : Nat
  /-- How many secondary records went. -/
  removed : Nat
  /-- The packages whose compilation failed. -/
  failed : List String
  deriving DecidableEq, Inhabited

namespace Manager

variable {ω : Type}

/-- Reconcile and compile one package. -/
def maintainPackage (services : Services ω) (m : Manager) (w : ω) (report : MaintenanceReport)
    (package : String) : Manager × ω × MaintenanceReport :=
  let (m, w, reconciled) := m.reconcile services w package
  let (m, w, success) := m.optimize services w package (.reason .backgroundDexopt) false false
  (m, w, {
    packages := report.packages + 1
    removed := report.removed + reconciled.removed
    failed := if success then report.failed else report.failed ++ [package] })

/-- One pass over all packages that have secondary files at its start. -/
def maintain (services : Services ω) (m : Manager) (w : ω) : Manager × ω × MaintenanceReport :=
  m.ledger.withSecondary.foldl
    (fun (m, w, report) package => m.maintainPackage services w report package)
    (m, w, ⟨0, 0, []⟩)

end Manager

end DexTrail
