-- SUMMARY: Compiling the secondary files of a package.
import DexTrail.Manager.State

/-!
# Optimization

The secondary files of a package are compiled in path order, each for its owner.
The records of an owner who has the package no more are dropped instead.
-/

namespace DexTrail

/-- Optimization on its way. -/
structure OptimizePass (ω : Type) where
  ledger : Ledger
  changed : Bool
  /-- Whether no lookup and no compilation failed. -/
  success : Bool
  world : ω

namespace OptimizePass

variable {ω : Type}

/-- Compile one secondary file. -/
def compile (services : Services ω) (package filter : String) (force : Bool) (p : OptimizePass ω)
    (path : String) (r : UsageRecord) : OptimizePass ω :=
  match services.lookup package r.owner p.world with
  | (world, .error _) => { p with world, success := false }
  | (world, .ok none) =>
    let (ledger, changed) := p.ledger.removeUser package r.owner
    { p with world, ledger, changed := p.changed || changed }
  | (world, .ok (some app)) =>
    let request : Optimization := { app, path, isas := r.isas, filter, shared := r.shared, force }
    let (world, result) := services.optimize request world
    { p with world, success := p.success && result != .failed }

end OptimizePass

namespace Manager

variable {ω : Type}

/-- Compile the secondary files of a package, or those that others use. The
answer says whether nothing failed. -/
def optimize (services : Services ω) (m : Manager) (w : ω) (package : String)
    (target : CompilerTarget) (force onlyShared : Bool) : Manager × ω × Bool :=
  match m.ledger.usage? package with
  | none => (m, w, true)
  | some usage =>
    let filter := m.policy.filterOf target
    let considered := usage.secondary.filter fun e => !onlyShared || e.2.shared
    let p := considered.foldl
      (fun p (path, r) => OptimizePass.compile services package filter force p path r)
      ⟨m.ledger, false, true, w⟩
    (m.updateLedger (p.ledger, p.changed), p.world, p.success)

end Manager

end DexTrail
