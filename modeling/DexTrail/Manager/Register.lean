-- SUMMARY: Registering a dex module that a package is going to load.
import DexTrail.Manager.State

/-!
# Registration of modules

A package announces a secondary file of its own. The file is recorded for every
instruction set of the package and compiled at once; a compilation that fails is
left to maintenance.
-/

namespace DexTrail

/-- What becomes of a registration. -/
inductive Registration where
  | registered
  | missing
  | inaccessible
  | packageNotFound
  | foreign
  | installedCode
  | noIsas
  deriving DecidableEq, Inhabited, Repr

namespace Registration

def success (r : Registration) : Bool := r == .registered

def message : Registration → String
  | .registered => "Dex module registered successfully"
  | .missing => "Dex module does not exist"
  | .inaccessible => "Dex module could not be accessed"
  | .packageNotFound => "Package not found"
  | .foreign => "Dex path does not belong to package"
  | .installedCode => "Main apks cannot be registered"
  | .noIsas => "Package has no instruction sets"

end Registration

namespace Manager

variable {ω : Type}

/-- Why an existing file cannot be registered for a package, if it cannot. -/
def registerObstacle? (m : Manager) (app : PackageInfo) (path : String) (user : UserId) :
    Option Registration :=
  let attribution := m.resolve app path user
  if attribution.outcome = .notFound then some .packageNotFound
  else if attribution.owner ≠ some app.name then some .foreign
  else if attribution.outcome.isCode then some .installedCode
  else if app.isas.isEmpty then some .noIsas
  else none

/-- Register a dex module of a package for a user. -/
def register (services : Services ω) (m : Manager) (w : ω) (app : PackageInfo) (path : String)
    (shared : Bool) (user : UserId) : Manager × ω × Registration :=
  match services.fileExists .held path w with
  | (w, .ok false) => (m, w, .missing)
  | (w, .error _) => (m, w, .inaccessible)
  | (w, .ok true) =>
    match m.registerObstacle? app path user with
    | some obstacle => (m, w, obstacle)
    | none =>
      let loads := app.isas.map fun isa =>
        { package := app.name, path, user, isa, shared, code := false }
      let m := m.updateLedger (recordAll m.ledger loads)
      let request : Optimization := {
        app, path, isas := .ofList app.isas
        filter := m.policy.filterForReason .install
        shared, force := false }
      let (w, _) := services.optimize request w
      (m, w, .registered)

end Manager

end DexTrail
