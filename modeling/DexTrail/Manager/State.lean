-- SUMMARY: The state of the manager and its answers to what happens to packages.
import DexTrail.Attribution.Resolve
import DexTrail.Manager.Services
import DexTrail.Settings.Policy
import DexTrail.Usage.Store

/-!
# The manager

The manager holds the registry of footprints and the store of usage records, and
keeps both in step with what it is told: packages are installed, updated and
removed, their data is destroyed, and they load dex files.
-/

namespace DexTrail

structure Manager where
  policy : Policy
  registry : Registry
  store : Store
  deriving DecidableEq, Inhabited

namespace Manager

/-- A manager that knows no package and holds no record. -/
def new (policy : Policy) : Manager := ⟨policy, .empty, .empty⟩

def ledger (m : Manager) : Ledger := m.store.ledger

/-- Take a changed ledger and request its write. -/
def updateLedger (m : Manager) (result : Ledger × Bool) : Manager :=
  { m with store := m.store.update result }

/-- Attribute a path that a package loads. -/
def resolve (m : Manager) (loader : PackageInfo) (path : String) (user : UserId) : Attribution :=
  m.registry.resolve m.policy.frameworkRoots loader path user

/-! ## Loads -/

/-- What a load of a path means for the ledger: nothing when the path belongs to
nobody, or is the loader's own installed code. -/
def loadOf? (m : Manager) (loader : PackageInfo) (isa : String) (user : UserId) (path : String) :
    Option DexLoad :=
  let attribution := m.resolve loader path user
  match attribution.owner with
  | none => none
  | some owner =>
    let shared := owner != loader.name
    let code := attribution.outcome.isCode
    if code && !shared then none else some { package := owner, path, user, isa, shared, code }

/-- Record loads one after another. A refused load changes nothing and stops
nothing. The answer says whether the ledger changed. -/
def recordAll (l : Ledger) (loads : List DexLoad) : Ledger × Bool :=
  loads.foldl (fun (l, changed) load =>
    match l.record load with
    | (l, .ok c) => (l, changed || c)
    | (l, .error _) => (l, changed)) (l, false)

/-- A package loads dex files. Loads in an instruction set that is not supported
are ignored. -/
def noteLoad (m : Manager) (loader : PackageInfo) (paths : List String) (isa : String)
    (user : UserId) : Manager :=
  if m.policy.supports isa then
    m.updateLedger (recordAll m.ledger (paths.filterMap (m.loadOf? loader isa user)))
  else m

/-! ## Packages -/

/-- A package is installed for one user. -/
def noteInstalled (m : Manager) (info : PackageInfo) (user : UserId) :
    Except InvalidArgument Manager :=
  if user = .all then .error .installedForAll
  else .ok { m with registry := m.registry.addPackage info user }

/-- The code of a package is replaced. Nobody is known to use the new code. -/
def noteUpdated (m : Manager) (package base : String) (splits : List String) : Manager :=
  { m with registry := m.registry.setCode package base splits }.updateLedger
    (m.ledger.clearShared package)

/-- The data of a package is destroyed for one user or for all. -/
def noteDataDestroyed (m : Manager) (package : String) (user : UserId) : Manager :=
  m.updateLedger
    (if user = .all then m.ledger.removePackage package else m.ledger.removeUser package user)

/-- A package is removed for one user or for all. Its records stay. -/
def noteRemoved (m : Manager) (package : String) (user : UserId) : Manager :=
  { m with registry :=
      (if user = .all then m.registry.remove package
        else m.registry.removeUser package user).1 }

/-! ## Loading -/

/-- Take up all installed packages, the users in ascending order. -/
def addPackages (r : Registry) (installed : InstalledPackages) : Registry :=
  installed.toList.foldl (fun r (user, infos) =>
    infos.foldl (fun r info => r.addPackage info user) r) r

/-- Take up the installed packages and the ledger that was read, without the
records of what is not installed. -/
def load (m : Manager) (installed : InstalledPackages)
    (reading : Except LedgerError (Option Ledger)) : Manager :=
  { m with
    registry := addPackages m.registry installed
    store := ((m.store.load reading).sync installed.usersByPackage).1 }

/-- Load with the packages that the authority lists. -/
def loadInstalled {ω : Type} (services : Services ω) (m : Manager) (w : ω)
    (reading : Except LedgerError (Option Ledger)) : ω × Except AuthorityError Manager :=
  match services.enumerate w with
  | (w, .error e) => (w, .error e)
  | (w, .ok installed) => (w, .ok (m.load installed reading))

/-- Write what waits. -/
def flush {links : Bool} (m : Manager) (file : LedgerFile) (t : FileTree links) :
    Manager × FileTree links :=
  let (store, t) := m.store.flush file t
  ({ m with store }, t)

end Manager

end DexTrail
