-- SUMMARY: A session on a ledger: locked, loaded, and written at its end.
import DexTrail.Command.Machine
import DexTrail.Local.Database
import DexTrail.Manager.Register
import DexTrail.Settings.Layers

/-!
# Sessions

A session holds the lock of its ledger. It reads the package database, loads the
ledger, and writes what waits when it is closed, however its command ended.
-/

namespace DexTrail

/-- Why a command fails. -/
inductive Failure where
  | configuration
  | directory (path : String)
  | lockFile (path : String)
  | locked (seconds : Nat)
  | database (path : String)
  | noUsage (package : String)
  | notInstalled (package : String) (user : UserId)
  | registration (reason : Registration)
  | optimization (package : String)
  /-- A number of the configuration is too large for a document. -/
  | unprintable
  deriving DecidableEq, Inhabited

namespace Failure

def message : Failure → String
  | .configuration => "Failed to load configuration"
  | .directory path | .lockFile path => "Failed to create " ++ path
  | .locked seconds =>
    "Timeout waiting for ledger lock after " ++ Decimal.text seconds ++
      "s. Another dexuse process may be running."
  | .database path => "Failed to read package database " ++ path
  | .noUsage package => "No usage recorded for " ++ package
  | .notInstalled package user =>
    package ++ " is not installed for user " ++ Decimal.text user.toInt
  | .registration reason => reason.message
  | .optimization package => "Failed to optimize secondary dex files of " ++ package
  | .unprintable => "out-of-range value for u64 type"

end Failure

structure Session where
  config : Config
  database : InstalledPackages
  file : LedgerFile
  manager : Manager

namespace Session

variable {links : Bool}

/-- The services of the session's machine. -/
def services (s : Session) : Services (Machine links) :=
  Machine.services s.database s.config.optimizerCommand

/-- How long a locked ledger is waited for, in seconds. -/
def lockTimeout (m : Machine links) : Nat :=
  (((m.vars.get? "DEXUSE_LOCK_TIMEOUT").bind Invocation.seconds?).map (·.toNat)).getD 30

/-- The file whose lock guards a ledger. -/
def lockPath (ledgerPath : String) : String := Path.withSuffix ledgerPath ".lock"

/-- Make and lock the file that guards a ledger. -/
def acquire (m : Machine links) (path : String) : Machine links × Except Failure Unit :=
  match (Path.parent? path).filter fun parent => !parent.isEmpty with
  | none => create m
  | some parent =>
    match m.files.makeDirs m.cwd parent with
    | (files, .error _) => ({ m with files }, .error (.directory parent))
    | (files, .ok ()) => create { m with files }
where
  create (m : Machine links) : Machine links × Except Failure Unit :=
    match m.files.writeFile m.cwd path .empty with
    | .error _ => (m, .error (.lockFile path))
    | .ok files =>
      let m := { m with files }
      if m.isLocked path then (m, .error (.locked (lockTimeout m))) else (m, .ok ())

/-- Open a session with a configuration. -/
def start (config : Config) (m : Machine links) : Machine links × Except Failure Session :=
  let ledgerPath := config.resolvedLedgerPath m.home
  match acquire m (lockPath ledgerPath) with
  | (m, .error failure) => (m, .error failure)
  | (m, .ok ()) =>
    let databasePath := config.resolvedPackageDatabase m.home
    match InstalledPackages.readDatabase m.files m.cwd databasePath with
    | .error _ => (m, .error (.database databasePath))
    | .ok database =>
      let file : LedgerFile := ⟨ledgerPath, m.cwd⟩
      let manager := (Manager.new (.ofConfig config)).load database (file.read m.files)
      (m, .ok { config, database, file, manager })

/-- Write what waits. -/
def close (s : Session) (m : Machine links) : Machine links :=
  { m with files := (s.manager.flush s.file m.files).2 }

end Session

end DexTrail
