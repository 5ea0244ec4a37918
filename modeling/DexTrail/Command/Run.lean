-- SUMMARY: Carrying out the commands of the program.
import DexTrail.Command.Session
import DexTrail.Manager.Maintenance

/-!
# Carrying out commands

`Invocation.carryOut` runs a command in a session and closes it; `Program.run`
does so for a line of arguments. A failure is told by its message, and usage
mistakes by the exit code alone.
-/

namespace DexTrail

variable {links : Bool}

namespace Session

/-! ## Showing -/

def recordLine (path : String) (r : UsageRecord) : String :=
  "  " ++ path ++ "  user=" ++ Decimal.text r.owner.toInt ++ " isa=" ++
    String.intercalate "," r.isas.toList ++ " shared=" ++ (if r.shared then "true" else "false") ++
    (if r.code then " (primary/split)" else "")

def packageLine (package : String) (u : PackageUsage) : String :=
  "  " ++ package ++ ": " ++ Decimal.text u.size ++ " dex file(s)" ++
    (if PackageUsage.isShared u then ", used by other apps" else "")

def headLine (path : String) (l : Ledger) : String :=
  "Ledger: " ++ path ++ " (" ++ Decimal.text l.size ++ " package(s), " ++
    Decimal.text l.recordCount ++ " record(s))"

/-- Show one package. -/
def showPackage (s : Session) (m : Machine links) (package : String) (json : Bool) :
    Machine links × Except Failure Unit :=
  match s.manager.ledger.usage? package with
  | none => (m, .error (.noUsage package))
  | some u =>
    if json then (m.printLine (PackageUsage.encode u).print, .ok ())
    else
      (u.toList.foldl (fun m (path, r) => m.printLine (recordLine path r)) (m.printLine package),
        .ok ())

/-- Show the whole ledger. -/
def showLedger (s : Session) (m : Machine links) (json : Bool) : Machine links :=
  let l := s.manager.ledger
  if json then m.printLine l.encode.print
  else
    l.packages.toList.foldl (fun m (package, u) => m.printLine (packageLine package u))
      (m.printLine (headLine s.file.path l))

/-! ## Maintenance -/

def reportLines (r : MaintenanceReport) : List String :=
  ("Maintenance: " ++ Decimal.text r.packages ++ " package(s), " ++ Decimal.text r.removed ++
    " stale record(s) removed, " ++ Decimal.text r.failed.length ++ " failed") ::
    r.failed.map fun package => "  failed: " ++ package

/-- One pass of maintenance with its report. -/
def maintainOnce (s : Session) (m : Machine links) : Session × Machine links :=
  let (manager, m, report) := s.manager.maintain s.services m
  ({ s with manager }, (reportLines report).foldl Machine.printLine m)

/-- Pass after pass until `lines` lines are printed. Every pass prints one at
least, so `lines` passes suffice. -/
def maintainUntil (lines : Nat) : Nat → Session → Machine links → Session × Machine links
  | 0, s, m => (s, m)
  | fuel + 1, s, m =>
    let (s, m) := s.maintainOnce m
    if lines ≤ m.lineCount then (s, m) else maintainUntil lines fuel s m

/-! ## Commands -/

/-- Do something for a package that the database lists for a user. -/
def withPackage (s : Session) (m : Machine links) (package : String) (user : UserId)
    (act : PackageInfo → Session × Machine links × Except Failure Unit) :
    Session × Machine links × Except Failure Unit :=
  match s.database.find? package user with
  | none => (s, m, .error (.notInstalled package user))
  | some info => act info

/-- Run a command of the session. A maintenance loop ends when `lines` lines are
printed. -/
def perform (s : Session) (m : Machine links) (lines : Nat) :
    Command → Session × Machine links × Except Failure Unit
  | .show (some package) json =>
    let (m, result) := s.showPackage m package json
    (s, m, result)
  | .show none json => (s, s.showLedger m json, .ok ())
  | .packages => (s, s.manager.ledger.withSecondary.foldl Machine.printLine m, .ok ())
  | .load paths loader isa user =>
    s.withPackage m loader user fun info =>
      ({ s with manager := s.manager.noteLoad info paths isa user }, m, .ok ())
  | .register path package user shared =>
    s.withPackage m package user fun info =>
      let (manager, m, outcome) := s.manager.register s.services m info path shared user
      let s := { s with manager }
      if outcome.success then (s, m.printLine outcome.message, .ok ())
      else (s, m, .error (.registration outcome))
  | .reconcile package =>
    let (manager, m, report) := s.manager.reconcile s.services m package
    ({ s with manager }, m.printLine (package ++ ": examined " ++ Decimal.text report.examined ++
      ", removed " ++ Decimal.text report.removed), .ok ())
  | .optimize package target force onlyShared =>
    let (manager, m, success) := s.manager.optimize s.services m package target force onlyShared
    let s := { s with manager }
    if success then
      (s, m.printLine (package ++ ": optimized with " ++ s.manager.policy.filterOf target), .ok ())
    else (s, m, .error (.optimization package))
  | .forget package user =>
    ({ s with manager := s.manager.noteDataDestroyed package user }, m, .ok ())
  | .maintain _ once =>
    let (s, m) := if once then s.maintainOnce m else maintainUntil lines (max lines 1) s m
    (s, m, .ok ())
  | .showConfig | .showPaths => (s, m, .ok ())

end Session

/-! ## Invocations -/

namespace Invocation

/-- The configuration with what the line of arguments sets. -/
def configure (i : Invocation) (c : Config) : Config :=
  { c with
    ledgerPath := i.ledger.getD c.ledgerPath
    packageDatabase := i.packages.getD c.packageDatabase }

/-- Where the documents and the ledger are. -/
def printPaths (c : Config) (m : Machine links) : Machine links :=
  let shown := (Config.globalPath? m.home).getD "(no home directory)"
  ((m.printLine ("Global:  " ++ shown)).printLine ("Project: " ++ Config.projectPath)).printLine
    ("Ledger:  " ++ c.resolvedLedgerPath m.home)

/-- Carry out an invocation. -/
def carryOut (i : Invocation) (lines : Nat) (m : Machine links) :
    Machine links × Except Failure Unit :=
  match Config.load m.files m.cwd m.home m.environment with
  | .error _ => (m, .error .configuration)
  | .ok c =>
    let c := i.configure c
    match i.command with
    | .showConfig =>
      match c.print? with
      | none => (m, .error .unprintable)
      | some text => (m.print text, .ok ())
    | .showPaths => (printPaths c m, .ok ())
    | command =>
      match Session.start c m with
      | (m, .error failure) => (m, .error failure)
      | (m, .ok s) =>
        let (s, m, result) := s.perform m lines command
        (s.close m, result)

end Invocation

namespace Program

/-- The name and the version of the program. -/
def version : String := "dexuse 0.1.0"

/-- What becomes of a run. -/
structure Outcome where
  code : UInt8
  /-- The message of a failure. -/
  failure : Option String
  deriving DecidableEq, Inhabited

/-- What is told of a failure. -/
def Outcome.complaint (o : Outcome) : String :=
  match o.failure with
  | some message => "Error: " ++ message ++ "\n"
  | none => ""

/-- Run the program with a line of arguments. -/
def run (args : List String) (lines : Nat) (m : Machine links) : Machine links × Outcome :=
  match Invocation.parse args m.vars with
  | .error .mistake => (m, ⟨2, none⟩)
  | .error .help => (m, ⟨0, none⟩)
  | .error .version => (m.printLine version, ⟨0, none⟩)
  | .ok i =>
    match i.carryOut lines m with
    | (m, .ok ()) => (m, ⟨0, none⟩)
    | (m, .error failure) => (m, ⟨1, some failure.message⟩)

end Program

end DexTrail
