-- SUMMARY: The machine on which a command runs, and its services.
import DexTrail.Command.Invocation
import DexTrail.Local.Artifacts
import DexTrail.Local.Compiler
import DexTrail.Settings.Config

/-!
# The machine

A command sees a file tree, a working directory, environment variables, the locks
that other processes hold, and programs that it can run; and it prints. A program
that it runs may change the files and prints to the same places.
-/

namespace DexTrail

variable {links : Bool}

structure Machine (links : Bool := false) where
  files : FileTree links
  cwd : Location
  vars : Variables
  /-- Files that other processes have locked. -/
  locks : List Location
  /-- Runs a program with its arguments. -/
  execute : Executor links
  /-- What was printed so far. -/
  output : String
  /-- What the programs that ran complained about. -/
  complaints : String

namespace Machine

/-- The home directory of a user for whom the environment names none. -/
def fallbackHome : String := "/root"

/-- The home directory by the variable that names it, which may be missing or empty. -/
def homeOf : Option String → String
  | none | some "" => fallbackHome
  | some home => home

def home (m : Machine links) : Option String := some (homeOf (m.vars.get? "HOME"))

/-- The environment's part of the configuration. -/
def environment (m : Machine links) : Config.Environment where
  ledger := m.vars.get? "DEXUSE_LEDGER"
  packages := m.vars.get? "DEXUSE_PACKAGES"
  debounceMs := m.vars.get? "DEXUSE_WRITE_DEBOUNCE_MS"

def print (m : Machine links) (text : String) : Machine links :=
  { m with output := m.output ++ text }

def printLine (m : Machine links) (line : String) : Machine links := m.print (line ++ "\n")

/-- How many lines were printed. -/
def lineCount (m : Machine links) : Nat := m.output.toList.count '\n'

/-- Whether another process has locked the file at a path. -/
def isLocked (m : Machine links) (path : String) : Bool :=
  match m.files.locate m.cwd path with
  | .ok target => m.locks.contains target.location
  | .error _ => false

/-- The services of a machine: packages from a database, files from its tree, and
compilation by a command. -/
def services (database : InstalledPackages) (command : List String) : Services (Machine links) where
  lookup package user m := (m, .ok (database.find? package user))
  enumerate m := (m, .ok database)
  fileExists _ path m := (m, Artifacts.dexExists m.files path)
  cleanUp _ request m :=
    let (files, answer) := Artifacts.cleanUp m.files request.path request.isas
    ({ m with files }, answer)
  optimize request m :=
    let (execution, result) :=
      request.carryOut (m.execute m.files m.cwd m.vars) m.files command
    ({ m with
      files := execution.files
      output := m.output ++ execution.stdout
      complaints := m.complaints ++ execution.stderr }, result)

end Machine

end DexTrail
