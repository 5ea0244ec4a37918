-- SUMMARY: The configuration, its defaults, and how its sources are laid over one another.
import DexTrail.Data.SortedMap
import DexTrail.Disk.Path
import DexTrail.Text.Decimal

/-!
# Configuration

The configuration is built in layers: the defaults, the global document, the
project document, the environment and the arguments. A project setting counts
when it differs from the default. Filters are laid over one by one.
-/

namespace DexTrail

structure Config where
  ledgerPath : String
  writeDebounceMs : UInt64
  frameworkRoots : List String
  supportedIsas : List String
  /-- Compiler filters by the name of the reason. -/
  filters : SortedMap String String
  /-- The program that compiles code, and its first arguments; empty for none. -/
  optimizerCommand : List String
  maintenanceIntervalSecs : UInt64
  packageDatabase : String
  deriving DecidableEq

namespace Config

def default : Config where
  ledgerPath := "~/.dexuse/package-dex-usage.json"
  writeDebounceMs := 1000
  frameworkRoots := ["/system/framework/"]
  supportedIsas := ["arm", "arm64", "x86", "x86_64", "mips", "mips64", "riscv64"]
  filters := .ofList [
    ("first-boot", "verify"),
    ("boot", "verify"),
    ("install", "speed-profile"),
    ("bg-dexopt", "speed-profile"),
    ("ab-ota", "speed-profile"),
    ("inactive", "verify"),
    ("shared", "speed")]
  optimizerCommand := []
  maintenanceIntervalSecs := 24 * 60 * 60
  packageDatabase := "~/.dexuse/packages.json"

instance : Inhabited Config := ⟨default⟩

/-- The filter that the configuration names for a reason. -/
def filterFor? (c : Config) (reason : String) : Option String := c.filters.get? reason

/-! ## Layers -/

/-- `value`, unless it is the default. -/
def unlessDefault {α : Type} [BEq α] (default value below : α) : α :=
  if value == default then below else value

/-- A path, unless it has the components of the default. -/
def pathUnlessDefault (default value below : String) : String :=
  if Path.same value default then below else value

/-- Lay the settings of a project over the configuration. -/
def overlay (c project : Config) : Config where
  ledgerPath := pathUnlessDefault default.ledgerPath project.ledgerPath c.ledgerPath
  writeDebounceMs :=
    unlessDefault default.writeDebounceMs project.writeDebounceMs c.writeDebounceMs
  frameworkRoots := unlessDefault default.frameworkRoots project.frameworkRoots c.frameworkRoots
  supportedIsas := unlessDefault default.supportedIsas project.supportedIsas c.supportedIsas
  filters := c.filters.insertMany (project.filters.toList.filter fun (reason, filter) =>
    default.filters.get? reason != some filter)
  optimizerCommand := unlessDefault [] project.optimizerCommand c.optimizerCommand
  maintenanceIntervalSecs :=
    unlessDefault default.maintenanceIntervalSecs project.maintenanceIntervalSecs
      c.maintenanceIntervalSecs
  packageDatabase :=
    pathUnlessDefault default.packageDatabase project.packageDatabase c.packageDatabase

/-- The values that the environment gives. -/
structure Environment where
  ledger : Option String
  packages : Option String
  debounceMs : Option String
  deriving DecidableEq, Inhabited

/-- Lay the environment over the configuration. A wait that is no number is ignored. -/
def withEnvironment (c : Config) (env : Environment) : Config :=
  { c with
    ledgerPath := env.ledger.getD c.ledgerPath
    packageDatabase := env.packages.getD c.packageDatabase
    writeDebounceMs :=
      (env.debounceMs.bind fun text =>
        (Decimal.readLaxNat? text.toList).bind Decimal.toUInt64?).getD c.writeDebounceMs }

/-! ## Places -/

/-- The global document below the home directory. -/
def globalPath? (home : Option String) : Option String :=
  home.map fun home => Path.join home ".dexuse/config.toml"

/-- The project document below the working directory. -/
def projectPath : String := ".dexuse/config.toml"

def resolvedLedgerPath (c : Config) (home : Option String) : String :=
  Path.expandHome home c.ledgerPath

def resolvedPackageDatabase (c : Config) (home : Option String) : String :=
  Path.expandHome home c.packageDatabase

end Config

end DexTrail
