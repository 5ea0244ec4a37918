-- SUMMARY: Why code is compiled, and how the compiler filter is named.

/-!
# Compile reasons

Code is compiled for a reason, and the configuration gives a compiler filter for
each reason by its name.
-/

namespace DexTrail

inductive CompileReason where
  | firstBoot
  | boot
  | install
  | backgroundDexopt
  | otaUpdate
  | inactive
  | shared
  deriving DecidableEq, Inhabited, Repr

namespace CompileReason

def all : List CompileReason :=
  [.firstBoot, .boot, .install, .backgroundDexopt, .otaUpdate, .inactive, .shared]

def name : CompileReason → String
  | .firstBoot => "first-boot"
  | .boot => "boot"
  | .install => "install"
  | .backgroundDexopt => "bg-dexopt"
  | .otaUpdate => "ab-ota"
  | .inactive => "inactive"
  | .shared => "shared"

/-- The reason with a name. -/
def ofName? (name : String) : Option CompileReason := all.find? (·.name == name)

theorem ofName?_name (r : CompileReason) : ofName? r.name = some r := by
  cases r <;> decide +kernel

end CompileReason

/-- An argument that no operation accepts. -/
inductive InvalidArgument where
  | unknownReason (name : String)
  /-- A package is installed for one user at a time, never for all at once. -/
  | installedForAll
  deriving DecidableEq, Inhabited

def InvalidArgument.message : InvalidArgument → String
  | .unknownReason name => "Invalid argument: unknown compile reason: " ++ name
  | .installedForAll => "Invalid argument: notify_package_installed called with USER_ALL"

/-- The reason with a name, or the complaint that there is none. -/
def CompileReason.parse (name : String) : Except InvalidArgument CompileReason :=
  match ofName? name with
  | some r => .ok r
  | none => .error (.unknownReason name)

/-- What to compile with: the filter of a reason, or a filter by itself. -/
inductive CompilerTarget where
  | reason (r : CompileReason)
  | filter (name : String)
  deriving DecidableEq, Inhabited

end DexTrail
