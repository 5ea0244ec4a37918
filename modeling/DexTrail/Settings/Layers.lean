-- SUMMARY: Loading the configuration from its files and the environment.
import DexTrail.Disk.FileTree
import DexTrail.Settings.Document

/-!
# Loading the configuration

The global document gives the configuration, the project document is laid over
it, and the environment over both. A document that is not there is passed over;
one that is there and cannot be read ends the loading.
-/

namespace DexTrail

/-- Why a configuration cannot be loaded. -/
inductive ConfigError where
  | io
  | malformed
  deriving DecidableEq, Inhabited, Repr

namespace Config

variable {links : Bool}

/-- The configuration of a file, or none when nothing is there. -/
def ofFile (t : FileTree links) (cwd : Location) (path : String) :
    Except ConfigError (Option Config) :=
  if t.pathExists cwd path then
    match t.read cwd path with
    | .error _ => .error .io
    | .ok content =>
      match String.fromUTF8? content with
      | none => .error .io
      | some text =>
        match parse? text with
        | none => .error .malformed
        | some c => .ok (some c)
  else .ok none

/-- The configuration of a global and a project file. -/
def ofFiles (t : FileTree links) (cwd : Location) (globalPath : Option String)
    (projectPath : String) : Except ConfigError Config := do
  let above ← match globalPath with
    | none => pure none
    | some path => ofFile t cwd path
  let project ← ofFile t cwd projectPath
  let c := above.getD default
  pure (match project with
    | none => c
    | some project => c.overlay project)

/-- The configuration of the user's files and the environment. -/
def load (t : FileTree links) (cwd : Location) (home : Option String) (env : Environment) :
    Except ConfigError Config :=
  (ofFiles t cwd (globalPath? home) projectPath).map fun c => c.withEnvironment env

end Config

end DexTrail
