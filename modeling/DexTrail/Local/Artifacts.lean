-- SUMMARY: The helper that works on the file system: existence of dex files and removal of their artifacts.
import DexTrail.Disk.FileTree
import DexTrail.Manager.Services

/-!
# Artifacts of dex files

Compiling `dir/name.jar` for an instruction set leaves artifacts in
`dir/oat/<instruction set>/`. They are removed once the dex file itself is gone.
Only absolute paths are worked on.
-/

namespace DexTrail

namespace Artifacts

variable {links : Bool}

def extensions : List String := ["odex", "vdex", "art"]

/-- The artifacts of a dex file, in the order in which they are removed. -/
def paths (dex : String) (isas : List String) : List String :=
  match Path.parent? dex, Path.fileStem? dex with
  | some dir, some stem =>
    isas.flatMap fun isa =>
      let oat := Path.join (Path.join dir "oat") isa
      extensions.map fun extension => Path.join oat (String.ofList stem ++ "." ++ extension)
  | _, _ => []

/-- The refusal of a path that is not absolute. -/
def relativePath (path : String) : HelperError := .rejected ("not an absolute path: " ++ path)

/-- Whether a dex file exists. -/
def dexExists (t : FileTree links) (path : String) : Except HelperError Bool :=
  if Path.isAbsolute path then .ok (t.pathExists [] path) else .error (relativePath path)

/-- Remove files one after another. A file that is not there is passed over; the
first other failure ends it. -/
def removeAll (t : FileTree links) :
    List String → FileTree links × Except HelperError Unit
  | [] => (t, .ok ())
  | path :: rest =>
    match t.removeFile [] path with
    | .ok t => removeAll t rest
    | .error .notFound => removeAll t rest
    | .error _ => (t, .error .io)

/-- Remove the artifacts of a dex file unless it exists. The answer is whether it
does. -/
def cleanUp (t : FileTree links) (path : String) (isas : List String) :
    FileTree links × Except HelperError Bool :=
  match dexExists t path with
  | .error e => (t, .error e)
  | .ok true => (t, .ok true)
  | .ok false =>
    match removeAll t (paths path isas) with
    | (t, .ok ()) => (t, .ok false)
    | (t, .error e) => (t, .error e)

end Artifacts

end DexTrail
