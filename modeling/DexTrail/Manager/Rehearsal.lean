-- SUMMARY: Services whose answers are set beforehand and whose calls are noted.
import DexTrail.Manager.Services

/-!
# Rehearsals

A rehearsal is a small outside world to run the manager against: which packages
are installed, which files exist, what fails. It notes the calls it gets in their
order, enumerations apart.
-/

namespace DexTrail

/-- A call of a service. -/
inductive ServiceCall where
  | lookup (package : String) (user : UserId)
  | fileExists (path : String) (lock : InstallLock)
  | cleanUp (request : Cleanup) (lock : InstallLock)
  | optimize (request : Optimization)
  deriving DecidableEq

structure Rehearsal where
  installed : InstalledPackages
  /-- Packages whose lookup fails. -/
  failing : SortedSet String
  enumerationFails : Bool
  files : SortedSet String
  /-- Paths for which the helper fails. -/
  broken : SortedSet String
  /-- What the optimizer answers for single paths. -/
  results : SortedMap String OptimizeResult
  /-- What the optimizer answers for the others. -/
  result : OptimizeResult
  /-- The calls so far, the last one first. -/
  calls : List ServiceCall
  deriving Inhabited

namespace Rehearsal

/-- Nothing is installed, no file exists, nothing fails. -/
def empty : Rehearsal :=
  { installed := .empty, failing := .empty, enumerationFails := false, files := .empty,
    broken := .empty, results := .empty, result := .performed, calls := [] }

/-! ## Setting the stage -/

def install (w : Rehearsal) (info : PackageInfo) (user : UserId) : Rehearsal :=
  { w with installed := w.installed.alter user fun infos => some (infos.getD [] ++ [info]) }

def uninstall (w : Rehearsal) (package : String) (user : UserId) : Rehearsal :=
  { w with installed := w.installed.alter user fun infos =>
      infos.map fun infos => infos.filter (·.name != package) }

/-- Put a member into a set or take it out. -/
def toggle (s : SortedSet String) (a : String) (on : Bool) : SortedSet String :=
  if on then s.insert a else s.filter (· != a)

def setFailing (w : Rehearsal) (package : String) (on : Bool) : Rehearsal :=
  { w with failing := toggle w.failing package on }

def setFile (w : Rehearsal) (path : String) (on : Bool) : Rehearsal :=
  { w with files := toggle w.files path on }

def setBroken (w : Rehearsal) (path : String) (on : Bool) : Rehearsal :=
  { w with broken := toggle w.broken path on }

/-- Set what the optimizer answers, for one path or for those without an answer of
their own. -/
def setResult (w : Rehearsal) (path : Option String) (result : OptimizeResult) : Rehearsal :=
  match path with
  | some path => { w with results := w.results.insert path result }
  | none => { w with result }

/-! ## The services -/

def note (w : Rehearsal) (call : ServiceCall) : Rehearsal := { w with calls := call :: w.calls }

/-- What the helper says of a path. -/
def helperAnswer (w : Rehearsal) (path : String) : Except HelperError Bool :=
  if w.broken.contains path then .error (.rejected path) else .ok (w.files.contains path)

def services : Services Rehearsal where
  lookup package user w :=
    (w.note (.lookup package user),
      if w.failing.contains package then .error (.unavailable "lookup timed out")
      else .ok (w.installed.find? package user))
  enumerate w :=
    (w, if w.enumerationFails then .error (.unavailable "enumeration timed out")
      else .ok w.installed)
  fileExists lock path w := (w.note (.fileExists path lock), w.helperAnswer path)
  cleanUp lock request w := (w.note (.cleanUp request lock), w.helperAnswer request.path)
  optimize request w :=
    (w.note (.optimize request), (w.results.get? request.path).getD w.result)

/-- The calls since the last time they were taken, in their order. -/
def takeCalls (w : Rehearsal) : List ServiceCall × Rehearsal :=
  (w.calls.reverse, { w with calls := [] })

end Rehearsal

end DexTrail
