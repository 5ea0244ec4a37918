-- SUMMARY: Which package owns a path that a package loads.
import DexTrail.Attribution.Registry

/-!
# Attribution of a loaded path

Files of the framework belong to nobody, and a loader without a data directory
is not active. Otherwise the loader itself is tried first, then the registry.
-/

namespace DexTrail

/-- The owner of a path and how the path matches it. -/
structure Attribution where
  owner : Option String
  outcome : Match
  deriving DecidableEq, Inhabited

namespace Attribution

def nobody : Attribution := ⟨none, .notFound⟩

/-- Owner and kind of match, joined by a dash. -/
def text (a : Attribution) : String :=
  a.owner.getD "<none>" ++ "-" ++ a.outcome.text

end Attribution

/-- Whether a path is exempt because its text starts with a framework root. -/
def isFrameworkPath (roots : List String) (path : String) : Bool :=
  roots.any fun root => startsWithText root path

/-- Attribute a path that `loader` loads for `user`. -/
def Registry.resolve (r : Registry) (roots : List String) (loader : PackageInfo) (path : String)
    (user : UserId) : Attribution :=
  if isFrameworkPath roots path then .nobody
  else if loader.dataDir.isNone then .nobody
  else
    let own := (Footprint.ofLoader loader user).search path user
    if own.isFound then ⟨some loader.name, own⟩
    else
      match r.findOwner path user with
      | some (owner, outcome) => ⟨some owner, outcome⟩
      | none => .nobody

end DexTrail
