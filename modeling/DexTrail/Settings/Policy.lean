-- SUMMARY: The part of the configuration that decides what is tracked and how code is compiled.
import DexTrail.Settings.Config
import DexTrail.Settings.Reason

/-!
# Policy

What the manager takes from the configuration: the exempt framework roots, the
instruction sets in which loads are tracked, and the compiler filters.
-/

namespace DexTrail

structure Policy where
  frameworkRoots : List String
  supportedIsas : List String
  filters : SortedMap String String
  deriving DecidableEq, Inhabited

namespace Policy

def ofConfig (c : Config) : Policy := ⟨c.frameworkRoots, c.supportedIsas, c.filters⟩

def supports (p : Policy) (isa : String) : Bool := p.supportedIsas.contains isa

/-- The filter for a reason that the configuration does not mention. -/
def fallbackFilter : String := "verify"

def filterForReason (p : Policy) (reason : CompileReason) : String :=
  (p.filters.get? reason.name).getD fallbackFilter

/-- The filter that a target stands for. -/
def filterOf (p : Policy) : CompilerTarget → String
  | .reason r => p.filterForReason r
  | .filter name => name

end Policy

end DexTrail
