-- SUMMARY: The footprints of all packages known so far, in the order in which they became known.
import DexTrail.Attribution.Footprint

/-!
# The registry of footprints

One footprint for each package, listed in the order in which the packages became
known. A package that is updated keeps its place; one that is removed and comes
back goes to the end. The order decides who owns a path that several packages
match: the first of them.
-/

namespace DexTrail

structure Registry where
  footprints : List Footprint
  deriving DecidableEq, Inhabited

namespace Registry

def empty : Registry := ⟨[]⟩

def toList (r : Registry) : List Footprint := r.footprints

/-- The names of the known packages in their order. -/
def packages (r : Registry) : List String := r.footprints.map (·.package)

def size (r : Registry) : Nat := r.footprints.length

def isEmpty (r : Registry) : Bool := r.footprints.isEmpty

def get? (r : Registry) (package : String) : Option Footprint :=
  r.footprints.find? (·.package == package)

def contains (r : Registry) (package : String) : Bool := (r.get? package).isSome

/-- Change the footprint of a known package where it stands. -/
def modify (r : Registry) (package : String) (f : Footprint → Footprint) : Registry :=
  ⟨r.footprints.map fun p => if p.package == package then f p else p⟩

/-- Set the code of a package; one that is not known yet goes to the end. -/
def setCode (r : Registry) (package base : String) (splits : List String) : Registry :=
  if r.contains package then r.modify package (·.setCode base splits)
  else ⟨r.footprints ++ [.ofCode package base splits]⟩

/-- Add a data directory to a known package. The answer says whether the
registry changed. -/
def addDir (r : Registry) (package : String) (user : UserId) (dir : String) : Registry × Bool :=
  match r.get? package with
  | none => (r, false)
  | some f => (r.modify package (·.addDir dir user), f.lacksDir dir user)

/-- Take up an installed package: its code and all its data directories for the user. -/
def addPackage (r : Registry) (info : PackageInfo) (user : UserId) : Registry :=
  (r.setCode info.name info.base info.splits).modify info.name fun f =>
    info.dataDirs.foldl (fun f dir => f.addDir dir user) f

/-- Forget a user of a package. The answer says whether the package had the user. -/
def removeUser (r : Registry) (package : String) (user : UserId) : Registry × Bool :=
  match r.get? package with
  | none => (r, false)
  | some f => (r.modify package (·.removeUser user), f.hasUser user)

/-- Forget a package; the others keep their order. -/
def remove (r : Registry) (package : String) : Registry × Bool :=
  (⟨r.footprints.filter (·.package != package)⟩, r.contains package)

/-! ## What each operation does to the packages and their footprints -/

theorem contains_iff {r : Registry} {p : String} : r.contains p ↔ p ∈ r.packages := by
  simp only [contains, get?, packages, List.find?_isSome, beq_iff_eq, List.mem_map]

/-- Changing a footprint moves no package, if it keeps the name. -/
theorem packages_modify (r : Registry) (p : String) {f : Footprint → Footprint}
    (hf : ∀ q, (f q).package = q.package) : (r.modify p f).packages = r.packages := by
  simp only [packages, modify, List.map_map]
  refine List.map_congr_left fun q _ => ?_
  simp only [Function.comp_apply]
  split
  · exact hf q
  · rfl

@[simp] theorem packages_setCode (r : Registry) (p base : String) (splits : List String) :
    (r.setCode p base splits).packages =
      if p ∈ r.packages then r.packages else r.packages ++ [p] := by
  rw [setCode]
  by_cases hp : p ∈ r.packages
  · rw [if_pos (contains_iff.2 hp), if_pos hp]
    exact packages_modify r p fun _ => rfl
  · rw [if_neg (mt contains_iff.1 hp), if_neg hp]
    simp [packages, Footprint.ofCode]

@[simp] theorem packages_remove (r : Registry) (p : String) :
    (r.remove p).1.packages = r.packages.filter (· != p) := by
  simp [packages, remove, List.filter_map, Function.comp_def]

/-! ## Looking up -/

/-- The footprint of a package that the user has. -/
def lookup (r : Registry) (package : String) (user : UserId) : Option Footprint :=
  (r.get? package).filter (·.hasUser user)

/-- The first package that the path matches for the user. -/
def findOwner (r : Registry) (path : String) (user : UserId) : Option (String × Match) :=
  r.footprints.findSome? fun f =>
    let m := f.search path user
    if m.isFound then some (f.package, m) else none

end Registry

end DexTrail
