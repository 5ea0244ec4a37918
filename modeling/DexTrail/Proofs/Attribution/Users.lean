-- SUMMARY: Which users a registry has for a package, and that a package without the user owns nothing that others load.
import DexTrail.Proofs.Attribution.Residency

/-!
# Users of packages

A registry has a user for a package when the footprint of the package has data directories
for the user. A change gives the package the user with a directory, or takes it, and else
leaves it as it was (`Registry.has_change_iff`). Whatever others load for a user is never
attributed to a package that does not have the user.
-/

namespace DexTrail

/-! ## One footprint -/

namespace Footprint

variable {f : Footprint} {user v : UserId}

theorem hasUser_addDir {dir : String} :
    (f.addDir dir user).hasUser v ↔ v = user ∨ f.hasUser v := by
  rw [hasUser_iff, hasUser_iff, dirsOf?_addDir]
  by_cases hv : v = user
  · simp [hv]
  · simp [hv]

theorem hasUser_addDirs {dirs : List String} :
    (f.addDirs dirs user).hasUser v ↔ (v = user ∧ dirs ≠ []) ∨ f.hasUser v := by
  induction dirs generalizing f with
  | nil => simp [addDirs]
  | cons dir dirs ih =>
    have hrest : (f.addDirs (dir :: dirs) user).hasUser v ↔
        (v = user ∧ dirs ≠ []) ∨ (f.addDir dir user).hasUser v := ih
    rw [hrest, hasUser_addDir]
    constructor
    · rintro (⟨hv, -⟩ | hv | hv)
      · exact .inl ⟨hv, List.cons_ne_nil _ _⟩
      · exact .inl ⟨hv, List.cons_ne_nil _ _⟩
      · exact .inr hv
    · rintro (⟨hv, -⟩ | hv)
      · exact .inr (.inl hv)
      · exact .inr (.inr hv)

theorem hasUser_removeUser : (f.removeUser user).hasUser v ↔ v ≠ user ∧ f.hasUser v := by
  rw [hasUser_iff, hasUser_iff, dirsOf?_removeUser]
  by_cases hv : v = user
  · simp [hv]
  · simp [hv]

/-- A footprint has the users to whom a change gives a directory, and those it had unless the
change removes them. -/
theorem hasUser_change {c : Registry.Change} :
    (f.change c).hasUser user ↔
      c ≠ .removeUser f.package user ∧ (f.hasUser user ∨ c.dirs f.package user ≠ []) := by
  cases c with
  | addPackage info u =>
    simp only [change, take, Registry.Change.dirs]
    by_cases hp : f.package = info.name
    · have hcode : (f.setCode info.base info.splits).hasUser user ↔ f.hasUser user := Iff.rfl
      rw [if_pos hp, hasUser_addDirs, hcode]
      by_cases hu : u = user
      · simp [hp, hu, or_comm]
      · simp [hu, Ne.symm hu]
    · simp [hp, Ne.symm hp]
  | setCode package base splits =>
    simp only [change, Registry.Change.dirs]
    split <;> simp [hasUser, setCode]
  | addDir package u dir =>
    simp only [change, Registry.Change.dirs]
    by_cases hp : f.package = package
    · rw [if_pos hp, hasUser_addDir]
      by_cases hu : u = user
      · simp [hp, hu]
      · simp [hu, Ne.symm hu]
    · simp [hp, Ne.symm hp]
  | removeUser package u =>
    simp only [change, Registry.Change.dirs]
    by_cases hp : f.package = package
    · rw [if_pos hp, hasUser_removeUser]
      simp [hp, ne_comm]
    · simp [hp, Ne.symm hp]
  | remove package => simp [change, Registry.Change.dirs]

/-- A path matches only what the user has. -/
theorem hasUser_of_isFound {path : String} (h : (f.search path user).isFound) :
    f.hasUser user := by
  unfold search at h
  split at h
  · cases h
  · next dirs hdirs => exact hasUser_iff.2 ⟨dirs, hdirs⟩

end Footprint

/-! ## The registry -/

namespace Registry

/-- The registry has the user for the package. -/
def Has (r : Registry) (package : String) (user : UserId) : Prop :=
  ∃ f ∈ r.footprints, f.package = package ∧ f.hasUser user

variable {r : Registry} {package : String} {user : UserId}

theorem not_has_empty : ¬empty.Has package user := by
  rintro ⟨f, hf, -⟩
  cases hf

theorem not_hasUser_of_bare? {c : Change} {f : Footprint} (h : c.bare? = some f) :
    ¬f.hasUser user := by
  intro huser
  obtain ⟨dir, hknows⟩ := (records_of_bare? h).trim user huser
  cases ((records_of_bare? h).knows dir user).1 hknows

/-- A package has a user after a change to whom the change gives a directory, if the package is
known or gets its code by the change, and a user it had before; but not when the change removes
the package or the user. -/
theorem has_change_iff {c : Change} :
    (r.change c).Has package user ↔
      c ≠ .remove package ∧ c ≠ .removeUser package user ∧
        (r.Has package user ∨
          (c.dirs package user ≠ [] ∧ (package ∈ r.packages ∨ (c.code? package).isSome))) := by
  simp only [Has, footprints_change, List.mem_filter, List.mem_map, bne_iff_ne]
  constructor
  · rintro ⟨-, ⟨⟨f, hf, rfl⟩, hstays⟩, rfl, huser⟩
    rw [Footprint.package_change] at hstays
    obtain ⟨hkept, huser⟩ := Footprint.hasUser_change.1 huser
    simp only [Footprint.package_change]
    refine ⟨hstays, hkept, ?_⟩
    rcases List.mem_append.1 hf with hf | hf
    · rcases huser with huser | hdirs
      · exact .inl ⟨f, hf, rfl, huser⟩
      · exact .inr ⟨hdirs, .inl (List.mem_map_of_mem hf)⟩
    · rcases huser with huser | hdirs
      · exact absurd huser (not_hasUser_of_bare? (mem_newcomers_iff.1 hf).1)
      · exact .inr ⟨hdirs, .inr (mem_map_newcomers_iff.1 (List.mem_map_of_mem hf)).1⟩
  · rintro ⟨hstays, hkept, huser⟩
    have hthere : ∃ f ∈ r.footprints ++ r.newcomers c, f.package = package ∧
        (f.hasUser user ∨ c.dirs package user ≠ []) := by
      rcases huser with ⟨f, hf, hp, huser⟩ | ⟨hdirs, hknown⟩
      · exact ⟨f, List.mem_append_left _ hf, hp, .inl huser⟩
      · by_cases hp : package ∈ r.packages
        · obtain ⟨f, hf, hp⟩ := List.mem_map.1 hp
          exact ⟨f, List.mem_append_left _ hf, hp, .inr hdirs⟩
        · have hnew := mem_map_newcomers_iff.2 ⟨hknown.resolve_left hp, hp⟩
          obtain ⟨f, hf, hp⟩ := List.mem_map.1 hnew
          exact ⟨f, List.mem_append_right _ hf, hp, .inr hdirs⟩
    obtain ⟨f, hf, rfl, huser⟩ := hthere
    refine ⟨f.change c, ⟨⟨f, hf, rfl⟩, ?_⟩, f.package_change c, ?_⟩
    · rwa [Footprint.package_change]
    · exact Footprint.hasUser_change.2 ⟨hkept, huser⟩

theorem has_addPackage_iff {info : PackageInfo} {u : UserId} :
    (r.addPackage info u).Has package user ↔
      r.Has package user ∨ info.name = package ∧ u = user ∧ info.dataDirs ≠ [] := by
  have hcode : ((Change.addPackage info u).code? package).isSome ↔ info.name = package := by
    simp [Change.code?, Change.bare?, Footprint.ofCode]
  have hchange : r.addPackage info u = r.change (.addPackage info u) := rfl
  rw [hchange, has_change_iff, hcode]
  by_cases hname : info.name = package
  · simp [Change.dirs, hname]
  · simp [Change.dirs, hname]

/-- A package has the users it had, and those for whom it is installed with a directory. -/
theorem has_addAll_iff {installs : List (UserId × PackageInfo)} :
    (r.addAll installs).Has package user ↔
      r.Has package user ∨
        ∃ info, (user, info) ∈ installs ∧ info.name = package ∧ info.dataDirs ≠ [] := by
  induction installs generalizing r with
  | nil => simp [addAll]
  | cons e installs ih =>
    have hrest : (r.addAll (e :: installs)).Has package user ↔
        (r.addPackage e.2 e.1).Has package user ∨
          ∃ info, (user, info) ∈ installs ∧ info.name = package ∧ info.dataDirs ≠ [] := ih
    rw [hrest, has_addPackage_iff, or_assoc]
    refine or_congr_right ?_
    constructor
    · rintro (⟨hname, rfl, hdirs⟩ | ⟨info, he, hinfo⟩)
      · exact ⟨e.2, List.mem_cons_self, hname, hdirs⟩
      · exact ⟨info, List.mem_cons_of_mem e he, hinfo⟩
    · rintro ⟨info, he, hname, hdirs⟩
      rcases List.mem_cons.1 he with rfl | he
      · exact .inl ⟨hname, rfl, hdirs⟩
      · exact .inr ⟨info, he, hname, hdirs⟩

/-- What another package loads for a user whom the package does not have is not attributed to
the package. -/
theorem owner_resolve_ne (h : ¬r.Has package user) {roots : List String} {loader : PackageInfo}
    (hloader : loader.name ≠ package) (path : String) :
    (r.resolve roots loader path user).owner ≠ some package := by
  intro howner
  rcases r.resolve_cases roots loader path user with
    hnobody | ⟨m, -, -, hown⟩ | ⟨f, hf, hfound, hknown⟩
  · rw [hnobody] at howner
    cases howner
  · rw [hown] at howner
    exact hloader (Option.some.inj howner)
  · rw [hknown] at howner
    exact h ⟨f, hf, Option.some.inj howner, Footprint.hasUser_of_isFound hfound⟩

end Registry

end DexTrail
