-- SUMMARY: What a series of installs does to the registry, and that the same series again does nothing.
import DexTrail.Attribution.Registry
import DexTrail.Proofs.Package.Installs
import Mathlib.Data.List.Induction

/-!
# Installation

Each install sets the code of its package and adds data directories for its user. A
footprint takes up a series of installs by itself (`Footprint.takeAll`): its code is that of
the latest install of the package, and it knows the directories of all of them. So a
registry that has taken up a series of installs is left alone by the same series.
-/

namespace DexTrail

/-! ## One footprint -/

namespace Footprint

/-- Whether a data directory is known for the user. -/
def Knows (f : Footprint) (dir : String) (user : UserId) : Prop :=
  ∃ dirs, f.dirsOf? user = some dirs ∧ dir ∈ dirs

theorem knows_addDir {f : Footprint} {dir d : String} {user v : UserId} :
    (f.addDir dir user).Knows d v ↔ (d = dir ∧ v = user) ∨ f.Knows d v := by
  rw [Knows, dirsOf?_addDir]
  by_cases hv : v = user
  · subst hv
    cases hd : f.dirsOf? v <;> simp [Knows, hd]
  · simp [Knows, hv]

theorem addDir_of_knows {f : Footprint} {dir : String} {user : UserId} (h : f.Knows dir user) :
    f.addDir dir user = f := by
  obtain ⟨dirs, hdirs, hdir⟩ := h
  have hinsert : dirs.insert dir = dirs := SortedSet.insert_of_mem hdir
  have hget : f.dirs.get? user = some dirs := hdirs
  simp [addDir, SortedMap.alter, hget, hinsert, SortedMap.insert_get? hget]

/-- Add data directories for a user. -/
def addDirs (f : Footprint) (dirs : List String) (user : UserId) : Footprint :=
  dirs.foldl (fun f dir => f.addDir dir user) f

theorem addDirs_cons (f : Footprint) (dir : String) (dirs : List String) (user : UserId) :
    f.addDirs (dir :: dirs) user = (f.addDir dir user).addDirs dirs user := rfl

/-- Adding directories changes nothing but the directories. -/
theorem code_addDirs (f : Footprint) (dirs : List String) (user : UserId) :
    (f.addDirs dirs user).package = f.package ∧ (f.addDirs dirs user).base = f.base ∧
      (f.addDirs dirs user).splits = f.splits := by
  induction dirs generalizing f with
  | nil => exact ⟨rfl, rfl, rfl⟩
  | cons dir dirs ih => exact ih (f.addDir dir user)

theorem knows_addDirs {f : Footprint} {dirs : List String} {d : String} {user v : UserId} :
    (f.addDirs dirs user).Knows d v ↔ (d ∈ dirs ∧ v = user) ∨ f.Knows d v := by
  induction dirs generalizing f with
  | nil => simp [addDirs]
  | cons dir dirs ih =>
    rw [addDirs_cons, ih, knows_addDir, List.mem_cons, or_and_right, or_left_comm, or_assoc]

theorem addDirs_of_knows {f : Footprint} {dirs : List String} {user : UserId}
    (h : ∀ dir ∈ dirs, f.Knows dir user) : f.addDirs dirs user = f := by
  induction dirs with
  | nil => rfl
  | cons dir dirs ih =>
    rw [addDirs_cons, addDir_of_knows (h dir List.mem_cons_self)]
    exact ih fun d hd => h d (List.mem_cons_of_mem dir hd)

/-! ### Installs of the package -/

/-- Take up an install, if it is of this package. -/
def take (f : Footprint) (e : UserId × PackageInfo) : Footprint :=
  if f.package = e.2.name then (f.setCode e.2.base e.2.splits).addDirs e.2.dataDirs e.1 else f

/-- Take up a series of installs. -/
def takeAll (f : Footprint) (installs : List (UserId × PackageInfo)) : Footprint :=
  installs.foldl take f

theorem takeAll_append (f : Footprint) (before : List (UserId × PackageInfo))
    (e : UserId × PackageInfo) : f.takeAll (before ++ [e]) = (f.takeAll before).take e := by
  rw [takeAll, List.foldl_append]
  rfl

theorem package_take (f : Footprint) (e : UserId × PackageInfo) :
    (f.take e).package = f.package := by
  unfold take
  split
  · exact (code_addDirs _ _ _).1
  · rfl

theorem package_takeAll (f : Footprint) (installs : List (UserId × PackageInfo)) :
    (f.takeAll installs).package = f.package := by
  induction installs generalizing f with
  | nil => rfl
  | cons e installs ih => exact (ih _).trans (package_take f e)

theorem take_of_ne {f : Footprint} {e : UserId × PackageInfo} (h : f.package ≠ e.2.name) :
    f.take e = f := if_neg h

theorem takeAll_of_forall_ne {f : Footprint} {installs : List (UserId × PackageInfo)}
    (h : ∀ e ∈ installs, f.package ≠ e.2.name) : f.takeAll installs = f := by
  induction installs with
  | nil => rfl
  | cons e installs ih =>
    rw [takeAll, List.foldl_cons, take_of_ne (h e List.mem_cons_self)]
    exact ih fun e' he => h e' (List.mem_cons_of_mem e he)

theorem knows_take {f : Footprint} {e : UserId × PackageInfo} {d : String} {v : UserId} :
    (f.take e).Knows d v ↔
      (f.package = e.2.name ∧ d ∈ e.2.dataDirs ∧ v = e.1) ∨ f.Knows d v := by
  unfold take
  split
  · next hp =>
    rw [knows_addDirs]
    simp only [hp, true_and]
    rfl
  · next hp => simp [hp]

/-- The directories known after a series of installs are those of its installs of the
package, and those known before. -/
theorem knows_takeAll {f : Footprint} {installs : List (UserId × PackageInfo)} {d : String}
    {v : UserId} :
    (f.takeAll installs).Knows d v ↔
      (∃ info, (v, info) ∈ installs ∧ f.package = info.name ∧ d ∈ info.dataDirs) ∨
      f.Knows d v := by
  induction installs generalizing f with
  | nil => simp [takeAll]
  | cons e installs ih =>
    rw [takeAll, List.foldl_cons, ← takeAll, ih, knows_take, package_take, ← or_assoc]
    refine or_congr_left ?_
    constructor
    · rintro (⟨info, he, h⟩ | ⟨hp, hd, rfl⟩)
      · exact ⟨info, List.mem_cons_of_mem e he, h⟩
      · exact ⟨e.2, List.mem_cons_self, hp, hd⟩
    · rintro ⟨info, he, hp, hd⟩
      rcases List.mem_cons.1 he with rfl | he
      · exact .inr ⟨hp, hd, rfl⟩
      · exact .inl ⟨info, he, hp, hd⟩

/-- An install whose directories are known sets the code and nothing else. -/
theorem dirs_take_of_knows {f : Footprint} {e : UserId × PackageInfo}
    (h : f.package = e.2.name → ∀ dir ∈ e.2.dataDirs, f.Knows dir e.1) :
    (f.take e).dirs = f.dirs := by
  unfold take
  split
  · next hp =>
    have hknown : ∀ dir ∈ e.2.dataDirs, (f.setCode e.2.base e.2.splits).Knows dir e.1 := h hp
    rw [addDirs_of_knows hknown]
    rfl
  · rfl

theorem dirs_takeAll_of_knows {f : Footprint} {installs : List (UserId × PackageInfo)}
    (h : ∀ e ∈ installs, f.package = e.2.name → ∀ dir ∈ e.2.dataDirs, f.Knows dir e.1) :
    (f.takeAll installs).dirs = f.dirs := by
  induction installs generalizing f with
  | nil => rfl
  | cons e installs ih =>
    have hdirs := dirs_take_of_knows (h e List.mem_cons_self)
    refine (ih (f := f.take e) ?_).trans hdirs
    intro e' he' hp dir hdir
    rw [package_take] at hp
    exact knows_take.2 (.inr (h e' (List.mem_cons_of_mem e he') hp dir hdir))

/-- The code after a series of installs does not depend on the code before, if the series
has an install of the package. -/
theorem code_takeAll_takeAll (f : Footprint) (installs : List (UserId × PackageInfo)) :
    ((f.takeAll installs).takeAll installs).base = (f.takeAll installs).base ∧
      ((f.takeAll installs).takeAll installs).splits = (f.takeAll installs).splits := by
  induction installs using List.reverseRecOn generalizing f with
  | nil => exact ⟨rfl, rfl⟩
  | append_singleton installs e ih =>
    by_cases hp : f.package = e.2.name
    · have hcode (g : Footprint) (hg : g.package = e.2.name) :
          (g.take e).base = e.2.base ∧ (g.take e).splits = .ofList e.2.splits := by
        rw [take, if_pos hg]
        exact (code_addDirs _ _ _).2
      have hfirst := hcode (f.takeAll installs) ((package_takeAll f installs).trans hp)
      have hsecond := hcode ((f.takeAll (installs ++ [e])).takeAll installs)
        (by rw [package_takeAll, package_takeAll, hp])
      rw [takeAll_append _ installs, hsecond.1, hsecond.2, takeAll_append, hfirst.1, hfirst.2]
      exact ⟨rfl, rfl⟩
    · have hsame : f.takeAll (installs ++ [e]) = f.takeAll installs := by
        rw [takeAll_append, take_of_ne (by rw [package_takeAll]; exact hp)]
      have hagain : (f.takeAll installs).takeAll (installs ++ [e]) =
          (f.takeAll installs).takeAll installs := by
        rw [takeAll_append, take_of_ne (by rw [package_takeAll, package_takeAll]; exact hp)]
      rw [hsame, hagain]
      exact ih f

/-- A footprint that has taken up a series of installs is left alone by the same series. -/
theorem takeAll_takeAll (f : Footprint) (installs : List (UserId × PackageInfo)) :
    (f.takeAll installs).takeAll installs = f.takeAll installs := by
  have hdirs : ((f.takeAll installs).takeAll installs).dirs = (f.takeAll installs).dirs := by
    apply dirs_takeAll_of_knows
    intro e he hp dir hdir
    rw [package_takeAll] at hp
    exact knows_takeAll.2 (.inl ⟨e.2, he, hp, hdir⟩)
  have hpackage := package_takeAll (f.takeAll installs) installs
  obtain ⟨hbase, hsplits⟩ := code_takeAll_takeAll f installs
  cases hfirst : f.takeAll installs
  cases hsecond : (f.takeAll installs).takeAll installs
  simp_all

end Footprint

/-! ## The registry -/

namespace Registry

/-- Take up a series of installs. -/
def addAll (r : Registry) (installs : List (UserId × PackageInfo)) : Registry :=
  installs.foldl (fun r e => r.addPackage e.2 e.1) r

theorem addAll_append (r : Registry) (before : List (UserId × PackageInfo))
    (e : UserId × PackageInfo) :
    r.addAll (before ++ [e]) = (r.addAll before).addPackage e.2 e.1 := by
  rw [addAll, List.foldl_append]
  rfl

/-- The footprint that an install makes for its package, if there is none. -/
def newcomer (r : Registry) (e : UserId × PackageInfo) : List Footprint :=
  if e.2.name ∈ r.packages then [] else [Footprint.ofCode e.2.name e.2.base e.2.splits]

/-- An install is taken up by every footprint, after one was made for its package. -/
theorem footprints_addPackage (r : Registry) (e : UserId × PackageInfo) :
    (r.addPackage e.2 e.1).footprints = (r.footprints ++ r.newcomer e).map (·.take e) := by
  have hmodify (f : Footprint) :
      (if f.package == e.2.name then (f.setCode e.2.base e.2.splits).addDirs e.2.dataDirs e.1
        else f) = f.take e := by
    simp [Footprint.take]
  by_cases hp : e.2.name ∈ r.packages
  · rw [addPackage, setCode, if_pos (contains_iff.2 hp), newcomer, if_pos hp, List.append_nil]
    simp only [modify, List.map_map]
    refine List.map_congr_left fun f _ => ?_
    rw [← hmodify, Function.comp_apply]
    by_cases hf : f.package == e.2.name
    · simp only [hf, if_true, Footprint.package_setCode]
      rfl
    · simp [hf]
  · rw [addPackage, setCode, if_neg (mt contains_iff.1 hp), newcomer, if_neg hp]
    simp only [modify]
    refine List.map_congr_left fun f hf => ?_
    rw [← hmodify]
    rcases List.mem_append.1 hf with hf | hf
    · have hne : f.package ≠ e.2.name := by
        rintro he
        exact hp (he ▸ List.mem_map_of_mem hf)
      simp [hne]
    · obtain rfl := List.mem_singleton.1 hf
      rfl

theorem mem_packages_addPackage {r : Registry} {e : UserId × PackageInfo} {p : String} :
    p ∈ (r.addPackage e.2 e.1).packages ↔ p ∈ r.packages ∨ p = e.2.name := by
  have hsame : (Footprint.package ∘ fun f => f.take e) = Footprint.package :=
    funext fun f => f.package_take e
  rw [packages, footprints_addPackage, List.map_map, hsame, List.map_append, ← packages, newcomer]
  by_cases hp : e.2.name ∈ r.packages
  · rw [if_pos hp, List.map_nil, List.append_nil, iff_self_or]
    rintro rfl
    exact hp
  · simp [hp, Footprint.ofCode]

theorem mem_packages_addAll {r : Registry} {installs : List (UserId × PackageInfo)} {p : String} :
    p ∈ (r.addAll installs).packages ↔ p ∈ r.packages ∨ ∃ e ∈ installs, p = e.2.name := by
  induction installs generalizing r with
  | nil => simp [addAll]
  | cons e installs ih =>
    rw [addAll, List.foldl_cons, ← addAll, ih, mem_packages_addPackage, or_assoc]
    simp

/-- Every footprint of a registry that has taken up a series of installs has taken them up
itself: a package that becomes known in between was named by no install before. -/
theorem exists_takeAll_of_mem_addAll {r : Registry} {installs : List (UserId × PackageInfo)}
    {f : Footprint} (h : f ∈ (r.addAll installs).footprints) :
    ∃ g : Footprint, f = g.takeAll installs ∧
      (g ∈ r.footprints ∨ g.package ∉ r.packages ∧ g.dirs = .empty) := by
  induction installs using List.reverseRecOn generalizing f with
  | nil => exact ⟨f, rfl, .inl h⟩
  | append_singleton installs e ih =>
    rw [addAll_append, footprints_addPackage, List.mem_map] at h
    obtain ⟨g, hg, rfl⟩ := h
    rcases List.mem_append.1 hg with hg | hg
    · obtain ⟨g', rfl, hg'⟩ := ih hg
      exact ⟨g', (Footprint.takeAll_append g' installs e).symm, hg'⟩
    · rw [newcomer] at hg
      split at hg
      · cases hg
      · next hnew =>
        obtain rfl := List.mem_singleton.1 hg
        rw [mem_packages_addAll, not_or, not_exists] at hnew
        refine ⟨.ofCode e.2.name e.2.base e.2.splits, ?_, .inr ⟨hnew.1, rfl⟩⟩
        rw [Footprint.takeAll_append, Footprint.takeAll_of_forall_ne]
        intro e' he' hname
        exact hnew.2 e' ⟨he', hname⟩

/-- Installs of known packages are taken up by each footprint alone. -/
theorem footprints_addAll_of_known {r : Registry} {installs : List (UserId × PackageInfo)}
    (h : ∀ e ∈ installs, e.2.name ∈ r.packages) :
    (r.addAll installs).footprints = r.footprints.map (·.takeAll installs) := by
  induction installs generalizing r with
  | nil => exact (List.map_id' _).symm
  | cons e installs ih =>
    rw [addAll, List.foldl_cons, ← addAll, ih, footprints_addPackage, newcomer,
      if_pos (h e List.mem_cons_self), List.append_nil, List.map_map]
    · rfl
    · intro e' he'
      exact mem_packages_addPackage.2 (.inl (h e' (List.mem_cons_of_mem e he')))

/-- A registry that has taken up a series of installs is left alone by the same series. -/
theorem addAll_addAll (r : Registry) (installs : List (UserId × PackageInfo)) :
    (r.addAll installs).addAll installs = r.addAll installs := by
  have hknown : ∀ e ∈ installs, e.2.name ∈ (r.addAll installs).packages :=
    fun e he => mem_packages_addAll.2 (.inr ⟨e, he, rfl⟩)
  have hsame :
      ((r.addAll installs).addAll installs).footprints = (r.addAll installs).footprints := by
    rw [footprints_addAll_of_known hknown]
    refine (List.map_congr_left fun f hf => ?_).trans (List.map_id' _)
    obtain ⟨g, rfl, -⟩ := exists_takeAll_of_mem_addAll hf
    exact g.takeAll_takeAll installs
  exact congrArg Registry.mk hsame

end Registry

end DexTrail
