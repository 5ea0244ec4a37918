-- SUMMARY: The installs of a package database one by one, and the users of each package.
import DexTrail.Package.Info

/-!
# Installs

A package database is gone through user by user and package by package. Its installs are
that list. The users of a package are those whose installs name it.
-/

namespace DexTrail

namespace InstalledPackages

/-- The users and their packages in the order in which they are taken up. -/
def installs (installed : InstalledPackages) : List (UserId × PackageInfo) :=
  installed.toList.flatMap fun e => e.2.map (e.1, ·)

theorem mem_installs_iff {installed : InstalledPackages} {user : UserId} {info : PackageInfo} :
    (user, info) ∈ installed.installs ↔
      ∃ infos, installed.get? user = some infos ∧ info ∈ infos := by
  simp only [installs, List.mem_flatMap, List.mem_map, Prod.mk.injEq]
  constructor
  · rintro ⟨⟨u, infos⟩, he, i, hi, rfl, rfl⟩
    exact ⟨infos, SortedMap.mem_toList_iff.1 he, hi⟩
  · rintro ⟨infos, hinfos, hi⟩
    exact ⟨(user, infos), SortedMap.mem_toList_iff.2 hinfos, info, hi, rfl, rfl⟩

theorem isSome_find?_iff {installed : InstalledPackages} {package : String} {user : UserId} :
    (installed.find? package user).isSome ↔
      ∃ info, (user, info) ∈ installed.installs ∧ info.name = package := by
  simp only [mem_installs_iff, find?]
  cases installed.get? user with
  | none => simp
  | some infos => simp [List.find?_isSome]

/-! ## The users of each package -/

/-- One install is taken up. -/
def addUser (users : SortedMap String (SortedSet UserId)) (e : UserId × PackageInfo) :
    SortedMap String (SortedSet UserId) :=
  users.alter e.2.name fun known => some ((known.getD .empty).insert e.1)

theorem usersByPackage_eq (installed : InstalledPackages) :
    installed.usersByPackage = installed.installs.foldl addUser .empty := by
  simp only [usersByPackage, installs, List.foldl_flatMap, List.foldl_map]
  rfl

/-- The users of a package, none when the package is not known. -/
def usersOf (users : SortedMap String (SortedSet UserId)) (package : String) : SortedSet UserId :=
  (users.get? package).getD .empty

theorem mem_usersOf_addUser {users : SortedMap String (SortedSet UserId)}
    {e : UserId × PackageInfo} {package : String} {user : UserId} :
    user ∈ usersOf (addUser users e) package ↔
      (e.2.name = package ∧ e.1 = user) ∨ user ∈ usersOf users package := by
  rw [usersOf, addUser, SortedMap.get?_alter]
  by_cases hp : e.2.name = package
  · subst hp
    simp [usersOf, eq_comm]
  · have hne : compare package e.2.name ≠ .eq :=
      fun hc => hp (Std.LawfulEqOrd.eq_of_compare hc).symm
    simp [usersOf, hne, hp]

theorem mem_usersOf_foldl_addUser {installs : List (UserId × PackageInfo)}
    {users : SortedMap String (SortedSet UserId)} {package : String} {user : UserId} :
    user ∈ usersOf (installs.foldl addUser users) package ↔
      (∃ info, (user, info) ∈ installs ∧ info.name = package) ∨ user ∈ usersOf users package := by
  induction installs generalizing users with
  | nil => simp
  | cons e installs ih =>
    rw [List.foldl_cons, ih, mem_usersOf_addUser, or_left_comm, ← or_assoc]
    refine or_congr_left ?_
    constructor
    · rintro (⟨hname, rfl⟩ | ⟨info, he, hname⟩)
      · exact ⟨e.2, List.mem_cons_self, hname⟩
      · exact ⟨info, List.mem_cons_of_mem e he, hname⟩
    · rintro ⟨info, he, hname⟩
      rcases List.mem_cons.1 he with rfl | he
      · exact .inl ⟨hname, rfl⟩
      · exact .inr ⟨info, he, hname⟩

/-- A package has the users for whom it is found. -/
theorem any_get?_usersByPackage (installed : InstalledPackages) (package : String) (user : UserId) :
    (installed.usersByPackage.get? package).any (·.contains user) =
      (installed.find? package user).isSome := by
  have hany : (installed.usersByPackage.get? package).any (·.contains user) =
      (usersOf installed.usersByPackage package).contains user := by
    rw [usersOf]
    cases installed.usersByPackage.get? package <;> rfl
  rw [hany, Bool.eq_iff_iff, isSome_find?_iff, usersByPackage_eq]
  exact mem_usersOf_foldl_addUser.trans (or_iff_left (SortedSet.not_mem_empty user))

end InstalledPackages

end DexTrail
