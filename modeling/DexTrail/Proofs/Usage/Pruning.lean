-- SUMMARY: Pruning by what is installed: in any order, again, and as removals of single packages and users.
import DexTrail.Proofs.Usage.Agreement
import DexTrail.Proofs.Usage.Kept

/-!
# Pruning

Pruning keeps the records whose package is installed for their owner
(`Ledger.record?_sync_eq_filter`), and it leaves a trim ledger, which is its records. So pruning
by two maps of what is installed is pruning by what they have in common, in either order, and
pruning again changes nothing. A removal of a package, or of a user from a package, takes records
by their package and their owner as well. Whatever is removed one by one, the ledger that is left
is the pruned one when nothing installed was removed and all that is due was
(`Ledger.IsTrim.removeEach_eq_sync`).
-/

namespace DexTrail

/-! ## What is installed -/

/-- The users for whom each package is installed. A package may be there without users. -/
abbrev Installations := SortedMap String (SortedSet UserId)

namespace Installations

/-- Whether the package is installed for the user. -/
def covers (installed : Installations) (package : String) (user : UserId) : Bool :=
  (installed.get? package).any fun users => users.contains user

/-- The packages in both maps, each with the users in both sets. -/
def inter (a b : Installations) : Installations :=
  a.filterMap fun package users => (b.get? package).map fun others => users.filter others.contains

theorem covers_inter (a b : Installations) (package : String) (user : UserId) :
    (a.inter b).covers package user = (a.covers package user && b.covers package user) := by
  have hboth (users others : SortedSet UserId) :
      (users.filter others.contains).contains user =
        (users.contains user && others.contains user) := by
    apply Bool.eq_iff_iff.2
    rw [Bool.and_eq_true]
    exact SortedSet.mem_filter
  simp only [covers, inter, SortedMap.get?_filterMap]
  cases a.get? package with
  | none => rfl
  | some users =>
    cases b.get? package with
    | none => simp
    | some others => exact hboth users others

end Installations

/-! ## Removals -/

/-- A removal of a package, or of the records of a package that belong to a user. -/
inductive Removal where
  | package (package : String)
  | user (package : String) (user : UserId)
  deriving DecidableEq

namespace Removal

/-- Whether the removal takes the records that an owner has of a package. -/
def takes : Removal → String → UserId → Bool
  | .package name, p, _ => p == name
  | .user name who, p, owner => p == name && owner == who

/-- Whether the removal is due: of a package that is not installed, or of a user for whom the
package, which is, is not. -/
def isDue (installed : Installations) : Removal → Bool
  | .package name => !installed.contains name
  | .user name who => (installed.get? name).any fun users => !users.contains who

/-- What is due takes nothing that is installed. -/
theorem covers_eq_false_of_isDue {installed : Installations} {x : Removal} {p : String}
    {owner : UserId} (hdue : x.isDue installed = true) (htakes : x.takes p owner = true) :
    installed.covers p owner = false := by
  cases x with
  | package name =>
    have hname : p = name := by simpa [takes] using htakes
    have hnone : installed.get? name = none := by simpa [isDue, SortedMap.contains] using hdue
    simp [Installations.covers, hname, hnone]
  | user name who =>
    obtain ⟨hname, howner⟩ : p = name ∧ owner = who := by simpa [takes] using htakes
    cases hsome : installed.get? name with
    | none => simp [Installations.covers, hname, hsome]
    | some users =>
      have hmem : users.contains who = false := by simpa [isDue, hsome] using hdue
      simp [Installations.covers, hname, howner, hsome, hmem]

end Removal

namespace Ledger

/-- The ledger without what the removal takes. -/
def remove (l : Ledger) : Removal → Ledger
  | .package name => (l.removePackage name).1
  | .user name user => (l.removeUser name user).1

/-- The ledger after removals one after another. -/
def removeEach (l : Ledger) (removals : List Removal) : Ledger := removals.foldl remove l

/-- The removals that are due for what the ledger holds: every package that is not installed, and
every owner of a record for whom the package, which is installed, is not. -/
def due (l : Ledger) (installed : Installations) : List Removal :=
  l.packages.toList.flatMap fun (package, u) =>
    match installed.get? package with
    | none => [.package package]
    | some users =>
      (u.values.filter fun r => !users.contains r.owner).map fun r => .user package r.owner

variable {l : Ledger} {installed : Installations} {removals : List Removal}

theorem record?_remove (l : Ledger) (x : Removal) (p path : String) :
    (l.remove x).record? p path = (l.record? p path).filter fun r => !x.takes p r.owner := by
  cases x with
  | package name =>
    rw [remove, record?_removePackage]
    by_cases hp : p = name <;> cases l.record? p path <;> simp [Removal.takes, hp, Option.filter]
  | user name user =>
    rw [remove, removeUser, record?_restrict]
    by_cases hp : p = name <;> cases l.record? p path <;>
      simp [Removal.takes, hp, Option.filter, bne]

theorem IsTrim.remove (h : l.IsTrim) (x : Removal) : (l.remove x).IsTrim := by
  cases x with
  | package name => exact h.removePackage name
  | user name user => exact h.restrict name _

/-- After removals one after another, the records are left that none of them takes. -/
theorem record?_removeEach (l : Ledger) (removals : List Removal) (p path : String) :
    (l.removeEach removals).record? p path =
      (l.record? p path).filter fun r => !removals.any fun x => x.takes p r.owner := by
  induction removals generalizing l with
  | nil => cases h : l.record? p path <;> simp [removeEach, h, Option.filter]
  | cons x removals ih =>
    have hrest := ih (l.remove x)
    rw [record?_remove, Option.filter_filter] at hrest
    simpa only [removeEach, List.foldl_cons, List.any_cons, Bool.not_or, Bool.and_comm] using hrest

theorem IsTrim.removeEach (h : l.IsTrim) (removals : List Removal) :
    (l.removeEach removals).IsTrim := by
  induction removals generalizing l with
  | nil => exact h
  | cons x removals ih => exact ih (h.remove x)

/-- Some removal that is due takes every record that is not installed. -/
theorem exists_mem_due {p path : String} {r : UsageRecord} (hr : l.record? p path = some r)
    (hgone : installed.covers p r.owner = false) :
    ∃ x ∈ l.due installed, x.takes p r.owner = true := by
  obtain ⟨u, hu, hpath⟩ := Option.bind_eq_some_iff.1 hr
  have hmem : (p, u) ∈ l.packages.toList := SortedMap.mem_toList_iff.2 hu
  cases hi : installed.get? p with
  | none =>
    refine ⟨.package p, List.mem_flatMap.2 ⟨(p, u), hmem, ?_⟩, by simp [Removal.takes]⟩
    simp [hi]
  | some users =>
    have huser : users.contains r.owner = false := by
      simpa [Installations.covers, hi] using hgone
    have hvalue : r ∈ u.values := List.mem_map.2 ⟨(path, r), SortedMap.mem_toList_iff.2 hpath, rfl⟩
    refine ⟨.user p r.owner, List.mem_flatMap.2 ⟨(p, u), hmem, ?_⟩, by simp [Removal.takes]⟩
    simp only [hi]
    exact List.mem_map.2 ⟨r, List.mem_filter.2 ⟨hvalue, by simp [huser]⟩, rfl⟩

/-! ## Pruning -/

theorem record?_sync_eq_filter (l : Ledger) (installed : Installations) (p path : String) :
    (l.sync installed).1.record? p path =
      (l.record? p path).filter fun r => installed.covers p r.owner :=
  record?_sync l installed p path

/-- Pruning by two maps is pruning by what they have in common. -/
theorem sync_sync (l : Ledger) (a b : Installations) :
    ((l.sync a).1.sync b).1 = (l.sync (a.inter b)).1 := by
  apply (isTrim_sync _ b).ext (isTrim_sync l _)
  intro p path
  simp only [record?_sync_eq_filter, Option.filter_filter, Installations.covers_inter]

theorem sync_sync_comm (l : Ledger) (a b : Installations) :
    ((l.sync a).1.sync b).1 = ((l.sync b).1.sync a).1 := by
  apply (isTrim_sync _ b).ext (isTrim_sync _ a)
  intro p path
  simp only [record?_sync_eq_filter, Option.filter_filter]
  exact congrArg (Option.filter · _) (funext fun r => Bool.and_comm ..)

/-- Pruning again changes nothing, and says so. -/
theorem sync_again (l : Ledger) (a : Installations) :
    (l.sync a).1.sync a = ((l.sync a).1, false) := by
  have hunchanged : ((l.sync a).1.sync a).2 = false := by
    apply Bool.eq_false_iff.2
    intro hchanged
    obtain ⟨p, path, r, hr, hgone⟩ := (isTrim_sync l a).sync_changed_iff.1 hchanged
    rw [record?_sync_eq_filter, Option.filter_eq_some_iff] at hr
    rw [Installations.covers, hgone] at hr
    cases hr.2
  exact Prod.ext ((isTrim_sync l a).sync_of_unchanged hunchanged) hunchanged

/-- Removals leave the pruned ledger when nothing installed is removed and all that is due is. -/
theorem IsTrim.removeEach_eq_sync (h : l.IsTrim)
    (hdue : ∀ x ∈ removals, x.isDue installed = true)
    (hall : ∀ x ∈ l.due installed, x ∈ removals) :
    l.removeEach removals = (l.sync installed).1 := by
  apply (h.removeEach removals).ext (isTrim_sync l installed)
  intro p path
  rw [record?_removeEach, record?_sync_eq_filter]
  cases hr : l.record? p path with
  | none => rfl
  | some r =>
    have hsame : (!removals.any fun x => x.takes p r.owner) = installed.covers p r.owner := by
      cases hcovers : installed.covers p r.owner with
      | true =>
        have hnone : (removals.any fun x => x.takes p r.owner) = false := by
          apply List.any_eq_false.2
          intro x hx htakes
          rw [Removal.covers_eq_false_of_isDue (hdue x hx) htakes] at hcovers
          cases hcovers
        rw [hnone, Bool.not_false]
      | false =>
        obtain ⟨x, hx, htakes⟩ := exists_mem_due hr hcovers
        have hsome : (removals.any fun x => x.takes p r.owner) = true :=
          List.any_eq_true.2 ⟨x, hall x hx, htakes⟩
        rw [hsome, Bool.not_true]
    simp only [Option.filter, hsame]

/-- In every ledger that operations reach: pruning by two maps of what is installed, in either
order, is pruning once by the packages and users that they have in common. Pruning again changes
nothing, and says so. And pruning leaves what single removals leave, in any order and however
often, as long as each is due and every one is among them that is due for what the ledger
holds. -/
theorem pruning_ofOperations (operations : List Operation) :
    let l := ofOperations operations
    (∀ a b : Installations,
      ((l.sync a).1.sync b).1 = ((l.sync b).1.sync a).1 ∧
      ((l.sync a).1.sync b).1 = (l.sync (a.inter b)).1) ∧
    (∀ a : Installations, (l.sync a).1.sync a = ((l.sync a).1, false)) ∧
    ∀ (a : Installations) (removals : List Removal),
      (∀ x ∈ removals, x.isDue a = true) → (∀ x ∈ l.due a, x ∈ removals) →
      l.removeEach removals = (l.sync a).1 := by
  intro l
  have htrim : l.IsTrim :=
    isKept_isTrim.ofOperations isTrim_empty fun doc _ => isTrim_ofDocument doc
  refine ⟨?_, sync_again l, ?_⟩
  · intro a b
    exact ⟨sync_sync_comm l a b, sync_sync l a b⟩
  · intro a removals hdue hall
    exact htrim.removeEach_eq_sync hdue hall

/-- Files of three packages are loaded, those of one of them for two users. -/
def loadedApps : List Operation :=
  [.record ⟨"com.a", "/data/user/0/com.a/x.jar", 0, "arm64", false, false⟩,
    .record ⟨"com.a", "/data/user/10/com.a/x.jar", 10, "arm64", false, false⟩,
    .record ⟨"com.b", "/data/user/0/com.b/y.jar", 0, "arm", false, false⟩,
    .record ⟨"com.c", "/data/user/10/com.c/z.jar", 10, "arm", true, false⟩]

/-- One of the packages is installed for one user, another is there without users. -/
def someInstalled : Installations := .ofList [("com.a", .ofList [0]), ("com.c", .empty)]

/-- The removals that are due, one of them twice, with one for a user who has no records. -/
def untidy : List Removal :=
  [.user "com.c" 10, .package "com.b", .user "com.a" 7, .user "com.a" 10, .package "com.b"]

/-- The untidy removals leave what pruning leaves, which is one record. -/
theorem pruning_untidy :
    let l := ofOperations loadedApps
    l.due someInstalled = [.user "com.a" 10, .package "com.b", .user "com.c" 10] ∧
      l.removeEach untidy = (l.sync someInstalled).1 ∧ (l.sync someInstalled).2 = true ∧
      (l.sync someInstalled).1.recordCount = 1 := by
  intro l
  have hdue : ∀ x ∈ untidy, x.isDue someInstalled = true := by decide +kernel
  have hall : ∀ x ∈ l.due someInstalled, x ∈ untidy := by decide +kernel
  obtain ⟨-, -, hremovals⟩ := pruning_ofOperations loadedApps
  exact ⟨by decide +kernel, hremovals someInstalled untidy hdue hall, by decide +kernel,
    by decide +kernel⟩

end Ledger

end DexTrail
