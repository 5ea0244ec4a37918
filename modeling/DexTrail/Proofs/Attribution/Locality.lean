-- SUMMARY: A change of the registry concerns its own package and user only.
import DexTrail.Proofs.Attribution.Users

/-!
# Locality of changes

The owner of a path is the first of all packages that the path matches, so every change could
decide it anew. A change leaves the footprints of other packages and their order alone
(`Registry.owners_change`): where its own package does not match, neither before nor after, the
same owner is found. A change for one user leaves what other users match alone.
-/

namespace DexTrail

/-! ## Whom a change concerns -/

namespace Registry.Change

/-- The package that the change concerns. -/
def package : Change → String
  | .addPackage info _ => info.name
  | .setCode package _ _ => package
  | .addDir package _ _ => package
  | .removeUser package _ => package
  | .remove package => package

/-- The user that the change concerns, if it is for one user. -/
def user? : Change → Option UserId
  | .addDir _ user _ => some user
  | .removeUser _ user => some user
  | .addPackage _ _ => none
  | .setCode _ _ _ => none
  | .remove _ => none

theorem package_of_bare? {c : Change} {f : Footprint} (h : c.bare? = some f) :
    f.package = c.package := by
  cases c with
  | addPackage info user =>
    cases h
    rfl
  | setCode package base splits =>
    cases h
    rfl
  | addDir package user dir => cases h
  | removeUser package user => cases h
  | remove package => cases h

end Registry.Change

/-! ## One footprint -/

namespace Footprint

variable {f : Footprint} {path : String} {user : UserId}

theorem change_of_ne {c : Registry.Change} (h : f.package ≠ c.package) : f.change c = f := by
  cases c with
  | addPackage info user => exact take_of_ne h
  | setCode package base splits => exact if_neg h
  | addDir package user dir => exact if_neg h
  | removeUser package user => exact if_neg h
  | remove package => rfl

/-- A change for one user keeps the code and what the footprint has for the others. -/
theorem change_of_user_ne {c : Registry.Change} {v : UserId} (hc : c.user? = some v)
    (hne : user ≠ v) :
    (f.change c).base = f.base ∧ (f.change c).splits = f.splits ∧
      (f.change c).dirsOf? user = f.dirsOf? user := by
  cases c with
  | addPackage info u => cases hc
  | setCode package base splits => cases hc
  | addDir package u dir =>
    cases hc
    simp only [change]
    split
    · exact ⟨rfl, rfl, (dirsOf?_addDir f dir v user).trans (if_neg hne)⟩
    · exact ⟨rfl, rfl, rfl⟩
  | removeUser package u =>
    cases hc
    simp only [change]
    split
    · exact ⟨rfl, rfl, (dirsOf?_removeUser f v user).trans (if_neg hne)⟩
    · exact ⟨rfl, rfl, rfl⟩
  | remove package => cases hc

/-- What a path matches depends on the code and on what the footprint has for the user. -/
theorem search_congr {g : Footprint} (hbase : f.base = g.base) (hsplits : f.splits = g.splits)
    (hdirs : f.dirsOf? user = g.dirsOf? user) (path : String) :
    f.search path user = g.search path user := by
  have hdirs : f.dirs.get? user = g.dirs.get? user := hdirs
  rw [search, search, hbase, hsplits, hdirs]

/-- The package with the way in which the path matches it, if it does. -/
def owner? (f : Footprint) (path : String) (user : UserId) : Option (String × Match) :=
  let m := f.search path user
  if m.isFound then some (f.package, m) else none

theorem owner?_eq_none_iff : f.owner? path user = none ↔ ¬(f.search path user).isFound := by
  rw [owner?, ite_eq_right_iff]
  exact forall_congr' fun _ => iff_false_intro (Option.some_ne_none _)

end Footprint

/-! ## The registry -/

namespace Registry

/-- All packages that the path matches for the user, in their order. -/
def owners (r : Registry) (path : String) (user : UserId) : List (String × Match) :=
  r.footprints.filterMap fun f => f.owner? path user

theorem findOwner_eq_head? (r : Registry) (path : String) (user : UserId) :
    r.findOwner path user = (r.owners path user).head? := List.head?_filterMap.symm

/-- The path matches the package for the user. -/
def Matches (r : Registry) (package path : String) (user : UserId) : Prop :=
  ∃ f, r.get? package = some f ∧ (f.search path user).isFound

variable {r : Registry} {history : List Change}

theorem Describes.owner?_eq_none (h : r.Describes history) {package path : String} {user : UserId}
    (hno : ¬r.Matches package path user) {f : Footprint} (hf : f ∈ r.footprints)
    (hp : f.package = package) : f.owner? path user = none := by
  refine Footprint.owner?_eq_none_iff.2 fun hfound => hno ⟨f, ?_, hfound⟩
  exact h.get?_eq_some_iff.2 ⟨hf, hp⟩

/-- A change whose package the path does not match, neither before nor after, leaves the packages
that it matches and their order. -/
theorem owners_change (h : r.Describes history) {c : Change} {path : String} {user : UserId}
    (hbefore : ¬r.Matches c.package path user)
    (hafter : ¬(r.change c).Matches c.package path user) :
    (r.change c).owners path user = r.owners path user := by
  have hgone {f : Footprint} (hf : f ∈ r.footprints ++ r.newcomers c) (hp : f.package = c.package) :
      (if (c != .remove (f.change c).package) = true then (f.change c).owner? path user else none) =
        none := by
    refine ite_eq_right_iff.2 fun hstays => ?_
    refine (h.change c).owner?_eq_none hafter ?_ ((f.package_change c).trans hp)
    rw [footprints_change]
    exact List.mem_filter.2 ⟨List.mem_map_of_mem hf, hstays⟩
  rw [owners, owners, footprints_change, List.filterMap_filter, List.filterMap_map,
    List.filterMap_append, (List.filterMap_eq_nil_iff (l := r.newcomers c)).2, List.append_nil]
  · refine List.filterMap_congr fun f hf => ?_
    by_cases hp : f.package = c.package
    · exact (hgone (List.mem_append_left _ hf) hp).trans (h.owner?_eq_none hbefore hf hp).symm
    · have hstays : (c != .remove f.package) = true := by
        refine bne_iff_ne.2 ?_
        rintro rfl
        exact hp rfl
      rw [Function.comp_apply, Footprint.change_of_ne hp, if_pos hstays]
  · intro f hf
    have hp := Change.package_of_bare? (mem_newcomers_iff.1 hf).1
    exact hgone (List.mem_append_right _ hf) hp

/-- A change leaves the footprints of other packages. -/
theorem get?_change_of_ne (h : r.Describes history) {c : Change} {p : String}
    (hne : p ≠ c.package) : (r.change c).get? p = r.get? p := by
  refine Option.ext fun f => ?_
  rw [(h.change c).get?_eq_some_iff, h.get?_eq_some_iff, footprints_change, List.mem_filter,
    List.mem_map]
  constructor
  · rintro ⟨⟨⟨g, hg, rfl⟩, -⟩, rfl⟩
    rw [Footprint.package_change] at hne ⊢
    rw [Footprint.change_of_ne hne]
    rcases List.mem_append.1 hg with hg | hg
    · exact ⟨hg, rfl⟩
    · exact absurd (Change.package_of_bare? (mem_newcomers_iff.1 hg).1) hne
  · rintro ⟨hf, rfl⟩
    have hsame := Footprint.change_of_ne hne
    have hstays : (c != .remove f.package) = true := by
      refine bne_iff_ne.2 ?_
      rintro rfl
      exact hne rfl
    exact ⟨⟨⟨f, List.mem_append_left _ hf, hsame⟩, hstays⟩, rfl⟩

/-- A change for one user is taken up where the footprints stand, and none comes or goes. -/
theorem footprints_change_of_user? {c : Change} {v : UserId} (hc : c.user? = some v) :
    (r.change c).footprints = r.footprints.map (·.change c) := by
  have hnew : r.newcomers c = [] := by
    cases c with
    | addDir package user dir => rfl
    | removeUser package user => rfl
    | addPackage info user => cases hc
    | setCode package base splits => cases hc
    | remove package => cases hc
  rw [footprints_change, hnew, List.append_nil, List.filter_eq_self]
  intro f _
  refine bne_iff_ne.2 ?_
  rintro rfl
  cases hc

/-- The other users find the same owners after a change for one user. -/
theorem findOwner_change_of_user_ne {c : Change} {v user : UserId} (hc : c.user? = some v)
    (hne : user ≠ v) (path : String) :
    (r.change c).findOwner path user = r.findOwner path user := by
  rw [findOwner_eq_head?, findOwner_eq_head?, owners, owners, footprints_change_of_user? hc,
    List.filterMap_map]
  refine congrArg List.head? (List.filterMap_congr fun f _ => ?_)
  obtain ⟨hbase, hsplits, hdirs⟩ := Footprint.change_of_user_ne (f := f) hc hne
  rw [Function.comp_apply, Footprint.owner?, Footprint.owner?, Footprint.package_change,
    Footprint.search_congr hbase hsplits hdirs path]

/-- The other users have the same packages after a change for one user. -/
theorem lookup_change_of_user_ne {c : Change} {v user : UserId} (hc : c.user? = some v)
    (hne : user ≠ v) (p : String) :
    (r.change c).lookup p user = (r.lookup p user).map (·.change c) := by
  have hfind : (r.change c).get? p = (r.get? p).map (·.change c) := by
    have hname : (·.package == p) ∘ (·.change c) = fun f : Footprint => f.package == p :=
      funext fun f => congrArg (· == p) (f.package_change c)
    rw [get?, get?, footprints_change_of_user? hc, List.find?_map, hname]
  have hkeeps (f : Footprint) : (f.change c).hasUser user = f.hasUser user :=
    congrArg Option.isSome (Footprint.change_of_user_ne (f := f) hc hne).2.2
  rw [lookup, lookup, hfind]
  cases hf : r.get? p with
  | none => rfl
  | some f =>
    simp only [Option.map_some, Option.filter, hkeeps]
    split <;> rfl

/-- After any history, a change whose package a path does not match, neither before nor after,
leaves the owner of the path; every other package is found with the footprint it had; and a
change for one user leaves the owners of all paths for the other users, and which packages these
users have. -/
theorem change_concerns_own (history : List Change) (c : Change) :
    let r := ofHistory history
    (∀ path user, ¬r.Matches c.package path user → ¬(r.change c).Matches c.package path user →
      (r.change c).findOwner path user = r.findOwner path user) ∧
    (∀ p, p ≠ c.package → ∀ user, (r.change c).lookup p user = r.lookup p user) ∧
    ∀ v, c.user? = some v → ∀ user, user ≠ v →
      (∀ path, (r.change c).findOwner path user = r.findOwner path user) ∧
      ∀ p, ((r.change c).lookup p user).isSome = (r.lookup p user).isSome := by
  intro r
  have h : r.Describes history := describes_ofHistory history
  refine ⟨?_, ?_, ?_⟩
  · intro path user hbefore hafter
    rw [findOwner_eq_head?, findOwner_eq_head?, owners_change h hbefore hafter]
  · intro p hne user
    rw [lookup, lookup, get?_change_of_ne h hne]
  · intro v hc user hne
    refine ⟨findOwner_change_of_user_ne hc hne, fun p => ?_⟩
    rw [lookup_change_of_user_ne hc hne, Option.isSome_map]

/-- Two packages with one data directory, and between them one that is elsewhere. -/
def overlapping : List Change :=
  [.addPackage { (default : PackageInfo) with
      name := "com.first", base := "/app/first.apk", dataDir := some "/data/first" } 0,
    .addPackage { (default : PackageInfo) with
      name := "com.other", base := "/app/other.apk", dataDir := some "/data/other" } 0,
    .addPackage { (default : PackageInfo) with
      name := "com.second", base := "/app/second.apk", dataDir := some "/data/first" } 0]

/-- The first of the two stays the owner of what both hold when the other package is removed,
and also when the second comes to have the directory for another user as well. -/
theorem change_concerns_own_overlapping :
    let r := ofHistory overlapping
    let path := "/data/first/x.jar"
    (r.change (.remove "com.other")).findOwner path 0 = some ("com.first", .secondary) ∧
      (r.change (.addDir "com.second" 10 "/data/first")).findOwner path 0 =
        some ("com.first", .secondary) ∧
      (r.change (.addDir "com.second" 10 "/data/first")).findOwner path 10 =
        some ("com.second", .secondary) := by
  intro r path
  have howner : r.findOwner path 0 = some ("com.first", .secondary) := by decide +kernel
  have hbefore : ¬r.Matches "com.other" path 0 := by
    rintro ⟨f, hf, hfound⟩
    have hnot : (r.get? "com.other").all (fun f => !(f.search path 0).isFound) := by decide +kernel
    rw [hf] at hnot
    simp [hfound] at hnot
  have hafter : ¬(r.change (.remove "com.other")).Matches "com.other" path 0 := by
    rintro ⟨f, hf, -⟩
    have hgone : (r.change (.remove "com.other")).get? "com.other" = none := by decide +kernel
    rw [hgone] at hf
    cases hf
  obtain ⟨hremove, -, -⟩ := change_concerns_own overlapping (.remove "com.other")
  obtain ⟨-, -, hadd⟩ :=
    change_concerns_own overlapping (.addDir "com.second" 10 "/data/first")
  refine ⟨(hremove path 0 hbefore hafter).trans howner, ?_, by decide +kernel⟩
  exact ((hadd 10 rfl 0 (by decide)).1 path).trans howner

end Registry

end DexTrail
