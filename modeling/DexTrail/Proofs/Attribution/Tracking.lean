-- SUMMARY: Registries that know the data directories of one install only, and what they attribute to its package.
import DexTrail.Attribution.Resolve
import DexTrail.Proofs.Attribution.Installation

/-!
# Tracked installs

A registry tracks an install of a package for a user when it knows no data directories of
the package for the user but those of the install. Every operation keeps this as long as
the package is installed for the user in the same way. Whatever is then attributed to the
package as a secondary file lies in one of the directories of the install.
-/

namespace DexTrail

/-- The path lies under a data directory of the package. -/
def PackageInfo.Holds (info : PackageInfo) (path : String) : Prop :=
  ∃ dir ∈ info.dataDirs, isUnder dir path = true

/-- An install of the same package for the same user is the same install. -/
def PackageInfo.AgreesWith (info : PackageInfo) (user : UserId) (e : UserId × PackageInfo) : Prop :=
  e.2.name = info.name → e.1 = user → e.2 = info

/-- A match that is not of installed code is of a private file. -/
theorem Match.eq_secondary {m : Match} (hfound : m.isFound) (hcode : m.isCode = false) :
    m = .secondary := by
  cases m with
  | notFound => cases hfound
  | primary => cases hcode
  | split => cases hcode
  | secondary => rfl

/-! ## Footprints -/

namespace Footprint

theorem exists_knows_of_search {f : Footprint} {path : String} {user : UserId}
    (h : f.search path user = .secondary) : ∃ dir, f.Knows dir user ∧ isUnder dir path := by
  unfold search at h
  split at h
  · cases h
  · next dirs hdirs =>
    split at h
    · cases h
    · split at h
      · cases h
      · split at h
        · next hany =>
          obtain ⟨dir, hdir, hunder⟩ := List.any_eq_true.1 hany
          exact ⟨dir, ⟨dirs, hdirs, SortedSet.mem_toList.1 hdir⟩, hunder⟩
        · cases h

/-- A footprint of code only knows no directory. -/
theorem not_knows_of_dirs_empty {f : Footprint} (h : f.dirs = .empty) (dir : String)
    (user : UserId) : ¬f.Knows dir user := by
  rintro ⟨dirs, hdirs, -⟩
  rw [dirsOf?, h] at hdirs
  cases hdirs

/-- A loader claims its data directory by itself, and no other one. -/
theorem dataDir_of_knows_ofLoader {info : PackageInfo} {user v : UserId} {dir : String}
    (h : (ofLoader info user).Knows dir v) : info.dataDir = some dir := by
  unfold ofLoader at h
  split at h
  · exact absurd h (not_knows_of_dirs_empty rfl dir v)
  · next own hown =>
    rcases knows_addDir.1 h with ⟨rfl, -⟩ | h
    · exact hown
    · exact absurd h (not_knows_of_dirs_empty rfl dir v)

end Footprint

/-! ## Registries -/

namespace Registry

/-- The registry knows no directories of the package for the user but those of `info`. -/
def Tracks (r : Registry) (info : PackageInfo) (user : UserId) : Prop :=
  ∀ f ∈ r.footprints, f.package = info.name → ∀ dir, f.Knows dir user → dir ∈ info.dataDirs

variable {r : Registry} {info : PackageInfo} {user : UserId}

theorem tracks_empty : empty.Tracks info user := by
  intro f hf
  cases hf

theorem Tracks.addPackage (h : r.Tracks info user) {e : UserId × PackageInfo}
    (he : info.AgreesWith user e) : (r.addPackage e.2 e.1).Tracks info user := by
  intro f hf hp dir hknows
  rw [footprints_addPackage, List.mem_map] at hf
  obtain ⟨g, hg, rfl⟩ := hf
  rw [Footprint.package_take] at hp
  rcases Footprint.knows_take.1 hknows with ⟨hname, hdir, huser⟩ | hknows
  · rw [he (hname.symm.trans hp) huser.symm] at hdir
    exact hdir
  · rcases List.mem_append.1 hg with hg | hg
    · exact h g hg hp dir hknows
    · -- the package has just become known, by its code
      rw [newcomer] at hg
      split at hg
      · cases hg
      · obtain rfl := List.mem_singleton.1 hg
        exact absurd hknows (Footprint.not_knows_of_dirs_empty rfl dir user)

theorem Tracks.addAll (h : r.Tracks info user) {installs : List (UserId × PackageInfo)}
    (hinstalls : ∀ e ∈ installs, info.AgreesWith user e) :
    (r.addAll installs).Tracks info user := by
  induction installs generalizing r with
  | nil => exact h
  | cons e installs ih =>
    exact ih (h.addPackage (hinstalls e List.mem_cons_self))
      fun e' he' => hinstalls e' (List.mem_cons_of_mem e he')

/-- A change of footprints that adds no directory keeps a registry on the track. -/
theorem Tracks.modify (h : r.Tracks info user) (p : String) {c : Footprint → Footprint}
    (hpackage : ∀ f, (c f).package = f.package)
    (hdirs : ∀ f dir, (c f).Knows dir user → f.Knows dir user) :
    (r.modify p c).Tracks info user := by
  intro f hf hp dir hknows
  obtain ⟨g, hg, rfl⟩ := List.mem_map.1 hf
  split at hp
  · next hgp =>
    rw [if_pos hgp] at hknows
    exact h g hg ((hpackage g).symm.trans hp) dir (hdirs g dir hknows)
  · next hgp =>
    rw [if_neg hgp] at hknows
    exact h g hg hp dir hknows

theorem Tracks.setCode (h : r.Tracks info user) (p base : String) (splits : List String) :
    (r.setCode p base splits).Tracks info user := by
  unfold Registry.setCode
  split
  · exact h.modify p (fun _ => rfl) fun _ _ hknows => hknows
  · intro f hf hp dir hknows
    rcases List.mem_append.1 hf with hf | hf
    · exact h f hf hp dir hknows
    · obtain rfl := List.mem_singleton.1 hf
      exact absurd hknows (Footprint.not_knows_of_dirs_empty rfl dir user)

theorem Tracks.removeUser (h : r.Tracks info user) (p : String) (v : UserId) :
    (r.removeUser p v).1.Tracks info user := by
  unfold Registry.removeUser
  split
  · exact h
  · refine h.modify p (fun _ => rfl) ?_
    rintro f dir ⟨dirs, hdirs, hdir⟩
    rw [Footprint.dirsOf?_removeUser] at hdirs
    split at hdirs
    · cases hdirs
    · exact ⟨dirs, hdirs, hdir⟩

theorem Tracks.remove (h : r.Tracks info user) (p : String) : (r.remove p).1.Tracks info user := by
  intro f hf
  exact h f (List.mem_filter.1 hf).1

/-! ## Attribution -/

/-- A path belongs to nobody, or it matches the loader itself, or a known package. -/
theorem resolve_cases (r : Registry) (roots : List String) (loader : PackageInfo) (path : String)
    (user : UserId) :
    r.resolve roots loader path user = .nobody ∨
    (∃ m, (Footprint.ofLoader loader user).search path user = m ∧ m.isFound ∧
      r.resolve roots loader path user = ⟨some loader.name, m⟩) ∨
    ∃ f ∈ r.footprints, (f.search path user).isFound ∧
      r.resolve roots loader path user = ⟨some f.package, f.search path user⟩ := by
  simp only [resolve]
  split
  · exact .inl rfl
  · split
    · exact .inl rfl
    · split
      · next hfound => exact .inr (.inl ⟨_, rfl, hfound, rfl⟩)
      · split
        · next owner outcome hfind =>
          obtain ⟨f, hf, hsome⟩ := List.exists_of_findSome?_eq_some hfind
          obtain ⟨hfound, hpair⟩ := Option.ite_none_right_eq_some.1 hsome
          cases hpair
          exact .inr (.inr ⟨f, hf, hfound, rfl⟩)
        · exact .inl rfl

/-- What is attributed to the package of a tracked install, but not as its code, lies in one
of the directories of the install. -/
theorem Tracks.holds_of_resolve (h : r.Tracks info user) {roots : List String}
    {loader : PackageInfo} (hloader : info.AgreesWith user (user, loader)) {path : String}
    (howner : (r.resolve roots loader path user).owner = some info.name)
    (hcode : (r.resolve roots loader path user).outcome.isCode = false) : info.Holds path := by
  rcases r.resolve_cases roots loader path user with
    hnobody | ⟨m, hsearch, hfound, hown⟩ | ⟨f, hf, hfound, hknown⟩
  · rw [hnobody] at howner
    cases howner
  · rw [hown] at howner hcode
    obtain rfl := hloader (Option.some.inj howner) rfl
    rw [Match.eq_secondary hfound hcode] at hsearch
    obtain ⟨dir, hknows, hunder⟩ := Footprint.exists_knows_of_search hsearch
    have hdir := Footprint.dataDir_of_knows_ofLoader hknows
    exact ⟨dir, by simp [PackageInfo.dataDirs, hdir], hunder⟩
  · rw [hknown] at howner hcode
    obtain ⟨dir, hknows, hunder⟩ :=
      Footprint.exists_knows_of_search (Match.eq_secondary hfound hcode)
    exact ⟨dir, h f hf (Option.some.inj howner) dir hknows, hunder⟩

end Registry

end DexTrail
