-- SUMMARY: What a registry attributes that knows the installs of a package database only.
import DexTrail.Disk.Path
import DexTrail.Proofs.Attribution.Nesting
import DexTrail.Proofs.Attribution.Ownership

/-!
# Provenance

A footprint that was made by installs has its code and its data directories from them. So a
registry that has taken up the installs of a database and nothing else attributes a path to a
package that is installed there for the user, and the path is absolute where all code and data
of the installs are.
-/

namespace DexTrail

/-! ## Absolute paths -/

/-- The package has a name, and its code and its data are at absolute paths. -/
structure PackageInfo.IsProper (info : PackageInfo) : Prop where
  name : info.name ≠ ""
  base : Path.isAbsolute info.base
  splits : ∀ path ∈ info.splits, Path.isAbsolute path
  dataDirs : ∀ dir ∈ info.dataDirs, Path.isAbsolute dir

/-- All packages of the database are proper. -/
def InstalledPackages.IsProper (installed : InstalledPackages) : Prop :=
  ∀ e ∈ installed.installs, e.2.IsProper

/-- What lies under a directory starts as the directory does. -/
theorem isAbsolute_of_isUnder {dir path : String} (h : isUnder dir path)
    (hdir : Path.isAbsolute dir) : Path.isAbsolute path := by
  obtain ⟨hne, rest, hpath, -⟩ := isUnder_iff.1 h
  obtain ⟨slashes, hslashes, -⟩ := exists_dropSlashesAtEnd_append dir.toList
  obtain ⟨c, cs, hstart⟩ := List.exists_cons_of_ne_nil hne
  rw [hstart] at hpath hslashes
  rw [Path.isAbsolute, hslashes] at hdir
  rw [Path.isAbsolute, hpath]
  exact hdir

/-- Whatever is found in code and storage at absolute paths is at an absolute path. -/
theorem Match.Fits.isAbsolute {base path : String} {splits : SortedSet String} {held : Prop}
    {m : Match} (h : m.Fits base splits held path) (hbase : Path.isAbsolute base)
    (hsplits : ∀ p ∈ splits, Path.isAbsolute p) (hheld : held → Path.isAbsolute path) :
    Path.isAbsolute path := by
  cases m with
  | notFound => exact h.elim
  | primary => exact h ▸ hbase
  | split => exact hsplits path h.2
  | secondary => exact hheld h.2.2

theorem PackageInfo.Claims.isAbsolute {info : PackageInfo} {path : String} {m : Match}
    (h : info.Claims path m) (hinfo : info.IsProper) : Path.isAbsolute path := by
  obtain ⟨dir, hdir, hfits⟩ := h
  refine hfits.isAbsolute hinfo.base ?_ fun hunder => isAbsolute_of_isUnder hunder ?_
  · exact fun p hp => hinfo.splits p (SortedSet.mem_ofList.1 hp)
  · exact hinfo.dataDirs dir (by simp [PackageInfo.dataDirs, hdir])

/-! ## Footprints of installs -/

namespace Footprint

/-- The code of the footprint is that of an install of its package, and each of its
directories is one of an install for the same user. -/
structure IsFrom (f : Footprint) (installs : List (UserId × PackageInfo)) : Prop where
  code : ∃ e ∈ installs, e.2.name = f.package ∧ e.2.base = f.base ∧ .ofList e.2.splits = f.splits
  dirs : ∀ dir user, f.Knows dir user →
    ∃ info, (user, info) ∈ installs ∧ info.name = f.package ∧ dir ∈ info.dataDirs
  trim : f.IsTrim

variable {installs : List (UserId × PackageInfo)} {e : UserId × PackageInfo}

theorem isFrom_ofCode (he : e ∈ installs) :
    (ofCode e.2.name e.2.base e.2.splits).IsFrom installs where
  code := ⟨e, he, rfl, rfl, rfl⟩
  dirs dir user hknows := absurd hknows (not_knows_of_dirs_empty rfl dir user)
  trim := isTrim_ofCode _ _ _

theorem IsFrom.take {f : Footprint} (h : f.IsFrom installs) (he : e ∈ installs) :
    (f.take e).IsFrom installs where
  code := by
    by_cases hp : f.package = e.2.name
    · obtain ⟨hname, hbase, hsplits⟩ :=
        code_addDirs (f.setCode e.2.base e.2.splits) e.2.dataDirs e.1
      rw [Footprint.take, if_pos hp]
      exact ⟨e, he, hp.symm.trans hname.symm, hbase.symm, hsplits.symm⟩
    · rw [take_of_ne hp]
      exact h.code
  dirs := by
    intro dir user hknows
    rw [package_take]
    rcases knows_take.1 hknows with ⟨hp, hdir, rfl⟩ | hknows
    · exact ⟨e.2, he, hp.symm, hdir⟩
    · exact h.dirs dir user hknows
  trim := h.trim.change (.addPackage e.2 e.1)

/-- What a footprint of proper installs claims is at an absolute path, and its package is
installed for the user. -/
theorem IsFrom.of_claims {f : Footprint} {installed : InstalledPackages}
    (h : f.IsFrom installed.installs) (hproper : installed.IsProper) {path : String}
    {user : UserId} {m : Match} (hclaim : f.Claims path user m) :
    f.package ≠ "" ∧ Path.isAbsolute path ∧ (installed.find? f.package user).isSome := by
  obtain ⟨⟨dir, hknows⟩, hfits⟩ := hclaim
  obtain ⟨e, he, -, hbase, hsplits⟩ := h.code
  obtain ⟨info, hinfo, hname, -⟩ := h.dirs dir user hknows
  refine ⟨hname ▸ (hproper _ hinfo).name, hfits.isAbsolute ?_ ?_ ?_, ?_⟩
  · exact hbase ▸ (hproper e he).base
  · intro p hp
    rw [← hsplits, SortedSet.mem_ofList] at hp
    exact (hproper e he).splits p hp
  · rintro ⟨d, hd, hunder⟩
    obtain ⟨info', hinfo', -, hdir⟩ := h.dirs d user hd
    exact isAbsolute_of_isUnder hunder ((hproper _ hinfo').dataDirs d hdir)
  · exact InstalledPackages.isSome_find?_iff.2 ⟨info, hinfo, hname⟩

end Footprint

/-! ## Registries of installs -/

namespace Registry

theorem isFrom_addAll {r : Registry} {installs all : List (UserId × PackageInfo)}
    (hr : ∀ f ∈ r.footprints, f.IsFrom all) (hsub : installs ⊆ all) :
    ∀ f ∈ (r.addAll installs).footprints, f.IsFrom all := by
  induction installs generalizing r with
  | nil => exact hr
  | cons e installs ih =>
    obtain ⟨he, hsub⟩ := List.cons_subset.1 hsub
    refine ih (r := r.addPackage e.2 e.1) ?_ hsub
    intro f hf
    rw [footprints_addPackage, List.mem_map] at hf
    obtain ⟨g, hg, rfl⟩ := hf
    rcases List.mem_append.1 hg with hg | hg
    · exact (hr g hg).take he
    · rw [newcomer] at hg
      split at hg
      · cases hg
      · obtain rfl := List.mem_singleton.1 hg
        exact (Footprint.isFrom_ofCode he).take he

/-- The registry of a database. -/
def ofInstalled (installed : InstalledPackages) : Registry := empty.addAll installed.installs

variable {installed : InstalledPackages}

theorem isFrom_ofInstalled :
    ∀ f ∈ (ofInstalled installed).footprints, f.IsFrom installed.installs := by
  refine isFrom_addAll ?_ (List.Subset.refl _)
  intro f hf
  cases hf

/-- To whom the registry of a database attributes a path that an installed package loads, if to
anyone: a package with a name that is installed for the user, and then the path is absolute. -/
theorem owner_resolve_ofInstalled (hproper : installed.IsProper) {roots : List String}
    {loader : PackageInfo} {user : UserId} (hloader : (user, loader) ∈ installed.installs)
    {path owner : String}
    (howner : ((ofInstalled installed).resolve roots loader path user).owner = some owner) :
    owner ≠ "" ∧ Path.isAbsolute path ∧ (installed.find? owner user).isSome := by
  have htrim : ∀ f ∈ (ofInstalled installed).footprints, f.IsTrim :=
    fun f hf => (isFrom_ofInstalled f hf).trim
  have hrules := attributes_resolve htrim roots loader path user
  revert howner hrules
  generalize (ofInstalled installed).resolve roots loader path user = a
  intro howner hrules
  cases hrules with
  | exempt hexempt => cases howner
  | inactive hdir => cases howner
  | own hexempt hclaim =>
    cases howner
    exact ⟨(hproper _ hloader).name, hclaim.isAbsolute (hproper _ hloader),
      InstalledPackages.isSome_find?_iff.2 ⟨loader, hloader, rfl⟩⟩
  | @known m before after f hexempt hactive hown hplace hbefore hclaim =>
    cases howner
    have hf : f ∈ (ofInstalled installed).footprints := by
      rw [hplace]
      exact List.mem_append_right before List.mem_cons_self
    exact (isFrom_ofInstalled f hf).of_claims hproper hclaim
  | unknown hexempt hactive hown hnone => cases howner

end Registry

end DexTrail
