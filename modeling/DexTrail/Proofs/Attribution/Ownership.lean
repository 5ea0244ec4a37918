-- SUMMARY: To whom a loaded path is attributed, as rules that do not search.
import DexTrail.Proofs.Attribution.Residency

/-!
# Ownership

A path is exempt, or its loader claims it, or the first known package that claims it owns
it, or nobody does (`Registry.Attributes`). A claim is of the base file first, then of the
splits, then of what lies in a data directory, and only a package that has a data directory
for the user claims anything.
-/

namespace DexTrail

/-! ## Claims -/

/-- A path is found in code and private storage in this way. The base file comes before the
splits, and both before what the storage holds. -/
def Match.Fits (base : String) (splits : SortedSet String) (held : Prop) (path : String) :
    Match → Prop
  | .notFound => False
  | .primary => base = path
  | .split => base ≠ path ∧ path ∈ splits
  | .secondary => base ≠ path ∧ path ∉ splits ∧ held

/-- A package claims a path by its own description. It needs a data directory to do so. -/
def PackageInfo.Claims (info : PackageInfo) (path : String) (m : Match) : Prop :=
  ∃ dir, info.dataDir = some dir ∧
    m.Fits info.base (.ofList info.splits) (isUnder dir path) path

/-- A known package that has data directories for the user claims a path. -/
def Footprint.Claims (f : Footprint) (path : String) (user : UserId) (m : Match) : Prop :=
  (∃ dir, f.Knows dir user) ∧
    m.Fits f.base f.splits (∃ dir, f.Knows dir user ∧ isUnder dir path) path

/-- The path starts with a framework root. -/
def IsExempt (roots : List String) (path : String) : Prop :=
  ∃ root ∈ roots, root.toList <+: path.toList

theorem isFrameworkPath_iff {roots : List String} {path : String} :
    isFrameworkPath roots path ↔ IsExempt roots path := by
  simp only [isFrameworkPath, List.any_eq_true, startsWithText, List.isPrefixOf_iff_prefix,
    IsExempt]

namespace Footprint

variable {f : Footprint} {path : String} {user : UserId} {m : Match}

/-- What a search finds for a user who has the package is what fits. -/
theorem search_eq_iff_fits {dirs : SortedSet String} (hdirs : f.dirsOf? user = some dirs) :
    (f.search path user = m ∧ m.isFound) ↔
      m.Fits f.base f.splits (∃ dir, f.Knows dir user ∧ isUnder dir path) path := by
  have hheld : (∃ dir, f.Knows dir user ∧ isUnder dir path) ↔
      (dirs.any fun dir => isUnder dir path) = true := by
    simp [Knows, hdirs, SortedSet.any]
  have hget : f.dirs.get? user = some dirs := hdirs
  have hsplits : f.splits.contains path = true ↔ path ∈ f.splits := Iff.rfl
  rw [hheld, search, hget]
  dsimp only
  split
  · next hbase => cases m <;> simp [Match.Fits, Match.isFound, hbase]
  · next hbase =>
    split
    · next hsplit => cases m <;> simp [Match.Fits, Match.isFound, hbase, hsplits.1 hsplit]
    · next hsplit =>
      split
      · next hany => cases m <;> simp [Match.Fits, Match.isFound, hbase, mt hsplits.2 hsplit, hany]
      · next hany => cases m <;> simp [Match.Fits, Match.isFound, hbase, mt hsplits.2 hsplit, hany]

/-- A footprint that knows directories of all its users claims what a search in it finds. -/
theorem claims_iff (htrim : f.IsTrim) :
    f.Claims path user m ↔ f.search path user = m ∧ m.isFound := by
  cases hdirs : f.dirsOf? user with
  | none =>
    have hget : f.dirs.get? user = none := hdirs
    rw [search, hget]
    refine iff_of_false ?_ ?_
    · rintro ⟨⟨dir, dirs, hknown, -⟩, -⟩
      rw [hdirs] at hknown
      cases hknown
    · rintro ⟨rfl, hfound⟩
      cases hfound
  | some dirs =>
    rw [search_eq_iff_fits hdirs, Claims, and_iff_right]
    exact htrim user (hasUser_iff.2 ⟨dirs, hdirs⟩)

/-- What the registry asks of each footprint when it looks for an owner. -/
theorem found_eq_some_iff (htrim : f.IsTrim) {owner : String} :
    (if (f.search path user).isFound then some (f.package, f.search path user) else none) =
        some (owner, m) ↔
      f.package = owner ∧ f.Claims path user m := by
  rw [claims_iff htrim, Option.ite_none_right_eq_some, Option.some.injEq, Prod.mk.injEq]
  constructor
  · rintro ⟨hfound, rfl, rfl⟩
    exact ⟨rfl, rfl, hfound⟩
  · rintro ⟨rfl, rfl, hfound⟩
    exact ⟨hfound, rfl, rfl⟩

theorem found_eq_none_iff (htrim : f.IsTrim) :
    (if (f.search path user).isFound then some (f.package, f.search path user) else none) = none ↔
      ∀ m, ¬f.Claims path user m := by
  simp only [claims_iff htrim, not_and, forall_eq', ite_eq_right_iff, reduceCtorEq, imp_false]

theorem isTrim_ofCode (package base : String) (splits : List String) :
    (ofCode package base splits).IsTrim := by
  intro v hv
  cases hv

/-- What a loader claims by its own description is what a search in that finds. -/
theorem search_ofLoader_iff {info : PackageInfo} {dir : String} (hdir : info.dataDir = some dir)
    (user : UserId) :
    (ofLoader info user).search path user = m ∧ m.isFound ↔ info.Claims path m := by
  have hloader : ofLoader info user = (ofCode info.name info.base info.splits).addDir dir user := by
    rw [ofLoader, hdir]
  have hknows (d : String) : (ofLoader info user).Knows d user ↔ d = dir := by
    rw [hloader, knows_addDir, or_iff_left (not_knows_of_dirs_empty rfl d user)]
    exact and_iff_left rfl
  have htrim : (ofLoader info user).IsTrim := by
    rw [hloader]
    exact (isTrim_ofCode _ _ _).addDir dir user
  have hcode : (ofLoader info user).base = info.base ∧
      (ofLoader info user).splits = .ofList info.splits := by
    rw [hloader]
    exact ⟨rfl, rfl⟩
  rw [← claims_iff htrim, Claims, PackageInfo.Claims, hcode.1, hcode.2]
  simp only [hknows, exists_eq, true_and, exists_eq_left, hdir, Option.some.injEq, exists_eq_left']

end Footprint

/-! ## Rules -/

namespace Registry

/-- To whom a path is attributed that the loader loads for the user. -/
inductive Attributes (r : Registry) (roots : List String) (loader : PackageInfo) (path : String)
    (user : UserId) : Attribution → Prop where
  /-- Nobody owns a file of the framework. -/
  | exempt (hexempt : IsExempt roots path) : Attributes r roots loader path user .nobody
  /-- A loader without a data directory is not active. -/
  | inactive (hdir : loader.dataDir = none) : Attributes r roots loader path user .nobody
  /-- An active loader comes first. -/
  | own {m : Match} (hexempt : ¬IsExempt roots path) (hclaim : loader.Claims path m) :
    Attributes r roots loader path user ⟨some loader.name, m⟩
  /-- What the loader does not claim belongs to the first package that does. -/
  | known {m : Match} {before after : List Footprint} {f : Footprint}
    (hexempt : ¬IsExempt roots path) (hactive : loader.dataDir ≠ none)
    (hown : ∀ m, ¬loader.Claims path m)
    (hplace : r.footprints = before ++ f :: after)
    (hbefore : ∀ g ∈ before, ∀ m, ¬g.Claims path user m)
    (hclaim : f.Claims path user m) : Attributes r roots loader path user ⟨some f.package, m⟩
  /-- What nobody claims belongs to nobody. -/
  | unknown (hexempt : ¬IsExempt roots path) (hactive : loader.dataDir ≠ none)
    (hown : ∀ m, ¬loader.Claims path m)
    (hnone : ∀ f ∈ r.footprints, ∀ m, ¬f.Claims path user m) :
    Attributes r roots loader path user .nobody

variable {r : Registry} {roots : List String} {loader : PackageInfo} {path : String}
  {user : UserId}

/-- The owner that the registry finds is the first package that claims the path. -/
theorem findOwner_eq_some_iff (htrim : ∀ f ∈ r.footprints, f.IsTrim) {owner : String} {m : Match} :
    r.findOwner path user = some (owner, m) ↔
      ∃ before f after, r.footprints = before ++ f :: after ∧
        (∀ g ∈ before, ∀ m, ¬g.Claims path user m) ∧ f.package = owner ∧ f.Claims path user m := by
  rw [findOwner, List.findSome?_eq_some_iff]
  refine exists_congr fun before => exists_congr fun f => exists_congr fun after => ?_
  refine and_congr_right fun hplace => ?_
  have hmem {g : Footprint} (hg : g ∈ before ++ f :: after) : g.IsTrim := htrim g (hplace ▸ hg)
  rw [Footprint.found_eq_some_iff (hmem (by simp)), and_comm]
  refine and_congr_left fun _ => forall₂_congr fun g hg => ?_
  exact Footprint.found_eq_none_iff (hmem (List.mem_append_left _ hg))

theorem findOwner_eq_none_iff (htrim : ∀ f ∈ r.footprints, f.IsTrim) :
    r.findOwner path user = none ↔ ∀ f ∈ r.footprints, ∀ m, ¬f.Claims path user m := by
  rw [findOwner, List.findSome?_eq_none_iff]
  exact forall₂_congr fun f hf => Footprint.found_eq_none_iff (htrim f hf)

/-- Attribution follows the rules. -/
theorem attributes_resolve (htrim : ∀ f ∈ r.footprints, f.IsTrim) (roots : List String)
    (loader : PackageInfo) (path : String) (user : UserId) :
    r.Attributes roots loader path user (r.resolve roots loader path user) := by
  unfold resolve
  split
  · next hexempt => exact .exempt (isFrameworkPath_iff.1 hexempt)
  · next hexempt =>
    have hexempt := mt isFrameworkPath_iff.2 hexempt
    split
    · next hdir => exact .inactive (Option.isNone_iff_eq_none.1 hdir)
    · next hactive =>
      have hactive := mt Option.isNone_iff_eq_none.2 hactive
      obtain ⟨dir, hdir⟩ := Option.ne_none_iff_exists'.1 hactive
      dsimp only
      split
      · next hfound =>
        exact .own hexempt ((Footprint.search_ofLoader_iff hdir user).1 ⟨rfl, hfound⟩)
      · next hfound =>
        have hown (m : Match) : ¬loader.Claims path m := by
          intro hclaim
          obtain ⟨rfl, hm⟩ := (Footprint.search_ofLoader_iff hdir user).2 hclaim
          exact hfound hm
        split
        · next owner m hfind =>
          obtain ⟨before, f, after, hplace, hbefore, rfl, hclaim⟩ :=
            (findOwner_eq_some_iff htrim).1 hfind
          exact .known hexempt hactive hown hplace hbefore hclaim
        · next hfind => exact .unknown hexempt hactive hown ((findOwner_eq_none_iff htrim).1 hfind)

/-- The rules attribute a path in one way only. -/
theorem Attributes.eq_resolve (htrim : ∀ f ∈ r.footprints, f.IsTrim) {a : Attribution}
    (h : r.Attributes roots loader path user a) : r.resolve roots loader path user = a := by
  have hgate (hexempt : ¬IsExempt roots path) {dir : String} (hdir : loader.dataDir = some dir) :
      ¬isFrameworkPath roots path = true ∧ ¬loader.dataDir.isNone = true :=
    ⟨mt isFrameworkPath_iff.1 hexempt, by simp [hdir]⟩
  have hpass (hexempt : ¬IsExempt roots path) (hactive : loader.dataDir ≠ none)
      (hown : ∀ m, ¬loader.Claims path m) :
      (∀ owner m, r.findOwner path user = some (owner, m) →
        r.resolve roots loader path user = ⟨some owner, m⟩) ∧
      (r.findOwner path user = none → r.resolve roots loader path user = .nobody) := by
    obtain ⟨dir, hdir⟩ := Option.ne_none_iff_exists'.1 hactive
    obtain ⟨hframework, hnone⟩ := hgate hexempt hdir
    have hfound : ¬((Footprint.ofLoader loader user).search path user).isFound = true :=
      fun hfound => hown _ ((Footprint.search_ofLoader_iff hdir user).1 ⟨rfl, hfound⟩)
    rw [resolve, if_neg hframework, if_neg hnone]
    refine ⟨?_, ?_⟩
    · intro owner m hfind
      exact (if_neg hfound).trans (by rw [hfind])
    · intro hfind
      exact (if_neg hfound).trans (by rw [hfind])
  cases h with
  | exempt hexempt => rw [resolve, if_pos (isFrameworkPath_iff.2 hexempt)]
  | inactive hdir => simp [resolve, hdir]
  | own hexempt hclaim =>
    obtain ⟨dir, hdir, -⟩ := id hclaim
    obtain ⟨hframework, hnone⟩ := hgate hexempt hdir
    obtain ⟨rfl, hfound⟩ := (Footprint.search_ofLoader_iff hdir user).2 hclaim
    rw [resolve, if_neg hframework, if_neg hnone]
    exact if_pos hfound
  | known hexempt hactive hown hplace hbefore hclaim =>
    exact (hpass hexempt hactive hown).1 _ _
      ((findOwner_eq_some_iff htrim).2 ⟨_, _, _, hplace, hbefore, rfl, hclaim⟩)
  | unknown hexempt hactive hown hnone =>
    exact (hpass hexempt hactive hown).2 ((findOwner_eq_none_iff htrim).2 hnone)

theorem Attributes.owner_eq_none_iff {a : Attribution}
    (h : r.Attributes roots loader path user a) : a.owner = none ↔ a.outcome = .notFound := by
  cases h with
  | exempt hexempt => simp [Attribution.nobody]
  | inactive hdir => simp [Attribution.nobody]
  | own hexempt hclaim =>
    obtain ⟨dir, -, hfits⟩ := hclaim
    refine iff_of_false nofun ?_
    rintro rfl
    exact hfits
  | known hexempt hactive hown hplace hbefore hclaim =>
    refine iff_of_false nofun ?_
    rintro rfl
    exact hclaim.2
  | unknown hexempt hactive hown hnone => simp [Attribution.nobody]

/-- An owner that is not the loader by its own claim is known. -/
theorem Attributes.owner_mem_packages {a : Attribution} {owner : String}
    (h : r.Attributes roots loader path user a) (howner : a.owner = some owner)
    (hown : ∀ m, ¬loader.Claims path m) : owner ∈ r.packages := by
  cases h with
  | exempt hexempt => cases howner
  | inactive hdir => cases howner
  | own hexempt hclaim => exact absurd hclaim (hown _)
  | known hexempt hactive hown hplace hbefore hclaim =>
    cases howner
    rw [packages, hplace]
    exact List.mem_map_of_mem (by simp)
  | unknown hexempt hactive hown hnone => cases howner

/-- In a registry of any history, a path is attributed as the rules say and in no other way.
It has no owner exactly when it is not found. An owner that is not the loader by its own
claim is known to the registry. -/
theorem resolve_eq_iff (history : List Change) (roots : List String) (loader : PackageInfo)
    (path : String) (user : UserId) :
    let r := ofHistory history
    let result := r.resolve roots loader path user
    (∀ a, result = a ↔ r.Attributes roots loader path user a) ∧
    (result.owner = none ↔ result.outcome = .notFound) ∧
    ∀ owner, result.owner = some owner → (∀ m, ¬loader.Claims path m) → owner ∈ r.packages := by
  intro r result
  have htrim : ∀ f ∈ r.footprints, f.IsTrim :=
    fun f hf => ((describes_ofHistory history).records f hf).trim
  have hrules : r.Attributes roots loader path user result :=
    attributes_resolve htrim roots loader path user
  refine ⟨fun a => ⟨?_, Attributes.eq_resolve htrim⟩, hrules.owner_eq_none_iff, ?_⟩
  · rintro rfl
    exact hrules
  · intro owner howner hown
    exact hrules.owner_mem_packages howner hown

end Registry

end DexTrail
