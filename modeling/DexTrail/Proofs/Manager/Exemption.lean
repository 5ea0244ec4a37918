-- SUMMARY: Which paths outside the framework roots are exempt, for which roots there are any, and what that suppresses.
import DexTrail.Manager.State
import DexTrail.Proofs.Attribution.Containment
import DexTrail.Proofs.Attribution.Ownership

/-!
# Exempt paths outside the roots

A path is exempt when its text starts with a framework root, and the root may end within one of
the path's components. So besides what lies under a root, the paths are exempt that lengthen the
last name of a root (`LengthensName`). All exempt paths lie under a root exactly when every root
ends in a slash or lies in another root.
-/

namespace DexTrail

variable {cs ds name : List Char} {before : List (List Char)} {root other path : String}
  {roots : List String}

/-- The path has the components of the root, but for the last name of the root it has a longer
one that starts with it. -/
def LengthensName (root path : String) : Prop :=
  ∃ before name more after, splitAtSlashes root.toList = before ++ [name] ∧ name ≠ [] ∧
    splitAtSlashes path.toList = before ++ (name ++ more) :: after ∧ more ≠ []

/-! ## Roots that end in a name -/

theorem dropSlashesAtEnd_of_name (hcs : splitAtSlashes cs = before ++ [name]) (hname : name ≠ []) :
    dropSlashesAtEnd cs = cs := by
  refine List.rdropWhile_eq_self_iff.2 fun hne hlast => hname ?_
  rw [← getLast?_eq_slash_iff hcs hne, List.getLast?_eq_some_getLast hne]
  exact congrArg some (beq_iff_eq.1 hlast)

/-- A root that ends in a name lies in another directory when the components of that end before
the name. -/
theorem isUnder_strict_iff (hroot : splitAtSlashes root.toList = before ++ [name])
    (hname : name ≠ []) :
    (isUnder other root ∧ ¬isUnder root other) ↔
      dropSlashesAtEnd other.toList ≠ [] ∧
        splitAtSlashes (dropSlashesAtEnd other.toList) <+: before := by
  have htrim := dropSlashesAtEnd_of_name hroot hname
  rw [isUnder_iff_components, hroot, List.prefix_concat_iff]
  constructor
  · rintro ⟨⟨hother, hsame | hin⟩, hback⟩
    · refine absurd (isUnder_iff_components.2 ?_) hback
      rw [htrim, hroot, ← hsame]
      exact ⟨ne_nil_of_name hroot hname, prefix_splitAtSlashes_dropSlashesAtEnd _⟩
    · exact ⟨hother, hin⟩
  · rintro ⟨hother, hin⟩
    refine ⟨⟨hother, .inr hin⟩, fun hback => ?_⟩
    -- the other directory would start with the root and have fewer components
    obtain ⟨-, rest, hrest, -⟩ := isUnder_iff.1 hback
    rw [hrest, htrim, dropSlashesAtEnd_append htrim] at hin
    have hmore := length_splitAtSlashes_le (List.prefix_append root.toList (dropSlashesAtEnd rest))
    have hless := hin.length_le
    rw [hroot, List.length_append, List.length_singleton] at hmore
    omega

/-- What is left without the slashes at the end does not end in a slash. -/
theorem getLast?_dropSlashesAtEnd (cs : List Char) : (dropSlashesAtEnd cs).getLast? ≠ some '/' := by
  intro hlast
  have hne : dropSlashesAtEnd cs ≠ [] := by
    intro hempty
    rw [hempty] at hlast
    cases hlast
  refine List.rdropWhile_last_not (· == '/') cs hne (beq_iff_eq.2 ?_)
  rw [List.getLast?_eq_some_getLast hne] at hlast
  exact Option.some.inj hlast

/-! ## Exempt paths -/

theorem LengthensName.isPrefix (h : LengthensName root path) : root.toList <+: path.toList := by
  obtain ⟨before, name, more, after, hroot, -, hpath, -⟩ := h
  exact prefix_iff_splitAtSlashes.2 ⟨before, name, more, after, hroot, hpath⟩

/-- What starts with a root lies under it or lengthens its last name. -/
theorem isUnder_or_lengthensName (hne : dropSlashesAtEnd root.toList ≠ [])
    (h : root.toList <+: path.toList) : isUnder root path ∨ LengthensName root path := by
  obtain ⟨before, name, more, after, hroot, hpath⟩ := prefix_iff_splitAtSlashes.1 h
  have htrim := prefix_splitAtSlashes_dropSlashesAtEnd root.toList
  rw [isUnder_iff_components, and_iff_right hne, hpath]
  rw [hroot, List.prefix_concat_iff] at htrim
  obtain hsame | hin := htrim
  · by_cases hmore : more = []
    · rw [hsame, hmore, List.append_nil]
      exact .inl ⟨after, (List.append_cons before name after).symm⟩
    · have hname : name ≠ [] := by
        rw [Ne, ← getLast?_eq_slash_iff hsame hne]
        exact getLast?_dropSlashesAtEnd _
      exact .inr ⟨before, name, more, after, hroot, hname, hpath, hmore⟩
  · exact .inl (hin.trans (List.prefix_append _ _))

/-- Outside the roots, the paths are exempt that lengthen the last name of a root. -/
theorem isFrameworkPath_iff_of_outside (hroots : ∀ root ∈ roots, dropSlashesAtEnd root.toList ≠ [])
    (hpath : ∀ root ∈ roots, ¬isUnder root path) :
    isFrameworkPath roots path ↔ ∃ root ∈ roots, LengthensName root path := by
  rw [isFrameworkPath_iff, IsExempt]
  refine exists_congr fun root => and_congr_right fun hroot => ⟨fun h => ?_, (·.isPrefix)⟩
  exact (isUnder_or_lengthensName (hroots root hroot) h).resolve_left (hpath root hroot)

/-! ## Roots that exempt nothing else -/

/-- A root that ends in a name and lies in no other root exempts a path outside all roots. -/
theorem exists_lengthensName (hroot : root ∈ roots)
    (hcs : splitAtSlashes root.toList = before ++ [name]) (hname : name ≠ [])
    (halone : ∀ other ∈ roots, isUnder other root → isUnder root other) :
    ∃ path, LengthensName root path ∧ ∀ other ∈ roots, ¬isUnder other path := by
  -- the name is made longer than all roots, so that none of them has it
  let bound := (roots.map String.toList).flatten.length
  have hbound {other : String} (hother : other ∈ roots) : other.toList.length ≤ bound :=
    (List.sublist_flatten_of_mem (List.mem_map_of_mem hother)).length_le
  let more := List.replicate bound 'x'
  have hslash : '/' ∉ more := fun h => absurd (List.eq_of_mem_replicate h) (by decide)
  have hlong : 0 < root.toList.length := List.length_pos_of_ne_nil (ne_nil_of_name hcs hname)
  have hmore : more ≠ [] := by
    apply List.ne_nil_of_length_pos
    have := hbound hroot
    rw [List.length_replicate]
    omega
  obtain ⟨before', name', hcs', hpath⟩ := splitAtSlashes_append hslash root.toList
  obtain ⟨rfl, rfl⟩ := List.append_singleton_inj.1 (hcs.symm.trans hcs')
  refine ⟨String.ofList (root.toList ++ more), ⟨before, name, more, [], hcs, hname, ?_, hmore⟩, ?_⟩
  · rwa [String.toList_ofList]
  · intro other hother hunder
    rw [isUnder_iff_components, String.toList_ofList, hpath, List.prefix_concat_iff] at hunder
    obtain ⟨hne, hsame | hin⟩ := hunder
    · have htexts := congrArg joinPieces (hsame.trans hpath.symm)
      rw [joinPieces_splitAtSlashes, joinPieces_splitAtSlashes] at htexts
      have htrim : (dropSlashesAtEnd other.toList).length ≤ other.toList.length :=
        (List.rdropWhile_prefix (· == '/') other.toList).length_le
      rw [htexts, List.length_append, List.length_replicate] at htrim
      have := hbound hother
      omega
    · obtain ⟨hother', hback⟩ := (isUnder_strict_iff hcs hname).2 ⟨hne, hin⟩
      exact hback (halone other hother hother')

/-- All exempt paths lie under a root exactly when every root ends in a slash or lies in another
root. -/
theorem exempt_under_iff (hroots : ∀ root ∈ roots, dropSlashesAtEnd root.toList ≠ []) :
    (∀ path, isFrameworkPath roots path → ∃ root ∈ roots, isUnder root path) ↔
      ∀ root ∈ roots, root.toList.getLast? = some '/' ∨
        ∃ other ∈ roots, isUnder other root ∧ ¬isUnder root other := by
  have hne {root : String} (hroot : root ∈ roots) : root.toList ≠ [] := by
    intro hempty
    exact hroots root hroot (by rw [hempty]; rfl)
  constructor
  · intro h root hroot
    obtain hnil | ⟨before, name, hcs⟩ := List.eq_nil_or_concat' (splitAtSlashes root.toList)
    · exact absurd hnil (splitAtSlashes_ne_nil _)
    rw [getLast?_eq_slash_iff hcs (hne hroot), or_iff_not_imp_left]
    intro hname
    by_contra halone
    simp only [not_exists, not_and, not_not] at halone
    obtain ⟨path, hpath, houtside⟩ := exists_lengthensName hroot hcs hname halone
    obtain ⟨other, hother, hunder⟩ := h path (isFrameworkPath_iff.2 ⟨root, hroot, hpath.isPrefix⟩)
    exact houtside other hother hunder
  · intro h path hexempt
    obtain ⟨root, hroot, hprefix⟩ := isFrameworkPath_iff.1 hexempt
    obtain hunder | hpath := isUnder_or_lengthensName (hroots root hroot) hprefix
    · exact ⟨root, hroot, hunder⟩
    · obtain ⟨before, name, more, after, hcs, hname, hds, -⟩ := hpath
      obtain hlast | ⟨other, hother, hstrict⟩ := h root hroot
      · exact absurd ((getLast?_eq_slash_iff hcs (hne hroot)).1 hlast) hname
      · obtain ⟨htrim, hin⟩ := (isUnder_strict_iff hcs hname).1 hstrict
        refine ⟨other, hother, isUnder_iff_components.2 ⟨htrim, ?_⟩⟩
        rw [hds]
        exact hin.trans (List.prefix_append _ _)

/-- Without other settings what is exempt lies under a root. -/
example : ∀ path, isFrameworkPath Config.default.frameworkRoots path →
    ∃ root ∈ Config.default.frameworkRoots, isUnder root path :=
  (exempt_under_iff (by decide +kernel)).2 (by decide +kernel)

/-! ## What exemption suppresses -/

/-- An exempt path belongs to nobody, and any other one to whom it does without roots. -/
theorem Registry.resolve_eq_ite (r : Registry) (roots : List String) (loader : PackageInfo)
    (path : String) (user : UserId) :
    r.resolve roots loader path user =
      if isFrameworkPath roots path then .nobody else r.resolve [] loader path user := by
  unfold resolve
  split
  · rfl
  · rfl

namespace Manager

/-- The manager with these framework roots. -/
def withRoots (m : Manager) (roots : List String) : Manager :=
  { m with policy := { m.policy with frameworkRoots := roots } }

/-- An exempt path makes no load known, and any other path the one that it makes known without
roots. -/
theorem loadOf?_withRoots (m : Manager) (roots : List String) (loader : PackageInfo)
    (isa : String) (user : UserId) (path : String) :
    (m.withRoots roots).loadOf? loader isa user path =
      if isFrameworkPath roots path then none
      else (m.withRoots []).loadOf? loader isa user path := by
  have hresolve : (m.withRoots roots).resolve loader path user =
      if isFrameworkPath roots path then .nobody
      else (m.withRoots []).resolve loader path user :=
    m.registry.resolve_eq_ite roots loader path user
  unfold loadOf?
  rw [hresolve]
  split
  · rfl
  · rfl

/-- A notice is taken up as without roots and without its exempt paths. -/
theorem noteLoad_withRoots (m : Manager) (roots : List String) (loader : PackageInfo)
    (paths : List String) (isa : String) (user : UserId) :
    (m.withRoots roots).noteLoad loader paths isa user =
      ((m.withRoots []).noteLoad loader (paths.filter fun path => !isFrameworkPath roots path)
        isa user).withRoots roots := by
  have hloads : paths.filterMap ((m.withRoots roots).loadOf? loader isa user) =
      (paths.filter fun path => !isFrameworkPath roots path).filterMap
        ((m.withRoots []).loadOf? loader isa user) := by
    rw [List.filterMap_filter]
    refine List.filterMap_congr fun path _ => ?_
    rw [loadOf?_withRoots]
    cases isFrameworkPath roots path <;> rfl
  have hpolicy : (m.withRoots roots).policy.supports isa = (m.withRoots []).policy.supports isa :=
    rfl
  unfold noteLoad
  rw [hloads, hpolicy]
  split
  · rfl
  · rfl

end Manager

/-- All exempt paths lie under a root exactly when every root ends in a slash or lies in another
root. A path outside the roots is exempt exactly when it lengthens the last name of a root; then
its attribution is suppressed, if it has one. Of a notice just the exempt paths are suppressed. -/
theorem exempt_outside_iff (hroots : ∀ root ∈ roots, dropSlashesAtEnd root.toList ≠ []) :
    ((∀ path, isFrameworkPath roots path → ∃ root ∈ roots, isUnder root path) ↔
      ∀ root ∈ roots, root.toList.getLast? = some '/' ∨
        ∃ other ∈ roots, isUnder other root ∧ ¬isUnder root other) ∧
    (∀ path, (∀ root ∈ roots, ¬isUnder root path) →
      (isFrameworkPath roots path ↔ ∃ root ∈ roots, LengthensName root path) ∧
      ∀ (r : Registry) loader user,
        r.resolve roots loader path user ≠ r.resolve [] loader path user ↔
          (∃ root ∈ roots, LengthensName root path) ∧ r.resolve [] loader path user ≠ .nobody) ∧
    ∀ (m : Manager) loader paths isa user,
      (m.withRoots roots).noteLoad loader paths isa user =
        ((m.withRoots []).noteLoad loader (paths.filter fun path => !isFrameworkPath roots path)
          isa user).withRoots roots := by
  refine ⟨exempt_under_iff hroots, fun path houtside => ?_, ?_⟩
  · have hexempt := isFrameworkPath_iff_of_outside hroots houtside
    refine ⟨hexempt, fun r loader user => ?_⟩
    rw [r.resolve_eq_ite roots, ← hexempt]
    split
    · next h => rw [and_iff_right h, ne_comm]
    · next h => simp [h]
  · intro m loader paths isa user
    exact m.noteLoad_withRoots roots loader paths isa user

/-- A package that keeps its data beside the framework. -/
def besideApp : PackageInfo where
  name := "com.a"
  uid := 0
  base := "/data/app/com.a/base.apk"
  splits := []
  dataDir := some "/system/framework-ext"
  deviceDir := none
  credentialDir := none
  volume := none
  isas := []

/-- A root that ends in a name exempts the directory beside it, and the attribution of a file there
is suppressed. With the directory above among the roots no path outside the roots is exempt. -/
theorem exempt_outside_iff_beside :
    let roots := ["/system/framework", "/vendor/"]
    let nested := ["/system/framework", "/system/"]
    let path := "/system/framework-ext/x.jar"
    (∀ root ∈ roots ++ nested, dropSlashesAtEnd root.toList ≠ []) ∧
      (∀ root ∈ roots, ¬isUnder root path) ∧ (∃ root ∈ roots, LengthensName root path) ∧
      Registry.empty.resolve roots besideApp path 0 ≠ Registry.empty.resolve [] besideApp path 0 ∧
      ∀ path, isFrameworkPath nested path → ∃ root ∈ nested, isUnder root path := by
  intro roots nested path
  have hroots : ∀ root ∈ roots, dropSlashesAtEnd root.toList ≠ [] := by decide +kernel
  have hnested : ∀ root ∈ nested, dropSlashesAtEnd root.toList ≠ [] := by decide +kernel
  have houtside : ∀ root ∈ roots, ¬isUnder root path := by decide +kernel
  obtain ⟨-, hpaths, -⟩ := exempt_outside_iff hroots
  obtain ⟨hexempt, hresolve⟩ := hpaths path houtside
  have hlengthens := hexempt.1 (by decide +kernel)
  refine ⟨List.forall_mem_append.2 ⟨hroots, hnested⟩, houtside, hlengthens, ?_, ?_⟩
  · exact (hresolve .empty besideApp 0).2 ⟨hlengthens, by decide +kernel⟩
  · exact (exempt_outside_iff hnested).1.2 (by decide +kernel)

/-- A file beside a root is exempt, so a load of it by its owner leaves no record. -/
theorem exempt_beside_root :
    let roots := ["/system/framework"]
    let path := "/system/framework-ext/x.jar"
    (∀ root ∈ roots, dropSlashesAtEnd root.toList ≠ []) ∧ isFrameworkPath roots path ∧
      (∀ root ∈ roots, ¬isUnder root path) ∧
      Registry.empty.resolve roots besideApp path 0 = .nobody ∧
      Registry.empty.resolve [] besideApp path 0 = ⟨some "com.a", .secondary⟩ ∧
      ((Manager.new ⟨roots, ["arm64"], .empty⟩).noteLoad besideApp [path] "arm64" 0).ledger =
        .empty := by
  refine ⟨?_, ?_, ?_, ?_, ?_, ?_⟩ <;> decide +kernel

end DexTrail
