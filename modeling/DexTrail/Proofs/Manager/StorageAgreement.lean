-- SUMMARY: How far the directories by which loads are attributed and the storage areas of reconciliation agree.
import DexTrail.Proofs.Attribution.Nesting
import DexTrail.Proofs.Attribution.Tracking
import DexTrail.Proofs.Manager.Loading
import DexTrail.Proofs.Manager.Reconciliation
import DexTrail.Proofs.Manager.Registration

/-!
# Private storage

Loads are attributed by all data directories of a package, while reconciliation looks for a
file in the two storage directories only. The two agree on every path exactly when the
general data directory lies in one of the storage directories. Where it does not, the
record of a load goes although nobody said that its file is missing.
-/

namespace DexTrail

variable {ω : Type}

/-! ## Storage areas -/

namespace PackageInfo

theorem isSome_storageOf?_iff {info : PackageInfo} {path : String} :
    (info.storageOf? path).isSome ↔
      ∃ dir, (info.deviceDir = some dir ∨ info.credentialDir = some dir) ∧
        isUnder dir path = true := by
  rw [← Option.ne_none_iff_isSome, Ne, storageOf?_eq_none_iff]
  simp only [Classical.not_forall, exists_prop, Bool.not_eq_false]

theorem mem_dataDirs_iff {info : PackageInfo} {dir : String} :
    dir ∈ info.dataDirs ↔
      info.dataDir = some dir ∨ info.deviceDir = some dir ∨ info.credentialDir = some dir := by
  simp [dataDirs, eq_comm]

/-- Every path under a data directory lies in a storage area exactly when the general data
directory does, unless that one holds nothing. -/
theorem storageOf?_covers_iff (info : PackageInfo) :
    (∀ path, info.Holds path → (info.storageOf? path).isSome) ↔
      ∀ dir, info.dataDir = some dir → isUnder dir dir → (info.storageOf? dir).isSome := by
  constructor
  · intro h dir hdir hself
    exact h dir ⟨dir, mem_dataDirs_iff.2 (.inl hdir), hself⟩
  · rintro h path ⟨dir, hdir, hunder⟩
    rcases mem_dataDirs_iff.1 hdir with hdata | hstorage
    · obtain ⟨area, harea, hin⟩ :=
        isSome_storageOf?_iff.1 (h dir hdata (isUnder_self_of_isUnder hunder))
      exact isSome_storageOf?_iff.2 ⟨area, harea, isUnder_trans hin hunder⟩
    · exact isSome_storageOf?_iff.2 ⟨dir, hstorage, hunder⟩

end PackageInfo

/-! ## Calls that agree with an install -/

/-- Whatever a call says of the package for the user is what the install says. -/
def Call.Agrees (services : Services ω) (info : PackageInfo) (user : UserId) (w : ω) : Call → Prop
  | .noteLoad loader _ _ u => info.AgreesWith user (u, loader)
  | .register app _ _ u => info.AgreesWith user (u, app)
  | .noteInstalled app u => info.AgreesWith user (u, app)
  | .load installed => ∀ e ∈ installed.installs, info.AgreesWith user e
  | .loadInstalled => ∀ installed, (services.enumerate w).2 = .ok installed →
      ∀ e ∈ installed.installs, info.AgreesWith user e
  | _ => True

theorem Call.Agrees.of_loader? {services : Services ω} {info loader : PackageInfo}
    {user u : UserId} {w : ω} {c : Call} (agrees : c.Agrees services info user w)
    (h : c.loader? = some (loader, u)) : info.AgreesWith user (u, loader) := by
  cases c with
  | noteLoad _ paths isa _ =>
    cases h
    exact agrees
  | register _ path shared _ =>
    cases h
    exact agrees
  | _ => cases h

namespace Manager

variable {services : Services ω} {info : PackageInfo} {user : UserId}

/-- A secondary file that a call records for the package of a tracked install lies in one of
the directories of the install. -/
theorem holds_of_mem_loadsOf {m : Manager} (h : m.registry.Tracks info user) {w : ω} {c : Call}
    (agrees : c.Agrees services info user w) {d : DexLoad} (hd : d ∈ m.loadsOf services w c)
    (hpackage : d.package = info.name) (huser : d.user = user) (hsecondary : d.code = false) :
    info.Holds d.path := by
  obtain ⟨loader, hloader, howner, hcode⟩ := attributed_of_mem_loadsOf hd
  rw [huser] at hloader howner hcode
  rw [hpackage] at howner
  rw [hsecondary] at hcode
  exact h.holds_of_resolve (agrees.of_loader? hloader) howner hcode

/-! ## What calls keep -/

/-- A call that agrees with an install keeps the registry on its track. -/
theorem tracks_perform {m : Manager} (h : m.registry.Tracks info user) (file : LedgerFile)
    (t : FileTree) {w : ω} {c : Call} (agrees : c.Agrees services info user w) :
    (m.perform services file t w c).1.registry.Tracks info user := by
  rw [perform_eq, registry_foldl_act]
  cases c with
  | noteInstalled app u =>
    simp only [begin, noteInstalled]
    by_cases hall : u = .all
    · rw [if_pos hall]
      exact h
    · rw [if_neg hall]
      exact h.addPackage agrees
  | noteUpdated package base splits => exact h.setCode package base splits
  | noteRemoved package u =>
    simp only [begin, noteRemoved]
    split
    · exact h.remove package
    · exact h.removeUser package u
  | load installed =>
    simp only [begin, addPackages_eq]
    exact h.addAll agrees
  | loadInstalled =>
    simp only [begin]
    simp only [Call.Agrees] at agrees
    rcases hw : services.enumerate w with ⟨w', _ | installed⟩
    · exact h
    · rw [hw] at agrees
      simp only [addPackages_eq]
      exact h.addAll (agrees installed rfl)
  | _ => exact h

/-- The states of the manager that calls lead to, when all of them agree with an install.
Between the calls the files may change in any way. -/
inductive Reached (services : Services ω) (file : LedgerFile) (info : PackageInfo)
    (user : UserId) : Manager → Prop where
  | new (policy : Policy) : Reached services file info user (new policy)
  | call {m : Manager} (t : FileTree) {w : ω} {c : Call}
    (before : Reached services file info user m) (agrees : c.Agrees services info user w) :
    Reached services file info user (m.perform services file t w c).1

theorem Reached.tracks {file : LedgerFile} {m : Manager} (h : Reached services file info user m) :
    m.registry.Tracks info user := by
  induction h with
  | new policy => exact Registry.tracks_empty
  | call t before agrees ih => exact tracks_perform ih _ t agrees

/-- A call that agrees with the install has recorded the path as a secondary file of the
package for the user. -/
def WasLoaded (services : Services ω) (file : LedgerFile) (info : PackageInfo) (user : UserId)
    (path : String) : Prop :=
  ∃ m w c, Reached services file info user m ∧ c.Agrees services info user w ∧
    ∃ d ∈ m.loadsOf services w c, d.package = info.name ∧ d.path = path ∧ d.user = user ∧
      d.code = false

theorem holds_of_wasLoaded {file : LedgerFile} {path : String}
    (h : WasLoaded services file info user path) : info.Holds path := by
  obtain ⟨m, w, c, reached, agrees, d, hd, hpackage, rfl, huser, hsecondary⟩ := h
  exact holds_of_mem_loadsOf reached.tracks agrees hd hpackage huser hsecondary

/-! ## Reconciliation of loaded files -/

/-- When the authority answers with the install itself, the record of a secondary file goes
exactly when the helper says that the file is missing, or the file lies in no storage area. -/
theorem record?_reconcile_eq_none_iff_of_authority {m : Manager} {w : ω} {path : String}
    {r : UsageRecord} (hr : m.ledger.record? info.name path = some r) (hsecondary : r.isSecondary)
    (hauthority : ∀ i ∈ (m.inspections services w info.name).2, i.record.owner = r.owner →
      i.lookup = .ok (some info)) :
    (m.reconcile services w info.name).1.ledger.record? info.name path = none ↔
      (∃ i ∈ (m.inspections services w info.name).2, path = i.path ∧ i.IsMissing) ∨
      info.storageOf? path = none := by
  rw [record?_reconcile_eq_none_iff hr]
  have hlookup {i : Inspection} (hi : i ∈ (m.inspections services w info.name).2)
      (hpath : path = i.path) : i.lookup = .ok (some info) := by
    have hrecord := (record?_of_mem_inspections hi).1
    rw [← hpath, hr] at hrecord
    exact hauthority i hi (congrArg UsageRecord.owner (Option.some.inj hrecord)).symm
  constructor
  · rintro (⟨i, hi, huninstalled, howner⟩ | ⟨-, i, hi, hpath, hgone⟩)
    · have hfound := hauthority i hi howner.symm
      rw [huninstalled] at hfound
      cases hfound
    · rcases hgone with ⟨app, happ, houtside⟩ | hmissing
      · rw [hlookup hi hpath] at happ
        cases happ
        exact .inr (hpath ▸ PackageInfo.storageOf?_eq_none_iff.2 houtside)
      · exact .inl ⟨i, hi, hpath, hmissing⟩
  · rintro (⟨i, hi, hpath, hmissing⟩ | houtside)
    · exact .inr ⟨hsecondary, i, hi, hpath, .inr hmissing⟩
    · obtain ⟨i, hi, rfl, -⟩ := exists_mem_inspections hr hsecondary services w
      exact .inr ⟨hsecondary, i, hi, rfl,
        .inl ⟨info, hlookup hi rfl, PackageInfo.storageOf?_eq_none_iff.1 houtside⟩⟩

/-- Loads and reconciliation agree on the private storage of an install exactly when its
general data directory lies in one of the two storage directories, or holds nothing. A file
that was loaded under the install lies in one of its data directories. When the authority
goes on answering with the install, the record of such a file goes exactly when the helper
says that the file is missing, or the file lies in no storage area; where the two agree,
only the former is possible. -/
theorem storage_agreement (services : Services ω) (file : LedgerFile) (info : PackageInfo)
    (user : UserId) :
    ((∀ path, info.Holds path → (info.storageOf? path).isSome) ↔
      ∀ dir, info.dataDir = some dir → isUnder dir dir → (info.storageOf? dir).isSome) ∧
    ∀ path, WasLoaded services file info user path →
      info.Holds path ∧
      ∀ (m : Manager) (w : ω) (r : UsageRecord), m.ledger.record? info.name path = some r →
        r.isSecondary → r.owner = user →
        (∀ i ∈ (m.inspections services w info.name).2, i.record.owner = user →
          i.lookup = .ok (some info)) →
        ((m.reconcile services w info.name).1.ledger.record? info.name path = none ↔
          (∃ i ∈ (m.inspections services w info.name).2, path = i.path ∧ i.IsMissing) ∨
          info.storageOf? path = none) ∧
        ((∀ p, info.Holds p → (info.storageOf? p).isSome) →
          (m.reconcile services w info.name).1.ledger.record? info.name path = none →
          ∃ i ∈ (m.inspections services w info.name).2, path = i.path ∧ i.IsMissing) := by
  refine ⟨info.storageOf?_covers_iff, ?_⟩
  intro path hloaded
  have hholds := holds_of_wasLoaded hloaded
  refine ⟨hholds, ?_⟩
  rintro m w r hr hsecondary rfl hauthority
  have hgone := record?_reconcile_eq_none_iff_of_authority hr hsecondary hauthority
  refine ⟨hgone, ?_⟩
  intro hcovers hnone
  refine (hgone.1 hnone).resolve_right ?_
  exact Option.ne_none_iff_isSome.2 (hcovers path hholds)

/-! ### A file in the general directory only -/

/-- A package whose only data directory is the general one. -/
def plainApp : PackageInfo where
  name := "com.a"
  uid := 0
  base := "/data/app/com.a/base.apk"
  splits := []
  dataDir := some "/data/user/0/com.a"
  deviceDir := none
  credentialDir := none
  volume := none
  isas := []

/-- The package is installed for user 0, and a file exists in its directory. -/
def plainWorld : Rehearsal :=
  (Rehearsal.empty.install plainApp 0).setFile "/data/user/0/com.a/x.jar" true

/-- A new manager hears of the install. -/
def plainManager : Manager :=
  ((new ⟨[], ["arm64"], .empty⟩).perform Rehearsal.services ⟨"usage.json", []⟩ .empty plainWorld
    (.noteInstalled plainApp 0)).1

/-- The package loads its file. -/
def plainLoad : Call := .noteLoad plainApp ["/data/user/0/com.a/x.jar"] "arm64" 0

/-- The manager after that load. -/
def loadedManager : Manager :=
  (plainManager.perform Rehearsal.services ⟨"usage.json", []⟩ .empty plainWorld plainLoad).1

/-- The loaded file counts as one of the install, and its record goes because the file lies in
no storage area. -/
theorem plainLoad_dropped :
    WasLoaded Rehearsal.services ⟨"usage.json", []⟩ plainApp 0 "/data/user/0/com.a/x.jar" ∧
    (loadedManager.reconcile Rehearsal.services plainWorld "com.a").1.ledger.record? "com.a"
      "/data/user/0/com.a/x.jar" = none := by
  have hagrees : plainApp.AgreesWith 0 (0, plainApp) := fun _ _ => rfl
  have hloaded : WasLoaded Rehearsal.services ⟨"usage.json", []⟩ plainApp 0
      "/data/user/0/com.a/x.jar" := by
    refine ⟨plainManager, plainWorld, plainLoad, ?_, hagrees, ?_⟩
    · exact .call .empty (.new _) hagrees
    · exact ⟨⟨"com.a", "/data/user/0/com.a/x.jar", 0, "arm64", false, false⟩,
        List.mem_singleton.2 rfl, rfl, rfl, rfl, rfl⟩
  refine ⟨hloaded, ?_⟩
  obtain ⟨-, hdropped⟩ := (storage_agreement Rehearsal.services ⟨"usage.json", []⟩ plainApp 0).2
    "/data/user/0/com.a/x.jar" hloaded
  obtain ⟨hgone, -⟩ := hdropped loadedManager plainWorld (.ofLoad 0 "arm64" false false) rfl rfl
    rfl (fun i hi _ => by
      obtain rfl := List.mem_singleton.1 hi
      rfl)
  exact hgone.2 (.inr rfl)

/-- The file lies in a data directory of the package, exists, and nobody was asked for it, and
yet its record goes. -/
theorem dropped_unasked :
    let path := "/data/user/0/com.a/x.jar"
    let (after, world, report) := loadedManager.reconcile Rehearsal.services plainWorld "com.a"
    plainApp.Holds path ∧ plainApp.storageOf? path = none ∧
    loadedManager.ledger.record? "com.a" path = some (.ofLoad 0 "arm64" false false) ∧
    plainWorld.files.contains path ∧ world.calls = [.lookup "com.a" 0] ∧ report = ⟨1, 1⟩ ∧
    after.ledger.record? "com.a" path = none := by
  refine ⟨⟨"/data/user/0/com.a", List.mem_singleton.2 rfl, rfl⟩, rfl, rfl, rfl, rfl, rfl, rfl⟩

end Manager

end DexTrail
