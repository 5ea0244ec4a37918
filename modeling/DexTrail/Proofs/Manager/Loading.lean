-- SUMMARY: What the manager holds after loading: the installed records of the file or nothing, and the same again.
import DexTrail.Proofs.Attribution.Installation
import DexTrail.Proofs.Manager.Loadable

/-!
# Loading

After loading, the ledger holds those records of the document in the file whose package
is installed for their owner. A file that is missing or cannot be read gives an empty
ledger. Nothing of the ledger held before stays. A write is requested only when a record
was left out, so loading again after everything was written changes nothing.
-/

namespace DexTrail

/-! ## Pruning by a package database -/

namespace Ledger

variable {l : Ledger} {installed : InstalledPackages}

/-- A record stays when its package is found for its owner. -/
theorem record?_sync_usersByPackage (l : Ledger) (installed : InstalledPackages)
    (p path : String) :
    (l.sync installed.usersByPackage).1.record? p path =
      (l.record? p path).filter fun r => (installed.find? p r.owner).isSome := by
  simp only [record?_sync, InstalledPackages.any_get?_usersByPackage]

theorem IsTrim.sync_usersByPackage_changed_iff (h : l.IsTrim) :
    (l.sync installed.usersByPackage).2 = true ↔
      ∃ p path r, l.record? p path = some r ∧ installed.find? p r.owner = none := by
  simp only [h.sync_changed_iff, InstalledPackages.any_get?_usersByPackage,
    Option.isSome_eq_false_iff, Option.isNone_iff_eq_none]

/-- Pruning leaves a ledger that can be written and read back. -/
theorem IsValid.sync (h : l.IsValid) (installed : SortedMap String (SortedSet UserId)) :
    (l.sync installed).1.IsValid := by
  have hkept : IsKept (fun _ => False) IsLoadable :=
    isKept_everyRecord (fun _ hd => hd.elim) (fun _ _ _ _ _ hgood => hgood)
  refine (isValid_iff_isLoadable (isTrim_sync l installed) ?_).2 ?_
  · exact isKept_hasIsas.sync installed h.hasIsas
  · exact hkept.sync installed h.isLoadable

end Ledger

/-! ## Loading -/

namespace Manager

theorem addPackages_eq (r : Registry) (installed : InstalledPackages) :
    addPackages r installed = r.addAll installed.installs := by
  simp only [addPackages, Registry.addAll, InstalledPackages.installs, List.foldl_flatMap,
    List.foldl_map]

/-- Loading leaves out a record of the document that was read: its package is not
installed for its owner. -/
def Prunes (installed : InstalledPackages) (reading : Except LedgerError (Option Ledger)) : Prop :=
  ∃ doc package path r, reading = .ok (some doc) ∧ doc.record? package path = some r ∧
    installed.find? package r.owner = none

variable {installed : InstalledPackages} {reading : Except LedgerError (Option Ledger)}

theorem ledger_load (m : Manager) (installed : InstalledPackages)
    (reading : Except LedgerError (Option Ledger)) :
    (m.load installed reading).ledger =
      ((Store.ledgerOf reading).sync installed.usersByPackage).1 := rfl

theorem writes_load (m : Manager) (installed : InstalledPackages)
    (reading : Except LedgerError (Option Ledger)) :
    (m.load installed reading).store.writes =
      (m.store.writes.scheduleIf
        ((Store.ledgerOf reading).sync installed.usersByPackage).2).1 := rfl

theorem prunes_iff :
    Prunes installed reading ↔
      ((Store.ledgerOf reading).sync installed.usersByPackage).2 = true := by
  rw [(Store.isTrim_ledgerOf reading).sync_usersByPackage_changed_iff]
  constructor
  · rintro ⟨doc, p, path, r, rfl, hr, hgone⟩
    exact ⟨p, path, r, (Ledger.record?_ofDocument doc p path).trans hr, hgone⟩
  · rintro ⟨p, path, r, hr, hgone⟩
    match reading with
    | .ok (some doc) =>
      exact ⟨doc, p, path, r, rfl, (Ledger.record?_ofDocument doc p path).symm.trans hr, hgone⟩
    | .ok none => cases hr
    | .error e => cases hr

/-- Every record that is held after loading has its package installed for its owner. -/
theorem isSome_find?_of_record?_load {m : Manager} {p path : String} {r : UsageRecord}
    (h : (m.load installed reading).ledger.record? p path = some r) :
    (installed.find? p r.owner).isSome := by
  rw [ledger_load, Ledger.record?_sync_usersByPackage] at h
  exact (Option.filter_eq_some_iff.1 h).2

/-- The manager takes up the ledger of the file as it is when nothing is pruned. -/
theorem ledger_load_of_not_prunes {m : Manager} (h : ¬Prunes installed reading) :
    (m.load installed reading).ledger = Store.ledgerOf reading :=
  (Store.isTrim_ledgerOf reading).sync_of_unchanged (Bool.eq_false_iff.2 (mt prunes_iff.2 h))

theorem writes_load_of_prunes {m : Manager} (h : Prunes installed reading) :
    (m.load installed reading).store.writes = m.store.writes.schedule.1 := by
  rw [writes_load, prunes_iff.1 h]
  rfl

theorem writes_load_of_not_prunes {m : Manager} (h : ¬Prunes installed reading) :
    (m.load installed reading).store.writes = m.store.writes := by
  rw [writes_load, Bool.eq_false_iff.2 (mt prunes_iff.2 h)]
  rfl

/-- Loading changes nothing when the packages are known, the file gives the ledger held,
and all of its records are of installed packages. -/
theorem load_eq_self {m : Manager} (hpackages : m.registry.addAll installed.installs = m.registry)
    (hledger : Store.ledgerOf reading = m.ledger)
    (hinstalled : ∀ p path r, m.ledger.record? p path = some r →
      (installed.find? p r.owner).isSome) : m.load installed reading = m := by
  have hkept : ¬Prunes installed reading := by
    rw [prunes_iff, (Store.isTrim_ledgerOf reading).sync_usersByPackage_changed_iff, hledger]
    rintro ⟨p, path, r, hr, hgone⟩
    have hfound := hinstalled p path r hr
    rw [hgone] at hfound
    cases hfound
  have hregistry : (m.load installed reading).registry = m.registry :=
    (addPackages_eq m.registry installed).trans hpackages
  have hstore : (m.load installed reading).store = m.store :=
    (Store.mk.injEq ..).mpr
      ⟨(ledger_load_of_not_prunes hkept).trans hledger, writes_load_of_not_prunes hkept⟩
  exact (Manager.mk.injEq ..).mpr ⟨rfl, hregistry, hstore⟩

/-! ## Loading again -/

/-- What a flush writes without a failure is what the file gives afterwards. -/
theorem ledgerOf_read_flush {m : Manager} {file : LedgerFile} {t : FileTree}
    (hvalid : m.ledger.IsValid) (htrim : m.ledger.IsTrim) (hwaits : m.store.writes.pending = true)
    (hok : (m.flush file t).1.store.writes.stats.failed = m.store.writes.stats.failed) :
    Store.ledgerOf (file.read (m.flush file t).2) = m.ledger := by
  have htree : (m.flush file t).2 = (file.write m.ledger t).1 := by
    simp only [flush, Store.flush, WriteQueue.drain, hwaits, if_true]
    rfl
  have hwritten : (file.write m.ledger t).2 = true := by
    cases hw : (file.write m.ledger t).2 with
    | true => rfl
    | false =>
      have hfailed : file.write m.store.ledger t = ((file.write m.ledger t).1, false) :=
        Prod.ext rfl hw
      simp only [flush, Store.flush, WriteQueue.drain, hwaits, hfailed, if_true] at hok
      exact absurd hok (Nat.succ_ne_self _)
  rw [htree, LedgerFile.read_write hwritten, LedgerDocument.read_write_of_isValid hvalid]
  exact htrim.ofDocument

theorem flush_of_not_pending {m : Manager} {file : LedgerFile} {t : FileTree}
    (h : m.store.writes.pending = false) : m.flush file t = (m, t) := by
  simp only [flush, Store.flush, WriteQueue.drain, h, Bool.false_eq_true, if_false]

/-- After a flush without a failure the file gives the ledger that was loaded. -/
theorem ledgerOf_read_flush_load {m : Manager} {file : LedgerFile} {t : FileTree}
    (hok : ((m.load installed (file.read t)).flush file t).1.store.writes.stats.failed =
      (m.load installed (file.read t)).store.writes.stats.failed) :
    Store.ledgerOf (file.read ((m.load installed (file.read t)).flush file t).2) =
      (m.load installed (file.read t)).ledger := by
  cases hwaits : (m.load installed (file.read t)).store.writes.pending with
  | true =>
    refine ledgerOf_read_flush ?_ ?_ hwaits hok
    · exact (Ledger.isValid_ledgerOf file t).sync _
    · exact Ledger.isTrim_sync _ _
  | false =>
    -- a pruned record would have left a request waiting, so the file has what was loaded
    have hkept : ¬Prunes installed (file.read t) := by
      intro hprunes
      rw [writes_load_of_prunes hprunes, WriteQueue.pending_schedule] at hwaits
      cases hwaits
    rw [flush_of_not_pending hwaits, ledger_load_of_not_prunes hkept]

/-- After loading, the ledger holds exactly the records of the document in the file whose
package is installed for their owner, each as it is in the document, and no package without
records; it is empty when the file is missing or gives no document. The ledger held before
has no part in it. A write is requested exactly when a record was left out. Loading again
with the same packages, after a flush in which no write failed, changes nothing: neither the
ledger nor the registry nor the writes requested. -/
theorem load_all_or_nothing (m : Manager) (installed : InstalledPackages) (file : LedgerFile)
    (t : FileTree) :
    let loaded := m.load installed (file.read t)
    (∀ doc, file.read t = .ok (some doc) → ∀ package path,
      loaded.ledger.record? package path =
        (doc.record? package path).filter fun r => (installed.find? package r.owner).isSome) ∧
    ((∀ doc, file.read t ≠ .ok (some doc)) → loaded.ledger = .empty) ∧
    loaded.ledger.IsTrim ∧
    (∀ m' : Manager, (m'.load installed (file.read t)).ledger = loaded.ledger) ∧
    (Prunes installed (file.read t) → loaded.store.writes = m.store.writes.schedule.1) ∧
    (¬Prunes installed (file.read t) → loaded.store.writes = m.store.writes) ∧
    ((loaded.flush file t).1.store.writes.stats.failed = loaded.store.writes.stats.failed →
      (loaded.flush file t).1.load installed (file.read (loaded.flush file t).2) =
        (loaded.flush file t).1) := by
  intro loaded
  refine ⟨?_, ?_, Ledger.isTrim_sync _ _, fun _ => rfl, writes_load_of_prunes,
    writes_load_of_not_prunes, ?_⟩
  · intro doc hdoc package path
    rw [ledger_load, Ledger.record?_sync_usersByPackage, hdoc, Store.ledgerOf,
      Ledger.record?_ofDocument]
  · intro hnone
    have hempty : Store.ledgerOf (file.read t) = .empty := by
      unfold Store.ledgerOf
      split
      · next doc hdoc => exact absurd hdoc (hnone doc)
      · rfl
      · rfl
    rw [ledger_load, hempty]
    rfl
  · intro hok
    refine load_eq_self ?_ (ledgerOf_read_flush_load hok) fun _ _ _ => isSome_find?_of_record?_load
    change loaded.registry.addAll installed.installs = loaded.registry
    have htaken : loaded.registry = m.registry.addAll installed.installs :=
      addPackages_eq m.registry installed
    rw [htaken, Registry.addAll_addAll]

end Manager

end DexTrail
