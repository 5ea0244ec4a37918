-- SUMMARY: A manager of a package database keeps records of installed packages only, and leaves them in its file.
import DexTrail.Proofs.Attribution.Provenance
import DexTrail.Proofs.Manager.Loading
import DexTrail.Proofs.Manager.Maintenance
import DexTrail.Proofs.Manager.Requests

/-!
# Records of installed packages

A manager that has loaded a package database serves it as long as only its packages load and
register files: every record is of a package that is installed for the owner, and can be read
back. Every change of the ledger leaves a write waiting. So what is in the file after a flush
is the ledger in memory, and loading it again prunes nothing.
-/

namespace DexTrail

variable {ω : Type} {services : Services ω} {file : LedgerFile} {t : FileTree} {w : ω}
  {policy : Policy} {installed : InstalledPackages} {m : Manager} {c : Call}

theorem InstalledPackages.mem_installs_of_find? {package : String} {user : UserId}
    {info : PackageInfo} (h : installed.find? package user = some info) :
    (user, info) ∈ installed.installs := by
  obtain ⟨infos, hinfos, hfind⟩ := Option.bind_eq_some_iff.1 h
  exact mem_installs_iff.2 ⟨infos, hinfos, List.mem_of_find?_eq_some hfind⟩

/-- The call says nothing new of packages: who loads or registers a file is installed. -/
def Call.IsWithin (installed : InstalledPackages) : Call → Prop
  | .noteLoad loader _ _ user => (user, loader) ∈ installed.installs
  | .register app _ _ user => (user, app) ∈ installed.installs
  | .noteDataDestroyed _ _ | .optimize _ _ _ _ | .reconcile _ | .maintain => True
  | _ => False

theorem Call.IsWithin.of_loader? {loader : PackageInfo} {user : UserId}
    (hc : c.IsWithin installed) (h : c.loader? = some (loader, user)) :
    (user, loader) ∈ installed.installs := by
  cases c with
  | noteLoad _ paths isa _ =>
    cases h
    exact hc
  | register _ path shared _ =>
    cases h
    exact hc
  | _ => cases h

namespace Manager

/-! ## What calls keep -/

/-- The manager knows the packages of the database and no others, and every record is of a named
package that is installed for the owner, of an absolute path and for some instruction set. -/
structure Serves (m : Manager) (policy : Policy) (installed : InstalledPackages) : Prop where
  policy : m.policy = policy
  registry : m.registry = .ofInstalled installed
  trim : m.ledger.IsTrim
  isas : m.ledger.HasIsas
  records : m.ledger.EveryRecord fun package path r =>
    package ≠ "" ∧ Path.isAbsolute path ∧ (installed.find? package r.owner).isSome

/-- Whatever the file holds, the manager that loads it serves the database. -/
theorem serves_load (policy : Policy) (installed : InstalledPackages) (file : LedgerFile)
    (t : FileTree) : ((new policy).load installed (file.read t)).Serves policy installed where
  policy := rfl
  registry := addPackages_eq .empty installed
  trim := Ledger.isTrim_sync _ _
  isas := ((Ledger.isValid_ledgerOf file t).sync _).hasIsas
  records := by
    intro package path r hr
    obtain ⟨hname, habsolute⟩ := ((Ledger.isValid_ledgerOf file t).sync _).isLoadable _ _ _ hr
    exact ⟨hname, habsolute, isSome_find?_of_record?_load hr⟩

theorem Serves.isValid (h : m.Serves policy installed) : m.ledger.IsValid := by
  refine (Ledger.isValid_iff_isLoadable h.trim h.isas).2 fun package path r hr => ?_
  obtain ⟨hname, habsolute, -⟩ := h.records package path r hr
  exact ⟨hname, habsolute⟩

/-- A file that holds the ledger of a manager of the database is loaded as it is. -/
theorem Serves.not_prunes (h : m.Serves policy installed)
    {reading : Except LedgerError (Option Ledger)} (hreading : Store.ledgerOf reading = m.ledger) :
    ¬Prunes installed reading := by
  rw [prunes_iff, (Store.isTrim_ledgerOf reading).sync_usersByPackage_changed_iff, hreading]
  rintro ⟨package, path, r, hr, hgone⟩
  obtain ⟨-, -, hfound⟩ := h.records package path r hr
  rw [hgone] at hfound
  cases hfound

theorem begin_of_isWithin (hc : c.IsWithin installed) : m.begin services file t w c = m := by
  cases c with
  | noteInstalled info user => exact hc.elim
  | noteUpdated package base splits => exact hc.elim
  | noteRemoved package user => exact hc.elim
  | load installed => exact hc.elim
  | loadInstalled => exact hc.elim
  | _ => rfl

theorem loads_of_isWithin (hc : c.IsWithin installed) : c.loads services w = false := by
  cases c with
  | load installed => exact hc.elim
  | loadInstalled => exact hc.elim
  | _ => rfl

/-- What is recorded in a call is of an installed package, at an absolute path. -/
theorem Serves.of_mem_loadsOf (h : m.Serves policy installed) (hproper : installed.IsProper)
    (hc : c.IsWithin installed) {d : DexLoad} (hd : d ∈ m.loadsOf services w c) :
    d.package ≠ "" ∧ Path.isAbsolute d.path ∧ (installed.find? d.package d.user).isSome := by
  obtain ⟨loader, hloader, howner, -⟩ := attributed_of_mem_loadsOf hd
  rw [resolve, h.registry] at howner
  exact Registry.owner_resolve_ofInstalled hproper (hc.of_loader? hloader) howner

/-- A manager goes on serving the database in calls about its packages. -/
theorem Serves.perform (h : m.Serves policy installed) (hproper : installed.IsProper)
    (services : Services ω) (file : LedgerFile) (t : FileTree) (w : ω)
    (hc : c.IsWithin installed) :
    (m.perform services file t w c).1.Serves policy installed := by
  obtain ⟨store, hstore⟩ := exists_foldl_act file (m.begin services file t w c, t)
    (m.actions services file t w c)
  rw [← perform_eq, begin_of_isWithin hc] at hstore
  have hkept {ok : DexLoad → Prop} {P : Ledger → Prop} (hP : Ledger.IsKept ok P)
      (hloads : ∀ d ∈ m.loadsOf services w c, ok d) (hm : P m.ledger) :
      P (m.perform services file t w c).1.ledger :=
    ledger_perform_of_not_loads hP file t (loads_of_isWithin hc) hloads hm
  refine ⟨hstore ▸ h.policy, hstore ▸ h.registry, ?_, ?_, ?_⟩
  · exact hkept Ledger.isKept_isTrim (fun _ _ => trivial) h.trim
  · exact hkept Ledger.isKept_hasIsas (fun _ _ => trivial) h.isas
  · refine hkept (Ledger.isKept_everyRecord ?_ ?_) (fun d hd => h.of_mem_loadsOf hproper hc hd)
      h.records
    · exact fun _ hd => hd
    · exact fun _ _ _ _ _ hgood => hgood

/-! ## Waiting writes -/

/-- A write that waits goes on waiting, and a change of the ledger leaves one waiting. -/
def Announces (m m' : Manager) : Prop :=
  m'.store.writes.pending = false → m.store.writes.pending = false ∧ m'.ledger = m.ledger

theorem Announces.refl (m : Manager) : m.Announces m := fun h => ⟨h, rfl⟩

theorem Announces.trans {m₁ m₂ m₃ : Manager} (h : m₁.Announces m₂) (h' : m₂.Announces m₃) :
    m₁.Announces m₃ := by
  intro hidle
  obtain ⟨hidle, hsame'⟩ := h' hidle
  obtain ⟨hidle, hsame⟩ := h hidle
  exact ⟨hidle, hsame'.trans hsame⟩

theorem RequestsChange.announces {m' : Manager} (h : m.RequestsChange m') : m.Announces m' := by
  intro hidle
  rw [h] at hidle
  by_cases hsame : m'.ledger = m.ledger
  · rw [if_pos hsame] at hidle
    exact ⟨hidle, hsame⟩
  · rw [if_neg hsame, WriteQueue.pending_schedule] at hidle
    cases hidle

theorem announces_foldl_turn {s : Manager × ω × MaintenanceReport} (h : s.1.ledger.IsTrim)
    (packages : List String) : s.1.Announces (packages.foldl (turn services) s).1 := by
  induction packages generalizing s with
  | nil => exact .refl s.1
  | cons package packages ih =>
    have hswept := (all_reconcileActions Ledger.isKept_isTrim services h s.2.1 package).2
    have hcompiled := (all_optimizeActions Ledger.isKept_isTrim services hswept
      (s.1.reconcile services s.2.1 package).2.1 package (.reason .backgroundDexopt) false
      false).2
    have hturn : s.1.Announces (turn services s package).1 :=
      (requestsChange_reconcile services h s.2.1 package).announces.trans
        (requestsChange_optimize services hswept _ package _ false false).announces
    exact hturn.trans (ih hcompiled)

theorem announces_perform (h : m.ledger.IsTrim) (hc : c.IsWithin installed) :
    m.Announces (m.perform services file t w c).1 := by
  cases c with
  | noteInstalled info user => exact hc.elim
  | noteUpdated package base splits => exact hc.elim
  | noteRemoved package user => exact hc.elim
  | load installed => exact hc.elim
  | loadInstalled => exact hc.elim
  | flush => exact hc.elim
  | maintain => exact announces_foldl_turn (s := (m, w, ⟨0, 0, []⟩)) h m.ledger.withSecondary
  | _ => exact (requestsChange_perform services file h t w rfl).announces

/-! ## The file afterwards -/

/-- A ledger that a manager of the database writes is read back. -/
theorem Serves.ledgerOf_read_write (h : m.Serves policy installed)
    (hwritten : (file.write m.ledger t).2 = true) :
    Store.ledgerOf (file.read (file.write m.ledger t).1) = m.ledger := by
  rw [LedgerFile.read_write hwritten, LedgerDocument.read_write_of_isValid h.isValid]
  exact h.trim.ofDocument

/-- A flush for which a write waits is a write. -/
theorem disk_flush_of_pending (h : m.store.writes.pending = true) :
    (m.flush file t).2 = (file.write m.ledger t).1 := by
  simp only [flush, Store.flush, WriteQueue.drain, h, if_true]
  rfl

/-- After a flush the file gives the ledger in memory. Where nothing waits for the flush, the
ledger is the one that was loaded from the file, and the file has to be as it was then. -/
theorem Serves.ledgerOf_read_flush (h : m.Serves policy installed) {t' : FileTree}
    (hannounced : ((new policy).load installed (file.read t)).Announces m)
    (hwritten : m.store.writes.pending = true → (file.write m.ledger t').2 = true)
    (hkept : m.store.writes.pending = false → file.read t' = file.read t) :
    Store.ledgerOf (file.read (m.flush file t').2) = m.ledger := by
  cases hwaits : m.store.writes.pending with
  | true =>
    rw [disk_flush_of_pending hwaits]
    exact h.ledgerOf_read_write (hwritten hwaits)
  | false =>
    obtain ⟨hidle, hsame⟩ := hannounced hwaits
    -- a pruned record would have left a request waiting
    have hwhole : ¬Prunes installed (file.read t) := by
      intro hprunes
      rw [writes_load_of_prunes hprunes, WriteQueue.pending_schedule] at hidle
      cases hidle
    rw [flush_of_not_pending hwaits, hkept hwaits, hsame, ledger_load_of_not_prunes hwhole]

end Manager

end DexTrail
