-- SUMMARY: Which ledgers of the manager are read back after they are written.
import DexTrail.Manager.Rehearsal
import DexTrail.Proofs.Manager.Invariants
import DexTrail.Proofs.Usage.DocumentRoundTrip
import DexTrail.Proofs.Usage.History

/-!
# Ledgers that can be loaded back

Records of the manager always name an instruction set, and no package is left
without records. But loads are recorded as they are attributed, and a data directory
may be relative or a package may have no name; the checks on reading then refuse
the whole file. A ledger is read back exactly when every record is of a named package
and an absolute path (`Ledger.IsLoadable`).
-/

namespace DexTrail

variable {ω : Type}

/-! ## Loadable ledgers -/

namespace Ledger

theorem IsValid.hasIsas {l : Ledger} (h : l.IsValid) : l.HasIsas := by
  intro p path r hr
  obtain ⟨u, hu, hpath⟩ := Option.bind_eq_some_iff.1 hr
  exact ((h p u hu).records path r hpath).isas

/-- Every record is of a named package and an absolute path. -/
def IsLoadable (l : Ledger) : Prop :=
  l.EveryRecord fun package path _ => package ≠ "" ∧ Path.isAbsolute path

theorem IsValid.isLoadable {l : Ledger} (h : l.IsValid) : l.IsLoadable := by
  intro p path r hr
  obtain ⟨u, hu, hpath⟩ := Option.bind_eq_some_iff.1 hr
  exact ⟨(h p u hu).name, ((h p u hu).records path r hpath).absolute⟩

/-- Where every package has a record and every record has an instruction set, nothing
else is checked on reading. -/
theorem isValid_iff_isLoadable {l : Ledger} (htrim : l.IsTrim) (hisas : l.HasIsas) :
    l.IsValid ↔ l.IsLoadable := by
  constructor
  · exact IsValid.isLoadable
  · intro h p u hu
    have hrecord (path : String) (r : UsageRecord) (hr : u.get? path = some r) :
        l.record? p path = some r := Option.bind_eq_some_iff.2 ⟨u, hu, hr⟩
    obtain ⟨e, he⟩ : ∃ e, e ∈ u.toList := by
      refine List.exists_mem_of_ne_nil _ fun hnil => ?_
      have hne := htrim p u hu
      rw [SortedMap.isEmpty, List.isEmpty_eq_false_iff] at hne
      exact hne hnil
    refine ⟨(h p e.1 e.2 (hrecord _ _ (SortedMap.mem_toList_iff.1 he))).1, ?_⟩
    intro path r hr
    exact ⟨(h p path r (hrecord _ _ hr)).2, hisas p path r (hrecord _ _ hr)⟩

/-- Whatever a file holds, the ledger that is loaded from it is valid. -/
theorem isValid_ledgerOf (file : LedgerFile) (t : FileTree) :
    (Store.ledgerOf (file.read t)).IsValid := by
  have hempty : empty.IsValid := by
    intro p u hu
    cases hu
  cases hr : file.read t with
  | error e => exact hempty
  | ok found =>
    cases found with
    | none => exact hempty
    | some doc =>
      intro p u hu
      simp only [Store.ledgerOf, Ledger.ofDocument, usage?, SortedMap.get?_filter] at hu
      exact LedgerFile.isValid_of_read hr p u (Option.filter_eq_some_iff.1 hu).1

/-! ## Recorded loads leave records -/

theorem record?_recordEach_of_isSome {l : Ledger} {p path : String}
    (h : (l.record? p path).isSome) (loads : List DexLoad) :
    ((l.recordEach loads).record? p path).isSome := by
  induction loads generalizing l with
  | nil => exact h
  | cons d loads ih =>
    apply ih
    rw [record?_record]
    split
    · rfl
    · exact h

theorem isSome_record?_recordEach {loads : List DexLoad} {d : DexLoad} (hd : d ∈ loads)
    (hrel : d.isRelevant) (l : Ledger) :
    ((l.recordEach loads).record? d.package d.path).isSome := by
  induction loads generalizing l with
  | nil => cases hd
  | cons e loads ih =>
    rcases List.mem_cons.1 hd with rfl | hd
    · refine record?_recordEach_of_isSome ?_ loads
      rw [record?_record, if_pos ⟨rfl, rfl, hrel⟩]
      rfl
    · exact ih hd _

theorem fst_foldl_recordNext (s : Ledger × Bool) (loads : List DexLoad) :
    (loads.foldl recordNext s).1 = s.1.recordEach loads := by
  induction loads generalizing s with
  | nil => rfl
  | cons d loads ih =>
    rw [List.foldl_cons, ih, fst_recordNext]
    rfl

theorem fst_recordAll (l : Ledger) (loads : List DexLoad) :
    (Manager.recordAll l loads).1 = l.recordEach loads := by
  rw [Manager.recordAll_eq]
  exact fst_foldl_recordNext (l, false) loads

end Ledger

/-! ## Calls -/

namespace Manager

/-- A property of all ledgers on the way is one of the ledger at the end. -/
theorem ledger_foldl_act {P : Ledger → Prop} (file : LedgerFile) {m : Manager} (t : FileTree)
    {actions : List Action} (h : P m.ledger) (hall : Action.All P actions) :
    P (actions.foldl (act file) (m, t)).1.ledger := by
  induction actions generalizing m t with
  | nil => exact h
  | cons a actions ih =>
    obtain ⟨hput, hrest⟩ := Action.all_cons.1 hall
    cases a with
    | put l => exact ih t (hput l rfl) hrest
    | replace l => exact ih t (hput l rfl) hrest
    | request changed => exact ih t h hrest
    | write => exact ih _ h hrest

/-- What the loads of a call keep holds of the ledger after the call, if it holds of the one that
the call starts from. -/
theorem ledger_perform_of_isKept {ok : DexLoad → Prop} {P : Ledger → Prop}
    (hP : Ledger.IsKept ok P) (services : Services ω) (file : LedgerFile) {m : Manager}
    (t : FileTree) (w : ω) {c : Call} (hloads : ∀ d ∈ m.loadsOf services w c, ok d)
    (h : c.loads services w = false → P m.ledger)
    (hfile : c.loads services w → P (Store.ledgerOf (file.read t))) :
    P (m.perform services file t w c).1.ledger := by
  obtain ⟨hbegin, hall⟩ := all_actions hP services file t w hloads h hfile
  rw [perform_eq]
  exact ledger_foldl_act file t hbegin hall

/-- A call that leaves the ledger of the file alone keeps what its loads keep. -/
theorem ledger_perform_of_not_loads {ok : DexLoad → Prop} {P : Ledger → Prop}
    (hP : Ledger.IsKept ok P) {services : Services ω} (file : LedgerFile) {m : Manager}
    (t : FileTree) {w : ω} {c : Call} (hc : c.loads services w = false)
    (hloads : ∀ d ∈ m.loadsOf services w c, ok d) (h : P m.ledger) :
    P (m.perform services file t w c).1.ledger := by
  refine ledger_perform_of_isKept hP services file t w hloads (fun _ => h) ?_
  rw [hc]
  intro hfalse
  cases hfalse

/-- Loads are recorded because they leave a trace. -/
theorem isRelevant_of_mem_loadsOf {services : Services ω} {m : Manager} {w : ω} {c : Call}
    {d : DexLoad} (hd : d ∈ m.loadsOf services w c) : d.isRelevant := by
  cases c with
  | noteLoad loader paths isa user =>
    rw [loadsOf] at hd
    split at hd
    · obtain ⟨path, -, hpath⟩ := List.mem_filterMap.1 hd
      simp only [loadOf?] at hpath
      split at hpath
      · cases hpath
      · obtain ⟨hshared, he⟩ := Option.ite_none_left_eq_some.1 hpath
        cases he
        have hbool : ∀ code shared : Bool,
            ¬(code && !shared) = true → (!code || shared) = true := by
          decide
        exact hbool _ _ hshared
    · cases hd
  | register app path shared user =>
    rw [loadsOf] at hd
    split at hd
    · obtain ⟨isa, -, rfl⟩ := List.mem_map.1 hd
      rfl
    · cases hd
  | _ => cases hd

/-- A call in which a package loads or registers a file records its loads, and does nothing
else to the ledger. -/
theorem ledger_perform (services : Services ω) (file : LedgerFile) (m : Manager) (t : FileTree)
    (w : ω) {c : Call} (hc : c.loader?.isSome) :
    (m.perform services file t w c).1.ledger = m.ledger.recordEach (m.loadsOf services w c) := by
  cases c with
  | noteLoad loader paths isa user =>
    simp only [loadsOf, perform, noteLoad]
    split
    · exact Ledger.fst_recordAll _ _
    · rfl
  | register app path shared user =>
    simp only [loadsOf, perform, register]
    rcases services.fileExists .held path w with ⟨w', _ | _ | _⟩
    · rfl
    · rfl
    · cases m.registerObstacle? app path user with
      | some obstacle => rfl
      | none => exact Ledger.fst_recordAll _ _
  | _ => cases hc

theorem isSome_loader?_of_mem_loadsOf {services : Services ω} {m : Manager} {w : ω} {c : Call}
    {d : DexLoad} (hd : d ∈ m.loadsOf services w c) : c.loader?.isSome := by
  cases c with
  | noteLoad loader paths isa user => rfl
  | register app path shared user => rfl
  | _ => cases hd

/-- A call keeps a ledger loadable exactly when every load that it records is of a
named package and an absolute path. A call that takes the ledger of the file always
ends with a loadable one. -/
theorem isLoadable_perform_iff (services : Services ω) (file : LedgerFile) {m : Manager}
    (h : m.ledger.IsLoadable) (t : FileTree) (w : ω) (c : Call) :
    (m.perform services file t w c).1.ledger.IsLoadable ↔
      ∀ d ∈ m.loadsOf services w c, d.package ≠ "" ∧ Path.isAbsolute d.path := by
  constructor
  · intro hafter d hd
    have hrecord := Ledger.isSome_record?_recordEach hd (isRelevant_of_mem_loadsOf hd) m.ledger
    rw [← ledger_perform services file m t w (isSome_loader?_of_mem_loadsOf hd)] at hrecord
    obtain ⟨r, hr⟩ := Option.isSome_iff_exists.1 hrecord
    exact hafter _ _ r hr
  · intro hloads
    have hkept : Ledger.IsKept (fun d => d.package ≠ "" ∧ Path.isAbsolute d.path)
        Ledger.IsLoadable :=
      Ledger.isKept_everyRecord (fun _ hd => hd) (fun _ _ _ _ _ hg => hg)
    exact ledger_perform_of_isKept hkept services file t w hloads (fun _ => h)
      (fun _ => (Ledger.isValid_ledgerOf file t).isLoadable)

end Manager

/-! ## Runs -/

namespace Moment

/-- At every moment of a run that starts with an empty ledger, the checks on reading
come down to the names and paths of the records. -/
theorem isValid_iff_of_leads {services : Services ω} {file : LedgerFile} {h h' : Moment}
    (hempty : h.ledger = .empty) (idle : h.todo = []) (run : Leads services file h h') :
    h'.ledger.IsTrim ∧ (h'.ledger.IsValid ↔ h'.ledger.IsLoadable) := by
  have hstart {P : Ledger → Prop} (hP : P .empty) : h.Keeps P := by
    refine ⟨hempty ▸ hP, ?_⟩
    rw [idle]
    exact Action.all_nil
  have htrim := (hstart Ledger.isTrim_empty).leads Ledger.isKept_isTrim
    (fun _ => Store.isTrim_ledgerOf _) run
  have hisas := (hstart (P := Ledger.HasIsas) (fun _ _ _ hr => nomatch hr)).leads
    Ledger.isKept_hasIsas (fun t => (Ledger.isValid_ledgerOf file t).hasIsas) run
  exact ⟨htrim.1, Ledger.isValid_iff_isLoadable htrim.1 hisas.1⟩

/-- At every moment of a run that starts with an empty ledger, the written ledger is
read back exactly when all its records are of named packages and absolute paths, and
is refused as corrupt otherwise. A new store that loads the written file has the ledger
in the same cases. A call keeps the ledger so exactly when every load that it records is
of a named package and an absolute path. -/
theorem loads_back_iff {services : Services ω} {file : LedgerFile} {h h' : Moment}
    (hempty : h.ledger = .empty) (idle : h.todo = []) (run : Leads services file h h') :
    (LedgerDocument.read (symbols (LedgerDocument.write h'.ledger).toUTF8) = .ok h'.ledger ↔
      h'.ledger.IsLoadable) ∧
    (¬h'.ledger.IsLoadable → ∃ fault,
      LedgerDocument.read (symbols (LedgerDocument.write h'.ledger).toUTF8) =
        .error (.corrupt fault)) ∧
    (∀ (f : LedgerFile) (t : FileTree), (f.write h'.ledger t).2 = true →
      ((Store.empty.load (f.read (f.write h'.ledger t).1)).ledger = h'.ledger ↔
        h'.ledger.IsLoadable)) ∧
    (h'.ledger.IsLoadable → ∀ c w,
      ((h'.manager.perform services file h'.disk w c).1.ledger.IsLoadable ↔
        ∀ d ∈ h'.manager.loadsOf services w c, d.package ≠ "" ∧ Path.isAbsolute d.path)) := by
  obtain ⟨htrim, hvalid⟩ := isValid_iff_of_leads hempty idle run
  have hcorrupt (hl : ¬h'.ledger.IsLoadable) : ∃ fault,
      LedgerDocument.read (symbols (LedgerDocument.write h'.ledger).toUTF8) =
        .error (.corrupt fault) :=
    LedgerDocument.read_write_of_not_isValid (mt hvalid.1 hl)
  refine ⟨?_, hcorrupt, ?_, ?_⟩
  · rw [← hvalid]
    exact ⟨LedgerDocument.isValid_of_read, LedgerDocument.read_write_of_isValid⟩
  · intro f t hok
    rw [LedgerFile.read_write hok]
    constructor
    · intro hsame
      by_contra hl
      obtain ⟨fault, hf⟩ := hcorrupt hl
      -- a corrupt file loads as the empty ledger, which is loadable
      rw [hf] at hsame
      apply hl
      rw [← hsame]
      exact fun _ _ _ hr => nomatch hr
    · intro hl
      rw [LedgerDocument.read_write_of_isValid (hvalid.2 hl)]
      exact htrim.ofDocument
  · intro hl c w
    exact Manager.isLoadable_perform_iff services file hl h'.disk w c

/-- A package whose data directory is given by a relative path. -/
def strayApp : PackageInfo where
  name := "com.a"
  uid := 0
  base := "/data/app/com.a/base.apk"
  splits := []
  dataDir := some "data"
  deviceDir := none
  credentialDir := none
  volume := none
  isas := []

/-- The package loads a file of that directory. -/
def strayLoad : Call := .noteLoad strayApp ["data/x.jar"] "arm64" 0

/-- A new manager that tracks one instruction set, on a disk that holds nothing. -/
def fresh : Moment := ⟨Manager.new ⟨[], ["arm64"], .empty⟩, .empty, [], false, none, .unloaded⟩

/-- One load of a file in a relative data directory makes the whole ledger file corrupt. -/
theorem corrupt_of_strayLoad :
    let l := (fresh.manager.perform Rehearsal.services ⟨"usage.json", []⟩ fresh.disk .empty
      strayLoad).1.ledger
    LedgerDocument.read (symbols (LedgerDocument.write l).toUTF8) =
      .error (.corrupt (.relativePath "com.a" "data/x.jar")) := by
  intro l
  rw [LedgerDocument.read_write]
  rfl

/-- The moment after that load is one at which the ledger is not loadable, and no file
that it is written to gives it back. -/
theorem not_loaded_back_of_strayLoad :
    ∃ h, Leads Rehearsal.services ⟨"usage.json", []⟩ fresh h ∧ ¬h.ledger.IsLoadable ∧
      ∀ (f : LedgerFile) (t : FileTree), (f.write h.ledger t).2 = true →
        (Store.empty.load (f.read (f.write h.ledger t).1)).ledger ≠ h.ledger := by
  let h := fresh.perform Rehearsal.services ⟨"usage.json", []⟩ .empty strayLoad
  have run : Leads Rehearsal.services ⟨"usage.json", []⟩ fresh h := leads_perform _ _ _ _ rfl rfl
  have hl : h.ledger = (fresh.manager.perform Rehearsal.services ⟨"usage.json", []⟩ fresh.disk
      .empty strayLoad).1.ledger :=
    congrArg (fun s => s.1.ledger)
      (manager_perform Rehearsal.services ⟨"usage.json", []⟩ .empty strayLoad fresh)
  have hstray : ¬h.ledger.IsLoadable := by
    rw [hl]
    intro hgood
    exact absurd (hgood "com.a" "data/x.jar" _ rfl).2 (by decide)
  obtain ⟨-, -, hfile, -⟩ := loads_back_iff (h := fresh) rfl rfl run
  exact ⟨h, run, hstray, fun f t hok => mt (hfile f t hok).1 hstray⟩

end Moment

end DexTrail
