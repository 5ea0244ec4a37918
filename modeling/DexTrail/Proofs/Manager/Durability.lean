-- SUMMARY: When a ledger that no write waits for is in its file, at every moment of every run.
import DexTrail.Proofs.Manager.Loadable

/-!
# Durability

Every call keeps its own books on whether it has changed the ledger. The books are
honest (`Action.Honest`): a call that puts another ledger in place goes on to request
a write. So at every quiet moment of an orderly run the file holds the ledger, or
loading the file gives the ledger. A run that is not orderly can lose a record: a write
that ends after a load has read the file, and before it replaces the ledger, leaves in
the file what is in memory no more (`Moment.leads_overtakenLoad`).
-/

namespace DexTrail

variable {ω : Type}

/-! ## Honest books -/

namespace Action

/-- From a ledger `l`, the actions request a write after every change, and before
them one is already owed if `owed`. A ledger is replaced before such actions only. -/
def Honest (l : Ledger) (owed : Bool) : List Action → Prop
  | [] => owed = false
  | .put l' :: rest => Honest l' (owed || l' != l) rest
  | .replace _ :: _ => False
  | .request changed :: rest => (owed = true → changed = true) ∧ Honest l false rest
  | .write :: rest => Honest l owed rest

theorem honest_change {l : Ledger} {result : Ledger × Bool}
    (h : result.2 = false → result.1 = l) : Honest l false (change result) := by
  refine ⟨?_, rfl⟩
  intro howed
  cases hc : result.2 with
  | false => simp [h hc] at howed
  | true => rfl

/-- The books of a loop are honest when its flag is never taken back, and a round that
leaves the flag down leaves the ledger as it was. -/
theorem honest_puts {σ α : Type} (next : σ → α → σ) (ledger : σ → Ledger) (flag : σ → Bool)
    (I : σ → Prop) {items : List α} (hkeep : ∀ s, ∀ a ∈ items, I s → I (next s a))
    (hflag : ∀ s, ∀ a ∈ items, I s → flag (next s a) = false →
      flag s = false ∧ ledger (next s a) = ledger s)
    {s : σ} (hs : I s) {owed : Bool} (howed : owed = true → flag s = true) {rest : List Action}
    (hrest : Honest (ledger (items.foldl next s)) false rest) :
    Honest (ledger s) owed
      (puts next ledger s items ++ .request (flag (items.foldl next s)) :: rest) := by
  induction items generalizing s owed with
  | nil => exact ⟨howed, hrest⟩
  | cons a items ih =>
    refine ih ?_ ?_ (hkeep s a List.mem_cons_self hs) ?_ hrest
    · intro s b hb
      exact hkeep s b (List.mem_cons_of_mem a hb)
    · intro s b hb
      exact hflag s b (List.mem_cons_of_mem a hb)
    · intro h
      cases hf : flag (next s a) with
      | true => rfl
      | false =>
        obtain ⟨hbefore, hsame⟩ := hflag s a List.mem_cons_self hs hf
        rw [hsame] at h
        have hno : owed = true := by simpa using h
        rw [howed hno] at hbefore
        cases hbefore

end Action

/-! ## The rounds of the loops -/

/-- A round of recording that leaves the flag down changes nothing. -/
theorem Ledger.recordNext_of_unchanged {s : Ledger × Bool} {d : DexLoad}
    (h : (recordNext s d).2 = false) : s.2 = false ∧ (recordNext s d).1 = s.1 := by
  rw [fst_recordNext]
  unfold recordNext at h
  rcases hr : s.1.record d with ⟨l, e | c⟩
  · rw [hr] at h
    refine ⟨h, ?_⟩
    rw [← hr]
    exact record_of_error (e := e) (by rw [hr])
  · rw [hr] at h
    obtain ⟨hs, hc⟩ := Bool.or_eq_false_iff.1 h
    refine ⟨hs, ?_⟩
    rw [← hr]
    exact record_of_unchanged (by rw [hr, hc])

theorem OptimizePass.next_of_unchanged {services : Services ω} {package filter : String}
    {force : Bool} {p : OptimizePass ω} (hp : p.ledger.IsTrim) {e : String × UsageRecord}
    (h : (p.next services package filter force e).changed = false) :
    p.changed = false ∧ (p.next services package filter force e).ledger = p.ledger := by
  rw [next] at h ⊢
  rcases p.compile_cases services package filter force e.1 e.2 with ⟨hl, hc⟩ | ⟨hl, hc⟩
  · exact ⟨hc ▸ h, hl⟩
  · rw [hc] at h
    obtain ⟨hbefore, hsame⟩ := Bool.or_eq_false_iff.1 h
    exact ⟨hbefore, hl.trans (hp.restrict_of_unchanged hsame)⟩

namespace Sweep

/-- Dropping a user whose file is looked at leaves that file among the removed ones,
whenever it drops a record at all. -/
theorem dropUser_of_unchanged {s : Sweep ω} (hs : s.ledger.IsTrim) {package : String}
    {usage : PackageUsage} {e : String × UsageRecord} (he : e ∈ usage.secondary)
    (h : ∀ path, path ∉ (s.dropUser package usage e.2.owner).removed) :
    (∀ path, path ∉ s.removed) ∧ (s.dropUser package usage e.2.owner).ledger = s.ledger := by
  rw [ledger_dropUser]
  unfold dropUser at h
  rcases hr : s.ledger.removeUser package e.2.owner with ⟨l, _ | _⟩
  · rw [hr] at h
    refine ⟨h, ?_⟩
    rw [← hr]
    exact hs.restrict_of_unchanged (congrArg Prod.snd hr)
  · rw [hr] at h
    refine absurd (SortedSet.mem_insertMany.2 (.inl ?_)) (h e.1)
    exact List.mem_map_of_mem (List.mem_filter.2 ⟨he, by simp⟩)

theorem dropFile_of_unchanged {s : Sweep ω} (hs : s.ledger.IsTrim) {package path : String}
    {user : UserId} (h : ∀ p, p ∉ (s.dropFile package path user).removed) :
    (∀ p, p ∉ s.removed) ∧ (s.dropFile package path user).ledger = s.ledger := by
  rw [ledger_dropFile]
  unfold dropFile at h
  rcases hr : s.ledger.removeFile package path user with ⟨l, _ | _⟩
  · rw [hr] at h
    refine ⟨h, ?_⟩
    rw [← hr]
    exact hs.removeFile_of_unchanged (congrArg Prod.snd hr)
  · rw [hr] at h
    exact absurd (SortedSet.mem_insert.2 (.inl rfl)) (h path)

/-- Whether some file counts as removed. -/
def flag (s : Sweep ω) : Bool := 0 < s.removed.size

theorem flag_eq_false_iff {s : Sweep ω} : s.flag = false ↔ ∀ path, path ∉ s.removed := by
  rw [flag, decide_eq_false_iff_not, SortedSet.size_pos_iff, not_exists]

/-- The removed files count every change: while there are none, the ledger is as it was. -/
theorem next_of_unchanged {services : Services ω} {package : String} {usage : PackageUsage}
    {s : Sweep ω} (hs : s.ledger.IsTrim) {e : String × UsageRecord} (he : e ∈ usage.secondary)
    (h : (s.next services package usage e).flag = false) :
    s.flag = false ∧ (s.next services package usage e).ledger = s.ledger := by
  rw [flag_eq_false_iff] at h ⊢
  rw [next] at h ⊢
  obtain ⟨w, hw | hw | hw⟩ := s.examine_cases services package usage e.1 e.2
  · rw [hw] at h ⊢
    exact ⟨h, rfl⟩
  · rw [hw] at h ⊢
    exact dropUser_of_unchanged (s := { s with world := w }) hs he h
  · rw [hw] at h ⊢
    exact dropFile_of_unchanged (s := { s with world := w }) hs h

end Sweep

/-! ## The books of every call are honest -/

namespace Manager

open DexTrail.Action

theorem honest_recordActions {l : Ledger} {loads : List DexLoad} {rest : List Action}
    (hrest : Honest (recordAll l loads).1 false rest) :
    Honest l false (recordActions l loads ++ rest) := by
  rw [recordActions, List.append_assoc]
  refine honest_puts Ledger.recordNext Prod.fst Prod.snd (fun _ => True) ?_ ?_ trivial ?_ hrest
  · intro _ _ _ _
    trivial
  · intro _ _ _ _ hc
    exact Ledger.recordNext_of_unchanged hc
  · intro howed
    exact howed

theorem honest_registerActions (services : Services ω) (m : Manager) (w : ω) (app : PackageInfo)
    (path : String) (shared : Bool) (user : UserId) :
    Honest m.ledger false (m.registerActions services w app path shared user) := by
  unfold registerActions
  split
  · split
    · rfl
    · rw [← List.append_nil (recordActions _ _)]
      exact honest_recordActions rfl
  · rfl

theorem honest_optimizeActions (services : Services ω) {m : Manager} (h : m.ledger.IsTrim) (w : ω)
    (package : String) (target : CompilerTarget) (force onlyShared : Bool) {rest : List Action}
    (hrest : Honest (m.optimize services w package target force onlyShared).1.ledger false rest) :
    Honest m.ledger false
      (m.optimizeActions services w package target force onlyShared ++ rest) := by
  unfold optimize at hrest
  unfold optimizeActions
  cases hu : m.ledger.usage? package with
  | none =>
    rw [hu] at hrest
    exact hrest
  | some usage =>
    rw [hu] at hrest
    simp only [List.append_assoc]
    refine honest_puts (OptimizePass.next services package (m.policy.filterOf target) force)
      OptimizePass.ledger OptimizePass.changed (fun p => p.ledger.IsTrim) ?_ ?_ h ?_ hrest
    · intro p e _ hp
      exact OptimizePass.ledger_next Ledger.isKept_isTrim services _ _ _ hp e
    · intro p e _ hp hc
      exact OptimizePass.next_of_unchanged hp hc
    · intro howed
      exact howed

theorem honest_reconcileActions (services : Services ω) {m : Manager} (h : m.ledger.IsTrim) (w : ω)
    (package : String) {rest : List Action}
    (hrest : Honest (m.reconcile services w package).1.ledger false rest) :
    Honest m.ledger false (m.reconcileActions services w package ++ rest) := by
  unfold reconcile at hrest
  unfold reconcileActions
  cases hu : m.ledger.usage? package with
  | none =>
    rw [hu] at hrest
    exact hrest
  | some usage =>
    rw [hu] at hrest
    simp only [List.append_assoc]
    refine honest_puts (Sweep.next services package usage) Sweep.ledger Sweep.flag
      (fun s => s.ledger.IsTrim) ?_ ?_ h ?_ hrest
    · intro s e _ hs
      exact Sweep.ledger_next Ledger.isKept_isTrim services _ _ hs e
    · intro s e he hs hf
      exact Sweep.next_of_unchanged hs he hf
    · intro howed
      cases howed

theorem honest_maintainActions (services : Services ω) {m : Manager} (h : m.ledger.IsTrim) (w : ω)
    (packages : List String) :
    Honest m.ledger false (m.maintainActions services w packages) := by
  induction packages generalizing m w with
  | nil => rfl
  | cons package rest ih =>
    have hswept := (all_reconcileActions Ledger.isKept_isTrim services h w package).2
    have hcompiled := (all_optimizeActions Ledger.isKept_isTrim services hswept
      (m.reconcile services w package).2.1 package (.reason .backgroundDexopt) false false).2
    rw [maintainActions, List.append_assoc]
    apply honest_reconcileActions services h w package
    apply honest_optimizeActions services hswept _ package _ false false
    exact ih hcompiled _

/-- Every call requests a write after it has changed the ledger. -/
theorem honest_actions (services : Services ω) (file : LedgerFile) {m : Manager} (t : FileTree)
    (w : ω) {c : Call} (h : c.loads services w = false → m.ledger.IsTrim) :
    Honest (m.begin services file t w c).ledger false (m.actions services file t w c) := by
  have hloaded (installed : SortedMap String (SortedSet UserId)) :
      Honest (Store.ledgerOf (file.read t)) false
        (change ((Store.ledgerOf (file.read t)).sync installed)) :=
    honest_change (Store.isTrim_ledgerOf _).sync_of_unchanged
  have hkept : c.loads services w = false → (m.begin services file t w c).ledger = m.ledger := by
    intro hl
    rw [ledger, store_begin, hl]
    rfl
  cases c with
  | noteLoad loader paths isa user =>
    rw [hkept rfl, actions]
    split
    · rw [← List.append_nil (recordActions _ _)]
      exact honest_recordActions rfl
    · rfl
  | noteInstalled info user => rfl
  | noteUpdated package base splits => exact honest_change (h rfl).restrict_of_unchanged
  | noteDataDestroyed package user =>
    apply honest_change
    split
    · exact Ledger.removePackage_of_unchanged
    · exact (h rfl).restrict_of_unchanged
  | noteRemoved package user => rfl
  | register app path shared user => exact honest_registerActions services m w app path shared user
  | optimize package target force onlyShared =>
    rw [hkept rfl, actions, ← List.append_nil (optimizeActions ..)]
    exact honest_optimizeActions services (h rfl) w package target force onlyShared rfl
  | reconcile package =>
    rw [hkept rfl, actions, ← List.append_nil (reconcileActions ..)]
    exact honest_reconcileActions services (h rfl) w package rfl
  | maintain => exact honest_maintainActions services (h rfl) w _
  | load installed => exact hloaded _
  | loadInstalled =>
    unfold begin actions
    rcases services.enumerate w with ⟨w', _ | installed⟩
    · rfl
    · exact hloaded _
  | flush => rfl

end Manager

/-! ## Every moment of every run -/

/-- Files that are alike at the ledger's path give the same reading. -/
theorem LedgerFile.read_congr {f : LedgerFile} {t t' : FileTree}
    (h : t.read f.cwd f.path = t'.read f.cwd f.path) : f.read t = f.read t' := by
  rw [read, h, read]

/-- What writing a ledger does where no directory is in the way of the file or of the temporary
one, and none has to be made. -/
theorem LedgerFile.write_of_locate {f : LedgerFile} {t : FileTree} {place aside : Location}
    (l : Ledger) (hparent : f.parent? = none) (hne : place ≠ aside)
    (hplace : ∀ t : FileTree, t.locate f.cwd f.path = .ok ⟨place, false⟩)
    (haside : ∀ t : FileTree, t.locate f.cwd f.temporary = .ok ⟨aside, false⟩)
    (hdir : t.get? place ≠ some .dir) (hdir' : t.get? aside ≠ some .dir) :
    let node := Node.file (LedgerDocument.write l).toUTF8
    f.write l t = (((t.set aside node).set place node).erase aside, true) := by
  intro node
  have hroot : aside ≠ [] := FileTree.ne_root hdir'
  have hwrite : t.writeFile f.cwd f.temporary (LedgerDocument.write l).toUTF8 =
      .ok (t.set aside node) :=
    FileTree.writeFile_eq_ok_iff.2 ⟨_, haside _, hdir', rfl⟩
  have hplaced : (t.set aside node).renameFile f.cwd f.temporary f.path =
      .ok (((t.set aside node).set place node).erase aside) := by
    refine FileTree.renameFile_eq_ok_iff.2 ⟨aside, place, _, haside _, ?_, hplace _, ?_,
      (if_neg hne.symm).symm⟩
    · rw [FileTree.get?_set _ _ _ _ hroot, if_pos rfl]
    · rwa [FileTree.get?_set _ _ _ _ hroot, if_neg hne]
  simp only [LedgerFile.write, LedgerFile.makeParent, hparent, hwrite, hplaced]

namespace Moment

/-- No write waits, is under way or is owed, and the last one since the last load has not
failed. -/
structure IsQuiet (h : Moment) : Prop where
  paid : h.owed = false
  idle : h.pending = false
  free : h.flight = none
  last : h.last ≠ .ended false

/-- The ledger is in its file: the file holds its document, or no write has ended since the
file was loaded, and loading it gives the ledger again. -/
def IsSaved (file : LedgerFile) (h : Moment) : Prop :=
  h.disk.read file.cwd file.path = .ok (LedgerDocument.write h.ledger).toUTF8 ∨
  h.last = .none ∧ (h.manager.store.load (file.read h.disk)).ledger = h.ledger

/-- The call under way keeps honest books, from the ledger held or from the one that it is
about to replace that by. The latter is what the file holds. -/
def Books (file : LedgerFile) (h : Moment) : Prop :=
  match h.todo with
  | .replace l :: rest =>
    Store.ledgerOf (file.read h.disk) = l ∧ Action.All Ledger.IsTrim rest ∧
      Action.Honest l false rest
  | todo => Action.All Ledger.IsTrim todo ∧ Action.Honest h.ledger h.owed todo

/-- What holds at every moment once a load has replaced the ledger. -/
structure IsDurable (file : LedgerFile) (h : Moment) : Prop where
  trim : h.ledger.IsTrim
  /-- The write under way has taken the ledger as it is, unless another write will follow. -/
  taken : h.owed = false → h.pending = false → ∀ l, h.flight = some l → l = h.ledger
  saved : h.IsQuiet → h.IsSaved file

/-- What holds at every moment of an orderly run that starts with a load. -/
structure IsSound (file : LedgerFile) (h : Moment) : Prop where
  books : h.Books file
  loading : h.last = .unloaded → h.isLoading = true
  durable : h.last ≠ .unloaded → h.IsDurable file

theorem isLoading_of_honest {h : Moment} {l : Ledger} {owed : Bool}
    (hhonest : Action.Honest l owed h.todo) : h.isLoading = false := by
  unfold isLoading
  split
  · next due =>
    rw [due] at hhonest
    exact hhonest.elim
  · rfl

theorem books_of_honest {file : LedgerFile} {h : Moment} (hputs : Action.All Ledger.IsTrim h.todo)
    (hhonest : Action.Honest h.ledger h.owed h.todo) : h.Books file := by
  unfold Books
  split
  · next due =>
    rw [due] at hhonest
    exact hhonest.elim
  · exact ⟨hputs, hhonest⟩

theorem Books.honest {file : LedgerFile} {h : Moment} (hb : h.Books file)
    (hno : h.isLoading = false) :
    Action.All Ledger.IsTrim h.todo ∧ Action.Honest h.ledger h.owed h.todo := by
  unfold Books at hb
  split at hb
  · next due =>
    rw [isLoading, due] at hno
    cases hno
  · exact hb

/-- The books are about the file and the call, not about the writes. -/
theorem Books.congr {file : LedgerFile} {h h' : Moment} (hb : h.Books file)
    (htodo : h'.todo = h.todo) (hledger : h'.ledger = h.ledger) (howed : h'.owed = h.owed)
    (hread : h.isLoading = true →
      h'.disk.read file.cwd file.path = h.disk.read file.cwd file.path) : h'.Books file := by
  unfold Books at hb ⊢
  rw [htodo]
  split
  · next l rest due =>
    rw [due] at hb
    refine ⟨?_, hb.2⟩
    rw [LedgerFile.read_congr (hread (by rw [isLoading, due])), hb.1]
  · next hother =>
    split at hb
    · next due => exact absurd due (hother _ _)
    · rw [hledger, howed]
      exact hb

/-- Unless a load is still to replace the ledger, the ledger is durable and the books are about
it. -/
theorem IsSound.settled {file : LedgerFile} {h : Moment} (hs : h.IsSound file)
    (hno : h.isLoading = false) :
    h.last ≠ .unloaded ∧ h.IsDurable file ∧ Action.All Ledger.IsTrim h.todo ∧
      Action.Honest h.ledger h.owed h.todo := by
  have hloaded : h.last ≠ .unloaded := by
    intro hlast
    rw [hs.loading hlast] at hno
    cases hno
  exact ⟨hloaded, hs.durable hloaded, hs.books.honest hno⟩

/-! ### A call starts -/

/-- A call that starts keeps honest books. -/
theorem books_start (services : Services ω) (file : LedgerFile) (w : ω) {c : Call} {h : Moment}
    (htrim : c.loads services w = false → h.ledger.IsTrim) :
    (h.start services file w c).Books file := by
  obtain ⟨-, hputs⟩ := Manager.all_actions Ledger.isKept_isTrim services file h.disk w
    (fun _ _ => trivial) htrim (fun _ => Store.isTrim_ledgerOf _)
  have hhonest := Manager.honest_actions services file h.disk w htrim
  have hstore := Manager.store_begin services file h.manager h.disk w c
  rw [Manager.ledger, hstore] at hhonest
  cases hc : c.loads services w with
  | true =>
    have due : (h.start services file w c).todo =
        .replace (Store.ledgerOf (file.read h.disk)) ::
          h.manager.actions services file h.disk w c := by
      simp only [start, hc, if_true]
      rfl
    rw [hc, if_pos rfl] at hhonest
    rw [Books, due]
    exact ⟨rfl, hputs, hhonest⟩
  | false =>
    have due : (h.start services file w c).todo = h.manager.actions services file h.disk w c := by
      simp only [start, hc, Bool.false_eq_true, if_false]
      rfl
    rw [hc, if_neg Bool.false_ne_true] at hhonest
    apply books_of_honest
    · rw [due]
      exact hputs
    · rw [due]
      exact hhonest

theorem isSound_start_of_loads (services : Services ω) (file : LedgerFile) {w : ω} {c : Call}
    {h : Moment} (loads : c.loads services w = true) (unloaded : h.last = .unloaded) :
    (h.start services file w c).IsSound file where
  books := by
    refine books_start services file w fun hc => ?_
    rw [loads] at hc
    cases hc
  loading _ := by
    rw [isLoading, start, loads]
    rfl
  durable hloaded := absurd unloaded hloaded

/-- A call that starts between calls leaves the ledger, and its file, as they were. -/
theorem IsSound.start {services : Services ω} {file : LedgerFile} {h : Moment}
    (hs : h.IsSound file) (w : ω) (c : Call) (idle : h.todo = []) :
    (h.start services file w c).IsSound file := by
  obtain ⟨hloaded, ⟨htrim, htaken, hsaved⟩, -, howed⟩ := hs.settled (by rw [isLoading, idle])
  rw [idle] at howed
  have hdurable : (h.start services file w c).IsDurable file := by
    refine ⟨htrim, fun _ => htaken howed, fun hquiet => ?_⟩
    exact hsaved ⟨howed, hquiet.idle, hquiet.free, hquiet.last⟩
  exact ⟨books_start services file w fun _ => htrim, fun hlast => absurd hlast hloaded,
    fun _ => hdurable⟩

/-! ### An action is done -/

/-- The load replaces the ledger by what the file holds. -/
theorem IsSound.replace {file : LedgerFile} {h : Moment} (hs : h.IsSound file) {l : Ledger}
    {rest : List Action} (due : h.todo = .replace l :: rest) (free : h.flight = none) :
    (h.act file (.replace l) rest).IsSound file := by
  have hbooks := hs.books
  rw [Books, due] at hbooks
  obtain ⟨hread, hputs, hhonest⟩ := hbooks
  refine ⟨books_of_honest hputs hhonest, ?_, fun _ => ⟨?_, ?_, ?_⟩⟩
  · intro hlast
    cases hlast
  · exact hread ▸ Store.isTrim_ledgerOf _
  · intro _ _ l' hl'
    have hflight : h.flight = some l' := hl'
    rw [free] at hflight
    cases hflight
  · exact fun _ => .inr ⟨rfl, hread⟩

theorem IsSound.put {file : LedgerFile} {h : Moment} (hs : h.IsSound file) {l : Ledger}
    {rest : List Action} (due : h.todo = .put l :: rest) :
    (h.act file (.put l) rest).IsSound file := by
  obtain ⟨hloaded, ⟨-, htaken, hsaved⟩, hputs, hhonest⟩ := hs.settled (by rw [isLoading, due])
  rw [due] at hputs hhonest
  obtain ⟨htrim, hrest⟩ := Action.all_put.1 hputs
  refine ⟨books_of_honest hrest hhonest, fun hlast => absurd hlast hloaded, fun _ => ?_⟩
  -- while no write is owed, the ledger put in place is the one that was there
  have hsame (howed : (h.act file (.put l) rest).owed = false) : h.owed = false ∧ l = h.ledger := by
    obtain ⟨hno, hl⟩ := Bool.or_eq_false_iff.1 howed
    exact ⟨hno, by simpa using hl⟩
  refine ⟨htrim, fun howed hpending l' hl' => ?_, fun hquiet => ?_⟩
  · obtain ⟨hpaid, hl⟩ := hsame howed
    exact (htaken hpaid hpending l' hl').trans hl.symm
  · obtain ⟨hpaid, rfl⟩ := hsame hquiet.paid
    exact hsaved ⟨hpaid, hquiet.idle, hquiet.free, hquiet.last⟩

theorem IsSound.request {file : LedgerFile} {h : Moment} (hs : h.IsSound file) {changed : Bool}
    {rest : List Action} (due : h.todo = .request changed :: rest) :
    (h.act file (.request changed) rest).IsSound file := by
  obtain ⟨hloaded, ⟨htrim, htaken, hsaved⟩, hputs, hhonest⟩ := hs.settled (by rw [isLoading, due])
  rw [due] at hputs hhonest
  obtain ⟨howes, hhonest⟩ := hhonest
  refine ⟨books_of_honest (Action.all_request.1 hputs) hhonest,
    fun hlast => absurd hlast hloaded, fun _ => ?_⟩
  cases changed with
  | true =>
    have hwaits : (h.act file (.request true) rest).pending = true :=
      WriteQueue.pending_schedule h.manager.store.writes
    refine ⟨htrim, fun _ hpending => ?_, fun hquiet => ?_⟩
    · cases hwaits.symm.trans hpending
    · cases hwaits.symm.trans hquiet.idle
  | false =>
    have hpaid : h.owed = false := by
      cases ho : h.owed with
      | false => rfl
      | true => cases howes ho
    refine ⟨htrim, fun _ => htaken hpaid, fun hquiet => ?_⟩
    exact hsaved ⟨hpaid, hquiet.idle, hquiet.free, hquiet.last⟩

/-- Without a waiting request a write does nothing. -/
theorem act_write_of_not_pending (file : LedgerFile) {h : Moment} (hp : h.pending = false)
    (rest : List Action) : h.act file .write rest = { h with todo := rest } := by
  have hp' : h.manager.store.writes.pending = false := hp
  simp [Moment.act, Manager.act, Manager.flush, Store.flush, WriteQueue.drain, hp, hp']

/-! ### Writes -/

theorem IsSound.take {file : LedgerFile} {h : Moment} (hs : h.IsSound file) :
    h.take.IsSound file := by
  refine ⟨hs.books.congr rfl rfl rfl fun _ => rfl, hs.loading, fun hlast => ?_⟩
  refine ⟨(hs.durable hlast).trim, fun _ _ l hl => (Option.some.inj hl).symm, fun hquiet => ?_⟩
  cases hquiet.free

/-- A write ends: it leaves the ledger that it has taken in the file, or it has failed. -/
theorem IsSound.finish {file : LedgerFile} {h : Moment} (hs : h.IsSound file) {l : Ledger}
    (under : h.flight = some l) {result : FileTree × Bool}
    (hresult : result.2 = true →
      result.1.read file.cwd file.path = .ok (LedgerDocument.write l).toUTF8)
    (hread : h.isLoading = true →
      result.1.read file.cwd file.path = h.disk.read file.cwd file.path) :
    (h.finish result).IsSound file := by
  refine ⟨hs.books.congr rfl rfl rfl hread, fun hlast => ?_, fun hlast => ?_⟩
  · exact hs.loading (LastWrite.next_eq_unloaded_iff.1 hlast)
  · have hloaded : h.last ≠ .unloaded := mt LastWrite.next_eq_unloaded_iff.2 hlast
    obtain ⟨htrim, htaken, -⟩ := hs.durable hloaded
    refine ⟨htrim, fun _ _ l hl => ?_, fun hquiet => ?_⟩
    · cases hl
    have hok : result.2 = true := by
      have hended : h.last.next result.2 ≠ .ended false := hquiet.last
      rw [LastWrite.next, if_neg hloaded] at hended
      simpa using hended
    obtain rfl : l = h.ledger := htaken hquiet.paid hquiet.idle l under
    exact .inl (hresult hok)

/-- An action that writes is done with. -/
theorem IsSound.pass {file : LedgerFile} {h : Moment} (hs : h.IsSound file) {rest : List Action}
    (due : h.todo = .write :: rest) : { h with todo := rest }.IsSound file := by
  obtain ⟨hloaded, ⟨htrim, htaken, hsaved⟩, hputs, hhonest⟩ := hs.settled (by rw [isLoading, due])
  rw [due] at hputs hhonest
  refine ⟨books_of_honest (Action.all_write.1 hputs) hhonest, fun hlast => absurd hlast hloaded,
    fun _ => ⟨htrim, htaken, fun hquiet => ?_⟩⟩
  exact hsaved ⟨hquiet.paid, hquiet.idle, hquiet.free, hquiet.last⟩

/-- A call that waits for the writes is a write that nothing comes between. -/
theorem IsSound.write {file : LedgerFile} {h : Moment} (hs : h.IsSound file) {rest : List Action}
    (due : h.todo = .write :: rest) (free : h.flight = none) :
    (h.act file .write rest).IsSound file := by
  cases hp : h.pending with
  | false =>
    rw [act_write_of_not_pending file hp]
    exact hs.pass due
  | true =>
    have hwritten : (h.act file .write h.todo).IsSound file := by
      rw [← finish_take file hp free]
      refine hs.take.finish rfl LedgerFile.read_of_write fun hloading => ?_
      have hno : h.take.isLoading = false := by
        change h.isLoading = false
        rw [isLoading, due]
      rw [hno] at hloading
      cases hloading
    exact hwritten.pass due

theorem IsSound.elsewhere {file : LedgerFile} {h : Moment} (hs : h.IsSound file) {t : FileTree}
    (same : t.read file.cwd file.path = h.disk.read file.cwd file.path) :
    { h with disk := t }.IsSound file := by
  refine ⟨hs.books.congr rfl rfl rfl fun _ => same, hs.loading, fun hlast => ?_⟩
  obtain ⟨htrim, htaken, hsaved⟩ := hs.durable hlast
  refine ⟨htrim, htaken, fun hquiet => ?_⟩
  rcases hsaved ⟨hquiet.paid, hquiet.idle, hquiet.free, hquiet.last⟩ with hs | ⟨hnone, hs⟩
  · exact .inl (same.trans hs)
  · exact .inr ⟨hnone, (congrArg Store.ledgerOf (LedgerFile.read_congr same)).trans hs⟩

/-! ### Runs -/

theorem IsSound.act {file : LedgerFile} {h : Moment} (hs : h.IsSound file) {a : Action}
    {rest : List Action} (due : h.todo = a :: rest)
    (free : (∃ l, a = .replace l) ∨ a = .write → h.flight = none) :
    (h.act file a rest).IsSound file := by
  cases a with
  | put l => exact hs.put due
  | replace l => exact hs.replace due (free (.inl ⟨l, rfl⟩))
  | request changed => exact hs.request due
  | write => exact hs.write due (free (.inr rfl))

theorem IsSound.step {services : Services ω} {file : LedgerFile} {h h' : Moment}
    (hs : h.IsSound file) (step : Orderly services file h h') : h'.IsSound file := by
  obtain ⟨step, horderly⟩ := step
  cases step with
  | start c w idle => exact hs.start w c idle
  | @act a rest due free =>
    refine hs.act due ?_
    rintro (⟨l, rfl⟩ | hwrite)
    · have hbooks := hs.books
      rw [Books, due] at hbooks
      have hdone : (h.act file (.replace l) rest).isLoading = false :=
        isLoading_of_honest hbooks.2.2
      have hloading : h.isLoading = true := by rw [isLoading, due]
      rcases (horderly hloading).2 with hagain | hfree
      · rw [hdone] at hagain
        cases hagain
      · exact hfree
    · exact free hwrite
  | take waits free => exact hs.take
  | finish under =>
    exact hs.finish under LedgerFile.read_of_write fun hloading => (horderly hloading).1
  | fail under => exact hs.finish under (absurd · Bool.false_ne_true) fun _ => rfl
  | elsewhere t same => exact hs.elsewhere same

theorem IsSound.leads {services : Services ω} {file : LedgerFile} {h h' : Moment}
    (hs : h.IsSound file) (run : LeadsOrderly services file h h') : h'.IsSound file := by
  induction run with
  | refl => exact hs
  | tail _ step ih => exact ih.step step

/-- A name without slashes leads beside the working directory. -/
theorem locate_usage (t : FileTree) :
    t.locate [] "usage.json" = .ok ⟨["usage.json"], false⟩ := by
  rw [FileTree.locate_eq_map_walk (by decide) (by decide) (by decide)]
  rfl

theorem read_usage : LedgerFile.read ⟨"usage.json", []⟩ (.empty : FileTree) = .ok none := by
  rw [LedgerFile.read, FileTree.read, FileTree.lookup, locate_usage]
  rfl

/-- On a disk that holds nothing, a file beside the working directory can be written. -/
theorem write_usage (l : Ledger) :
    (LedgerFile.write ⟨"usage.json", []⟩ l (.empty : FileTree)).2 = true := by
  have hname : LedgerFile.temporary ⟨"usage.json", []⟩ = "usage.json.tmp" := by decide
  have haside (t : FileTree) :
      t.locate [] "usage.json.tmp" = .ok ⟨["usage.json.tmp"], false⟩ := by
    rw [FileTree.locate_eq_map_walk (by decide) (by decide) (by decide)]
    rfl
  rw [← hname] at haside
  exact congrArg Prod.snd (LedgerFile.write_of_locate l (by decide) (by decide) locate_usage haside
    (by decide) (by decide))

/-- After an orderly run that starts with a load, a quiet moment is one at which the ledger is in
its file. Between calls no write is owed. A whole call, done when none is under way, is such a
run, so that this holds of what it leaves. -/
theorem saved_of_leadsOrderly {services : Services ω} {file : LedgerFile} {w : ω} {c : Call}
    {h h' : Moment} (unloaded : h.last = .unloaded) (loads : c.loads services w = true)
    (run : LeadsOrderly services file (h.start services file w c) h')
    (loaded : h'.last ≠ .unloaded) :
    (h'.todo = [] → h'.owed = false) ∧ (h'.IsQuiet → h'.IsSaved file) ∧
    (h'.todo = [] → h'.flight = none → ∀ c w,
      let after := h'.perform services file w c
      LeadsOrderly services file h' after ∧
      (after.manager, after.disk) = h'.manager.perform services file h'.disk w c ∧
      (after.IsQuiet → after.IsSaved file)) := by
  have hs := (isSound_start_of_loads services file loads unloaded).leads run
  refine ⟨fun hdone => ?_, (hs.durable loaded).saved, fun idle free c w => ?_⟩
  · obtain ⟨-, -, -, howed⟩ := hs.settled (by rw [isLoading, hdone])
    rwa [hdone] at howed
  · have hrun := leadsOrderly_perform services file w c idle free
    have hno : (h'.perform services file w c).isLoading = false := by rw [isLoading, todo_perform]
    obtain ⟨-, hdurable, -⟩ := (hs.leads hrun).settled hno
    exact ⟨hrun, manager_perform services file w c h', hdurable.saved⟩

/-- A write that was requested before a load and takes the ledger after it puts the loaded ledger
into the file. -/
theorem saved_of_lateWrite :
    let file : LedgerFile := ⟨"usage.json", []⟩
    let waiting : Moment :=
      ⟨(Manager.new default).updateLedger (.empty, true), .empty, [], false, none, .unloaded⟩
    let begun := waiting.start Rehearsal.services file .empty (.load .empty)
    let loaded := begun.finishAll file begun.todo
    let h := loaded.take.finish (file.write loaded.ledger loaded.disk)
    LeadsOrderly Rehearsal.services file begun h ∧ h.last = .ended true ∧
      h.disk.read file.cwd file.path = .ok (LedgerDocument.write h.ledger).toUTF8 := by
  intro file waiting begun loaded h
  have hmanager : loaded.manager = waiting.manager.load .empty (.ok none) := by
    have heq := manager_perform Rehearsal.services file .empty (.load .empty) waiting
    have hload : loaded.manager = waiting.manager.load .empty (file.read .empty) :=
      congrArg Prod.fst heq
    rw [hload, read_usage]
  have hwaits : loaded.pending = true := by
    rw [pending, hmanager]
    rfl
  have hlast : h.last = .ended true :=
    congrArg LastWrite.ended (write_usage loaded.ledger)
  have run : LeadsOrderly Rehearsal.services file begun h := by
    refine .tail (.tail (leadsOrderly_finishAll Rehearsal.services file rfl rfl)
      ⟨.take hwaits rfl, ?_⟩) ⟨.finish rfl, ?_⟩
    · intro hloading
      cases hloading
    · intro hloading
      cases hloading
  refine ⟨run, hlast, ?_⟩
  obtain ⟨hpaid, hsaved, -⟩ :=
    saved_of_leadsOrderly (h := waiting) rfl rfl run (by rw [hlast]; decide)
  have hquiet : h.IsQuiet := ⟨hpaid rfl, rfl, rfl, by rw [hlast]; decide⟩
  rcases hsaved hquiet with hsaved | ⟨hnone, -⟩
  · exact hsaved
  · rw [hlast] at hnone
    cases hnone

/-! ### A write between the reading and the replacing of a load -/

/-- A load reads the file, the waiting write takes the ledger and ends, and the load replaces
the ledger by what it has read. -/
def overtakenLoad (services : Services ω) (file : LedgerFile) (w : ω)
    (installed : InstalledPackages) (h : Moment) : Moment :=
  let begun := h.start services file w (.load installed)
  let written := begun.take.finish (file.write h.ledger h.disk)
  written.finishAll file written.todo

/-- The ledger that was written is then in the file alone. -/
theorem leads_overtakenLoad (services : Services ω) (file : LedgerFile) (w : ω)
    (installed : InstalledPackages) {h : Moment} (idle : h.todo = []) (waits : h.pending = true)
    (free : h.flight = none) (hok : (file.write h.ledger h.disk).2 = true) :
    let after := h.overtakenLoad services file w installed
    let read := Store.ledgerOf (file.read h.disk)
    Leads services file h after ∧ after.todo = [] ∧ after.last = .none ∧
      after.disk.read file.cwd file.path = .ok (LedgerDocument.write h.ledger).toUTF8 ∧
      after.ledger = (read.sync installed.usersByPackage).1 ∧
      ((read.sync installed.usersByPackage).2 = false → after.IsQuiet) := by
  intro after read
  let begun := h.start services file w (.load installed)
  let written := begun.take.finish (file.write h.ledger h.disk)
  have hrun : Leads services file h written :=
    .tail (.tail (.single (.start (.load installed) w idle)) (.take waits free)) (.finish rfl)
  refine ⟨hrun.trans (leadsOrderly_finishAll services file rfl rfl).leads, todo_finishAll file rfl,
    rfl, LedgerFile.read_of_write hok, rfl, fun hkept => ⟨rfl, ?_, rfl, LastWrite.noConfusion⟩⟩
  have hrequest : after.pending =
      (written.manager.store.writes.scheduleIf (read.sync installed.usersByPackage).2).1.pending :=
    rfl
  rw [hrequest, hkept]
  rfl

/-- A package that is installed, with its data in a directory of its own. -/
def keptApp : PackageInfo where
  name := "a"
  uid := 0
  base := "/app/a.apk"
  splits := []
  dataDir := some "/data/a"
  deviceDir := none
  credentialDir := none
  volume := none
  isas := []

def listing : InstalledPackages := .ofList [(0, [keptApp])]

/-- The package loads a file of that directory. -/
def keptLoad : Call := .noteLoad keptApp ["/data/a/x"] "arm64" 0

/-- After a first load a record is made, and a second load reads the file before that is
written and replaces the ledger after it. All is quiet then, the ledger is empty, and the record
is in the file. -/
theorem unsaved_of_overtakenLoad :
    let file : LedgerFile := ⟨"usage.json", []⟩
    let first := fresh.start Rehearsal.services file .empty (.load listing)
    let recorded :=
      (first.finishAll file first.todo).perform Rehearsal.services file .empty keptLoad
    let after := recorded.overtakenLoad Rehearsal.services file .empty listing
    Leads Rehearsal.services file first after ∧ after.last = .none ∧ after.IsQuiet ∧
      ¬after.IsSaved file ∧ after.ledger = .empty ∧ recorded.ledger ≠ .empty ∧
      after.disk.read file.cwd file.path = .ok (LedgerDocument.write recorded.ledger).toUTF8 := by
  intro file first recorded after
  let loaded := fresh.perform Rehearsal.services file .empty (.load listing)
  let m := ((Manager.new ⟨[], ["arm64"], .empty⟩).load listing (.ok none))
  have hloaded : (loaded.manager, loaded.disk) = (m, .empty) := by
    have heq := manager_perform Rehearsal.services file .empty (.load listing) fresh
    exact heq.trans
      (congrArg (fun reading => (fresh.manager.load listing reading, FileTree.empty)) read_usage)
  have hrecorded : (recorded.manager, recorded.disk) =
      (m.noteLoad keptApp ["/data/a/x"] "arm64" 0, .empty) := by
    have heq : (recorded.manager, recorded.disk) =
        loaded.manager.perform Rehearsal.services file loaded.disk .empty keptLoad :=
      manager_perform Rehearsal.services file .empty keptLoad loaded
    have hm : loaded.manager = m := congrArg Prod.fst hloaded
    have hd : loaded.disk = .empty := congrArg Prod.snd hloaded
    rw [heq, hm, hd]
    rfl
  have hmanager : recorded.manager = m.noteLoad keptApp ["/data/a/x"] "arm64" 0 :=
    congrArg Prod.fst hrecorded
  have hdisk : recorded.disk = .empty := congrArg Prod.snd hrecorded
  have hledger : recorded.ledger = (m.noteLoad keptApp ["/data/a/x"] "arm64" 0).ledger :=
    congrArg Manager.ledger hmanager
  have hwaits : recorded.pending = true := by
    rw [pending, hmanager]
    decide
  have hnew : recorded.ledger ≠ .empty := by
    rw [hledger]
    decide
  have hok : (file.write recorded.ledger recorded.disk).2 = true := by
    rw [hdisk]
    exact write_usage _
  have hread : Store.ledgerOf (file.read recorded.disk) = .empty := by
    rw [hdisk, read_usage]
    rfl
  have hfree : recorded.flight = none := by
    rw [flight_perform]
    exact flight_perform Rehearsal.services file .empty (.load listing) fresh
  obtain ⟨hrun, -, hlast, hfile, hempty, hquiet⟩ := leads_overtakenLoad Rehearsal.services file
    .empty listing (todo_perform _ _ _ _ _) hwaits hfree hok
  rw [hread] at hempty hquiet
  have hstart : Leads Rehearsal.services file first recorded :=
    (leadsOrderly_finishAll Rehearsal.services file rfl rfl).leads.trans
      (leads_perform Rehearsal.services file .empty keptLoad (todo_perform _ _ _ _ fresh)
        (flight_perform _ _ _ _ fresh))
  have hdocument : LedgerDocument.read (symbols (LedgerDocument.write recorded.ledger).toUTF8) =
      .ok recorded.ledger := by
    have hfault : (m.noteLoad keptApp ["/data/a/x"] "arm64" 0).ledger.fault? = none := by
      decide +kernel
    rw [LedgerDocument.read_write, hledger, hfault]
  have hempty : after.ledger = .empty := hempty
  refine ⟨hstart.trans hrun, hlast, hquiet rfl, ?_, hempty, hnew, hfile⟩
  rintro (hsaved | ⟨-, hsaved⟩)
  · -- the file would hold the document of the empty ledger too
    rw [hfile, hempty] at hsaved
    have hsame := congrArg (fun bytes => LedgerDocument.read (symbols bytes))
      (Except.ok.inj hsaved)
    rw [hdocument, LedgerDocument.read_write] at hsame
    exact hnew (Except.ok.inj hsame)
  · have hread : file.read after.disk = .ok (some recorded.ledger) := by
      have hwritten := LedgerFile.read_write hok
      rw [hdocument] at hwritten
      exact hwritten
    have hagain : Ledger.ofDocument recorded.ledger = recorded.ledger := by
      rw [hledger]
      rfl
    rw [hread, hempty] at hsaved
    exact hnew (hagain.symm.trans hsaved)

end Moment

end DexTrail
