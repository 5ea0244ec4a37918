-- SUMMARY: What commands do to a session, and what a session finds when it is opened.
import DexTrail.Command.Run
import DexTrail.Proofs.Disk.Neighbours
import DexTrail.Proofs.Manager.InstalledRecords
import DexTrail.Proofs.Manager.Repetition

/-!
# Sessions

A command changes a session in its manager only, by the one call that it makes of it
(`Session.perform_eq`). So what calls keep is kept by commands, and sessions that differ in the
writes that wait go on differing in these only. Opening a session takes the lock and loads the
ledger that is in its file.
-/

namespace DexTrail

/-- The command works on the ledger and comes to an end by itself. -/
def Command.IsOneTurn : Command → Prop
  | .maintain _ once => once = true
  | .showConfig | .showPaths => False
  | _ => True

namespace Session

variable {s s' : Session} {m m' u : Machine} {lines lines' : Nat} {c : Command}

/-! ## Calls of commands -/

/-- The call of the manager that a command makes, if it makes one. -/
def call? (s : Session) : Command → Option Call
  | .load paths loader isa user =>
    (s.database.find? loader user).map fun info => .noteLoad info paths isa user
  | .register path package user shared =>
    (s.database.find? package user).map fun info => .register info path shared user
  | .reconcile package => some (.reconcile package)
  | .optimize package target force onlyShared => some (.optimize package target force onlyShared)
  | .forget package user => some (.noteDataDestroyed package user)
  | .maintain _ _ => some .maintain
  | .show _ _ | .packages | .showConfig | .showPaths => none

theorem isWithin_of_call? {call : Call} (h : s.call? c = some call) :
    call.IsWithin s.database := by
  cases c with
  | load paths loader isa user =>
    obtain ⟨info, hinfo, rfl⟩ := Option.map_eq_some_iff.1 h
    exact InstalledPackages.mem_installs_of_find? hinfo
  | register path package user shared =>
    obtain ⟨info, hinfo, rfl⟩ := Option.map_eq_some_iff.1 h
    exact InstalledPackages.mem_installs_of_find? hinfo
  | reconcile package =>
    cases h
    trivial
  | optimize package target force onlyShared =>
    cases h
    trivial
  | forget package user =>
    cases h
    trivial
  | maintain interval once =>
    cases h
    trivial
  | _ => cases h

/-- The manager after the call of a command. -/
def managerAfter (s : Session) (m : Machine) (c : Command) : Manager :=
  match s.call? c with
  | none => s.manager
  | some call => (s.manager.perform s.services s.file m.files m call).1

/-- A command does to the session what its call does to the manager. -/
theorem perform_eq (hturn : c.IsOneTurn) :
    (s.perform m lines c).1 = { s with manager := s.managerAfter m c } := by
  unfold managerAfter
  cases c with
  | «show» package json => cases package <;> rfl
  | packages => rfl
  | load paths loader isa user =>
    simp only [perform, withPackage, call?]
    cases s.database.find? loader user <;> rfl
  | register path package user shared =>
    simp only [perform, withPackage, call?]
    cases s.database.find? package user with
    | none => rfl
    | some info =>
      simp only [Option.map_some, Manager.perform]
      split <;> rfl
  | reconcile package => rfl
  | optimize package target force onlyShared =>
    simp only [perform, call?, Manager.perform]
    split <;> rfl
  | forget package user => rfl
  | maintain interval once =>
    obtain rfl : once = true := hturn
    rfl
  | showConfig => exact hturn.elim
  | showPaths => exact hturn.elim

/-- A session goes on serving its database in every command. -/
theorem serves_perform {policy : Policy} (h : s.manager.Serves policy s.database)
    (hproper : s.database.IsProper) (hturn : c.IsOneTurn) :
    (s.perform m lines c).1.manager.Serves policy s.database := by
  rw [perform_eq hturn, managerAfter]
  cases hcall : s.call? c with
  | none => exact h
  | some call => exact h.perform hproper s.services s.file m.files m (isWithin_of_call? hcall)

/-- A command that changes the ledger leaves a write waiting. -/
theorem announces_perform (h : s.manager.ledger.IsTrim) (hturn : c.IsOneTurn) :
    s.manager.Announces (s.perform m lines c).1.manager := by
  rw [perform_eq hturn, managerAfter]
  cases hcall : s.call? c with
  | none => exact .refl s.manager
  | some call => exact Manager.announces_perform h (isWithin_of_call? hcall)

/-! ## Sessions that differ in their writes only -/

/-- What a command asks of the services, with the answers. -/
def asked (s : Session) (m : Machine) : Command → List Exchange
  | .register path package user shared =>
    match s.database.find? package user with
    | none => []
    | some info =>
      (s.manager.register s.services.logged (m, []) info path shared user).2.1.2
  | .reconcile package => (s.manager.reconcile s.services.logged (m, []) package).2.1.2
  | .optimize package target force onlyShared =>
    (s.manager.optimize s.services.logged (m, []) package target force onlyShared).2.1.2
  | .maintain _ _ => (s.manager.maintain s.services.logged (m, [])).2.1.2
  | _ => []

/-- The second session is the first one, but for the writes of its manager. -/
def Alike (s s' : Session) : Prop :=
  ∃ manager, s.manager.Alike manager ∧ s' = { s with manager }

/-- Given the same answers, a command does the same in sessions that are alike, and succeeds in
both or fails in the same way. -/
theorem Alike.perform (h : s.Alike s') (hturn : c.IsOneTurn)
    (hasked : s'.services.Repeats (s.asked m c) m' u) :
    (s.perform m lines c).1.Alike (s'.perform m' lines' c).1 ∧
      (s'.perform m' lines' c).2.2 = (s.perform m lines c).2.2 := by
  obtain ⟨manager, halike, rfl⟩ := h
  cases c with
  | «show» package json =>
    cases package with
    | none => exact ⟨⟨manager, halike, rfl⟩, rfl⟩
    | some package =>
      refine ⟨⟨manager, halike, rfl⟩, ?_⟩
      simp only [Session.perform, showPackage, halike.ledger_eq]
      cases s.manager.ledger.usage? package with
      | none => rfl
      | some usage => cases json <;> rfl
  | packages => exact ⟨⟨manager, halike, rfl⟩, rfl⟩
  | load paths loader isa user =>
    simp only [Session.perform, withPackage]
    cases s.database.find? loader user with
    | none => exact ⟨⟨manager, halike, rfl⟩, rfl⟩
    | some info => exact ⟨⟨_, halike.noteLoad info paths isa user, rfl⟩, rfl⟩
  | register path package user shared =>
    simp only [asked] at hasked
    simp only [Session.perform, withPackage]
    cases hfind : s.database.find? package user with
    | none => exact ⟨⟨manager, halike, rfl⟩, rfl⟩
    | some info =>
      rw [hfind] at hasked
      obtain ⟨manager', halike', hregister⟩ := halike.register hasked
      simp only [hregister]
      split <;> exact ⟨⟨manager', halike', rfl⟩, rfl⟩
  | reconcile package =>
    simp only [asked, Manager.reconcile_logged, List.nil_append] at hasked
    obtain ⟨manager', halike', hreconcile⟩ := halike.reconcile hasked
    simp only [Session.perform, hreconcile, and_true]
    exact ⟨manager', halike', rfl⟩
  | optimize package target force onlyShared =>
    simp only [asked, Manager.optimize_logged, List.nil_append] at hasked
    obtain ⟨manager', halike', hoptimize⟩ := halike.optimize hasked
    simp only [Session.perform, hoptimize]
    split
    · exact ⟨⟨manager', halike', rfl⟩, rfl⟩
    · exact ⟨⟨manager', halike', rfl⟩, rfl⟩
  | forget package user => exact ⟨⟨_, halike.noteDataDestroyed package user, rfl⟩, rfl⟩
  | maintain interval once =>
    obtain rfl : once = true := hturn
    obtain ⟨manager', halike', hmaintain⟩ := halike.maintain hasked
    simp only [Session.perform, maintainOnce, hmaintain, if_true, and_true]
    exact ⟨manager', halike', rfl⟩
  | showConfig => exact hturn.elim
  | showPaths => exact hturn.elim

/-! ## Opening -/

/-- A session that opens has taken the lock of its ledger, read the package database and loaded
the ledger that is in its file. -/
theorem start_eq_ok_iff {config : Config} :
    start config m = (m', .ok s) ↔
      acquire m (lockPath (config.resolvedLedgerPath m.home)) = (m', .ok ()) ∧
      InstalledPackages.readDatabase m'.files m'.cwd (config.resolvedPackageDatabase m'.home) =
        .ok s.database ∧
      s.config = config ∧ s.file = ⟨config.resolvedLedgerPath m.home, m'.cwd⟩ ∧
      s.manager = (Manager.new (.ofConfig config)).load s.database (s.file.read m'.files) := by
  unfold start
  dsimp only
  constructor
  · intro h
    cases hacquire : acquire m (lockPath (config.resolvedLedgerPath m.home)) with
    | mk m₁ taken =>
      rw [hacquire] at h
      cases taken with
      | error failure => cases h
      | ok =>
        dsimp only at h
        cases hreading : InstalledPackages.readDatabase m₁.files m₁.cwd
            (config.resolvedPackageDatabase m₁.home) with
        | error fault =>
          rw [hreading] at h
          cases h
        | ok database =>
          rw [hreading] at h
          cases h
          exact ⟨rfl, hreading, rfl, rfl, rfl⟩
  · rintro ⟨hacquire, hreading, hconfig, hfile, hmanager⟩
    obtain ⟨c, database, file, manager⟩ := s
    dsimp only at hreading hconfig hfile hmanager
    subst hconfig hfile hmanager
    rw [hacquire]
    dsimp only
    rw [hreading]

/-- The directory that is made for the lock of a ledger, if one is. -/
def lockDir? (ledgerPath : String) : Option String :=
  (Path.parent? (lockPath ledgerPath)).filter fun parent => !parent.isEmpty

theorem isNameSuffix_lock : IsNameSuffix ".lock" where
  noSlash := by decide
  long := by decide

theorem read_of_create {path : String}
    (h : acquire.create (lockPath path) m = (m', .ok ())) :
    m'.cwd = m.cwd ∧ m'.files.read m.cwd path = m.files.read m.cwd path := by
  unfold acquire.create at h
  cases hwrite : m.files.writeFile m.cwd (lockPath path) .empty with
  | error e =>
    rw [hwrite] at h
    cases h
  | ok files =>
    rw [hwrite] at h
    dsimp only at h
    split at h
    · cases h
    · cases h
      exact ⟨rfl, FileTree.read_of_writeFile_withSuffix isNameSuffix_lock hwrite⟩

/-- Where the directory of the lock is there, taking the lock leaves what the ledger's file
holds. -/
theorem read_of_acquire {path : String} (h : acquire m (lockPath path) = (m', .ok ()))
    (hdir : ∀ dir, lockDir? path = some dir → m.files.isDir m.cwd dir) :
    m'.cwd = m.cwd ∧ m'.files.read m.cwd path = m.files.read m.cwd path := by
  unfold acquire at h
  split at h
  · exact read_of_create h
  · rename_i dir hlock
    rw [FileTree.makeDirs_of_isDir (hdir dir hlock)] at h
    exact read_of_create h

/-- Where the directory of the lock is there, a session finds the ledger's file as it was before
it was opened. -/
theorem read_of_start {config : Config} (h : start config m = (m', .ok s))
    (hdir : ∀ dir, lockDir? s.file.path = some dir → m.files.isDir m.cwd dir) :
    s.file.read m'.files = s.file.read m.files := by
  obtain ⟨hacquire, -, -, hfile, -⟩ := start_eq_ok_iff.1 h
  rw [hfile] at hdir ⊢
  obtain ⟨hcwd, hread⟩ := read_of_acquire hacquire hdir
  refine LedgerFile.read_congr ?_
  dsimp only
  rw [hcwd, hread]

end Session

end DexTrail
