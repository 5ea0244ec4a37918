-- SUMMARY: Commands that run as processes of their own leave the ledgers that one open session has.
import DexTrail.Proofs.Command.Sessions
import DexTrail.Proofs.Settings.Precedence

/-!
# Reopening

A process opens a session for its one command and closes it. What it loads from the file is what
the process before it had in memory, so it makes no difference whether commands are run by
processes one after the other or in one session that stays open, as long as the services give
the same answers to both. Records of packages that are not installed go when the ledger is
loaded for the first time, and none can be added later.
-/

namespace DexTrail

/-! ## Processes -/

/-- A process that carries out a command with some settings. -/
structure Turn (config : Config) where
  invocation : Invocation
  /-- How many lines a loop of maintenance prints. -/
  lines : Nat
  /-- The machine on which it starts. -/
  before : Machine
  /-- The machine when the ledger is locked and loaded. -/
  opened : Machine
  session : Session
  settings : (Config.load before.files before.cwd before.home before.environment).map
    invocation.configure = .ok config
  starts : Session.start config before = (opened, .ok session)
  oneTurn : invocation.command.IsOneTurn

namespace Turn

variable {config : Config} {p : Turn config}

def command (p : Turn config) : Command := p.invocation.command

/-- The session and the machine when the command is done, and what came of it. -/
def done (p : Turn config) : Session × Machine × Except Failure Unit :=
  p.session.perform p.opened p.lines p.command

theorem isOneTurn_command (p : Turn config) : p.command.IsOneTurn := p.oneTurn

/-- What the command asks of the services, with the answers. -/
def asked (p : Turn config) : List Exchange := p.session.asked p.opened p.command

/-- The machine that the process leaves. -/
def left (p : Turn config) : Machine := (p.invocation.carryOut p.lines p.before).1

theorem left_eq (p : Turn config) : p.left = p.done.1.close p.done.2.1 := by
  obtain ⟨i, lines, before, opened, session, settings, starts, oneTurn⟩ := p
  simp only [left, done, command]
  unfold Invocation.carryOut
  cases hload : Config.load before.files before.cwd before.home before.environment with
  | error e =>
    rw [hload] at settings
    cases settings
  | ok c =>
    rw [hload] at settings
    obtain rfl : i.configure c = config := Except.ok.inj settings
    cases hcommand : i.command with
    | showConfig =>
      rw [hcommand] at oneTurn
      exact oneTurn.elim
    | showPaths =>
      rw [hcommand] at oneTurn
      exact oneTurn.elim
    | _ => simp only [starts]

theorem file_done (p : Turn config) : p.done.1.file = p.session.file := by
  rw [done, Session.perform_eq p.isOneTurn_command]

/-- The process works on the packages and the ledger of the session, and finds the ledger's file
as it was left. -/
structure Follows (p : Turn config) (left : Machine) (s : Session) : Prop where
  database : p.session.database = s.database
  file : p.session.file = s.file
  found : s.file.read p.opened.files = s.file.read left.files

/-- A write that is due at the end of the process succeeds. If none is due, what the command ran
has left the ledger's file alone. -/
structure Saves (p : Turn config) : Prop where
  written : p.done.1.manager.store.writes.pending = true →
    (p.session.file.write p.done.1.manager.ledger p.done.2.1.files).2 = true
  kept : p.done.1.manager.store.writes.pending = false →
    p.session.file.read p.done.2.1.files = p.session.file.read p.opened.files

/-- Where the directory of the lock is there, a process finds the ledger's file as it was when
the process was started. -/
theorem follows_of_read {left : Machine} {s : Session} (database : p.session.database = s.database)
    (file : p.session.file = s.file)
    (hdir : ∀ dir, Session.lockDir? s.file.path = some dir →
      p.before.files.isDir p.before.cwd dir)
    (same : s.file.read p.before.files = s.file.read left.files) : p.Follows left s := by
  refine ⟨database, file, Eq.trans ?_ same⟩
  rw [← file] at hdir ⊢
  exact Session.read_of_start p.starts hdir

theorem manager_eq (p : Turn config) :
    p.session.manager = (Manager.new (.ofConfig config)).load p.session.database
      (p.session.file.read p.opened.files) := by
  obtain ⟨-, -, -, -, hmanager⟩ := Session.start_eq_ok_iff.1 p.starts
  exact hmanager

theorem serves (p : Turn config) :
    p.session.manager.Serves (.ofConfig config) p.session.database := by
  rw [p.manager_eq]
  exact Manager.serves_load _ _ _ _

/-- The file that a process leaves holds the ledger that it had in memory at its end. -/
theorem ledgerOf_left (p : Turn config) (hproper : p.session.database.IsProper)
    (hsaves : p.Saves) :
    Store.ledgerOf (p.session.file.read p.left.files) = p.done.1.manager.ledger := by
  have hserves : p.done.1.manager.Serves (.ofConfig config) p.session.database :=
    Session.serves_perform p.serves hproper p.isOneTurn_command
  have hannounced : p.session.manager.Announces p.done.1.manager :=
    Session.announces_perform p.serves.trim p.isOneTurn_command
  rw [p.manager_eq] at hannounced
  rw [left_eq, Session.close, p.file_done]
  exact hserves.ledgerOf_read_flush hannounced hsaves.written hsaves.kept

end Turn

/-! ## Processes beside an open session -/

/-- Commands are carried out by processes, one after the other, and beside that in a session
that stays open. The last process has left the machine `left`, and `s` is the session by then. -/
inductive Beside (config : Config) : List Command → Machine → Session → Prop where
  /-- The session is opened. The first process finds the same ledger. -/
  | start {m opened : Machine} {s : Session} (starts : Session.start config m = (opened, .ok s)) :
    Beside config [] opened s
  /-- The next command is carried out on both sides. The session gets the answers that the
  process got, in whatever outside world. -/
  | command {commands : List Command} {left n n' : Machine} {s : Session}
    (before : Beside config commands left s) (p : Turn config) (follows : p.Follows left s)
    (saves : p.Saves) (answers : s.services.Repeats p.asked n n') (lines : Nat) :
    Beside config (commands ++ [p.command]) p.left (s.perform n lines p.command).1
  /-- The session writes what waits, or fails to. -/
  | write {commands : List Command} {left : Machine} {s : Session}
    (before : Beside config commands left s) (t : FileTree) :
    Beside config commands left { s with manager := (s.manager.flush s.file t).1 }

/-- What the processes have left is what the session would load, and after a first command it
is what the session has. -/
structure InStep (config : Config) (commands : List Command) (left : Machine) (s : Session) :
    Prop where
  settings : s.config = config
  serves : s.manager.Serves (.ofConfig config) s.database
  loads : ((Manager.new (.ofConfig config)).load s.database (s.file.read left.files)).ledger =
    s.manager.ledger
  saved : commands ≠ [] → Store.ledgerOf (s.file.read left.files) = s.manager.ledger

/-- Managers that serve one database and have the same ledger are alike. -/
theorem Manager.Serves.alike {m m' : Manager} {policy : Policy} {installed : InstalledPackages}
    (h : m.Serves policy installed) (h' : m'.Serves policy installed)
    (hledger : m'.ledger = m.ledger) : m.Alike m' := by
  refine ⟨m'.store.writes, (Manager.mk.injEq ..).mpr ⟨?_, ?_, (Store.mk.injEq ..).mpr ⟨?_, rfl⟩⟩⟩
  · rw [h'.policy, h.policy]
  · rw [h'.registry, h.registry]
  · exact hledger

namespace InStep

variable {config : Config} {commands : List Command} {left n n' : Machine} {s : Session}

/-- The next process opens a session that is like the open one. -/
theorem alike (h : InStep config commands left s) {p : Turn config} (follows : p.Follows left s) :
    p.session.Alike s := by
  have hledger : s.manager.ledger = p.session.manager.ledger := by
    rw [p.manager_eq, follows.database, follows.file, follows.found, h.loads]
  have hserves : s.manager.Serves (.ofConfig config) p.session.database := by
    rw [follows.database]
    exact h.serves
  refine ⟨s.manager, p.serves.alike hserves hledger, ?_⟩
  refine (Session.mk.injEq ..).mpr ⟨?_, follows.database.symm, follows.file.symm, rfl⟩
  obtain ⟨-, -, hconfig, -⟩ := Session.start_eq_ok_iff.1 p.starts
  exact h.settings.trans hconfig.symm

/-- Process and session do the same when they carry out the next command. -/
theorem perform (h : InStep config commands left s) {p : Turn config} (follows : p.Follows left s)
    (answers : s.services.Repeats p.asked n n') (lines : Nat) :
    (s.perform n lines p.command).1.manager.ledger = p.done.1.manager.ledger ∧
      (s.perform n lines p.command).2.2 = p.done.2.2 := by
  have hperform : p.done.1.Alike (s.perform n lines p.command).1 ∧
      (s.perform n lines p.command).2.2 = p.done.2.2 :=
    (h.alike follows).perform p.isOneTurn_command answers
  obtain ⟨⟨manager, halike, hsession⟩, hresult⟩ := hperform
  rw [hsession]
  exact ⟨halike.ledger_eq, hresult⟩

theorem command (h : InStep config commands left s) (hproper : s.database.IsProper)
    {p : Turn config} (follows : p.Follows left s) (saves : p.Saves)
    (answers : s.services.Repeats p.asked n n') (lines : Nat) :
    InStep config (commands ++ [p.command]) p.left (s.perform n lines p.command).1 := by
  have hserves : (s.perform n lines p.command).1.manager.Serves (.ofConfig config) s.database :=
    Session.serves_perform h.serves hproper p.isOneTurn_command
  have hsaved : Store.ledgerOf (s.file.read p.left.files) =
      (s.perform n lines p.command).1.manager.ledger := by
    rw [(h.perform follows answers lines).1, ← follows.file]
    exact p.ledgerOf_left (follows.database ▸ hproper) saves
  have hsame : (s.perform n lines p.command).1 =
    { s with manager := s.managerAfter n p.command } := Session.perform_eq p.isOneTurn_command
  rw [hsame] at hserves hsaved ⊢
  refine ⟨h.settings, hserves, ?_, fun _ => hsaved⟩
  rw [Manager.ledger_load_of_not_prunes (hserves.not_prunes hsaved), hsaved]

end InStep

theorem Beside.inStep {config : Config} {commands : List Command} {left : Machine} {s : Session}
    (h : Beside config commands left s) (hproper : s.database.IsProper) :
    InStep config commands left s := by
  induction h with
  | start starts =>
    obtain ⟨-, -, hconfig, -, hmanager⟩ := Session.start_eq_ok_iff.1 starts
    refine ⟨hconfig, ?_, ?_, fun hne => absurd rfl hne⟩
    · rw [hmanager]
      exact Manager.serves_load _ _ _ _
    · rw [← hmanager]
  | @command commands left n n' s before p follows saves answers lines ih =>
    rw [Session.perform_eq p.isOneTurn_command] at hproper
    exact (ih hproper).command hproper follows saves answers lines
  | write before t ih =>
    obtain ⟨hconfig, hserves, hloads, hsaved⟩ := ih hproper
    exact ⟨hconfig, ⟨hserves.policy, hserves.registry, hserves.trim, hserves.isas,
      hserves.records⟩, hloads, hsaved⟩

/-- It makes no difference whether commands run as processes of their own or in one session
that stays open, whatever was in the ledger's file at first. Every record of the session is of a
package that is installed for its owner. After each command, what the last process has left in
the file is the ledger of the session, and so is what the session would write; loading either
prunes nothing. The next process starts with the ledger of the session and ends with the same
one again if it gets the same answers, and both succeed or fail in the same way. -/
theorem reopening_invisible {config : Config} {commands : List Command} {left : Machine}
    {s : Session} (h : Beside config commands left s) (hproper : s.database.IsProper) :
    (∀ package path r, s.manager.ledger.record? package path = some r →
      (s.database.find? package r.owner).isSome) ∧
    (commands ≠ [] → Store.ledgerOf (s.file.read left.files) = s.manager.ledger ∧
      ¬Manager.Prunes s.database (s.file.read left.files)) ∧
    (∀ t : FileTree, (s.file.write s.manager.ledger t).2 = true →
      let written := s.file.read (s.file.write s.manager.ledger t).1
      Store.ledgerOf written = s.manager.ledger ∧ ¬Manager.Prunes s.database written) ∧
    ∀ p : Turn config, p.Follows left s →
      p.session.manager.ledger = s.manager.ledger ∧
      ∀ (n n' : Machine) lines, s.services.Repeats p.asked n n' →
        (s.perform n lines p.command).1.manager.ledger = p.done.1.manager.ledger ∧
        (s.perform n lines p.command).2.2 = p.done.2.2 := by
  have hstep := h.inStep hproper
  refine ⟨?_, ?_, ?_, ?_⟩
  · intro package path r hr
    exact (hstep.serves.records package path r hr).2.2
  · intro hne
    exact ⟨hstep.saved hne, hstep.serves.not_prunes (hstep.saved hne)⟩
  · intro t hwrite
    have hwritten := hstep.serves.ledgerOf_read_write hwrite
    exact ⟨hwritten, hstep.serves.not_prunes hwritten⟩
  · intro p follows
    refine ⟨?_, fun n n' lines answers => hstep.perform follows answers lines⟩
    obtain ⟨manager, halike, rfl⟩ := hstep.alike follows
    exact halike.ledger_eq.symm

/-! ### Two processes -/

/-- A package of one code file and one data directory. -/
def notesApp : PackageInfo where
  name := "org.notes"
  uid := 10007
  base := "/data/app/org.notes/base.apk"
  splits := []
  dataDir := some "/data/user/0/org.notes"
  deviceDir := none
  credentialDir := none
  volume := none
  isas := []

/-- The document of a database that has it for user 0. -/
def notesText : String :=
  "\x7b\"0\":[\x7b\"package_name\":\"org.notes\",\"uid\":10007," ++
    "\"source_dir\":\"/data/app/org.notes/base.apk\"," ++
    "\"data_dir\":\"/data/user/0/org.notes\"\x7d]\x7d"

def notesDatabase : InstalledPackages := .ofList [(0, [notesApp])]

def notesConfig : Config :=
  { Config.default with ledgerPath := "usage.json", packageDatabase := "packages.json" }

/-- The files of a process that works on the ledger. -/
def ledgerNames : List String := ["usage.json", "usage.json.tmp", "usage.json.lock"]

/-- The database is on the disk, no configuration is, and no directory is in the way of the
ledger. -/
structure IsNotesDisk (t : FileTree) : Prop where
  database : t.get? ["packages.json"] = some (.file notesText.toUTF8)
  noHome : t.get? ["root"] = none
  noProject : t.get? [".dexuse"] = none
  free : ∀ name ∈ ledgerNames, t.get? [name] ≠ some .dir

/-- A machine with nothing but a disk. -/
def notesMachine (files : FileTree) : Machine where
  files
  cwd := []
  vars := .empty
  locks := []
  execute files _ _ _ := ⟨files, "", "", true⟩
  output := ""
  complaints := ""

/-- The disk with the file that guards the ledger. -/
def lockedDisk (t : FileTree) : FileTree := t.set ["usage.json.lock"] (.file .empty)

def notesSession (t : FileTree) : Session where
  config := notesConfig
  database := notesDatabase
  file := ⟨"usage.json", []⟩
  manager := (Manager.new (.ofConfig notesConfig)).load notesDatabase
    (LedgerFile.read ⟨"usage.json", []⟩ t)

theorem locate_notes (t : FileTree) :
    t.locate [] "usage.json" = .ok ⟨["usage.json"], false⟩ ∧
    t.locate [] "usage.json.tmp" = .ok ⟨["usage.json.tmp"], false⟩ ∧
    t.locate [] "usage.json.lock" = .ok ⟨["usage.json.lock"], false⟩ ∧
    t.locate [] "packages.json" = .ok ⟨["packages.json"], false⟩ := by
  refine ⟨?_, ?_, ?_, ?_⟩ <;>
  · rw [FileTree.locate_eq_map_walk (by decide) (by decide) (by decide)]
    rfl

namespace IsNotesDisk

variable {t : FileTree} {name : String}

/-- Whatever takes the place of a file of the ledger, as long as it is no directory. -/
theorem congr {t' : FileTree} {node? : Option Node} (h : IsNotesDisk t)
    (hname : name ∈ ledgerNames) (hnode : node? ≠ some .dir)
    (hget : ∀ there, t'.get? there = if there = [name] then node? else t.get? there) :
    IsNotesDisk t' := by
  have hother {other : String} (hne : other ∉ ledgerNames) : t'.get? [other] = t.get? [other] := by
    rw [hget, if_neg]
    rintro he
    exact hne ((List.cons.inj he).1 ▸ hname)
  refine ⟨?_, ?_, ?_, ?_⟩
  · rw [hother (by decide), h.database]
  · rw [hother (by decide), h.noHome]
  · rw [hother (by decide), h.noProject]
  · intro other hfree
    rw [hget]
    split
    · exact hnode
    · exact h.free other hfree

theorem set (h : IsNotesDisk t) (hname : name ∈ ledgerNames) (content : ByteArray) :
    IsNotesDisk (t.set [name] (.file content)) :=
  h.congr hname (by simp) fun there => FileTree.get?_set t [name] there _ (List.cons_ne_nil _ _)

theorem erase (h : IsNotesDisk t) (hname : name ∈ ledgerNames) : IsNotesDisk (t.erase [name]) :=
  h.congr hname (by simp) fun there => FileTree.get?_erase t [name] there (List.cons_ne_nil _ _)

theorem load (h : IsNotesDisk t) :
    Config.load t [] (notesMachine t).home (notesMachine t).environment = .ok Config.default := by
  have hhome : Config.globalPath? (notesMachine t).home = some "/root/.dexuse/config.toml" := by
    have hplace : Config.globalPath? (some "/root") = some "/root/.dexuse/config.toml" := by
      decide +kernel
    exact hplace
  have hglobal : t.pathExists [] "/root/.dexuse/config.toml" = false := by
    have hlocate : t.locate [] "/root/.dexuse/config.toml" = .error .notFound := by
      have hroot : t.step ["root"] ".dexuse" = .error .notFound := by
        rw [FileTree.step, h.noHome]
      rw [FileTree.locate_eq_map_walk (by decide) (by decide) (by decide)]
      exact congrArg (fun there => ((there >>= (t.walk · ["config.toml"])).map _)) hroot
    rw [FileTree.pathExists, FileTree.lookup, hlocate]
    rfl
  have hproject : t.pathExists [] Config.projectPath = false := by
    have hlocate : t.locate [] Config.projectPath = .error .notFound := by
      have hdir : t.step [".dexuse"] "config.toml" = .error .notFound := by
        rw [FileTree.step, h.noProject]
      rw [FileTree.locate_eq_map_walk (by decide) (by decide) (by decide)]
      exact congrArg (fun there => ((there >>= (t.walk · [])).map _)) hdir
    rw [FileTree.pathExists, FileTree.lookup, hlocate]
    rfl
  have habove : Layer.IsAt t [] (Config.globalPath? (notesMachine t).home) .empty := by
    rw [hhome]
    exact .absent hglobal
  rw [Config.load_of_isAt habove (.absent hproject)]
  rfl

/-- Taking the lock of the ledger makes the file that guards it. -/
theorem acquire (h : IsNotesDisk t) :
    Session.acquire (notesMachine t) (Session.lockPath "usage.json") =
      (notesMachine (lockedDisk t), .ok ()) := by
  obtain ⟨-, -, hlock, -⟩ := locate_notes t
  have hwrite : t.writeFile [] "usage.json.lock" .empty = .ok (lockedDisk t) :=
    FileTree.writeFile_eq_ok_iff.2 ⟨_, hlock, h.free _ (by decide), rfl⟩
  have hfree : ¬(notesMachine (lockedDisk t)).isLocked "usage.json.lock" = true := by
    obtain ⟨-, -, hlock, -⟩ := locate_notes (lockedDisk t)
    rw [Machine.isLocked, notesMachine, hlock]
    simp
  have hpath : Session.lockPath "usage.json" = "usage.json.lock" := by decide
  have hparent : Session.lockDir? "usage.json" = none := by decide
  rw [Session.lockDir?, hpath] at hparent
  rw [hpath, Session.acquire, hparent]
  dsimp only
  rw [Session.acquire.create, notesMachine, hwrite]
  exact if_neg hfree

theorem start (h : IsNotesDisk t) :
    Session.start notesConfig (notesMachine t) =
      (notesMachine (lockedDisk t), .ok (notesSession (lockedDisk t))) := by
  have hplaces : notesConfig.resolvedLedgerPath (some "/root") = "usage.json" ∧
      notesConfig.resolvedPackageDatabase (some "/root") = "packages.json" := by
    decide +kernel
  have hledger : notesConfig.resolvedLedgerPath (notesMachine t).home = "usage.json" := hplaces.1
  have hpackages : notesConfig.resolvedPackageDatabase (notesMachine (lockedDisk t)).home =
    "packages.json" := hplaces.2
  have hlocked : IsNotesDisk (lockedDisk t) := h.set (by decide) .empty
  have hinstalled : InstalledPackages.readDatabase (lockedDisk t) [] "packages.json" =
      .ok notesDatabase := by
    have hread : (lockedDisk t).read [] "packages.json" = .ok notesText.toUTF8 :=
      FileTree.read_eq_ok_iff.2 ⟨_, (locate_notes _).2.2.2, hlocked.database⟩
    have hdocument : InstalledPackages.ofDocument? (symbols notesText.toUTF8) =
        some notesDatabase := by decide +kernel
    rw [InstalledPackages.readDatabase, hread]
    dsimp only
    rw [hdocument]
  refine Session.start_eq_ok_iff.2 ⟨?_, ?_, rfl, ?_, rfl⟩
  · rw [hledger, h.acquire]
  · rw [hpackages]
    exact hinstalled
  · rw [hledger]
    rfl

/-- Writing the ledger leaves the disk as it has to be. -/
theorem write (h : IsNotesDisk t) (l : Ledger) :
    (LedgerFile.write ⟨"usage.json", []⟩ l t).2 = true ∧
      IsNotesDisk (LedgerFile.write ⟨"usage.json", []⟩ l t).1 := by
  have haside (t : FileTree) : t.locate [] (LedgerFile.temporary ⟨"usage.json", []⟩) =
      .ok ⟨["usage.json.tmp"], false⟩ := by
    rw [show LedgerFile.temporary ⟨"usage.json", []⟩ = "usage.json.tmp" by decide]
    exact (locate_notes t).2.1
  rw [LedgerFile.write_of_locate l (by decide) (by decide) (fun t => (locate_notes t).1) haside
    (h.free _ (by decide)) (h.free _ (by decide))]
  exact ⟨rfl, ((h.set (by decide) _).set (by decide) _).erase (by decide)⟩

theorem flush (h : IsNotesDisk t) (m : Manager) :
    IsNotesDisk (m.flush ⟨"usage.json", []⟩ t).2 := by
  cases hwaits : m.store.writes.pending with
  | true =>
    rw [Manager.disk_flush_of_pending hwaits]
    exact (h.write m.ledger).2
  | false =>
    rw [Manager.flush_of_not_pending hwaits]
    exact h

/-- A process that carries out a command on the disk. -/
def turn (h : IsNotesDisk t) (command : Command) (oneTurn : command.IsOneTurn) :
    Turn notesConfig where
  invocation := ⟨some "usage.json", some "packages.json", 0, command⟩
  lines := 0
  before := notesMachine t
  opened := notesMachine (lockedDisk t)
  session := notesSession (lockedDisk t)
  settings := by
    have hload := h.load
    rw [show (notesMachine t).files = t from rfl, show (notesMachine t).cwd = [] from rfl, hload]
    rfl
  starts := h.start
  oneTurn

/-- The process can write, and leaves the disk as the next one needs it. -/
theorem saves (h : IsNotesDisk t) (command : Command) (oneTurn : command.IsOneTurn)
    (hquiet : (h.turn command oneTurn).done.2.1.files = lockedDisk t) :
    (h.turn command oneTurn).Saves ∧ IsNotesDisk (h.turn command oneTurn).left.files := by
  have hlocked : IsNotesDisk (lockedDisk t) := h.set (by decide) .empty
  have hfile : (h.turn command oneTurn).done.1.file = ⟨"usage.json", []⟩ := Turn.file_done _
  refine ⟨⟨fun _ => ?_, fun _ => ?_⟩, ?_⟩
  · rw [hquiet]
    exact (hlocked.write _).1
  · rw [hquiet]
    rfl
  · rw [Turn.left_eq, Session.close, hfile, hquiet]
    exact hlocked.flush _

end IsNotesDisk

def notesDisk : FileTree := ⟨.ofList [(["packages.json"], .file notesText.toUTF8)]⟩

theorem isNotesDisk_notesDisk : IsNotesDisk notesDisk :=
  ⟨by decide +kernel, by decide +kernel, by decide +kernel, by decide +kernel⟩

/-- The package loads a file of its own. -/
def notesLoad : Command := .load ["/data/user/0/org.notes/plug.dex"] "org.notes" "arm64" 0

/-- The process that lets it do so. -/
def loadTurn : Turn notesConfig := isNotesDisk_notesDisk.turn notesLoad trivial

/-- The next process forgets the package on the disk that is left. -/
def forgetTurn : Turn notesConfig :=
  (isNotesDisk_notesDisk.saves notesLoad trivial rfl).2.turn (.forget "org.notes" 0) trivial

theorem isProper_notes : notesDatabase.IsProper := by
  have happ : notesApp.IsProper :=
    { name := by decide, base := by decide, splits := by decide, dataDirs := by decide }
  rintro ⟨user, info⟩ h
  obtain ⟨-, rfl⟩ := Prod.mk.inj (List.mem_singleton.1 h)
  exact happ

/-- One process lets the package load a file and leaves a ledger with its record, the next one
forgets the package and leaves an empty ledger; the session beside them has the same ledgers. -/
theorem reopening_invisible_load_forget :
    ∃ loaded forgotten : Session,
      Beside notesConfig [loadTurn.command] loadTurn.left loaded ∧
      Beside notesConfig [loadTurn.command, forgetTurn.command] forgetTurn.left forgotten ∧
      loaded.manager.ledger.record? "org.notes" "/data/user/0/org.notes/plug.dex" ≠ none ∧
      Store.ledgerOf (loaded.file.read loadTurn.left.files) = loaded.manager.ledger ∧
      forgotten.manager.ledger = .empty ∧
      Store.ledgerOf (forgotten.file.read forgetTurn.left.files) = .empty := by
  let opened := notesSession (lockedDisk notesDisk)
  let m := notesMachine (lockedDisk notesDisk)
  let loaded := (opened.perform m 0 loadTurn.command).1
  let forgotten := (loaded.perform m 0 forgetTurn.command).1
  have hload : Beside notesConfig [loadTurn.command] loadTurn.left loaded :=
    .command (.start isNotesDisk_notesDisk.start) loadTurn ⟨rfl, rfl, rfl⟩
      (isNotesDisk_notesDisk.saves notesLoad trivial rfl).1 rfl 0
  have hplain : Session.lockDir? "usage.json" = none := by decide
  have hfollows : forgetTurn.Follows loadTurn.left loaded :=
    Turn.follows_of_read rfl rfl
      (fun dir hdir => absurd (hdir.symm.trans hplain) (Option.some_ne_none dir)) rfl
  have hforget : Beside notesConfig [loadTurn.command, forgetTurn.command] forgetTurn.left
      forgotten :=
    .command hload forgetTurn hfollows (IsNotesDisk.saves _ _ _ rfl).1 rfl 0
  have hnone : LedgerFile.read ⟨"usage.json", []⟩ (lockedDisk notesDisk) = .ok none := by
    rw [LedgerFile.read, FileTree.read, FileTree.lookup, (locate_notes _).1]
    decide +kernel
  have hmanager : loaded.manager =
      ((Manager.new (.ofConfig notesConfig)).load notesDatabase (.ok none)).noteLoad notesApp
        ["/data/user/0/org.notes/plug.dex"] "arm64" 0 :=
    congrArg (fun reading => ((Manager.new (.ofConfig notesConfig)).load notesDatabase
      reading).noteLoad notesApp ["/data/user/0/org.notes/plug.dex"] "arm64" 0) hnone
  have hempty : forgotten.manager.ledger = .empty := by
    have hforgotten : forgotten.manager = loaded.manager.noteDataDestroyed "org.notes" 0 := rfl
    rw [hforgotten, hmanager]
    decide +kernel
  obtain ⟨-, hloaded, -, -⟩ := reopening_invisible hload isProper_notes
  obtain ⟨-, hleft, -, -⟩ := reopening_invisible hforget isProper_notes
  refine ⟨loaded, forgotten, hload, hforget, ?_, (hloaded (List.cons_ne_nil _ _)).1, hempty, ?_⟩
  · rw [hmanager]
    decide +kernel
  · rw [(hleft (List.cons_ne_nil _ _)).1, hempty]

end DexTrail
