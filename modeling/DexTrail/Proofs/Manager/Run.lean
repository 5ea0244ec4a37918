-- SUMMARY: Calls of the manager, the actions that they consist of, and runs in which other things happen between those.
import DexTrail.Manager.Maintenance
import DexTrail.Manager.Register
import Mathlib.Logic.Relation

/-!
# Runs of the manager

A call does what it does to the store in a sequence of actions: it puts changed
ledgers in place and requests a write. `Manager.perform_eq` says that each call is
its actions done one after another. In a run (`Moment.Step`) other things happen
between the actions: a waiting write takes the ledger, and ends later, with or
without success, and files other than the ledger's are changed. A call that loads
reads the file when it starts and replaces the ledger in an action of its own, so a
write may end between the two. A run is orderly (`Moment.Orderly`) where none does.
-/

namespace DexTrail

variable {ω : Type}

/-! ## Calls -/

/-- An operation of the manager with its arguments. -/
inductive Call where
  | noteLoad (loader : PackageInfo) (paths : List String) (isa : String) (user : UserId)
  | noteInstalled (info : PackageInfo) (user : UserId)
  | noteUpdated (package base : String) (splits : List String)
  | noteDataDestroyed (package : String) (user : UserId)
  | noteRemoved (package : String) (user : UserId)
  | register (app : PackageInfo) (path : String) (shared : Bool) (user : UserId)
  | optimize (package : String) (target : CompilerTarget) (force onlyShared : Bool)
  | reconcile (package : String)
  | maintain
  | load (installed : InstalledPackages)
  | loadInstalled
  | flush

/-- Whether the call takes the ledger of the file. -/
def Call.loads (services : Services ω) (w : ω) : Call → Bool
  | .load _ => true
  | .loadInstalled => (services.enumerate w).2.isOk
  | _ => false

namespace Manager

/-- The manager and the files after a call that the outside world answers from `w`. -/
def perform (services : Services ω) (file : LedgerFile) (m : Manager) (t : FileTree) (w : ω) :
    Call → Manager × FileTree
  | .noteLoad loader paths isa user => (m.noteLoad loader paths isa user, t)
  | .noteInstalled info user =>
    match m.noteInstalled info user with
    | .ok m => (m, t)
    | .error _ => (m, t)
  | .noteUpdated package base splits => (m.noteUpdated package base splits, t)
  | .noteDataDestroyed package user => (m.noteDataDestroyed package user, t)
  | .noteRemoved package user => (m.noteRemoved package user, t)
  | .register app path shared user => ((m.register services w app path shared user).1, t)
  | .optimize package target force onlyShared =>
    ((m.optimize services w package target force onlyShared).1, t)
  | .reconcile package => ((m.reconcile services w package).1, t)
  | .maintain => ((m.maintain services w).1, t)
  | .load installed => (m.load installed (file.read t), t)
  | .loadInstalled =>
    match (m.loadInstalled services w (file.read t)).2 with
    | .ok m => (m, t)
    | .error _ => (m, t)
  | .flush => m.flush file t

end Manager

/-! ## Actions -/

/-- What a call does to the store at once. -/
inductive Action where
  /-- Put a ledger in place of the one held. -/
  | put (l : Ledger)
  /-- Put the ledger that was read from the file in place of the one held. -/
  | replace (l : Ledger)
  /-- Request a write if the call has changed something. -/
  | request (changed : Bool)
  /-- Write what waits. -/
  | write

namespace Action

/-- Take a changed ledger and request its write. -/
def change (result : Ledger × Bool) : List Action := [.put result.1, .request result.2]

/-- The ledgers that a loop puts in place, one in each round. -/
def puts {σ α : Type} (next : σ → α → σ) (ledger : σ → Ledger) (s : σ) : List α → List Action
  | [] => []
  | a :: as => .put (ledger (next s a)) :: puts next ledger (next s a) as

end Action

/-! ### The rounds of the manager's loops -/

/-- A load is recorded. -/
def Ledger.recordNext (s : Ledger × Bool) (d : DexLoad) : Ledger × Bool :=
  match s.1.record d with
  | (l, .ok c) => (l, s.2 || c)
  | (l, .error _) => (l, s.2)

/-- A file is compiled. -/
def OptimizePass.next (services : Services ω) (package filter : String) (force : Bool)
    (p : OptimizePass ω) (e : String × UsageRecord) : OptimizePass ω :=
  p.compile services package filter force e.1 e.2

/-- A file is looked at. -/
def Sweep.next (services : Services ω) (package : String) (usage : PackageUsage) (s : Sweep ω)
    (e : String × UsageRecord) : Sweep ω := s.examine services package usage e.1 e.2

namespace Manager

theorem recordAll_eq (l : Ledger) (loads : List DexLoad) :
    recordAll l loads = loads.foldl Ledger.recordNext (l, false) := rfl

/-! ### The actions of single calls -/

def recordActions (l : Ledger) (loads : List DexLoad) : List Action :=
  Action.puts Ledger.recordNext Prod.fst (l, false) loads ++ [.request (recordAll l loads).2]

def registerActions (services : Services ω) (m : Manager) (w : ω) (app : PackageInfo)
    (path : String) (shared : Bool) (user : UserId) : List Action :=
  match services.fileExists .held path w with
  | (_, .ok true) =>
    match m.registerObstacle? app path user with
    | some _ => []
    | none =>
      recordActions m.ledger (app.isas.map fun isa =>
        { package := app.name, path, user, isa, shared, code := false })
  | _ => []

def optimizeActions (services : Services ω) (m : Manager) (w : ω) (package : String)
    (target : CompilerTarget) (force onlyShared : Bool) : List Action :=
  match m.ledger.usage? package with
  | none => []
  | some usage =>
    let next := OptimizePass.next services package (m.policy.filterOf target) force
    let considered := usage.secondary.filter fun e => !onlyShared || e.2.shared
    let start : OptimizePass ω := ⟨m.ledger, false, true, w⟩
    Action.puts next OptimizePass.ledger start considered ++
      [.request (considered.foldl next start).changed]

def reconcileActions (services : Services ω) (m : Manager) (w : ω) (package : String) :
    List Action :=
  match m.ledger.usage? package with
  | none => []
  | some usage =>
    let next := Sweep.next services package usage
    let start : Sweep ω := ⟨m.ledger, .empty, w⟩
    Action.puts next Sweep.ledger start usage.secondary ++
      [.request (0 < (usage.secondary.foldl next start).removed.size)]

def maintainActions (services : Services ω) (m : Manager) (w : ω) : List String → List Action
  | [] => []
  | package :: rest =>
    let swept := m.reconcile services w package
    let target := .reason .backgroundDexopt
    let compiled := swept.1.optimize services swept.2.1 package target false false
    m.reconcileActions services w package ++
      swept.1.optimizeActions services swept.2.1 package target false false ++
      maintainActions services compiled.1 compiled.2.1 rest

/-- The manager when the first action of a call is due. The registry is up to date
by then, and a call that loads has taken the ledger of the file. -/
def begin (services : Services ω) (file : LedgerFile) (m : Manager) (t : FileTree) (w : ω) :
    Call → Manager
  | .noteInstalled info user =>
    match m.noteInstalled info user with
    | .ok m => m
    | .error _ => m
  | .noteUpdated package base splits =>
    { m with registry := m.registry.setCode package base splits }
  | .noteRemoved package user => m.noteRemoved package user
  | .load installed =>
    { m with registry := addPackages m.registry installed, store := m.store.load (file.read t) }
  | .loadInstalled =>
    match services.enumerate w with
    | (_, .error _) => m
    | (_, .ok installed) =>
      { m with registry := addPackages m.registry installed, store := m.store.load (file.read t) }
  | _ => m

/-- Only a call that loads starts with another store. -/
theorem store_begin (services : Services ω) (file : LedgerFile) (m : Manager) (t : FileTree) (w : ω)
    (c : Call) :
    (m.begin services file t w c).store =
      if c.loads services w then m.store.load (file.read t) else m.store := by
  cases c with
  | noteInstalled info user =>
    simp only [begin, noteInstalled]
    by_cases hu : user = .all
    · rw [if_pos hu]
      rfl
    · rw [if_neg hu]
      rfl
  | loadInstalled =>
    change _ = if (services.enumerate w).2.isOk then _ else _
    rw [begin]
    rcases services.enumerate w with ⟨w, _ | installed⟩ <;> rfl
  | _ => rfl

/-- The actions of a call. -/
def actions (services : Services ω) (file : LedgerFile) (m : Manager) (t : FileTree) (w : ω) :
    Call → List Action
  | .noteLoad loader paths isa user =>
    if m.policy.supports isa then
      recordActions m.ledger (paths.filterMap (m.loadOf? loader isa user))
    else []
  | .noteInstalled _ _ => []
  | .noteUpdated package _ _ => Action.change (m.ledger.clearShared package)
  | .noteDataDestroyed package user =>
    Action.change
      (if user = .all then m.ledger.removePackage package else m.ledger.removeUser package user)
  | .noteRemoved _ _ => []
  | .register app path shared user => m.registerActions services w app path shared user
  | .optimize package target force onlyShared =>
    m.optimizeActions services w package target force onlyShared
  | .reconcile package => m.reconcileActions services w package
  | .maintain => m.maintainActions services w m.ledger.withSecondary
  | .load installed =>
    Action.change ((Store.ledgerOf (file.read t)).sync installed.usersByPackage)
  | .loadInstalled =>
    match services.enumerate w with
    | (_, .error _) => []
    | (_, .ok installed) =>
      Action.change ((Store.ledgerOf (file.read t)).sync installed.usersByPackage)
  | .flush => [.write]

/-! ### Calls are their actions -/

/-- The manager and the files after an action. -/
def act (file : LedgerFile) (s : Manager × FileTree) : Action → Manager × FileTree
  | .put l | .replace l => ({ s.1 with store := { s.1.store with ledger := l } }, s.2)
  | .request changed => ({ s.1 with store := (s.1.store.note changed).1 }, s.2)
  | .write => s.1.flush file s.2

/-- A loop that puts ledgers in place and then requests a write leaves the ledger of
its last round. -/
theorem foldl_act_puts {σ α : Type} (file : LedgerFile) (m : Manager) (t : FileTree)
    (next : σ → α → σ) (ledger : σ → Ledger) (s : σ) (items : List α) (changed : Bool)
    (hs : ledger s = m.ledger) :
    (Action.puts next ledger s items ++ [Action.request changed]).foldl (act file) (m, t) =
      (m.updateLedger (ledger (items.foldl next s), changed), t) := by
  induction items generalizing s m with
  | nil =>
    simp only [Action.puts, List.nil_append, List.foldl_cons, List.foldl_nil, act, hs]
    rfl
  | cons a items ih =>
    simp only [Action.puts, List.cons_append, List.foldl_cons]
    rw [act, ih _ _ rfl]
    rfl

theorem foldl_act_recordActions (file : LedgerFile) (m : Manager) (t : FileTree)
    (loads : List DexLoad) :
    (recordActions m.ledger loads).foldl (act file) (m, t) =
      (m.updateLedger (recordAll m.ledger loads), t) :=
  foldl_act_puts file m t Ledger.recordNext Prod.fst (m.ledger, false) loads _ rfl

theorem foldl_act_registerActions (services : Services ω) (file : LedgerFile) (m : Manager)
    (t : FileTree) (w : ω) (app : PackageInfo) (path : String) (shared : Bool) (user : UserId) :
    (m.registerActions services w app path shared user).foldl (act file) (m, t) =
      ((m.register services w app path shared user).1, t) := by
  unfold registerActions register
  rcases services.fileExists .held path w with ⟨w, _ | _ | _⟩
  · rfl
  · rfl
  · cases m.registerObstacle? app path user with
    | some obstacle => rfl
    | none => exact foldl_act_recordActions file m t _

theorem foldl_act_optimizeActions (services : Services ω) (file : LedgerFile) (m : Manager)
    (t : FileTree) (w : ω) (package : String) (target : CompilerTarget) (force onlyShared : Bool) :
    (m.optimizeActions services w package target force onlyShared).foldl (act file) (m, t) =
      ((m.optimize services w package target force onlyShared).1, t) := by
  unfold optimizeActions optimize
  cases m.ledger.usage? package with
  | none => rfl
  | some usage => exact foldl_act_puts file m t _ _ _ _ _ rfl

theorem foldl_act_reconcileActions (services : Services ω) (file : LedgerFile) (m : Manager)
    (t : FileTree) (w : ω) (package : String) :
    (m.reconcileActions services w package).foldl (act file) (m, t) =
      ((m.reconcile services w package).1, t) := by
  unfold reconcileActions reconcile
  cases m.ledger.usage? package with
  | none => rfl
  | some usage => exact foldl_act_puts file m t _ _ _ _ _ rfl

theorem foldl_act_maintainActions (services : Services ω) (file : LedgerFile) (m : Manager)
    (t : FileTree) (w : ω) (packages : List String) (report : MaintenanceReport) :
    (m.maintainActions services w packages).foldl (act file) (m, t) =
      ((packages.foldl (fun (m, w, report) package =>
        m.maintainPackage services w report package) (m, w, report)).1, t) := by
  induction packages generalizing m w report with
  | nil => rfl
  | cons package rest ih =>
    simp only [maintainActions, List.foldl_append, foldl_act_reconcileActions,
      foldl_act_optimizeActions, List.foldl_cons]
    exact ih _ _ _

/-- A call is its actions, done one after another. -/
theorem perform_eq (services : Services ω) (file : LedgerFile) (m : Manager) (t : FileTree) (w : ω)
    (c : Call) :
    m.perform services file t w c =
      (m.actions services file t w c).foldl (act file) (m.begin services file t w c, t) := by
  cases c with
  | noteLoad loader paths isa user =>
    simp only [perform, noteLoad, actions, begin]
    split
    · exact (foldl_act_recordActions file m t _).symm
    · rfl
  | noteInstalled info user =>
    simp only [perform, actions, begin]
    cases m.noteInstalled info user <;> rfl
  | noteUpdated package base splits => rfl
  | noteDataDestroyed package user => rfl
  | noteRemoved package user => rfl
  | register app path shared user =>
    exact (foldl_act_registerActions services file m t w app path shared user).symm
  | optimize package target force onlyShared =>
    exact (foldl_act_optimizeActions services file m t w package target force onlyShared).symm
  | reconcile package => exact (foldl_act_reconcileActions services file m t w package).symm
  | maintain => exact (foldl_act_maintainActions services file m t w _ _).symm
  | load installed => rfl
  | loadInstalled =>
    simp only [perform, loadInstalled, actions, begin]
    rcases services.enumerate w with ⟨w, _ | installed⟩ <;> rfl
  | flush => rfl

/-- Actions change nothing but the store. -/
theorem exists_foldl_act (file : LedgerFile) (s : Manager × FileTree) (actions : List Action) :
    ∃ store, (actions.foldl (act file) s).1 = { s.1 with store } := by
  induction actions generalizing s with
  | nil => exact ⟨s.1.store, rfl⟩
  | cons a actions ih =>
    obtain ⟨store, h⟩ := ih (act file s a)
    refine ⟨store, ?_⟩
    rw [List.foldl_cons, h]
    cases a <;> rfl

theorem registry_foldl_act (file : LedgerFile) (s : Manager × FileTree) (actions : List Action) :
    (actions.foldl (act file) s).1.registry = s.1.registry := by
  obtain ⟨store, h⟩ := exists_foldl_act file s actions
  rw [h]

end Manager

/-! ## Runs -/

/-- What became of the last write since the last load. -/
inductive LastWrite where
  /-- Nothing was loaded yet. -/
  | unloaded
  /-- No write has ended since the load. -/
  | none
  | ended (ok : Bool)
  deriving DecidableEq

/-- A write ends. -/
def LastWrite.next (last : LastWrite) (ok : Bool) : LastWrite :=
  if last = .unloaded then .unloaded else .ended ok

theorem LastWrite.next_eq_unloaded_iff {last : LastWrite} {ok : Bool} :
    last.next ok = .unloaded ↔ last = .unloaded := by
  unfold next
  split <;> simp_all

/-- A moment of a run. -/
structure Moment where
  manager : Manager
  disk : FileTree
  /-- The actions that the call under way has still to do. -/
  todo : List Action
  /-- Whether the call under way has changed the ledger and not requested a write since. -/
  owed : Bool
  /-- The ledger that the write under way has taken, if one is under way. -/
  flight : Option Ledger
  last : LastWrite

namespace Moment

def ledger (h : Moment) : Ledger := h.manager.ledger

/-- Whether a write waits. -/
def pending (h : Moment) : Bool := h.manager.store.writes.pending

/-- Whether a load has read the file and not replaced the ledger yet. -/
def isLoading (h : Moment) : Bool :=
  match h.todo with
  | .replace _ :: _ => true
  | _ => false

/-- A call starts. The registry is brought up to date, and a call that loads reads the
file; it still has to replace the ledger by what it has read. -/
def start (services : Services ω) (file : LedgerFile) (w : ω) (c : Call) (h : Moment) : Moment where
  manager := { h.manager.begin services file h.disk w c with store := h.manager.store }
  disk := h.disk
  todo :=
    (if c.loads services w then [.replace (Store.ledgerOf (file.read h.disk))] else []) ++
      h.manager.actions services file h.disk w c
  owed := false
  flight := h.flight
  last := h.last

/-- An action is done, and `rest` is still to do. -/
def act (file : LedgerFile) (h : Moment) (a : Action) (rest : List Action) : Moment where
  manager := (Manager.act file (h.manager, h.disk) a).1
  disk := (Manager.act file (h.manager, h.disk) a).2
  todo := rest
  owed :=
    match a with
    | .put l => h.owed || l != h.ledger
    | .replace _ | .request _ => false
    | .write => h.owed
  flight := h.flight
  last :=
    match a with
    | .put _ | .request _ => h.last
    | .replace _ => .none
    | .write => if h.pending then h.last.next (file.write h.ledger h.disk).2 else h.last

/-- The manager with another queue of writes. -/
def withWrites (m : Manager) (writes : WriteQueue) : Manager :=
  { m with store := { m.store with writes } }

/-- The waiting write takes the ledger. -/
def take (h : Moment) : Moment :=
  { h with
    manager := withWrites h.manager h.manager.store.writes.take
    flight := some h.ledger }

/-- The write under way ends and leaves files behind. -/
def finish (h : Moment) (result : FileTree × Bool) : Moment :=
  { h with
    manager := withWrites h.manager (h.manager.store.writes.count result.2)
    disk := result.1
    flight := none
    last := h.last.next result.2 }

/-- A write that nothing comes between does what waiting for it does. -/
theorem finish_take (file : LedgerFile) {h : Moment} (waits : h.pending = true)
    (free : h.flight = none) :
    h.take.finish (file.write h.ledger h.disk) = h.act file .write h.todo := by
  have hwaits : h.manager.store.writes.pending = true := waits
  simp only [take, finish, withWrites, act, Manager.act, Manager.flush, Store.flush,
    WriteQueue.drain, hwaits, waits, if_true, free]
  rfl

/-- What may happen next. Calls come one after another. Whatever a call is doing, a
waiting write may take the ledger, a write under way may end or fail, and others may
change the files but not the ledger's. A call that waits for the writes does not do so
before the one under way has ended. Services answer from any state of the outside
world. -/
inductive Step (services : Services ω) (file : LedgerFile) : Moment → Moment → Prop where
  | start {h : Moment} (c : Call) (w : ω) (idle : h.todo = []) :
    Step services file h (h.start services file w c)
  | act {h : Moment} {a : Action} {rest : List Action} (due : h.todo = a :: rest)
    (free : a = .write → h.flight = none) : Step services file h (h.act file a rest)
  | take {h : Moment} (waits : h.pending = true) (free : h.flight = none) :
    Step services file h h.take
  | finish {h : Moment} {l : Ledger} (under : h.flight = some l) :
    Step services file h (h.finish (file.write l h.disk))
  | fail {h : Moment} {l : Ledger} (under : h.flight = some l) :
    Step services file h (h.finish (h.disk, false))
  | elsewhere {h : Moment} (t : FileTree)
    (same : t.read file.cwd file.path = h.disk.read file.cwd file.path) :
    Step services file h { h with disk := t }

/-- A later moment of a run. -/
def Leads (services : Services ω) (file : LedgerFile) : Moment → Moment → Prop :=
  Relation.ReflTransGen (Step services file)

/-- A step that does not come between the reading and the replacing of a load: the file
stays as it was read, and no write is under way when the ledger is replaced. -/
def Orderly (services : Services ω) (file : LedgerFile) (h h' : Moment) : Prop :=
  Step services file h h' ∧
    (h.isLoading → h'.disk.read file.cwd file.path = h.disk.read file.cwd file.path ∧
      (h'.isLoading ∨ h'.flight = none))

/-- A later moment of an orderly run. -/
def LeadsOrderly (services : Services ω) (file : LedgerFile) : Moment → Moment → Prop :=
  Relation.ReflTransGen (Orderly services file)

theorem LeadsOrderly.leads {services : Services ω} {file : LedgerFile} {h h' : Moment}
    (run : LeadsOrderly services file h h') : Leads services file h h' :=
  Relation.ReflTransGen.mono (r := Orderly services file) (fun _ _ hs => hs.1) _ _ run

/-- While no write is under way, an action that is due is orderly. -/
theorem orderly_act (services : Services ω) (file : LedgerFile) {h : Moment} {a : Action}
    {rest : List Action} (due : h.todo = a :: rest) (free : h.flight = none) :
    Orderly services file h (h.act file a rest) := by
  refine ⟨.act due fun _ => free, fun hloading => ⟨?_, .inr free⟩⟩
  rw [isLoading, due] at hloading
  cases a with
  | replace l => rfl
  | _ => cases hloading

/-- The moment at which the actions that are due are done, if nothing comes between. -/
def finishAll (file : LedgerFile) (h : Moment) : List Action → Moment
  | [] => h
  | a :: rest => (h.act file a rest).finishAll file rest

theorem leadsOrderly_finishAll (services : Services ω) (file : LedgerFile) {h : Moment}
    (free : h.flight = none) {actions : List Action} (due : h.todo = actions) :
    LeadsOrderly services file h (h.finishAll file actions) := by
  induction actions generalizing h with
  | nil => exact .refl
  | cons a rest ih =>
    exact .head (orderly_act services file due free) (ih (h := h.act file a rest) free rfl)

theorem todo_finishAll (file : LedgerFile) {h : Moment} {actions : List Action}
    (due : h.todo = actions) : (h.finishAll file actions).todo = [] := by
  induction actions generalizing h with
  | nil => exact due
  | cons a rest ih => exact ih (h := h.act file a rest) rfl

theorem flight_finishAll (file : LedgerFile) (h : Moment) (actions : List Action) :
    (h.finishAll file actions).flight = h.flight := by
  induction actions generalizing h with
  | nil => rfl
  | cons a rest ih => exact ih (h.act file a rest)

theorem manager_finishAll (file : LedgerFile) (h : Moment) (actions : List Action) :
    ((h.finishAll file actions).manager, (h.finishAll file actions).disk) =
      actions.foldl (Manager.act file) (h.manager, h.disk) := by
  induction actions generalizing h with
  | nil => rfl
  | cons a rest ih => exact ih (h.act file a rest)

/-- The moment after a call that nothing interrupts. -/
def perform (services : Services ω) (file : LedgerFile) (w : ω) (c : Call) (h : Moment) : Moment :=
  (h.start services file w c).finishAll file (h.start services file w c).todo

/-- It leaves the manager and the files that the call leaves. -/
theorem manager_perform (services : Services ω) (file : LedgerFile) (w : ω) (c : Call)
    (h : Moment) :
    ((h.perform services file w c).manager, (h.perform services file w c).disk) =
      h.manager.perform services file h.disk w c := by
  let begun := h.manager.begin services file h.disk w c
  have hstore : begun.store =
      if c.loads services w then h.manager.store.load (file.read h.disk) else h.manager.store :=
    Manager.store_begin services file h.manager h.disk w c
  have hbegun : (if c.loads services w then [.replace (Store.ledgerOf (file.read h.disk))]
      else []).foldl (Manager.act file) ({ begun with store := h.manager.store }, h.disk) =
        (begun, h.disk) := by
    cases hc : c.loads services w with
    | true =>
      rw [hc, if_pos rfl] at hstore
      exact congrArg (fun store => ({ begun with store }, h.disk)) hstore.symm
    | false =>
      rw [hc, if_neg Bool.false_ne_true] at hstore
      exact congrArg (fun store => ({ begun with store }, h.disk)) hstore.symm
  rw [perform, manager_finishAll, Manager.perform_eq]
  simp only [start, List.foldl_append]
  rw [hbegun]

theorem todo_perform (services : Services ω) (file : LedgerFile) (w : ω) (c : Call) (h : Moment) :
    (h.perform services file w c).todo = [] := todo_finishAll file rfl

theorem flight_perform (services : Services ω) (file : LedgerFile) (w : ω) (c : Call)
    (h : Moment) : (h.perform services file w c).flight = h.flight := flight_finishAll file _ _

/-- A call that nothing interrupts is an orderly run. -/
theorem leadsOrderly_perform (services : Services ω) (file : LedgerFile) (w : ω) (c : Call)
    {h : Moment} (idle : h.todo = []) (free : h.flight = none) :
    LeadsOrderly services file h (h.perform services file w c) := by
  refine .head ⟨.start c w idle, fun hloading => ?_⟩
    (leadsOrderly_finishAll services file (h := h.start services file w c) free rfl)
  rw [isLoading, idle] at hloading
  cases hloading

theorem leads_perform (services : Services ω) (file : LedgerFile) (w : ω) (c : Call) {h : Moment}
    (idle : h.todo = []) (free : h.flight = none) :
    Leads services file h (h.perform services file w c) :=
  (leadsOrderly_perform services file w c idle free).leads

end Moment

end DexTrail
