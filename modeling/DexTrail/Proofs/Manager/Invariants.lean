-- SUMMARY: Properties of the ledger that every call of the manager keeps.
import DexTrail.Proofs.Manager.Run
import DexTrail.Proofs.Usage.Kept

/-!
# What calls keep

A property of ledgers that recording, removing and pruning keep (`Ledger.IsKept`) is
kept by every call: it holds of every ledger that the actions of the call put in
place. Each kind of round in the loops of the manager has one lemma that says all
that it can do to the ledger.
-/

namespace DexTrail

variable {ω : Type}

/-- The ledger that any reading of the file gives is trim. -/
theorem Store.isTrim_ledgerOf (reading : Except LedgerError (Option Ledger)) :
    (ledgerOf reading).IsTrim := by
  unfold ledgerOf
  split
  · exact Ledger.isTrim_ofDocument _
  · exact Ledger.isTrim_empty
  · exact Ledger.isTrim_empty

/-! ## Rounds -/

theorem Ledger.fst_recordNext (s : Ledger × Bool) (d : DexLoad) :
    (recordNext s d).1 = (s.1.record d).1 := by
  unfold recordNext
  rcases s.1.record d with ⟨l, _ | _⟩ <;> rfl

/-- A compilation leaves the ledger alone unless the owner has the package no more. -/
theorem OptimizePass.compile_cases (services : Services ω) (package filter : String) (force : Bool)
    (p : OptimizePass ω) (path : String) (r : UsageRecord) :
    ((p.compile services package filter force path r).ledger = p.ledger ∧
      (p.compile services package filter force path r).changed = p.changed) ∨
    ((p.compile services package filter force path r).ledger =
        (p.ledger.removeUser package r.owner).1 ∧
      (p.compile services package filter force path r).changed =
        (p.changed || (p.ledger.removeUser package r.owner).2)) := by
  unfold compile
  rcases services.lookup package r.owner p.world with ⟨w, _ | _ | app⟩
  · exact .inl ⟨rfl, rfl⟩
  · exact .inr ⟨rfl, rfl⟩
  · exact .inl ⟨rfl, rfl⟩

/-- Looking at a file drops nothing, or the records of its owner, or its own record. -/
theorem Sweep.examine_cases (services : Services ω) (package : String) (usage : PackageUsage)
    (s : Sweep ω) (path : String) (r : UsageRecord) :
    ∃ w, s.examine services package usage path r = { s with world := w } ∨
      s.examine services package usage path r =
        { s with world := w }.dropUser package usage r.owner ∨
      s.examine services package usage path r =
        { s with world := w }.dropFile package path r.owner := by
  unfold examine
  rcases services.lookup package r.owner s.world with ⟨w, _ | _ | app⟩
  · exact ⟨w, .inl rfl⟩
  · exact ⟨w, .inr (.inl rfl)⟩
  · simp only
    split
    · exact ⟨w, .inr (.inr rfl)⟩
    · split
      · exact ⟨_, .inr (.inr rfl)⟩
      · exact ⟨_, .inl rfl⟩
      · exact ⟨_, .inl rfl⟩

theorem Sweep.ledger_dropUser (s : Sweep ω) (package : String) (usage : PackageUsage)
    (user : UserId) :
    (s.dropUser package usage user).ledger = (s.ledger.removeUser package user).1 := by
  unfold dropUser
  rcases s.ledger.removeUser package user with ⟨l, _ | _⟩ <;> rfl

theorem Sweep.ledger_dropFile (s : Sweep ω) (package path : String) (user : UserId) :
    (s.dropFile package path user).ledger = (s.ledger.removeFile package path user).1 := by
  unfold dropFile
  rcases s.ledger.removeFile package path user with ⟨l, _ | _⟩ <;> rfl

section

variable {ok : DexLoad → Prop} {P : Ledger → Prop}

theorem OptimizePass.ledger_next (hP : Ledger.IsKept ok P) (services : Services ω)
    (package filter : String) (force : Bool) {p : OptimizePass ω} (h : P p.ledger)
    (e : String × UsageRecord) : P (p.next services package filter force e).ledger := by
  rcases p.compile_cases services package filter force e.1 e.2 with ⟨he, -⟩ | ⟨he, -⟩
  · rw [next, he]
    exact h
  · rw [next, he]
    exact hP.removeUser h _ _

theorem Sweep.ledger_next (hP : Ledger.IsKept ok P) (services : Services ω) (package : String)
    (usage : PackageUsage) {s : Sweep ω} (h : P s.ledger) (e : String × UsageRecord) :
    P (s.next services package usage e).ledger := by
  obtain ⟨w, he | he | he⟩ := s.examine_cases services package usage e.1 e.2
  · rw [next, he]
    exact h
  · rw [next, he, ledger_dropUser]
    exact hP.removeUser h _ _
  · rw [next, he, ledger_dropFile]
    exact hP.removeFile h _ _ _

end

/-! ## Actions that keep a property -/

namespace Action

/-- The ledger that an action puts in place. -/
def ledger? : Action → Option Ledger
  | put l | replace l => some l
  | request _ | write => none

/-- Every ledger that the actions put in place satisfies `P`. -/
def All (P : Ledger → Prop) (actions : List Action) : Prop :=
  ∀ a ∈ actions, ∀ l, a.ledger? = some l → P l

variable {P : Ledger → Prop}

theorem all_nil : All P [] := by
  intro a h
  cases h

theorem all_cons {a : Action} {rest : List Action} :
    All P (a :: rest) ↔ (∀ l, a.ledger? = some l → P l) ∧ All P rest := List.forall_mem_cons

theorem all_append {before after : List Action} :
    All P (before ++ after) ↔ All P before ∧ All P after := List.forall_mem_append

theorem all_put {l : Ledger} {rest : List Action} : All P (.put l :: rest) ↔ P l ∧ All P rest := by
  simp [all_cons, ledger?]

theorem all_replace {l : Ledger} {rest : List Action} :
    All P (.replace l :: rest) ↔ P l ∧ All P rest := by
  simp [all_cons, ledger?]

theorem all_request {changed : Bool} {rest : List Action} :
    All P (.request changed :: rest) ↔ All P rest := by
  simp [all_cons, ledger?]

theorem all_write {rest : List Action} : All P (.write :: rest) ↔ All P rest := by
  simp [all_cons, ledger?]

theorem all_change {result : Ledger × Bool} (h : P result.1) : All P (change result) :=
  all_put.2 ⟨h, all_request.2 all_nil⟩

variable {σ α : Type} {next : σ → α → σ} {ledger : σ → Ledger}

/-- What every round of a loop keeps holds of all ledgers that the loop puts in
place, and of the one that it ends with. -/
theorem all_puts {items : List α}
    (hnext : ∀ s, ∀ a ∈ items, P (ledger s) → P (ledger (next s a))) {s : σ} (h : P (ledger s)) :
    All P (puts next ledger s items) ∧ P (ledger (items.foldl next s)) := by
  induction items generalizing s with
  | nil => exact ⟨all_nil, h⟩
  | cons a items ih =>
    have hs := hnext s a List.mem_cons_self h
    obtain ⟨hall, hlast⟩ := ih (fun s b hb => hnext s b (List.mem_cons_of_mem a hb)) hs
    exact ⟨all_put.2 ⟨hs, hall⟩, hlast⟩

end Action

/-! ## Calls -/

/-- Who loads or registers a file in the call, and for which user. -/
def Call.loader? : Call → Option (PackageInfo × UserId)
  | .noteLoad loader _ _ user => some (loader, user)
  | .register app _ _ user => some (app, user)
  | _ => none

theorem Call.loads_of_loader? {services : Services ω} {w : ω} {c : Call} (h : c.loader?.isSome) :
    c.loads services w = false := by
  cases c with
  | load installed => cases h
  | loadInstalled => cases h
  | _ => rfl

namespace Manager

variable {ok : DexLoad → Prop} {P : Ledger → Prop}

/-- The loads that a call records. -/
def loadsOf (services : Services ω) (m : Manager) (w : ω) : Call → List DexLoad
  | .noteLoad loader paths isa user =>
    if m.policy.supports isa then paths.filterMap (m.loadOf? loader isa user) else []
  | .register app path shared user =>
    match (services.fileExists .held path w).2, m.registerObstacle? app path user with
    | .ok true, none =>
      app.isas.map fun isa => { package := app.name, path, user, isa, shared, code := false }
    | _, _ => []
  | _ => []

theorem all_recordActions (hP : Ledger.IsKept ok P) {l : Ledger} (h : P l) {loads : List DexLoad}
    (hloads : ∀ d ∈ loads, ok d) : Action.All P (recordActions l loads) := by
  refine Action.all_append.2 ⟨(Action.all_puts ?_ h).1, Action.all_request.2 Action.all_nil⟩
  intro s d hd hs
  rw [Ledger.fst_recordNext]
  exact hP.record hs (hloads d hd)

theorem all_registerActions (hP : Ledger.IsKept ok P) (services : Services ω) {m : Manager}
    (h : P m.ledger) (w : ω) {app : PackageInfo} {path : String} {shared : Bool} {user : UserId}
    (hloads : ∀ d ∈ m.loadsOf services w (.register app path shared user), ok d) :
    Action.All P (m.registerActions services w app path shared user) := by
  unfold registerActions
  rcases hf : services.fileExists .held path w with ⟨w', _ | _ | _⟩
  · exact Action.all_nil
  · exact Action.all_nil
  · cases ho : m.registerObstacle? app path user with
    | some obstacle => exact Action.all_nil
    | none =>
      rw [loadsOf, hf, ho] at hloads
      exact all_recordActions hP h hloads

/-- Compiling the files of a package keeps the property on the way and at the end. -/
theorem all_optimizeActions (hP : Ledger.IsKept ok P) (services : Services ω) {m : Manager}
    (h : P m.ledger) (w : ω) (package : String) (target : CompilerTarget)
    (force onlyShared : Bool) :
    Action.All P (m.optimizeActions services w package target force onlyShared) ∧
      P (m.optimize services w package target force onlyShared).1.ledger := by
  unfold optimizeActions optimize
  cases m.ledger.usage? package with
  | none => exact ⟨Action.all_nil, h⟩
  | some usage =>
    have hround := fun (p : OptimizePass ω) e (_ : e ∈ usage.secondary.filter fun e =>
        !onlyShared || e.2.shared) (hp : P p.ledger) =>
      OptimizePass.ledger_next hP services package (m.policy.filterOf target) force hp e
    obtain ⟨hall, hlast⟩ := Action.all_puts hround (s := ⟨m.ledger, false, true, w⟩) h
    exact ⟨Action.all_append.2 ⟨hall, Action.all_request.2 Action.all_nil⟩, hlast⟩

theorem all_reconcileActions (hP : Ledger.IsKept ok P) (services : Services ω) {m : Manager}
    (h : P m.ledger) (w : ω) (package : String) :
    Action.All P (m.reconcileActions services w package) ∧
      P (m.reconcile services w package).1.ledger := by
  unfold reconcileActions reconcile
  cases m.ledger.usage? package with
  | none => exact ⟨Action.all_nil, h⟩
  | some usage =>
    have hround := fun (s : Sweep ω) e (_ : e ∈ usage.secondary) (hs : P s.ledger) =>
      Sweep.ledger_next hP services package usage hs e
    obtain ⟨hall, hlast⟩ := Action.all_puts hround (s := ⟨m.ledger, .empty, w⟩) h
    exact ⟨Action.all_append.2 ⟨hall, Action.all_request.2 Action.all_nil⟩, hlast⟩

theorem all_maintainActions (hP : Ledger.IsKept ok P) (services : Services ω) {m : Manager}
    (h : P m.ledger) (w : ω) (packages : List String) :
    Action.All P (m.maintainActions services w packages) := by
  induction packages generalizing m w with
  | nil => exact Action.all_nil
  | cons package rest ih =>
    obtain ⟨hswept, hsweptLast⟩ := all_reconcileActions hP services h w package
    obtain ⟨hcompiled, hcompiledLast⟩ := all_optimizeActions hP services hsweptLast
      (m.reconcile services w package).2.1 package (.reason .backgroundDexopt) false false
    exact Action.all_append.2 ⟨Action.all_append.2 ⟨hswept, hcompiled⟩, ih hcompiledLast _⟩

/-- A property that the loads of a call keep holds of all ledgers that the call puts
in place, if the ledger has it that the call starts from: the one in the file for a
call that loads, and the one in memory for the others. -/
theorem all_actions (hP : Ledger.IsKept ok P) (services : Services ω) (file : LedgerFile)
    {m : Manager} (t : FileTree) (w : ω) {c : Call} (hloads : ∀ d ∈ m.loadsOf services w c, ok d)
    (h : c.loads services w = false → P m.ledger)
    (hfile : c.loads services w → P (Store.ledgerOf (file.read t))) :
    P (m.begin services file t w c).ledger ∧ Action.All P (m.actions services file t w c) := by
  have hbegin : P (m.begin services file t w c).ledger := by
    rw [ledger, store_begin]
    split
    · next hl => exact hfile hl
    · next hl => exact h (Bool.eq_false_iff.2 hl)
  refine ⟨hbegin, ?_⟩
  cases c with
  | noteLoad loader paths isa user =>
    rw [actions]
    rw [loadsOf] at hloads
    split
    · next hs =>
      rw [if_pos hs] at hloads
      exact all_recordActions hP (h rfl) hloads
    · exact Action.all_nil
  | noteInstalled info user => exact Action.all_nil
  | noteUpdated package base splits => exact Action.all_change (hP.restrict _ _ (h rfl))
  | noteDataDestroyed package user =>
    apply Action.all_change
    split
    · exact hP.removePackage _ (h rfl)
    · exact hP.removeUser (h rfl) _ _
  | noteRemoved package user => exact Action.all_nil
  | register app path shared user => exact all_registerActions hP services (h rfl) w hloads
  | optimize package target force onlyShared =>
    exact (all_optimizeActions hP services (h rfl) w package target force onlyShared).1
  | reconcile package => exact (all_reconcileActions hP services (h rfl) w package).1
  | maintain => exact all_maintainActions hP services (h rfl) w _
  | load installed => exact Action.all_change (hP.sync _ (hfile rfl))
  | loadInstalled =>
    simp only [Call.loads, actions] at hfile ⊢
    rcases hw : services.enumerate w with ⟨w', _ | installed⟩
    · exact Action.all_nil
    · rw [hw] at hfile
      exact Action.all_change (hP.sync _ (hfile rfl))
  | flush => exact Action.all_write.2 Action.all_nil

end Manager

/-! ## Runs -/

namespace Moment

/-- The ledger of the moment has the property, and so have those that the call under
way goes on to put in place. -/
def Keeps (P : Ledger → Prop) (h : Moment) : Prop := P h.ledger ∧ Action.All P h.todo

variable {P : Ledger → Prop}

theorem keeps_start (hP : Ledger.IsKept (fun _ => True) P) (services : Services ω)
    {file : LedgerFile} (hfile : ∀ t : FileTree, P (Store.ledgerOf (file.read t))) (w : ω)
    (c : Call) {h : Moment} (hk : P h.ledger) : (h.start services file w c).Keeps P := by
  refine ⟨hk, Action.all_append.2 ⟨?_, ?_⟩⟩
  · split
    · exact Action.all_replace.2 ⟨hfile h.disk, Action.all_nil⟩
    · exact Action.all_nil
  · exact (Manager.all_actions hP services file h.disk w (fun _ _ => trivial) (fun _ => hk)
      fun _ => hfile h.disk).2

theorem Keeps.act {file : LedgerFile} {h : Moment} (hk : h.Keeps P) {a : Action}
    {rest : List Action} (due : h.todo = a :: rest) : (h.act file a rest).Keeps P := by
  obtain ⟨hledger, hputs⟩ := hk
  rw [due] at hputs
  obtain ⟨hput, hrest⟩ := Action.all_cons.1 hputs
  refine ⟨?_, hrest⟩
  cases a with
  | put l => exact hput l rfl
  | replace l => exact hput l rfl
  | request changed => exact hledger
  | write => exact hledger

/-- A property that every load keeps, and that the ledgers in files have, holds at
every moment of a run at whose start it held. -/
theorem Keeps.leads (hP : Ledger.IsKept (fun _ => True) P)
    {services : Services ω} {file : LedgerFile}
    (hfile : ∀ t : FileTree, P (Store.ledgerOf (file.read t))) {h h' : Moment}
    (hk : h.Keeps P) (run : Leads services file h h') : h'.Keeps P := by
  induction run with
  | refl => exact hk
  | tail _ step ih =>
    cases step with
    | start c w idle => exact keeps_start hP services hfile w c ih.1
    | act due => exact ih.act due
    | take waits free => exact ih
    | finish under => exact ih
    | fail under => exact ih
    | elsewhere t same => exact ih

end Moment

end DexTrail
