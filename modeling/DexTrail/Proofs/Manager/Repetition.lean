-- SUMMARY: A call does the same again when the services repeat the answers that are in its log.
import DexTrail.Manager.Register
import DexTrail.Proofs.Manager.Maintenance

/-!
# Repeated answers

What a call does to the ledger, and what it answers, depends on the outside world through the
answers of the services only. So two managers with the same packages and the same ledger do the
same in two outside worlds, if the services of the second one repeat the answers that the first
one got (`Services.Repeats`). Writes that wait have no part in it.
-/

namespace DexTrail

variable {ω ω' : Type} {services : Services ω} {services' : Services ω'} {w : ω} {w' u : ω'}

/-! ## Repeating a log -/

/-- The question of an exchange gets the answer of the exchange, and leads from one state of the
outside world to the other. -/
def Exchange.Happens (services : Services ω) (w w' : ω) : Exchange → Prop
  | .lookup package user answer => services.lookup package user w = (w', answer)
  | .enumerate answer => services.enumerate w = (w', answer)
  | .fileExists lock path answer => services.fileExists lock path w = (w', answer)
  | .cleanUp lock request answer => services.cleanUp lock request w = (w', answer)
  | .optimize request answer => services.optimize request w = (w', answer)

namespace Services

/-- The questions of a log, asked one after the other, get the answers of the log, and lead from
one state of the outside world to the other. -/
def Repeats (services : Services ω) : List Exchange → ω → ω → Prop
  | [], w, w' => w = w'
  | x :: log, w, w'' => ∃ w', x.Happens services w w' ∧ services.Repeats log w' w''

theorem repeats_append {log log' : List Exchange} {w w'' : ω} :
    services.Repeats (log ++ log') w w'' ↔
      ∃ w', services.Repeats log w w' ∧ services.Repeats log' w' w'' := by
  induction log generalizing w with
  | nil => simp [Repeats]
  | cons x log ih =>
    simp only [List.cons_append, Repeats, ih]
    constructor
    · rintro ⟨w₁, hx, w', hlog, hlog'⟩
      exact ⟨w', ⟨w₁, hx, hlog⟩, hlog'⟩
    · rintro ⟨w', ⟨w₁, hx, hlog⟩, hlog'⟩
      exact ⟨w₁, hx, w', hlog, hlog'⟩

section

variable {log : List Exchange} {w w'' : ω}

theorem repeats_lookup {package : String} {user : UserId}
    {answer : Except AuthorityError (Option PackageInfo)} :
    services.Repeats (.lookup package user answer :: log) w w'' ↔
      ∃ w', services.lookup package user w = (w', answer) ∧ services.Repeats log w' w'' := Iff.rfl

theorem repeats_fileExists {lock : InstallLock} {path : String} {answer : Except HelperError Bool} :
    services.Repeats (.fileExists lock path answer :: log) w w'' ↔
      ∃ w', services.fileExists lock path w = (w', answer) ∧ services.Repeats log w' w'' := Iff.rfl

theorem repeats_cleanUp {lock : InstallLock} {request : Cleanup}
    {answer : Except HelperError Bool} :
    services.Repeats (.cleanUp lock request answer :: log) w w'' ↔
      ∃ w', services.cleanUp lock request w = (w', answer) ∧ services.Repeats log w' w'' := Iff.rfl

theorem repeats_optimize {request : Optimization} {answer : OptimizeResult} :
    services.Repeats (.optimize request answer :: log) w w'' ↔
      ∃ w', services.optimize request w = (w', answer) ∧ services.Repeats log w' w'' := Iff.rfl

end

end Services

open Services

/-! ## Single files -/

theorem inspect_of_repeats {package : String} {e : String × UsageRecord}
    (h : services'.Repeats ((inspect services package w e).2.exchanges package) w' u) :
    inspect services' package w' e = (u, (inspect services package w e).2) := by
  unfold inspect at h ⊢
  generalize services.lookup package e.2.owner w = found at h ⊢
  rcases found with ⟨w₁, fault | _ | app⟩
  · obtain ⟨w₁', hlookup, rfl⟩ := repeats_lookup.1 h
    rw [hlookup]
  · obtain ⟨w₁', hlookup, rfl⟩ := repeats_lookup.1 h
    rw [hlookup]
  · dsimp only at h ⊢
    cases hstorage : app.storageOf? e.1 with
    | none =>
      simp only [hstorage, Inspection.exchanges, Inspection.request?, Option.map_none] at h
      obtain ⟨w₁', hlookup, rfl⟩ := repeats_lookup.1 h
      simp only [hlookup, hstorage]
    | some storage =>
      simp only [hstorage, Inspection.exchanges, Inspection.request?, Option.map_some] at h
      obtain ⟨w₁', hlookup, hrest⟩ := repeats_lookup.1 h
      obtain ⟨w₂', hcleanUp, rfl⟩ := repeats_cleanUp.1 hrest
      simp only [hlookup, hstorage, hcleanUp]

theorem compileFile_of_repeats {package filter : String} {force : Bool} {e : String × UsageRecord}
    (h : services'.Repeats ((compileFile services package filter force w e).2.exchanges package)
      w' u) :
    compileFile services' package filter force w' e =
      (u, (compileFile services package filter force w e).2) := by
  unfold compileFile at h ⊢
  generalize services.lookup package e.2.owner w = found at h ⊢
  rcases found with ⟨w₁, fault | _ | app⟩
  · obtain ⟨w₁', hlookup, rfl⟩ := repeats_lookup.1 h
    rw [hlookup]
  · obtain ⟨w₁', hlookup, rfl⟩ := repeats_lookup.1 h
    rw [hlookup]
  · obtain ⟨w₁', hlookup, hrest⟩ := repeats_lookup.1 h
    obtain ⟨w₂', hoptimize, rfl⟩ := repeats_optimize.1 hrest
    simp only [hlookup, hoptimize]

/-! ## All files of a package -/

theorem inspectAll_of_repeats {package : String} {files : List (String × UsageRecord)}
    (h : services'.Repeats
      ((inspectAll services package w files).2.flatMap (·.exchanges package)) w' u) :
    inspectAll services' package w' files = (u, (inspectAll services package w files).2) := by
  induction files generalizing w w' with
  | nil =>
    obtain rfl : w' = u := h
    rfl
  | cons e files ih =>
    simp only [inspectAll, List.flatMap_cons] at h
    obtain ⟨w₁, hfirst, hrest⟩ := Services.repeats_append.1 h
    simp only [inspectAll, inspect_of_repeats hfirst, ih hrest]

theorem compileAll_of_repeats {package filter : String} {force : Bool}
    {files : List (String × UsageRecord)}
    (h : services'.Repeats
      ((compileAll services package filter force w files).2.flatMap (·.exchanges package)) w' u) :
    compileAll services' package filter force w' files =
      (u, (compileAll services package filter force w files).2) := by
  induction files generalizing w w' with
  | nil =>
    obtain rfl : w' = u := h
    rfl
  | cons e files ih =>
    simp only [compileAll, List.flatMap_cons] at h
    obtain ⟨w₁, hfirst, hrest⟩ := Services.repeats_append.1 h
    simp only [compileAll, compileFile_of_repeats hfirst, ih hrest]

/-! ## Calls -/

namespace Manager

/-- The second manager is the first one, but for the writes that wait and those that were. -/
def Alike (m m' : Manager) : Prop := ∃ writes, m' = { m with store := { m.store with writes } }

namespace Alike

variable {m m' : Manager}

theorem ledger_eq (h : m.Alike m') : m'.ledger = m.ledger := by
  obtain ⟨writes, rfl⟩ := h
  rfl

theorem updateLedger (h : m.Alike m') (result : Ledger × Bool) :
    (m.updateLedger result).Alike (m'.updateLedger result) := by
  obtain ⟨writes, rfl⟩ := h
  exact ⟨(writes.scheduleIf result.2).1, rfl⟩

theorem noteLoad (h : m.Alike m') (loader : PackageInfo) (paths : List String) (isa : String)
    (user : UserId) :
    (m.noteLoad loader paths isa user).Alike (m'.noteLoad loader paths isa user) := by
  obtain ⟨writes, rfl⟩ := id h
  unfold Manager.noteLoad
  by_cases hisa : m.policy.supports isa
  · rw [if_pos hisa, if_pos hisa]
    exact h.updateLedger _
  · rw [if_neg hisa, if_neg hisa]
    exact h

theorem noteDataDestroyed (h : m.Alike m') (package : String) (user : UserId) :
    (m.noteDataDestroyed package user).Alike (m'.noteDataDestroyed package user) := by
  obtain ⟨writes, rfl⟩ := id h
  exact h.updateLedger _

theorem register (h : m.Alike m') {app : PackageInfo} {path : String} {shared : Bool}
    {user : UserId}
    (hasked : services'.Repeats (m.register services.logged (w, []) app path shared user).2.1.2
      w' u) :
    ∃ m₁, (m.register services w app path shared user).1.Alike m₁ ∧
      m'.register services' w' app path shared user =
        (m₁, u, (m.register services w app path shared user).2.2) := by
  obtain ⟨writes, rfl⟩ := id h
  have hobstacle : registerObstacle? { m with store := { m.store with writes } } app path user =
    m.registerObstacle? app path user := rfl
  unfold Manager.register at hasked ⊢
  rw [logged_fileExists, List.nil_append] at hasked
  generalize services.fileExists .held path w = found at hasked ⊢
  rcases found with ⟨w₁, fault | _ | _⟩
  · obtain ⟨w₁', hfile, rfl⟩ := repeats_fileExists.1 hasked
    rw [hfile]
    exact ⟨_, h, rfl⟩
  · obtain ⟨w₁', hfile, rfl⟩ := repeats_fileExists.1 hasked
    rw [hfile]
    exact ⟨_, h, rfl⟩
  · dsimp only at hasked ⊢
    cases ho : m.registerObstacle? app path user with
    | some obstacle =>
      rw [ho] at hasked
      obtain ⟨w₁', hfile, rfl⟩ := repeats_fileExists.1 hasked
      simp only [hfile, hobstacle, ho]
      exact ⟨_, h, rfl⟩
    | none =>
      rw [ho] at hasked
      obtain ⟨w₁', hfile, hrest⟩ := repeats_fileExists.1 hasked
      obtain ⟨w₂', hoptimize, rfl⟩ := repeats_optimize.1 hrest
      simp only [hfile, hobstacle, ho]
      exact ⟨_, h.updateLedger _, congrArg (_, ·, _) (congrArg Prod.fst hoptimize)⟩

theorem reconcile (h : m.Alike m') {package : String}
    (hasked : services'.Repeats (m.reconcileExchanges services w package) w' u) :
    ∃ m₁, (m.reconcile services w package).1.Alike m₁ ∧
      m'.reconcile services' w' package = (m₁, u, (m.reconcile services w package).2.2) := by
  unfold reconcileExchanges inspections Ledger.secondaryOf at hasked
  unfold Manager.reconcile
  rw [h.ledger_eq]
  cases hu : m.ledger.usage? package with
  | none =>
    rw [hu] at hasked
    obtain rfl : w' = u := hasked
    exact ⟨m', h, rfl⟩
  | some usage =>
    rw [hu] at hasked
    obtain ⟨l', removed', hsettle⟩ := Sweep.exists_foldl_settle package usage m.ledger .empty
      (inspectAll services package w usage.secondary).2
    simp only [Sweep.run, Sweep.run_eq, inspectAll_of_repeats hasked, hsettle]
    exact ⟨_, h.updateLedger _, rfl⟩

theorem optimize (h : m.Alike m') {package : String} {target : CompilerTarget}
    {force onlyShared : Bool}
    (hasked : services'.Repeats (m.optimizeExchanges services w package target force onlyShared)
      w' u) :
    ∃ m₁, (m.optimize services w package target force onlyShared).1.Alike m₁ ∧
      m'.optimize services' w' package target force onlyShared =
        (m₁, u, (m.optimize services w package target force onlyShared).2.2) := by
  have hpolicy : m'.policy = m.policy := by
    obtain ⟨writes, rfl⟩ := h
    rfl
  unfold optimizeExchanges compilations Ledger.secondaryOf at hasked
  unfold Manager.optimize
  rw [h.ledger_eq, hpolicy]
  cases hu : m.ledger.usage? package with
  | none =>
    rw [hu] at hasked
    obtain rfl : w' = u := hasked
    exact ⟨m', h, rfl⟩
  | some usage =>
    rw [hu] at hasked
    obtain ⟨l', changed', success', hsettle⟩ := OptimizePass.exists_foldl_settle package m.ledger
      false true (compileAll services package (m.policy.filterOf target) force w
        (usage.secondary.filter fun e => !onlyShared || e.2.shared)).2
    simp only [OptimizePass.foldl_compile, compileAll_of_repeats hasked, hsettle]
    exact ⟨_, h.updateLedger _, rfl⟩

/-- The turn of a package in a pass of idle maintenance. -/
theorem maintainPackage (h : m.Alike m') (report : MaintenanceReport) {package : String}
    (hasked : services'.Repeats (m.turnExchanges services w package) w' u) :
    ∃ m₁, (m.maintainPackage services w report package).1.Alike m₁ ∧
      m'.maintainPackage services' w' report package =
        (m₁, u, (m.maintainPackage services w report package).2.2) := by
  obtain ⟨w₁, hreconcile, hoptimize⟩ := repeats_append.1 hasked
  obtain ⟨m₁, hswept, hreconciled⟩ := h.reconcile hreconcile
  obtain ⟨m₂, hcompiled, hoptimized⟩ := hswept.optimize hoptimize
  refine ⟨m₂, hcompiled, ?_⟩
  simp only [Manager.maintainPackage, hreconciled, hoptimized]

/-- The turns of packages one after the other. -/
theorem foldl_turn (h : m.Alike m') (report : MaintenanceReport) {packages : List String}
    (hasked : services'.Repeats (passExchanges services (m, w, report) packages) w' u) :
    ∃ m₁, (packages.foldl (turn services) (m, w, report)).1.Alike m₁ ∧
      packages.foldl (turn services') (m', w', report) =
        (m₁, u, (packages.foldl (turn services) (m, w, report)).2.2) := by
  induction packages generalizing m m' w w' report with
  | nil =>
    obtain rfl : w' = u := hasked
    exact ⟨m', h, rfl⟩
  | cons package packages ih =>
    obtain ⟨w₁, hfirst, hrest⟩ := repeats_append.1 hasked
    obtain ⟨m₁, halike, hturn⟩ := h.maintainPackage report hfirst
    rw [List.foldl_cons, List.foldl_cons, turn, turn, hturn]
    exact ih halike _ hrest

theorem maintain (h : m.Alike m')
    (hasked : services'.Repeats (m.maintain services.logged (w, [])).2.1.2 w' u) :
    ∃ m₁, (m.maintain services w).1.Alike m₁ ∧
      m'.maintain services' w' = (m₁, u, (m.maintain services w).2.2) := by
  rw [maintain_logged] at hasked
  rw [maintain_eq, maintain_eq, h.ledger_eq]
  exact h.foldl_turn _ hasked

end Alike

end Manager

end DexTrail
