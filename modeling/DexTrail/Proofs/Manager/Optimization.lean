-- SUMMARY: What optimization asks about each secondary file, and what follows from the answers.
import DexTrail.Proofs.Manager.Exchanges

/-!
# Optimization

Like reconciliation, optimization asks about one file after the other, and what it asks does
not depend on what has gone by then. `compileAll` makes the calls and keeps the answers,
`OptimizePass.settle` draws the consequence of one answer.
-/

namespace DexTrail

variable {ω : Type}

/-! ## Compilations -/

/-- What was asked for a secondary file and answered. -/
structure Compilation where
  path : String
  /-- The record that the file had when the pass began. -/
  record : UsageRecord
  /-- What the authority says of the package for the owner. -/
  lookup : Except AuthorityError (Option PackageInfo)
  /-- The request to the optimizer and its answer, if there was one. -/
  optimized : Option (Optimization × OptimizeResult)

/-- Have a secondary file compiled. The optimizer is asked when the package is installed. -/
def compileFile (services : Services ω) (package filter : String) (force : Bool) (w : ω)
    (e : String × UsageRecord) : ω × Compilation :=
  match services.lookup package e.2.owner w with
  | (w, .error fault) => (w, ⟨e.1, e.2, .error fault, none⟩)
  | (w, .ok none) => (w, ⟨e.1, e.2, .ok none, none⟩)
  | (w, .ok (some app)) =>
    let request : Optimization :=
      { app, path := e.1, isas := e.2.isas, filter, shared := e.2.shared, force }
    let (w, result) := services.optimize request w
    (w, ⟨e.1, e.2, .ok (some app), some (request, result)⟩)

/-- Have secondary files compiled one after the other. -/
def compileAll (services : Services ω) (package filter : String) (force : Bool) (w : ω) :
    List (String × UsageRecord) → ω × List Compilation
  | [] => (w, [])
  | e :: files =>
    let (w, c) := compileFile services package filter force w e
    let (w, compiled) := compileAll services package filter force w files
    (w, c :: compiled)

namespace Compilation

/-- The package is not installed for the owner of the file. -/
def IsUninstalled (c : Compilation) : Prop := c.lookup = .ok none

/-- The authority gives no answer, or the optimizer says that it failed. -/
def failed (c : Compilation) : Bool :=
  match c.lookup, c.optimized with
  | .error _, _ => true
  | .ok _, some (_, result) => result == .failed
  | .ok _, none => false

/-- The exchanges that a compilation consists of. -/
def exchanges (package : String) (c : Compilation) : List Exchange :=
  .lookup package c.record.owner c.lookup ::
    (c.optimized.map fun e => .optimize e.1 e.2).toList

end Compilation

/-! ## Consequences -/

namespace OptimizePass

/-- Draw the consequence of a compilation. -/
def settle (package : String) (p : OptimizePass ω) (c : Compilation) : OptimizePass ω :=
  match c.lookup with
  | .error _ => { p with success := false }
  | .ok none =>
    let (ledger, changed) := p.ledger.removeUser package c.record.owner
    { p with ledger, changed := p.changed || changed }
  | .ok (some _) => { p with success := p.success && !c.failed }

/-- Compiling a file is asking for it and drawing the consequence. -/
theorem compile_eq (services : Services ω) (package filter : String) (force : Bool)
    (p : OptimizePass ω) (e : String × UsageRecord) :
    p.compile services package filter force e.1 e.2 =
      settle package { p with world := (compileFile services package filter force p.world e).1 }
        (compileFile services package filter force p.world e).2 := by
  unfold compile compileFile
  rcases services.lookup package e.2.owner p.world with ⟨w, _ | _ | app⟩ <;> rfl

/-- A consequence is the same in any outside world. -/
theorem exists_settle (package : String) (l : Ledger) (changed success : Bool) (c : Compilation) :
    ∃ l' changed' success', ∀ {ω : Type} (w : ω),
      settle package ⟨l, changed, success, w⟩ c = ⟨l', changed', success', w⟩ := by
  unfold settle
  rcases c.lookup with _ | _ | app
  · exact ⟨l, changed, false, fun _ => rfl⟩
  · exact ⟨(l.removeUser package c.record.owner).1,
      changed || (l.removeUser package c.record.owner).2, success, fun _ => rfl⟩
  · exact ⟨l, changed, success && !c.failed, fun _ => rfl⟩

/-- Consequences neither ask anything nor depend on what was asked. -/
theorem settle_withWorld (package : String) (p : OptimizePass ω) (w : ω) (c : Compilation) :
    settle package { p with world := w } c = { p.settle package c with world := w } := by
  obtain ⟨l', changed', success', h⟩ := exists_settle package p.ledger p.changed p.success c
  have hp : p.settle package c = ⟨l', changed', success', p.world⟩ := h p.world
  rw [hp]
  exact h w

/-- A pass makes its calls whatever goes on the way, so all of them may come first. -/
theorem foldl_compile (services : Services ω) (package filter : String) (force : Bool)
    (p : OptimizePass ω) (files : List (String × UsageRecord)) :
    files.foldl (fun p e => p.compile services package filter force e.1 e.2) p =
      (compileAll services package filter force p.world files).2.foldl (settle package)
        { p with world := (compileAll services package filter force p.world files).1 } := by
  induction files generalizing p with
  | nil => rfl
  | cons e files ih =>
    rw [List.foldl_cons, ih, compile_eq, settle_withWorld]
    simp only [compileAll, List.foldl_cons, settle_withWorld]

/-- A pass that finds the package for every owner leaves the ledger as it is. It succeeds
when no compilation failed. -/
theorem foldl_settle {compiled : List Compilation} (h : ∀ c ∈ compiled, ¬c.IsUninstalled)
    (package : String) (p : OptimizePass ω) :
    compiled.foldl (settle package) p =
      { p with success := p.success && !compiled.any (·.failed) } := by
  induction compiled generalizing p with
  | nil => simp
  | cons c compiled ih =>
    have hc := h c List.mem_cons_self
    have hstep : p.settle package c = { p with success := p.success && !c.failed } := by
      unfold settle
      rcases hlookup : c.lookup with _ | _ | app
      · simp [Compilation.failed, hlookup]
      · exact absurd hlookup hc
      · rfl
    rw [List.foldl_cons, ih (fun d hd => h d (List.mem_cons_of_mem c hd)), hstep]
    simp [Bool.and_assoc]

/-- The consequences of compilations are the same in any outside world. -/
theorem exists_foldl_settle (package : String) (l : Ledger) (changed success : Bool)
    (compiled : List Compilation) :
    ∃ l' changed' success', ∀ {ω : Type} (w : ω),
      compiled.foldl (settle package) ⟨l, changed, success, w⟩ = ⟨l', changed', success', w⟩ := by
  induction compiled generalizing l changed success with
  | nil => exact ⟨l, changed, success, fun _ => rfl⟩
  | cons c compiled ih =>
    obtain ⟨l₁, changed₁, success₁, h₁⟩ := exists_settle package l changed success c
    obtain ⟨l₂, changed₂, success₂, h₂⟩ := ih l₁ changed₁ success₁
    refine ⟨l₂, changed₂, success₂, fun w => ?_⟩
    rw [List.foldl_cons, h₁, h₂]

end OptimizePass

/-! ## Exchanges -/

theorem compileFile_logged (services : Services ω) (package filter : String) (force : Bool) (w : ω)
    (log : List Exchange) (e : String × UsageRecord) :
    compileFile services.logged package filter force (w, log) e =
      (((compileFile services package filter force w e).1,
        log ++ (compileFile services package filter force w e).2.exchanges package),
        (compileFile services package filter force w e).2) := by
  unfold compileFile
  rw [logged_lookup]
  rcases services.lookup package e.2.owner w with ⟨w, _ | _ | app⟩
  · rfl
  · rfl
  · simp [Compilation.exchanges]

theorem compileAll_logged (services : Services ω) (package filter : String) (force : Bool) (w : ω)
    (log : List Exchange) (files : List (String × UsageRecord)) :
    compileAll services.logged package filter force (w, log) files =
      (((compileAll services package filter force w files).1,
        log ++ (compileAll services package filter force w files).2.flatMap
          (·.exchanges package)),
        (compileAll services package filter force w files).2) := by
  induction files generalizing w log with
  | nil => simp [compileAll]
  | cons e files ih => simp [compileAll, compileFile_logged, ih]

namespace Answers

variable {answers : Answers}

/-- What the optimizer is asked for a secondary file, if its package is installed. -/
def request? (answers : Answers) (package filter : String) (force : Bool)
    (e : String × UsageRecord) : Option Optimization :=
  match answers.lookup package e.2.owner with
  | .ok (some app) =>
    some { app, path := e.1, isas := e.2.isas, filter, shared := e.2.shared, force }
  | _ => none

/-- What is asked for a secondary file, with the answers. -/
def compile (answers : Answers) (package filter : String) (force : Bool)
    (e : String × UsageRecord) : Compilation where
  path := e.1
  record := e.2
  lookup := answers.lookup package e.2.owner
  optimized := (answers.request? package filter force e).map fun request =>
    (request, answers.optimize request)

theorem compileFile_eq {services : Services ω} {package filter : String} {force : Bool} {w : ω}
    {e : String × UsageRecord}
    (h : ∀ x ∈ (compileFile services package filter force w e).2.exchanges package,
      answers.Gives x) :
    (compileFile services package filter force w e).2 = answers.compile package filter force e := by
  unfold compileFile at h ⊢
  unfold compile request?
  generalize services.lookup package e.2.owner w = found at h ⊢
  rcases found with ⟨w, fault | _ | app⟩
  · have hlookup : answers.lookup package e.2.owner = .error fault := h _ List.mem_cons_self
    rw [hlookup]
    rfl
  · have hlookup : answers.lookup package e.2.owner = .ok none := h _ List.mem_cons_self
    rw [hlookup]
    rfl
  · have hlookup : answers.lookup package e.2.owner = .ok (some app) := h _ List.mem_cons_self
    have hresult := h _ (List.mem_cons_of_mem _ List.mem_cons_self)
    rw [hlookup, Option.map_some]
    dsimp only
    rw [hresult]

/-- Where the exchanges are as the answers say, the compilations are those with the answers. -/
theorem compileAll_eq {services : Services ω} {package filter : String} {force : Bool} {w : ω}
    {files : List (String × UsageRecord)}
    (h : ∀ x ∈ (compileAll services package filter force w files).2.flatMap
      (·.exchanges package), answers.Gives x) :
    (compileAll services package filter force w files).2 =
      files.map (answers.compile package filter force) := by
  induction files generalizing w with
  | nil => rfl
  | cons e files ih =>
    simp only [compileAll, List.flatMap_cons, List.forall_mem_append] at h
    simp only [compileAll, List.map_cons, compileFile_eq h.1, ih h.2]

end Answers

/-! ## Passes -/

namespace Manager

/-- The compilations of a pass, and the outside world after them. -/
def compilations (services : Services ω) (m : Manager) (w : ω) (package : String)
    (target : CompilerTarget) (force onlyShared : Bool) : ω × List Compilation :=
  compileAll services package (m.policy.filterOf target) force w
    ((m.ledger.secondaryOf package).filter fun e => !onlyShared || e.2.shared)

/-- The exchanges of a pass in their order. -/
def optimizeExchanges (services : Services ω) (m : Manager) (w : ω) (package : String)
    (target : CompilerTarget) (force onlyShared : Bool) : List Exchange :=
  (m.compilations services w package target force onlyShared).2.flatMap (·.exchanges package)

/-- An optimization with logged services does what it does without the log, and its
exchanges are logged. -/
theorem optimize_logged (services : Services ω) (m : Manager) (w : ω) (log : List Exchange)
    (package : String) (target : CompilerTarget) (force onlyShared : Bool) :
    m.optimize services.logged (w, log) package target force onlyShared =
      ((m.optimize services w package target force onlyShared).1,
        ((m.optimize services w package target force onlyShared).2.1,
          log ++ m.optimizeExchanges services w package target force onlyShared),
        (m.optimize services w package target force onlyShared).2.2) := by
  unfold optimize optimizeExchanges compilations Ledger.secondaryOf
  cases m.ledger.usage? package with
  | none => simp [compileAll]
  | some usage =>
    obtain ⟨l', changed', success', h⟩ := OptimizePass.exists_foldl_settle package m.ledger false
      true (compileAll services package (m.policy.filterOf target) force w
        (usage.secondary.filter fun e => !onlyShared || e.2.shared)).2
    simp only [OptimizePass.foldl_compile, compileAll_logged, h]

/-- Where the package is found for every owner, optimization changes nothing. -/
theorem optimize_of_installed {services : Services ω} {m : Manager} {w : ω} {package : String}
    {target : CompilerTarget} {force onlyShared : Bool}
    (h : ∀ c ∈ (m.compilations services w package target force onlyShared).2,
      ¬c.IsUninstalled) :
    m.optimize services w package target force onlyShared =
      (m, (m.compilations services w package target force onlyShared).1,
        !(m.compilations services w package target force onlyShared).2.any (·.failed)) := by
  unfold optimize
  unfold compilations Ledger.secondaryOf at h ⊢
  cases hu : m.ledger.usage? package with
  | none => simp [compileAll]
  | some usage =>
    rw [hu] at h
    simp only [OptimizePass.foldl_compile, OptimizePass.foldl_settle h, Bool.true_and]
    rfl

end Manager

end DexTrail
