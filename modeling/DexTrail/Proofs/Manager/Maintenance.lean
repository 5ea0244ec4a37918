-- SUMMARY: What a pass of idle maintenance asks, drops and reports, and that a second pass drops nothing.
import DexTrail.Manager.Maintenance
import DexTrail.Manager.Rehearsal
import DexTrail.Proofs.Manager.Optimization

/-!
# Idle maintenance

A pass takes the packages in turn. The turn of a package reconciles it and then optimizes it,
and leaves the other packages alone. Services that do not change their answers find in the
optimization what they found in the reconciliation: for every record that is left, the package
is installed or not looked up. So optimization drops nothing, and a second pass neither.
-/

namespace DexTrail

variable {ω : Type}

/-! ## Packages with secondary files -/

namespace Ledger

variable {l k : Ledger} {package : String}

theorem secondaryOf_congr (h : l.usage? package = k.usage? package) :
    l.secondaryOf package = k.secondaryOf package := by
  unfold secondaryOf
  rw [h]

theorem ascending_withSecondary (l : Ledger) : l.withSecondary.Pairwise (· < ·) := by
  refine (l.packages.ascending_toList.filter _).map _ ?_
  intro a b h
  exact h

end Ledger

/-! ## Reports -/

namespace MaintenanceReport

/-- The report of a pass that goes on after another. -/
def add (report report' : MaintenanceReport) : MaintenanceReport where
  packages := report.packages + report'.packages
  removed := report.removed + report'.removed
  failed := report.failed ++ report'.failed

theorem add_assoc (r₁ r₂ r₃ : MaintenanceReport) : (r₁.add r₂).add r₃ = r₁.add (r₂.add r₃) := by
  simp [add, Nat.add_assoc]

theorem zero_add (report : MaintenanceReport) : add ⟨0, 0, []⟩ report = report := by
  simp [add]

end MaintenanceReport

/-! ## One turn -/

namespace Answers

variable {answers : Answers}

/-- Whether reconciliation leaves a record of a package. -/
def spares (answers : Answers) (l : Ledger) (package path : String) (r : UsageRecord) : Bool :=
  !(l.secondaryOf package).any fun e => (answers.inspect package e).drops path r

/-- Nothing speaks against the secondary files of the package. -/
def Settles (answers : Answers) (l : Ledger) (package : String) : Prop :=
  ∀ e ∈ l.secondaryOf package, (answers.inspect package e).verdict = .keep

/-- What the turn of a package asks: about its secondary files before and, when they are
compiled, about those that are left after. -/
def turn (answers : Answers) (filter package : String) (before after : Ledger) : List Exchange :=
  (before.secondaryOf package).flatMap (fun e => (answers.inspect package e).exchanges package) ++
    (after.secondaryOf package).flatMap
      (fun e => (answers.compile package filter false e).exchanges package)

/-- The secondary files of the package that have lost their record. -/
def removals (package : String) (before after : Ledger) : List (String × UsageRecord) :=
  (before.secondaryOf package).filter fun e => (after.record? package e.1).isNone

/-- Whether some secondary file of the package fails to be compiled. -/
def fails (answers : Answers) (filter package : String) (l : Ledger) : Bool :=
  (l.secondaryOf package).any fun e => (answers.compile package filter false e).failed

/-- The optimizer is asked for the secondary files that are left after reconciliation. -/
theorem filterMap_turn (answers : Answers) (filter package : String) (before after : Ledger) :
    (answers.turn filter package before after).filterMap Exchange.optimization? =
      (after.secondaryOf package).filterMap (answers.request? package filter false) := by
  have hinspect (e : String × UsageRecord) :
      ((answers.inspect package e).exchanges package).filterMap Exchange.optimization? = [] := by
    unfold Inspection.exchanges
    split <;> rfl
  have hcompile (e : String × UsageRecord) :
      ((answers.compile package filter false e).exchanges package).filterMap
        Exchange.optimization? = (answers.request? package filter false e).toList := by
    unfold Compilation.exchanges compile
    cases answers.request? package filter false e <;> rfl
  rw [turn, List.filterMap_append, List.filterMap_flatMap, List.filterMap_flatMap,
    List.flatMap_eq_nil_iff.2 fun e _ => hinspect e, List.nil_append,
    List.filterMap_eq_flatMap_toList]
  simp only [hcompile]

/-- What the turns of packages report, given the ledgers before and after them. -/
def report (answers : Answers) (filter : String) (packages : List String) (before after : Ledger) :
    MaintenanceReport where
  packages := packages.length
  removed := (packages.flatMap fun p => removals p before after).length
  failed := packages.filter fun p => answers.fails filter p after

theorem report_cons (filter p : String) (packages : List String) (before after : Ledger) :
    answers.report filter (p :: packages) before after =
      (answers.report filter [p] before after).add
        (answers.report filter packages before after) := by
  unfold report MaintenanceReport.add
  cases hfails : answers.fails filter p after <;> simp [hfails, Nat.add_comm]

/-- What becomes of the manager in the turns of some packages. -/
structure Maintains (answers : Answers) (packages : List String) (m m' : Manager) : Prop where
  policy : m'.policy = m.policy
  others : ∀ q, q ∉ packages → m'.ledger.usage? q = m.ledger.usage? q
  records : ∀ q ∈ packages, ∀ path, m'.ledger.record? q path =
    (m.ledger.record? q path).filter (answers.spares m.ledger q path)

theorem spares_congr {l l' : Ledger} {package : String} (h : l.usage? package = l'.usage? package) :
    answers.spares l package = answers.spares l' package := by
  unfold spares
  rw [Ledger.secondaryOf_congr h]

section

variable {before before' after after' : Ledger} {filter : String}

theorem turn_congr {package : String} (hbefore : before.usage? package = before'.usage? package)
    (hafter : after.usage? package = after'.usage? package) :
    answers.turn filter package before after = answers.turn filter package before' after' := by
  unfold turn
  rw [Ledger.secondaryOf_congr hbefore, Ledger.secondaryOf_congr hafter]

theorem report_congr {packages : List String}
    (hbefore : ∀ p ∈ packages, before.usage? p = before'.usage? p)
    (hafter : ∀ p ∈ packages, after.usage? p = after'.usage? p) :
    answers.report filter packages before after =
      answers.report filter packages before' after' := by
  have hremovals : ∀ p ∈ packages, removals p before after = removals p before' after' := by
    intro p hp
    simp only [removals, Ledger.secondaryOf_congr (hbefore p hp),
      Ledger.record?_congr (hafter p hp)]
  have hfails : ∀ p ∈ packages, answers.fails filter p after = answers.fails filter p after' := by
    intro p hp
    simp only [fails, Ledger.secondaryOf_congr (hafter p hp)]
  unfold report
  rw [List.flatMap_congr hremovals, List.filter_congr hfails]

end

/-- The turns of other packages may follow. -/
theorem Maintains.cons {package : String} {packages : List String} {m₁ m₂ m₃ : Manager}
    (hfirst : answers.Maintains [package] m₁ m₂) (hrest : answers.Maintains packages m₂ m₃)
    (hnew : package ∉ packages) : answers.Maintains (package :: packages) m₁ m₃ where
  policy := hrest.policy.trans hfirst.policy
  others := by
    intro q hq
    have hne : q ∉ [package] :=
      fun hq' => hq (List.mem_cons.2 (.inl (List.mem_singleton.1 hq')))
    exact (hrest.others q (List.not_mem_of_not_mem_cons hq)).trans (hfirst.others q hne)
  records := by
    intro q hq path
    rcases List.mem_cons.1 hq with rfl | hq
    · rw [Ledger.record?_congr (hrest.others q hnew)]
      exact hfirst.records q List.mem_cons_self path
    · have hsame := hfirst.others q fun hq' => hnew (List.mem_singleton.1 hq' ▸ hq)
      rw [hrest.records q hq path, Ledger.record?_congr hsame, spares_congr hsame]

/-- Where a package has no secondary files, reconciliation leaves its records. -/
theorem spares_of_not_mem {l : Ledger} {package : String} (h : package ∉ l.withSecondary)
    (path : String) (r : UsageRecord) : answers.spares l package path r = true := by
  have hnone : l.secondaryOf package = [] := by
    refine List.eq_nil_iff_forall_not_mem.2 fun e he => h (Ledger.mem_withSecondary_iff.2 ?_)
    exact ⟨e.1, e.2, Ledger.mem_secondaryOf_iff.1 he⟩
  rw [spares, hnone]
  rfl

/-- The turns of all packages with secondary files settle what becomes of every record. -/
theorem Maintains.record? {m m' : Manager} (h : answers.Maintains m.ledger.withSecondary m m')
    (p path : String) :
    m'.ledger.record? p path =
      (m.ledger.record? p path).filter (answers.spares m.ledger p path) := by
  by_cases hp : p ∈ m.ledger.withSecondary
  · exact h.records p hp path
  · rw [Ledger.record?_congr (h.others p hp)]
    cases m.ledger.record? p path with
    | none => rfl
    | some r => rw [Option.filter_some, if_pos (spares_of_not_mem hp path r)]

/-- A file that is left is one that its own inspection does not drop. -/
theorem settles_of_records {l l' : Ledger} {package : String}
    (h : ∀ path, l'.record? package path =
      (l.record? package path).filter (answers.spares l package path)) :
    answers.Settles l' package := by
  rintro ⟨path, r⟩ he
  obtain ⟨hr, hsecondary⟩ := Ledger.mem_secondaryOf_iff.1 he
  rw [h] at hr
  obtain ⟨hstart, hspares⟩ := Option.filter_eq_some_iff.1 hr
  -- the file was there before, so its own inspection is one of those that spare it
  have hdrops : (answers.inspect package (path, r)).drops path r = false := by
    simp only [spares, Bool.not_eq_true', List.any_eq_false] at hspares
    exact Bool.not_eq_true _ ▸ hspares _ (Ledger.mem_secondaryOf_iff.2 ⟨hstart, hsecondary⟩)
  unfold Inspection.drops at hdrops
  cases hv : (answers.inspect package (path, r)).verdict with
  | keep => rfl
  | dropOwner =>
    rw [hv] at hdrops
    simp [inspect] at hdrops
  | dropFile =>
    rw [hv] at hdrops
    simp [inspect] at hdrops

/-- Where nothing speaks against a file, it is not found uninstalled when it is compiled. -/
theorem compile_of_keep {package filter : String} {force : Bool} {e : String × UsageRecord}
    (h : (answers.inspect package e).verdict = .keep) :
    ¬(answers.compile package filter force e).IsUninstalled := by
  intro hnone
  have hdrop : (answers.inspect package e).verdict = .dropOwner :=
    Inspection.verdict_eq_dropOwner_iff.2 hnone
  rw [h] at hdrop
  cases hdrop

end Answers

namespace Manager

variable {services : Services ω} {m : Manager} {w : ω} {package : String} {answers : Answers}

/-- The exchanges of the turn of a package in their order. -/
def turnExchanges (services : Services ω) (m : Manager) (w : ω) (package : String) :
    List Exchange :=
  m.reconcileExchanges services w package ++
    (m.reconcile services w package).1.optimizeExchanges services
      (m.reconcile services w package).2.1 package (.reason .backgroundDexopt) false false

theorem maintainPackage_logged (services : Services ω) (m : Manager) (w : ω) (log : List Exchange)
    (report : MaintenanceReport) (package : String) :
    m.maintainPackage services.logged (w, log) report package =
      ((m.maintainPackage services w report package).1,
        ((m.maintainPackage services w report package).2.1,
          log ++ m.turnExchanges services w package),
        (m.maintainPackage services w report package).2.2) := by
  unfold maintainPackage turnExchanges
  simp only [reconcile_logged, optimize_logged, List.append_assoc]

theorem inspections_of_gives
    (h : ∀ x ∈ m.reconcileExchanges services w package, answers.Gives x) :
    (m.inspections services w package).2 =
      (m.ledger.secondaryOf package).map (answers.inspect package) :=
  Answers.inspectAll_eq h

theorem record?_reconcile_of_gives
    (h : ∀ x ∈ m.reconcileExchanges services w package, answers.Gives x) (path : String) :
    (m.reconcile services w package).1.ledger.record? package path =
      (m.ledger.record? package path).filter (answers.spares m.ledger package path) := by
  obtain ⟨-, -, hrecords, -, -⟩ := reconcile_spec services m w package
  rw [hrecords, inspections_of_gives h]
  simp only [List.any_map]
  rfl

/-- Where nothing speaks against the secondary files, they are compiled, and nothing else
happens. -/
theorem optimize_of_gives {target : CompilerTarget} {force : Bool}
    (h : ∀ x ∈ m.optimizeExchanges services w package target force false, answers.Gives x)
    (hsettles : answers.Settles m.ledger package) :
    let compiled := (m.ledger.secondaryOf package).map
      (answers.compile package (m.policy.filterOf target) force)
    m.optimize services w package target force false =
      (m, (m.compilations services w package target force false).1,
        !compiled.any (·.failed)) ∧
    m.optimizeExchanges services w package target force false =
      compiled.flatMap (·.exchanges package) := by
  intro compiled
  have hcompiled : (m.compilations services w package target force false).2 = compiled := by
    refine (Answers.compileAll_eq h).trans (congrArg (List.map _) ?_)
    exact List.filter_eq_self.2 fun _ _ => rfl
  have hinstalled : ∀ c ∈ (m.compilations services w package target force false).2,
      ¬c.IsUninstalled := by
    rw [hcompiled]
    intro c hc
    obtain ⟨e, he, rfl⟩ := List.mem_map.1 hc
    exact Answers.compile_of_keep (hsettles e he)
  refine ⟨?_, ?_⟩
  · rw [optimize_of_installed hinstalled, hcompiled]
  · rw [optimizeExchanges, hcompiled]

/-- In the turn of a package, what is left after reconciliation is compiled, and nothing more
goes. -/
theorem optimize_reconcile_of_gives
    (h : ∀ x ∈ m.turnExchanges services w package, answers.Gives x) :
    let filter := m.policy.filterForReason .backgroundDexopt
    let swept := m.reconcile services w package
    let compiled := swept.1.optimize services swept.2.1 package (.reason .backgroundDexopt) false
      false
    compiled.1 = swept.1 ∧
    compiled.2.2 = !answers.fails filter package swept.1.ledger ∧
    m.turnExchanges services w package = answers.turn filter package m.ledger swept.1.ledger := by
  intro filter swept compiled
  obtain ⟨hreconcile, hoptimize⟩ := List.forall_mem_append.1 h
  have hsettles : answers.Settles swept.1.ledger package :=
    Answers.settles_of_records (record?_reconcile_of_gives hreconcile)
  obtain ⟨hpass, hasked⟩ := optimize_of_gives hoptimize hsettles
  rw [policy_reconcile] at hpass hasked
  refine ⟨congrArg Prod.fst hpass, ?_, ?_⟩
  · refine (congrArg (fun r => r.2.2) hpass).trans ?_
    rw [List.any_map]
    rfl
  · rw [turnExchanges, reconcileExchanges, inspections_of_gives hreconcile, hasked,
      List.flatMap_map, List.flatMap_map]
    rfl

/-- What the turn of a package does, asks and reports. -/
theorem maintainPackage_of_gives (report : MaintenanceReport)
    (h : ∀ x ∈ m.turnExchanges services w package, answers.Gives x) :
    let filter := m.policy.filterForReason .backgroundDexopt
    let turn := m.maintainPackage services w report package
    turn.1 = (m.reconcile services w package).1 ∧
    answers.Maintains [package] m turn.1 ∧
    m.turnExchanges services w package = answers.turn filter package m.ledger turn.1.ledger ∧
    turn.2.2 = report.add (answers.report filter [package] m.ledger turn.1.ledger) := by
  intro filter turn
  obtain ⟨hsame, hsuccess, hasked⟩ := optimize_reconcile_of_gives h
  obtain ⟨-, hothers, -, -, hremoved⟩ := reconcile_spec services m w package
  have hturn : turn.1 = (m.reconcile services w package).1 := hsame
  refine ⟨hturn, ⟨?_, ?_, ?_⟩, ?_, ?_⟩
  · rw [hturn, policy_reconcile]
  · intro q hq
    rw [hturn]
    exact hothers q (List.ne_of_not_mem_cons hq)
  · intro q hq path
    obtain rfl := List.mem_singleton.1 hq
    rw [hturn]
    exact record?_reconcile_of_gives (List.forall_mem_append.1 h).1 path
  · rw [hasked, hturn]
  · rw [hturn]
    simp only [turn, maintainPackage]
    rw [hsuccess, hremoved]
    unfold Answers.report MaintenanceReport.add
    cases hfails : answers.fails filter package (m.reconcile services w package).1.ledger <;>
      simp [hfails, filter, Answers.removals]

/-! ## Turns one after another -/

/-- The state of a pass after the turn of one more package. -/
def turn (services : Services ω) (s : Manager × ω × MaintenanceReport) (package : String) :
    Manager × ω × MaintenanceReport :=
  s.1.maintainPackage services s.2.1 s.2.2 package

theorem maintain_eq (services : Services ω) (m : Manager) (w : ω) :
    m.maintain services w = m.ledger.withSecondary.foldl (turn services) (m, w, ⟨0, 0, []⟩) := rfl

/-- The exchanges of the turns of packages in their order. -/
def passExchanges (services : Services ω) (s : Manager × ω × MaintenanceReport) :
    List String → List Exchange
  | [] => []
  | package :: rest =>
    s.1.turnExchanges services s.2.1 package ++
      passExchanges services (turn services s package) rest

theorem passExchanges_append (services : Services ω) (s : Manager × ω × MaintenanceReport)
    (before rest : List String) :
    passExchanges services s (before ++ rest) =
      passExchanges services s before ++
        passExchanges services (before.foldl (turn services) s) rest := by
  induction before generalizing s with
  | nil => rfl
  | cons package before ih =>
    rw [List.cons_append, passExchanges, passExchanges, ih, List.foldl_cons, List.append_assoc]

/-- Turns with logged services do what they do without the log, and their exchanges are
logged. -/
theorem foldl_turn_logged (services : Services ω) (m : Manager) (w : ω) (log : List Exchange)
    (report : MaintenanceReport) (packages : List String) :
    packages.foldl (turn services.logged) (m, (w, log), report) =
      let after := packages.foldl (turn services) (m, w, report)
      (after.1, (after.2.1, log ++ passExchanges services (m, w, report) packages), after.2.2) := by
  induction packages generalizing m w log report with
  | nil => simp [passExchanges]
  | cons package packages ih =>
    rw [List.foldl_cons, turn, maintainPackage_logged, ih]
    simp [passExchanges, turn]

/-- A pass with logged services does what it does without the log. -/
theorem maintain_logged (services : Services ω) (m : Manager) (w : ω) :
    m.maintain services.logged (w, []) =
      ((m.maintain services w).1,
        ((m.maintain services w).2.1,
          passExchanges services (m, w, ⟨0, 0, []⟩) m.ledger.withSecondary),
        (m.maintain services w).2.2) := by
  rw [maintain_eq, foldl_turn_logged, List.nil_append, maintain_eq]

variable {s : Manager × ω × MaintenanceReport} {packages : List String}

/-- What turns of distinct packages do, ask and report. -/
theorem foldl_turn_of_gives (hnodup : packages.Nodup)
    (h : ∀ x ∈ passExchanges services s packages, answers.Gives x) :
    let filter := s.1.policy.filterForReason .backgroundDexopt
    let t := packages.foldl (turn services) s
    answers.Maintains packages s.1 t.1 ∧
    passExchanges services s packages =
      packages.flatMap (fun p => answers.turn filter p s.1.ledger t.1.ledger) ∧
    t.2.2 = s.2.2.add (answers.report filter packages s.1.ledger t.1.ledger) := by
  induction packages generalizing s with
  | nil =>
    refine ⟨⟨rfl, fun _ _ => rfl, fun _ hq => absurd hq List.not_mem_nil⟩, rfl, ?_⟩
    simp [Answers.report, MaintenanceReport.add]
  | cons p packages ih =>
    intro filter t
    obtain ⟨hp, hnodup⟩ := List.nodup_cons.1 hnodup
    obtain ⟨hturn, hrest⟩ := List.forall_mem_append.1 h
    obtain ⟨-, hfirst, hasked, hreport⟩ := maintainPackage_of_gives s.2.2 hturn
    obtain ⟨hlater, hlog, hreports⟩ := ih hnodup hrest
    -- the turns of the others neither change nor depend on what the package has
    have hafter : (turn services s p).1.ledger.usage? p = t.1.ledger.usage? p :=
      (hlater.others p hp).symm
    have hbefore (q : String) (hq : q ∈ packages) :
        (turn services s p).1.ledger.usage? q = s.1.ledger.usage? q :=
      hfirst.others q fun hq' => hp (List.mem_singleton.1 hq' ▸ hq)
    have hpolicy : (turn services s p).1.policy = s.1.policy := hfirst.policy
    rw [hpolicy] at hlog hreports
    refine ⟨hfirst.cons hlater hp, ?_, ?_⟩
    · rw [passExchanges, hlog, List.flatMap_cons]
      refine congrArg₂ (· ++ ·) ?_ ?_
      · exact hasked.trans (Answers.turn_congr rfl hafter)
      · exact List.flatMap_congr fun q hq => Answers.turn_congr (hbefore q hq) rfl
    · have hfirst' : answers.report filter [p] s.1.ledger (turn services s p).1.ledger =
          answers.report filter [p] s.1.ledger t.1.ledger := by
        refine Answers.report_congr (fun _ _ => rfl) fun q hq => ?_
        rw [List.mem_singleton.1 hq, hafter]
      calc
        t.2.2 = (turn services s p).2.2.add
            (answers.report filter packages (turn services s p).1.ledger t.1.ledger) :=
          hreports
        _ = (s.2.2.add (answers.report filter [p] s.1.ledger t.1.ledger)).add
            (answers.report filter packages s.1.ledger t.1.ledger) := by
          rw [← hfirst', Answers.report_congr hbefore fun _ _ => rfl]
          exact congrArg (MaintenanceReport.add · _) hreport
        _ = s.2.2.add (answers.report filter (p :: packages) s.1.ledger t.1.ledger) := by
          rw [MaintenanceReport.add_assoc, ← Answers.report_cons]

/-- Where nothing speaks against any secondary file, turns change nothing. -/
theorem foldl_turn_of_settles (hsettles : ∀ p, answers.Settles s.1.ledger p)
    (h : ∀ x ∈ passExchanges services s packages, answers.Gives x) :
    (packages.foldl (turn services) s).1 = s.1 ∧
    (packages.foldl (turn services) s).2.2.removed = s.2.2.removed := by
  induction packages generalizing s with
  | nil => exact ⟨rfl, rfl⟩
  | cons p packages ih =>
    obtain ⟨hturn, hrest⟩ := List.forall_mem_append.1 h
    obtain ⟨hmanager, -⟩ := maintainPackage_of_gives s.2.2 hturn
    have hkeep : ∀ i ∈ (s.1.inspections services s.2.1 p).2, i.verdict = .keep := by
      rw [inspections_of_gives (List.forall_mem_append.1 hturn).1]
      intro i hi
      obtain ⟨e, he, rfl⟩ := List.mem_map.1 hi
      exact hsettles p e he
    have hswept := reconcile_of_keep hkeep
    rw [hswept] at hmanager
    have hremoved : (turn services s p).2.2.removed = s.2.2.removed := by
      simp only [turn, maintainPackage]
      rw [hswept]
      rfl
    have hsame : (turn services s p).1 = s.1 := hmanager
    obtain ⟨hlast, hlastRemoved⟩ := ih (s := turn services s p) (hsame ▸ hsettles) hrest
    exact ⟨hlast.trans hsame, hlastRemoved.trans hremoved⟩

/-- What a pass does, asks and reports. -/
theorem maintain_of_gives
    (h : ∀ x ∈ passExchanges services (m, w, ⟨0, 0, []⟩) m.ledger.withSecondary,
      answers.Gives x) :
    let filter := m.policy.filterForReason .backgroundDexopt
    let packages := m.ledger.withSecondary
    let pass := m.maintain services w
    answers.Maintains packages m pass.1 ∧
    passExchanges services (m, w, ⟨0, 0, []⟩) packages =
      packages.flatMap (fun p => answers.turn filter p m.ledger pass.1.ledger) ∧
    pass.2.2 = answers.report filter packages m.ledger pass.1.ledger := by
  have hnodup : m.ledger.withSecondary.Nodup :=
    m.ledger.packages.nodup_keys.sublist (List.filter_sublist.map _)
  obtain ⟨hmaintains, hasked, hreport⟩ := foldl_turn_of_gives hnodup h
  exact ⟨hmaintains, hasked, hreport.trans (MaintenanceReport.zero_add _)⟩

/-- A pass of idle maintenance with services that do not change their answers. It takes the
packages that have a secondary record at the start, each once and in the order of their names.
The turn of a package asks about each of its secondary files, and has those that are left
compiled, with their instruction sets, their shared mark and the filter for background
compilation. Records go only when a package is reconciled, and none is added or changed. The
report counts the packages and the secondary records that went, and lists the packages for
which a file that is left could not be looked up or compiled. A second pass with the same
answers changes nothing. -/
theorem maintain_exact {services : Services ω} {m : Manager} {w : ω} {answers : Answers}
    (h : ∀ x ∈ (m.maintain services.logged (w, [])).2.1.2, answers.Gives x) :
    let pass := m.maintain services w
    let log := (m.maintain services.logged (w, [])).2.1.2
    let after := pass.1.ledger
    let packages := m.ledger.withSecondary
    let filter := m.policy.filterForReason .backgroundDexopt
    m.maintain services.logged (w, []) = (pass.1, (pass.2.1, log), pass.2.2) ∧
    packages.Pairwise (· < ·) ∧
    (∀ p, p ∈ packages ↔ ∃ path r, m.ledger.record? p path = some r ∧ r.isSecondary) ∧
    log = packages.flatMap (fun p => answers.turn filter p m.ledger after) ∧
    log.filterMap Exchange.optimization? =
      packages.flatMap (fun p =>
        (after.secondaryOf p).filterMap (answers.request? p filter false)) ∧
    (∀ p path, after.record? p path =
      (m.ledger.record? p path).filter (answers.spares m.ledger p path)) ∧
    (∀ before p rest, packages = before ++ p :: rest →
      let start := before.foldl (turn services) (m, w, ⟨0, 0, []⟩)
      let swept := start.1.reconcile services start.2.1 p
      (swept.1.optimize services swept.2.1 p (.reason .backgroundDexopt) false false).1 =
        swept.1) ∧
    pass.2.2.packages = packages.length ∧
    pass.2.2.removed = (packages.flatMap fun p =>
      (m.ledger.secondaryOf p).filter fun e => (after.record? p e.1).isNone).length ∧
    pass.2.2.failed = packages.filter (fun p => (after.secondaryOf p).any
      fun e => (answers.compile p filter false e).failed) ∧
    ∀ {ω' : Type} (services' : Services ω') (w' : ω'),
      (∀ x ∈ (pass.1.maintain services'.logged (w', [])).2.1.2, answers.Gives x) →
      (pass.1.maintain services' w').1 = pass.1 ∧
      (pass.1.maintain services' w').2.2.removed = 0 := by
  have hlogged := maintain_logged services m w
  rw [hlogged] at h ⊢
  intro pass log after packages filter
  obtain ⟨hmaintains, hasked, hreport⟩ := maintain_of_gives h
  refine ⟨rfl, m.ledger.ascending_withSecondary, fun _ => Ledger.mem_withSecondary_iff, hasked,
    ?_, hmaintains.record?, ?_, congrArg (·.packages) hreport, congrArg (·.removed) hreport,
    congrArg (·.failed) hreport, ?_⟩
  · refine (congrArg (List.filterMap Exchange.optimization?) hasked).trans ?_
    rw [List.filterMap_flatMap]
    simp only [Answers.filterMap_turn]
    rfl
  · intro before p rest hsplit
    have hturns : ∀ x ∈ passExchanges services (m, w, ⟨0, 0, []⟩) (before ++ p :: rest),
        answers.Gives x := hsplit ▸ h
    rw [passExchanges_append] at hturns
    have hturn := (List.forall_mem_append.1 (List.forall_mem_append.1 hturns).2).1
    exact (optimize_reconcile_of_gives hturn).1
  · intro ω' services' w' h'
    rw [maintain_logged] at h'
    exact foldl_turn_of_settles (fun p => Answers.settles_of_records (hmaintains.record? p)) h'

/-- A package with a private storage area. -/
def storedApp : PackageInfo where
  name := "a"
  uid := 10
  base := "/app/a.apk"
  splits := []
  dataDir := some "/data/a"
  deviceDir := none
  credentialDir := some "/data/a"
  volume := none
  isas := ["arm64"]

/-- Two packages with secondary files, two of the one and one of the other. -/
def twoPackages : Manager :=
  (new ⟨[], ["arm64"], .empty⟩).updateLedger
    (recordAll .empty [⟨"b", "/data/b/z", 0, "arm64", false, false⟩,
      ⟨"a", "/data/a/x", 0, "arm64", true, false⟩, ⟨"a", "/data/a/y", 0, "arm64", false, false⟩])

/-- The one package is installed and has lost a file, the other cannot be looked up. -/
def oneFileLost : Rehearsal :=
  ((Rehearsal.empty.install storedApp 0).setFile "/data/a/x" true).setFailing "b" true

/-- The file that is lost is dropped, the other one is compiled, and the package that cannot be
looked up is reported. A second pass changes nothing. -/
theorem maintain_twoPackages :
    let after := (twoPackages.maintain Rehearsal.services oneFileLost).1
    (twoPackages.maintain Rehearsal.services oneFileLost).2.2 = ⟨2, 1, ["b"]⟩ ∧
    after.ledger.secondaryOf "a" =
      [("/data/a/x", ⟨0, .ofList ["arm64"], true, false⟩)] ∧
    (after.maintain Rehearsal.services oneFileLost).1 = after := by
  have hgives : ∀ x ∈ (twoPackages.maintain Rehearsal.services.logged (oneFileLost, [])).2.1.2,
      (Rehearsal.services.answersAt oneFileLost).Gives x := by decide +kernel
  obtain ⟨-, -, -, -, -, -, -, -, -, -, hagain⟩ := maintain_exact hgives
  refine ⟨by decide +kernel, by decide +kernel, ?_⟩
  exact (hagain Rehearsal.services oneFileLost (by decide +kernel)).1

end Manager

end DexTrail
