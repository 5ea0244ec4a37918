-- SUMMARY: Services with a log of their exchanges, and what the log of a reconciliation holds.
import DexTrail.Proofs.Manager.Reconciliation
import Mathlib.Data.List.Basic

/-!
# Exchanges with the services

Services can keep a log of what they are asked and what they answer (`Services.logged`). The
manager does not notice. What a reconciliation asks is read off its inspections, so the log
grows by their exchanges. Services whose answers do not change are described by functions
(`Answers`): they give what is in the log.
-/

namespace DexTrail

variable {ω : Type}

/-! ## Logs -/

/-- A question to a service with its answer. -/
inductive Exchange where
  | lookup (package : String) (user : UserId) (answer : Except AuthorityError (Option PackageInfo))
  | enumerate (answer : Except AuthorityError InstalledPackages)
  | fileExists (lock : InstallLock) (path : String) (answer : Except HelperError Bool)
  | cleanUp (lock : InstallLock) (request : Cleanup) (answer : Except HelperError Bool)
  | optimize (request : Optimization) (answer : OptimizeResult)

/-- The request of an exchange with the optimizer. -/
def Exchange.optimization? : Exchange → Option Optimization
  | .optimize request _ => some request
  | _ => none

/-- The services with a log of their exchanges. New ones come last. -/
def Services.logged (services : Services ω) : Services (ω × List Exchange) where
  lookup package user s :=
    let (w, answer) := services.lookup package user s.1
    ((w, s.2 ++ [.lookup package user answer]), answer)
  enumerate s :=
    let (w, answer) := services.enumerate s.1
    ((w, s.2 ++ [.enumerate answer]), answer)
  fileExists lock path s :=
    let (w, answer) := services.fileExists lock path s.1
    ((w, s.2 ++ [.fileExists lock path answer]), answer)
  cleanUp lock request s :=
    let (w, answer) := services.cleanUp lock request s.1
    ((w, s.2 ++ [.cleanUp lock request answer]), answer)
  optimize request s :=
    let (w, answer) := services.optimize request s.1
    ((w, s.2 ++ [.optimize request answer]), answer)

section

variable (services : Services ω) (w : ω) (log : List Exchange)

@[simp] theorem logged_lookup (package : String) (user : UserId) :
    services.logged.lookup package user (w, log) =
      (((services.lookup package user w).1,
        log ++ [.lookup package user (services.lookup package user w).2]),
        (services.lookup package user w).2) := rfl

@[simp] theorem logged_fileExists (lock : InstallLock) (path : String) :
    services.logged.fileExists lock path (w, log) =
      (((services.fileExists lock path w).1,
        log ++ [.fileExists lock path (services.fileExists lock path w).2]),
        (services.fileExists lock path w).2) := rfl

@[simp] theorem logged_cleanUp (lock : InstallLock) (request : Cleanup) :
    services.logged.cleanUp lock request (w, log) =
      (((services.cleanUp lock request w).1,
        log ++ [.cleanUp lock request (services.cleanUp lock request w).2]),
        (services.cleanUp lock request w).2) := rfl

@[simp] theorem logged_optimize (request : Optimization) :
    services.logged.optimize request (w, log) =
      (((services.optimize request w).1,
        log ++ [.optimize request (services.optimize request w).2]),
        (services.optimize request w).2) := rfl

end

/-! ## The exchanges of an inspection -/

namespace Inspection

/-- What the helper is asked in an inspection. -/
def request? (package : String) (i : Inspection) : Option Cleanup :=
  match i.lookup with
  | .ok (some app) =>
    (app.storageOf? i.path).map fun storage =>
      { path := i.path, package, uid := app.uid, isas := i.record.isas.toList, volume := app.volume,
        storage }
  | _ => none

/-- The exchanges that an inspection consists of. -/
def exchanges (package : String) (i : Inspection) : List Exchange :=
  .lookup package i.record.owner i.lookup ::
    match i.request? package, i.cleanUp with
    | some request, some answer => [.cleanUp .held request answer]
    | _, _ => []

end Inspection

theorem inspect_logged (services : Services ω) (package : String) (w : ω) (log : List Exchange)
    (e : String × UsageRecord) :
    inspect services.logged package (w, log) e =
      (((inspect services package w e).1,
        log ++ (inspect services package w e).2.exchanges package),
        (inspect services package w e).2) := by
  unfold inspect
  rw [logged_lookup]
  rcases services.lookup package e.2.owner w with ⟨w, _ | _ | app⟩
  · rfl
  · rfl
  · dsimp only
    cases hstorage : app.storageOf? e.1 with
    | none => simp [Inspection.exchanges, Inspection.request?, hstorage]
    | some storage => simp [Inspection.exchanges, Inspection.request?, hstorage]

theorem inspectAll_logged (services : Services ω) (package : String) (w : ω) (log : List Exchange)
    (files : List (String × UsageRecord)) :
    inspectAll services.logged package (w, log) files =
      (((inspectAll services package w files).1,
        log ++ (inspectAll services package w files).2.flatMap (·.exchanges package)),
        (inspectAll services package w files).2) := by
  induction files generalizing w log with
  | nil => simp [inspectAll]
  | cons e files ih => simp [inspectAll, inspect_logged, ih]

/-- The helper is asked exactly when there is a request for it. -/
theorem asks_inspect (services : Services ω) (package : String) (w : ω)
    (e : String × UsageRecord) :
    (inspect services package w e).2.cleanUp.isSome =
      ((inspect services package w e).2.request? package).isSome := by
  unfold inspect
  rcases services.lookup package e.2.owner w with ⟨w, _ | _ | app⟩
  · rfl
  · rfl
  · dsimp only
    cases hstorage : app.storageOf? e.1 with
    | none => simp [Inspection.request?, hstorage]
    | some storage => simp [Inspection.request?, hstorage]

/-! ## The exchanges of a reconciliation -/

/-- The consequences of inspections are the same in any outside world. -/
theorem Sweep.exists_foldl_settle (package : String) (usage : PackageUsage) (l : Ledger)
    (removed : SortedSet String) (inspected : List Inspection) :
    ∃ l' removed', ∀ {ω : Type} (w : ω),
      inspected.foldl (settle package usage) ⟨l, removed, w⟩ = ⟨l', removed', w⟩ := by
  induction inspected generalizing l removed with
  | nil => exact ⟨l, removed, fun _ => rfl⟩
  | cons i inspected ih =>
    obtain ⟨l₁, removed₁, h₁⟩ := exists_settle package usage l removed i
    obtain ⟨l₂, removed₂, h₂⟩ := ih l₁ removed₁
    refine ⟨l₂, removed₂, fun w => ?_⟩
    rw [List.foldl_cons, h₁, h₂]

namespace Manager

/-- The exchanges of a reconciliation in their order. -/
def reconcileExchanges (services : Services ω) (m : Manager) (w : ω) (package : String) :
    List Exchange :=
  (m.inspections services w package).2.flatMap (·.exchanges package)

/-- A reconciliation with logged services does what it does without the log, and its exchanges
are logged. -/
theorem reconcile_logged (services : Services ω) (m : Manager) (w : ω) (log : List Exchange)
    (package : String) :
    m.reconcile services.logged (w, log) package =
      ((m.reconcile services w package).1,
        ((m.reconcile services w package).2.1, log ++ m.reconcileExchanges services w package),
        (m.reconcile services w package).2.2) := by
  unfold reconcile reconcileExchanges inspections Ledger.secondaryOf
  cases m.ledger.usage? package with
  | none => simp [inspectAll]
  | some usage =>
    obtain ⟨l', removed', h⟩ := Sweep.exists_foldl_settle package usage m.ledger .empty
      (inspectAll services package w usage.secondary).2
    simp only [Sweep.run, Sweep.run_eq, inspectAll_logged, h]

end Manager

/-! ## Services that do not change their answers -/

/-- What services answer that always answer the same question the same. -/
structure Answers where
  lookup : String → UserId → Except AuthorityError (Option PackageInfo)
  enumerate : Except AuthorityError InstalledPackages
  fileExists : InstallLock → String → Except HelperError Bool
  cleanUp : InstallLock → Cleanup → Except HelperError Bool
  optimize : Optimization → OptimizeResult

/-- The answers that services give in one state of the outside world. -/
def Services.answersAt (services : Services ω) (w : ω) : Answers where
  lookup package user := (services.lookup package user w).2
  enumerate := (services.enumerate w).2
  fileExists lock path := (services.fileExists lock path w).2
  cleanUp lock request := (services.cleanUp lock request w).2
  optimize request := (services.optimize request w).2

namespace Answers

/-- The answer of an exchange is the one that is always given. -/
def Gives (answers : Answers) : Exchange → Prop
  | .lookup package user answer => answers.lookup package user = answer
  | .enumerate answer => answers.enumerate = answer
  | .fileExists lock path answer => answers.fileExists lock path = answer
  | .cleanUp lock request answer => answers.cleanUp lock request = answer
  | .optimize request answer => answers.optimize request = answer

instance (answers : Answers) : (x : Exchange) → Decidable (answers.Gives x)
  | .lookup _ _ _ => inferInstanceAs (Decidable (_ = _))
  | .enumerate _ => inferInstanceAs (Decidable (_ = _))
  | .fileExists _ _ _ => inferInstanceAs (Decidable (_ = _))
  | .cleanUp _ _ _ => inferInstanceAs (Decidable (_ = _))
  | .optimize _ _ => inferInstanceAs (Decidable (_ = _))

variable {answers : Answers}

/-- What is asked about a secondary file, with the answers. -/
def inspect (answers : Answers) (package : String) (e : String × UsageRecord) : Inspection :=
  let i : Inspection := ⟨e.1, e.2, answers.lookup package e.2.owner, none⟩
  { i with cleanUp := (i.request? package).map (answers.cleanUp .held) }

/-- An inspection whose exchanges are as the answers say is the one with the answers. -/
theorem inspect_eq {package : String} {i : Inspection}
    (hasked : i.cleanUp.isSome = (i.request? package).isSome)
    (h : ∀ x ∈ i.exchanges package, answers.Gives x) :
    answers.inspect package (i.path, i.record) = i := by
  have hlookup : answers.lookup package i.record.owner = i.lookup := h _ List.mem_cons_self
  have hcleanUp : (i.request? package).map (answers.cleanUp .held) = i.cleanUp := by
    unfold Inspection.exchanges at h
    cases hrequest : i.request? package with
    | none =>
      rw [hrequest, Option.isSome_none, Option.isSome_eq_false_iff, Option.isNone_iff_eq_none]
        at hasked
      rw [hasked]
      rfl
    | some request =>
      rw [hrequest, Option.isSome_some, Option.isSome_iff_exists] at hasked
      obtain ⟨answer, hanswer⟩ := hasked
      rw [hrequest, hanswer] at h
      have hgives : answers.cleanUp .held request = answer :=
        h (.cleanUp .held request answer) (by simp)
      rw [hanswer, Option.map_some, hgives]
  unfold inspect
  rw [hlookup]
  exact congrArg (Inspection.mk i.path i.record i.lookup) hcleanUp

/-- Where the exchanges are as the answers say, the inspections are those with the answers. -/
theorem inspectAll_eq {services : Services ω} {package : String} {w : ω}
    {files : List (String × UsageRecord)}
    (h : ∀ x ∈ (inspectAll services package w files).2.flatMap (·.exchanges package),
      answers.Gives x) :
    (inspectAll services package w files).2 = files.map (answers.inspect package) := by
  let inspected := (inspectAll services package w files).2
  calc
    inspected = inspected.map fun i => answers.inspect package (i.path, i.record) := by
        refine (List.map_id' _).symm.trans (List.map_congr_left fun i hi => ?_)
        have hgives : ∀ x ∈ i.exchanges package, answers.Gives x :=
          fun x hx => h x (List.mem_flatMap.2 ⟨i, hi, hx⟩)
        obtain ⟨w, e, rfl⟩ := exists_of_mem_inspectAll hi
        exact (inspect_eq (asks_inspect services package w e) hgives).symm
    _ = (inspected.map fun i => (i.path, i.record)).map (answers.inspect package) := by
        rw [List.map_map]
        rfl
    _ = files.map (answers.inspect package) := by rw [map_inspectAll]

end Answers

end DexTrail
