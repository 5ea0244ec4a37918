-- SUMMARY: Exactly which registrations are accepted, and that a refused one leaves no trace.
import DexTrail.Proofs.Manager.Exchanges
import DexTrail.Proofs.Manager.Registration

/-!
# Accepted registrations

A registration asks the helper about the file. Its answer decides, together with what the
manager knows by then, what the registration leaves behind and how it is answered
(`Manager.settleRegistration`). The optimizer is asked last, and nothing comes of its answer.
So a registration is accepted exactly for an existing file that is attributed to the package as
a secondary one, if the package has an instruction set (`Manager.register_exact`).
-/

namespace DexTrail

variable {ω : Type}

namespace Manager

variable {m : Manager} {app : PackageInfo} {path : String} {shared : Bool} {user : UserId}

/-! ## Obstacles -/

/-- Nothing stands in the way of a file exactly when it is attributed to the package as a
secondary one and the package has an instruction set. -/
theorem registerObstacle?_eq_none_iff :
    m.registerObstacle? app path user = none ↔
      m.resolve app path user = ⟨some app.name, .secondary⟩ ∧ app.isas ≠ [] := by
  unfold registerObstacle?
  rcases m.resolve app path user with ⟨owner, outcome⟩
  by_cases howner : owner = some app.name
  · cases outcome <;> simp [howner, Match.isCode]
  · cases outcome <;> simp [howner]

/-! ## What a registration comes to -/

/-- What a registration leaves and how it is answered, given what the helper says of the
file. -/
def settleRegistration (m : Manager) (app : PackageInfo) (path : String) (shared : Bool)
    (user : UserId) : Except HelperError Bool → Manager × Registration
  | .ok false => (m, .missing)
  | .error _ => (m, .inaccessible)
  | .ok true =>
    match m.registerObstacle? app path user with
    | some obstacle => (m, obstacle)
    | none =>
      (m.updateLedger (recordAll m.ledger (app.isas.map (moduleLoad app.name path user shared))),
        .registered)

/-- What the optimizer is asked for a registered module. -/
def moduleRequest (m : Manager) (app : PackageInfo) (path : String) (shared : Bool) :
    Optimization :=
  { app, path, isas := .ofList app.isas, filter := m.policy.filterForReason .install, shared,
    force := false }

/-- A registration is answered as a success, or it leaves the manager as it was. -/
theorem settleRegistration_of_refused {answer : Except HelperError Bool}
    (h : (m.settleRegistration app path shared user answer).2.success = false) :
    (m.settleRegistration app path shared user answer).1 = m := by
  rcases answer with _ | _ | _
  · rfl
  · rfl
  · unfold settleRegistration at h ⊢
    cases hobstacle : m.registerObstacle? app path user with
    | some obstacle => rfl
    | none =>
      rw [hobstacle] at h
      cases h

theorem success_settleRegistration_iff {answer : Except HelperError Bool} :
    (m.settleRegistration app path shared user answer).2.success ↔
      answer = .ok true ∧ m.resolve app path user = ⟨some app.name, .secondary⟩ ∧
        app.isas ≠ [] := by
  rw [← registerObstacle?_eq_none_iff]
  rcases answer with _ | _ | _
  · simp [settleRegistration, Registration.success]
  · simp [settleRegistration, Registration.success]
  · rcases m.registerObstacle?_cases app path user with ⟨hnone, -⟩ | ⟨obstacle, hsome, hfails⟩
    · simp [settleRegistration, hnone, Registration.success]
    · simp [settleRegistration, hsome, hfails]

/-- What a registration leaves and answers depends on the services only in what the helper
says of the file. -/
theorem register_eq_settle (services : Services ω) (m : Manager) (w : ω) (app : PackageInfo)
    (path : String) (shared : Bool) (user : UserId) :
    ((m.register services w app path shared user).1,
        (m.register services w app path shared user).2.2) =
      m.settleRegistration app path shared user (services.fileExists .held path w).2 := by
  unfold register settleRegistration
  rcases services.fileExists .held path w with ⟨w, _ | _ | _⟩
  · rfl
  · rfl
  · dsimp only
    cases m.registerObstacle? app path user with
    | some obstacle => rfl
    | none => rfl

/-! ## What a registration asks -/

/-- The exchanges of a registration in their order. -/
def registerExchanges (services : Services ω) (m : Manager) (w : ω) (app : PackageInfo)
    (path : String) (shared : Bool) (user : UserId) : List Exchange :=
  let found := services.fileExists .held path w
  let request := m.moduleRequest app path shared
  .fileExists .held path found.2 ::
    if (m.settleRegistration app path shared user found.2).2.success then
      [.optimize request (services.optimize request found.1).2]
    else []

section

variable {services : Services ω} {w : ω}

theorem registerExchanges_of_refused
    (h : (m.settleRegistration app path shared user
      (services.fileExists .held path w).2).2.success = false) :
    m.registerExchanges services w app path shared user =
      [.fileExists .held path (services.fileExists .held path w).2] := by
  simp [registerExchanges, h]

theorem registerExchanges_of_accepted
    (h : (m.settleRegistration app path shared user
      (services.fileExists .held path w).2).2.success = true) :
    m.registerExchanges services w app path shared user =
      [.fileExists .held path (.ok true), .optimize (m.moduleRequest app path shared)
        (services.optimize (m.moduleRequest app path shared)
          (services.fileExists .held path w).1).2] := by
  have hexists : (services.fileExists .held path w).2 = .ok true :=
    (success_settleRegistration_iff.1 h).1
  rw [hexists] at h
  simp [registerExchanges, hexists, h]

end

/-- A registration with logged services does what it does without the log, and its exchanges
are logged. -/
theorem register_logged (services : Services ω) (m : Manager) (w : ω) (log : List Exchange)
    (app : PackageInfo) (path : String) (shared : Bool) (user : UserId) :
    m.register services.logged (w, log) app path shared user =
      ((m.register services w app path shared user).1,
        ((m.register services w app path shared user).2.1,
          log ++ m.registerExchanges services w app path shared user),
        (m.register services w app path shared user).2.2) := by
  have hpolicy (result : Ledger × Bool) : (m.updateLedger result).policy = m.policy := rfl
  unfold register registerExchanges settleRegistration
  rw [logged_fileExists]
  rcases services.fileExists .held path w with ⟨w, _ | _ | _⟩
  · rfl
  · rfl
  · dsimp only
    rcases m.registerObstacle?_cases app path user with ⟨hnone, -⟩ | ⟨obstacle, hsome, hfails⟩
    · simp [hnone, moduleRequest, Registration.success, hpolicy]
    · simp [hsome, hfails]

/-! ## Acceptance -/

/-- A registration is answered as a success exactly when the helper says that the file exists,
the file is attributed to the package as a secondary one, and the package has an instruction
set. Any other registration leaves the manager as it was, and asks nothing but whether the file
exists. After a success the optimizer has been asked once, with all instruction sets of the
package and the filter for installation. Whatever it and the other services answer, what the
registration leaves and how it is answered depend on the answer about the file alone. -/
theorem register_exact (services : Services ω) (m : Manager) (w : ω) (app : PackageInfo)
    (path : String) (shared : Bool) (user : UserId) :
    let found := services.fileExists .held path w
    let result := m.register services w app path shared user
    let log := (m.register services.logged (w, []) app path shared user).2.1.2
    let request : Optimization :=
      { app, path, isas := .ofList app.isas, filter := m.policy.filterForReason .install, shared,
        force := false }
    m.register services.logged (w, []) app path shared user =
      (result.1, (result.2.1, log), result.2.2) ∧
    (result.2.2.success ↔
      found.2 = .ok true ∧ m.resolve app path user = ⟨some app.name, .secondary⟩ ∧
        app.isas ≠ []) ∧
    (result.2.2.success = false →
      result.1 = m ∧ log = [.fileExists .held path found.2]) ∧
    (result.2.2.success →
      log = [.fileExists .held path (.ok true),
        .optimize request (services.optimize request found.1).2]) ∧
    ∀ {ω' : Type} (services' : Services ω') (w' : ω'),
      (services'.fileExists .held path w').2 = found.2 →
      (m.register services' w' app path shared user).1 = result.1 ∧
      (m.register services' w' app path shared user).2.2 = result.2.2 := by
  intro found result log request
  have hlogged := register_logged services m w [] app path shared user
  have hlog : log = m.registerExchanges services w app path shared user :=
    congrArg (·.2.1.2) hlogged
  have hsettled : (result.1, result.2.2) = m.settleRegistration app path shared user found.2 :=
    register_eq_settle services m w app path shared user
  have hanswer : result.2.2 = (m.settleRegistration app path shared user found.2).2 :=
    congrArg Prod.snd hsettled
  have haccepted : result.2.2.success ↔
      found.2 = .ok true ∧ m.resolve app path user = ⟨some app.name, .secondary⟩ ∧
        app.isas ≠ [] := by
    rw [hanswer]
    exact success_settleRegistration_iff
  refine ⟨?_, haccepted, ?_, ?_, ?_⟩
  · rw [hlog]
    exact hlogged
  · intro hrefused
    have hfails := hanswer ▸ hrefused
    exact ⟨(congrArg Prod.fst hsettled).trans (settleRegistration_of_refused hfails),
      hlog.trans (registerExchanges_of_refused hfails)⟩
  · intro hsuccess
    exact hlog.trans (registerExchanges_of_accepted (hanswer ▸ hsuccess))
  · intro ω' services' w' hsame
    have hsettled' := register_eq_settle services' m w' app path shared user
    rw [hsame, ← hsettled] at hsettled'
    exact ⟨congrArg Prod.fst hsettled', congrArg Prod.snd hsettled'⟩

end Manager

end DexTrail
