-- SUMMARY: The calls, the answer and the remaining ledger of the optimization of a package.
import DexTrail.Manager.Rehearsal
import DexTrail.Proofs.Manager.Optimization

/-!
# Optimization of a package

The optimization of a package looks its files up one after the other, for their owners. What
the authority answers decides for each file whether the optimizer is asked, whether the owner's
records go, or whether the pass has failed. An authority that always answers the same for a
package and a user (`Authority`) so determines the calls of the pass and the records that it
leaves, whatever goes on the way (`Manager.optimize_exact`).
-/

namespace DexTrail

variable {ω : Type}

/-! ## Files under consideration -/

namespace Ledger

variable {l : Ledger} {package path : String} {r : UsageRecord}

theorem ascending_secondaryOf (l : Ledger) (package : String) :
    (l.secondaryOf package).Pairwise fun e e' => e.1 < e'.1 := by
  unfold secondaryOf
  cases l.usage? package with
  | none => exact .nil
  | some usage => exact usage.ascending_toList.filter _

/-- The secondary files of a package, or those of them that others use. -/
def considered (l : Ledger) (package : String) (onlyShared : Bool) : List (String × UsageRecord) :=
  (l.secondaryOf package).filter fun e => !onlyShared || e.2.shared

theorem mem_considered_iff {onlyShared : Bool} :
    (path, r) ∈ l.considered package onlyShared ↔
      l.record? package path = some r ∧ r.isSecondary ∧ (onlyShared → r.shared) := by
  unfold considered
  rw [List.mem_filter, mem_secondaryOf_iff, and_assoc]
  cases onlyShared <;> simp

end Ledger

/-! ## Compilations -/

namespace Compilation

/-- A compilation has failed when the package could not be looked up, or when the optimizer says
that it failed. -/
theorem failed_eq_false_iff {c : Compilation} (package : String) :
    c.failed = false ↔
      (∀ fault, c.lookup ≠ .error fault) ∧
        ∀ request, .optimize request .failed ∉ c.exchanges package := by
  unfold failed exchanges
  rcases c.lookup with fault | found
  · simp
  · rcases c.optimized with _ | ⟨request, result⟩
    · simp
    · cases result <;> simp

theorem forall_failed_eq_false_iff {compiled : List Compilation} (package : String) :
    (∀ c ∈ compiled, c.failed = false) ↔
      (∀ c ∈ compiled, ∀ fault, c.lookup ≠ .error fault) ∧
        ∀ request, .optimize request .failed ∉ compiled.flatMap (·.exchanges package) := by
  simp only [failed_eq_false_iff package, List.mem_flatMap]
  constructor
  · intro h
    refine ⟨fun c hc => (h c hc).1, ?_⟩
    rintro request ⟨c, hc, hfailed⟩
    exact (h c hc).2 request hfailed
  · rintro ⟨hlookups, hrequests⟩ c hc
    exact ⟨hlookups c hc, fun request hfailed => hrequests request ⟨c, hc, hfailed⟩⟩

end Compilation

theorem compileFile_fields (services : Services ω) (package filter : String) (force : Bool) (w : ω)
    (e : String × UsageRecord) :
    (compileFile services package filter force w e).2.record = e.2 ∧
      ((compileFile services package filter force w e).2.IsUninstalled →
        (compileFile services package filter force w e).2.failed = false) := by
  unfold compileFile
  rcases services.lookup package e.2.owner w with ⟨w, _ | _ | app⟩
  · refine ⟨rfl, fun h => ?_⟩
    cases h
  · exact ⟨rfl, fun _ => rfl⟩
  · refine ⟨rfl, fun h => ?_⟩
    cases h

/-- An owner without the package is no failure. -/
theorem failed_of_isUninstalled {services : Services ω} {package filter : String} {force : Bool}
    {w : ω} {files : List (String × UsageRecord)} {c : Compilation}
    (hc : c ∈ (compileAll services package filter force w files).2) (h : c.IsUninstalled) :
    c.failed = false := by
  induction files generalizing w with
  | nil => cases hc
  | cons e files ih =>
    rcases List.mem_cons.1 hc with rfl | hc
    · exact (compileFile_fields services package filter force w e).2 h
    · exact ih hc

/-! ## Consequences -/

namespace OptimizePass

/-- A compilation leaves the records that were there, but for those of the package whose owner is
found not to have it. -/
theorem record?_settle {package : String} {p : OptimizePass ω} {c : Compilation} {q path : String}
    {r : UsageRecord} :
    (p.settle package c).ledger.record? q path = some r ↔
      p.ledger.record? q path = some r ∧
        (q = package → c.IsUninstalled → c.record.owner ≠ r.owner) := by
  unfold settle Compilation.IsUninstalled
  rcases c.lookup with fault | _ | app
  · simp
  · simp only [Ledger.removeUser, Ledger.record?_restrict]
    by_cases hq : q = package
    · rw [if_pos hq, Option.filter_eq_some_iff, bne_iff_ne]
      simp [hq, ne_comm]
    · simp [hq]
  · simp

theorem record?_foldl_settle {package : String} {p : OptimizePass ω} {compiled : List Compilation}
    {q path : String} {r : UsageRecord} :
    (compiled.foldl (settle package) p).ledger.record? q path = some r ↔
      p.ledger.record? q path = some r ∧
        (q = package → ∀ c ∈ compiled, c.IsUninstalled → c.record.owner ≠ r.owner) := by
  induction compiled generalizing p with
  | nil => simp
  | cons c compiled ih =>
    rw [List.foldl_cons, ih, record?_settle, and_assoc, ← imp_and, List.forall_mem_cons]

theorem success_settle {package : String} {p : OptimizePass ω} {c : Compilation}
    (h : c.IsUninstalled → c.failed = false) :
    (p.settle package c).success = (p.success && !c.failed) := by
  unfold Compilation.IsUninstalled at h
  unfold settle
  rcases hlookup : c.lookup with fault | _ | app
  · simp [Compilation.failed, hlookup]
  · simp [h hlookup]
  · rfl

/-- A pass succeeds when no compilation failed. -/
theorem success_foldl_settle {package : String} {p : OptimizePass ω} {compiled : List Compilation}
    (h : ∀ c ∈ compiled, c.IsUninstalled → c.failed = false) :
    (compiled.foldl (settle package) p).success = true ↔
      p.success = true ∧ ∀ c ∈ compiled, c.failed = false := by
  induction compiled generalizing p with
  | nil => simp
  | cons c compiled ih =>
    obtain ⟨hc, hcompiled⟩ := List.forall_mem_cons.1 h
    rw [List.foldl_cons, ih hcompiled, success_settle hc, Bool.and_eq_true, Bool.not_eq_true',
      and_assoc, List.forall_mem_cons]

end OptimizePass

namespace Manager

/-- What a pass leaves and answers, in terms of its compilations. -/
theorem optimize_spec (services : Services ω) (m : Manager) (w : ω) (package : String)
    (target : CompilerTarget) (force onlyShared : Bool) :
    let pass := m.optimize services w package target force onlyShared
    let compiled := (m.compilations services w package target force onlyShared).2
    (∀ q path r, pass.1.ledger.record? q path = some r ↔
      m.ledger.record? q path = some r ∧
        (q = package → ∀ c ∈ compiled, c.IsUninstalled → c.record.owner ≠ r.owner)) ∧
    (pass.2.2 = true ↔ ∀ c ∈ compiled, c.failed = false) := by
  intro pass compiled
  have hcompiled : ∀ c ∈ compiled, c.IsUninstalled → c.failed = false :=
    fun c hc => failed_of_isUninstalled hc
  simp only [pass, compiled, compilations, Ledger.secondaryOf, optimize] at hcompiled ⊢
  cases hu : m.ledger.usage? package with
  | none => simp [compileAll]
  | some usage =>
    rw [hu] at hcompiled
    simp only [OptimizePass.foldl_compile]
    refine ⟨fun q path r => OptimizePass.record?_foldl_settle, ?_⟩
    rw [OptimizePass.success_foldl_settle hcompiled]
    simp

end Manager

/-! ## Constant authorities -/

/-- What an authority answers that always answers the same for a package and a user. -/
abbrev Authority := String → UserId → Except AuthorityError (Option PackageInfo)

namespace Authority

/-- If the exchange is one with the authority, the answer is the one that is always given. -/
def Gives (authority : Authority) : Exchange → Prop
  | .lookup package user answer => authority package user = answer
  | _ => True

instance (authority : Authority) : (x : Exchange) → Decidable (authority.Gives x)
  | .lookup _ _ _ => inferInstanceAs (Decidable (_ = _))
  | .enumerate _ => inferInstanceAs (Decidable True)
  | .fileExists _ _ _ => inferInstanceAs (Decidable True)
  | .cleanUp _ _ _ => inferInstanceAs (Decidable True)
  | .optimize _ _ => inferInstanceAs (Decidable True)

/-- The calls for a secondary file: its package is looked up for the owner and, where it is
found, the optimizer is asked. -/
def calls (authority : Authority) (package filter : String) (force : Bool)
    (e : String × UsageRecord) : List ServiceCall :=
  .lookup package e.2.owner ::
    match authority package e.2.owner with
    | .ok (some app) =>
      [.optimize { app, path := e.1, isas := e.2.isas, filter, shared := e.2.shared, force }]
    | _ => []

end Authority

/-- The call of an exchange, without its answer. -/
def Exchange.call? : Exchange → Option ServiceCall
  | .lookup package user _ => some (.lookup package user)
  | .enumerate _ => none
  | .fileExists lock path _ => some (.fileExists path lock)
  | .cleanUp lock request _ => some (.cleanUp request lock)
  | .optimize request _ => some (.optimize request)

namespace Authority

variable {authority : Authority} {services : Services ω} {package filter : String} {force : Bool}
  {w : ω}

theorem compileFile_of_gives {e : String × UsageRecord}
    (h : ∀ x ∈ (compileFile services package filter force w e).2.exchanges package,
      authority.Gives x) :
    (compileFile services package filter force w e).2.lookup = authority package e.2.owner ∧
      ((compileFile services package filter force w e).2.exchanges package).map Exchange.call? =
        (authority.calls package filter force e).map some := by
  have hlookup : authority package (compileFile services package filter force w e).2.record.owner =
      (compileFile services package filter force w e).2.lookup := h _ List.mem_cons_self
  rw [(compileFile_fields services package filter force w e).1] at hlookup
  refine ⟨hlookup.symm, ?_⟩
  unfold calls
  rw [hlookup]
  unfold compileFile
  rcases services.lookup package e.2.owner w with ⟨w, _ | _ | app⟩ <;> rfl

/-- The authority decides the calls for all files. -/
theorem calls_compileAll {files : List (String × UsageRecord)}
    (h : ∀ x ∈ (compileAll services package filter force w files).2.flatMap
      (·.exchanges package), authority.Gives x) :
    ((compileAll services package filter force w files).2.flatMap
        (·.exchanges package)).map Exchange.call? =
      (files.flatMap (authority.calls package filter force)).map some := by
  induction files generalizing w with
  | nil => rfl
  | cons e files ih =>
    simp only [compileAll, List.flatMap_cons, List.forall_mem_append] at h
    simp only [compileAll, List.flatMap_cons, List.map_append, (compileFile_of_gives h.1).2, ih h.2]

/-- What is found out about the owners of all files is what the authority says of them. -/
theorem forall_lookup_iff {files : List (String × UsageRecord)}
    (h : ∀ x ∈ (compileAll services package filter force w files).2.flatMap
      (·.exchanges package), authority.Gives x)
    (P : UserId → Except AuthorityError (Option PackageInfo) → Prop) :
    (∀ c ∈ (compileAll services package filter force w files).2, P c.record.owner c.lookup) ↔
      ∀ e ∈ files, P e.2.owner (authority package e.2.owner) := by
  induction files generalizing w with
  | nil => simp [compileAll]
  | cons e files ih =>
    simp only [compileAll, List.flatMap_cons, List.forall_mem_append] at h
    simp only [compileAll, List.forall_mem_cons, ih h.2, (compileFile_of_gives h.1).1,
      (compileFile_fields services package filter force w e).1]

end Authority

namespace Manager

variable {services : Services ω} {m : Manager} {w : ω} {package : String}
  {target : CompilerTarget} {force onlyShared : Bool} {authority : Authority}

/-- The optimization of a package, where the authority always answers the same for a package and
a user. It considers the secondary files of the package, or those of them that others use, in
the order of their paths. For each it looks the package up for the owner, and where the package
is found it asks the optimizer once, with the path, the instruction sets and the shared mark of
the record. There are no other calls. The pass succeeds exactly when every lookup was answered
and no compilation failed. The records that go are those of the package, whatever their kind,
whose owner has a file under consideration and has the package no more. -/
theorem optimize_exact
    (h : ∀ x ∈ (m.optimize services.logged (w, []) package target force onlyShared).2.1.2,
      authority.Gives x) :
    let pass := m.optimize services w package target force onlyShared
    let log := (m.optimize services.logged (w, []) package target force onlyShared).2.1.2
    let filter := m.policy.filterOf target
    let considered := m.ledger.considered package onlyShared
    m.optimize services.logged (w, []) package target force onlyShared =
      (pass.1, (pass.2.1, log), pass.2.2) ∧
    considered.Pairwise (fun e e' => e.1 < e'.1) ∧
    (∀ path r, (path, r) ∈ considered ↔
      m.ledger.record? package path = some r ∧ r.isSecondary ∧ (onlyShared → r.shared)) ∧
    log.map Exchange.call? =
      (considered.flatMap (authority.calls package filter force)).map some ∧
    (pass.2.2 = true ↔
      (∀ e ∈ considered, ∀ fault, authority package e.2.owner ≠ .error fault) ∧
      ∀ request, .optimize request .failed ∉ log) ∧
    (∀ q path r, pass.1.ledger.record? q path = some r ↔
      m.ledger.record? q path = some r ∧
        (q = package → ∀ e ∈ considered, authority package e.2.owner = .ok none →
          e.2.owner ≠ r.owner)) ∧
    (m.ledger.IsTrim → pass.1.ledger.IsTrim) := by
  intro pass log filter considered
  have hlogged := optimize_logged services m w [] package target force onlyShared
  have hlog : log = m.optimizeExchanges services w package target force onlyShared :=
    congrArg (·.2.1.2) hlogged
  have hgives : ∀ x ∈ (m.compilations services w package target force onlyShared).2.flatMap
      (·.exchanges package), authority.Gives x := fun x hx => h x (show x ∈ log from hlog ▸ hx)
  obtain ⟨hrecords, hsuccess⟩ := optimize_spec services m w package target force onlyShared
  refine ⟨?_, (m.ledger.ascending_secondaryOf package).filter _,
    fun _ _ => Ledger.mem_considered_iff, ?_, ?_, ?_, ?_⟩
  · rw [hlog]
    exact hlogged
  · rw [hlog]
    exact Authority.calls_compileAll hgives
  · rw [hsuccess, Compilation.forall_failed_eq_false_iff package, hlog]
    refine and_congr_left fun _ => ?_
    exact Authority.forall_lookup_iff hgives fun _ found => ∀ fault, found ≠ .error fault
  · intro q path r
    rw [hrecords]
    refine and_congr_right fun _ => imp_congr_right fun _ => ?_
    exact Authority.forall_lookup_iff hgives fun owner found => found = .ok none → owner ≠ r.owner
  · intro htrim
    exact (all_optimizeActions Ledger.isKept_isTrim services htrim w package target force
      onlyShared).2

/-- A package that is installed for user 0 and for no other. -/
def appOfOneUser : PackageInfo where
  name := "a"
  uid := 10
  base := "/app/a.apk"
  splits := []
  dataDir := some "/data/a"
  deviceDir := none
  credentialDir := some "/data/a"
  volume := none
  isas := ["arm64"]

/-- Users 0 and 10 have shared files of the package. User 10 also has one that is not shared, and
has loaded its code. -/
def filesOfTwoUsers : Manager :=
  (new ⟨[], ["arm64"], .empty⟩).updateLedger
    (recordAll .empty [⟨"a", "/data/a/x", 0, "arm64", true, false⟩,
      ⟨"a", "/data/a/y", 10, "arm64", true, false⟩, ⟨"a", "/data/a/z", 10, "arm64", false, false⟩,
      ⟨"a", "/app/a.apk", 10, "arm64", true, true⟩])

/-- The package is installed for user 0, and the optimizer fails. -/
def failingOptimizer : Rehearsal := (Rehearsal.empty.install appOfOneUser 0).setResult none .failed

/-- Only the shared files are considered, but no record of user 10 is left. The file of user 0
stays, and since its compilation fails the pass fails. -/
theorem optimize_filesOfTwoUsers :
    let pass := filesOfTwoUsers.optimize Rehearsal.services failingOptimizer "a" (.filter "speed")
      false true
    pass.2.2 = false ∧
    pass.1.ledger.record? "a" "/data/a/x" = some ⟨0, .ofList ["arm64"], true, false⟩ ∧
    ∀ path r, pass.1.ledger.record? "a" path = some r → r.owner ≠ 10 := by
  let authority : Authority := (Rehearsal.services.answersAt failingOptimizer).lookup
  have hgives : ∀ x ∈ (filesOfTwoUsers.optimize Rehearsal.services.logged (failingOptimizer, []) "a"
      (.filter "speed") false true).2.1.2, authority.Gives x := by decide +kernel
  obtain ⟨-, -, -, -, -, hrecords, -⟩ := optimize_exact hgives
  have hgone : ∃ e ∈ filesOfTwoUsers.ledger.considered "a" true,
      authority "a" e.2.owner = .ok none ∧ e.2.owner = 10 := by decide +kernel
  refine ⟨by decide +kernel, (hrecords _ _ _).2 ⟨by decide +kernel, by decide +kernel⟩, ?_⟩
  intro path r hr howner
  obtain ⟨e, he, hnone, howner'⟩ := hgone
  exact ((hrecords _ _ _).1 hr).2 rfl e he hnone (howner'.trans howner.symm)

end Manager

end DexTrail
