-- SUMMARY: Sequences of calls, what each call brings into the registry and whose records its loads touch.
import DexTrail.Proofs.Attribution.Users
import DexTrail.Proofs.Manager.Loading
import DexTrail.Proofs.Manager.Registration

/-!
# Histories of calls

Calls come one after another, and each meets the files and the outside world as they are by
then. What a call does to the registry is a list of changes (`Call.changes`), so the registry
after a history is the one of all changes of its calls (`registry_performAll_new`). Writes in the
background do not touch the registry or the ledger; to the manager they are flushes.
-/

namespace DexTrail

variable {ω : Type}

/-! ## What a call changes in the registry -/

namespace Call

/-- The installs that a call takes up. -/
def installs (services : Services ω) (w : ω) : Call → List (UserId × PackageInfo)
  | .noteInstalled info user => if user = .all then [] else [(user, info)]
  | .load installed => installed.installs
  | .loadInstalled =>
    match (services.enumerate w).2 with
    | .ok installed => installed.installs
    | .error _ => []
  | _ => []

/-- The changes of the registry that a call consists of. -/
def changes (services : Services ω) (w : ω) (c : Call) : List Registry.Change :=
  match c with
  | .noteUpdated package base splits => [.setCode package base splits]
  | .noteRemoved package user => [if user = .all then .remove package else .removeUser package user]
  | _ => (c.installs services w).map fun e => .addPackage e.2 e.1

end Call

namespace Manager

theorem foldl_addPackage_eq (r : Registry) (installs : List (UserId × PackageInfo)) :
    (installs.map fun e => Registry.Change.addPackage e.2 e.1).foldl Registry.change r =
      r.addAll installs := by
  rw [List.foldl_map]
  rfl

theorem registry_perform (services : Services ω) (file : LedgerFile) (m : Manager) (t : FileTree)
    (w : ω) (c : Call) :
    (m.perform services file t w c).1.registry =
      (c.changes services w).foldl Registry.change m.registry := by
  rw [perform_eq, registry_foldl_act]
  cases c with
  | noteInstalled info user =>
    simp only [begin, noteInstalled, Call.changes, Call.installs]
    by_cases hall : user = .all
    · rw [if_pos hall, if_pos hall]
      rfl
    · rw [if_neg hall, if_neg hall]
      rfl
  | noteRemoved package user =>
    simp only [begin, noteRemoved, Call.changes]
    split
    · rfl
    · rfl
  | load installed =>
    exact (addPackages_eq m.registry installed).trans (foldl_addPackage_eq _ _).symm
  | loadInstalled =>
    simp only [begin, Call.changes, Call.installs]
    rcases services.enumerate w with ⟨w', _ | installed⟩
    · rfl
    · exact (addPackages_eq m.registry installed).trans (foldl_addPackage_eq _ _).symm
  | _ => rfl

/-- A call gives a package a user whom it did not have exactly by an install with a directory. -/
theorem has_perform_iff {services : Services ω} {file : LedgerFile} {m : Manager} {t : FileTree}
    {w : ω} {c : Call} {package : String} {user : UserId} (h : ¬m.registry.Has package user) :
    (m.perform services file t w c).1.registry.Has package user ↔
      ∃ info, (user, info) ∈ c.installs services w ∧ info.name = package ∧ info.dataDirs ≠ [] := by
  rw [registry_perform]
  -- a change without directories does not give the user back
  have hbare (change : Registry.Change) (hdirs : change.dirs package user = []) :
      ¬(m.registry.change change).Has package user := by
    rw [Registry.has_change_iff, hdirs]
    rintro ⟨-, -, hhas | ⟨hne, -⟩⟩
    · exact h hhas
    · exact hne rfl
  have hinstalls : (m.registry.addAll (c.installs services w)).Has package user ↔
      ∃ info, (user, info) ∈ c.installs services w ∧ info.name = package ∧
        info.dataDirs ≠ [] := by
    rw [Registry.has_addAll_iff]
    exact or_iff_right h
  rw [← foldl_addPackage_eq] at hinstalls
  cases c with
  | noteUpdated p base splits =>
    refine iff_of_false (hbare (.setCode p base splits) rfl) ?_
    rintro ⟨info, hinfo, -⟩
    cases hinfo
  | noteRemoved p u =>
    refine iff_of_false (hbare (if u = .all then .remove p else .removeUser p u) ?_) ?_
    · split <;> rfl
    · rintro ⟨info, hinfo, -⟩
      cases hinfo
  | _ => exact hinstalls

/-! ## What a call records -/

/-- What another package loads or registers for a user is no load of a package that does not
have the user. -/
theorem package_ne_of_mem_loadsOf {services : Services ω} {m : Manager} {w : ω} {c : Call}
    {loader : PackageInfo} {package : String} {user : UserId} (h : ¬m.registry.Has package user)
    (hc : c.loader? = some (loader, user)) (hloader : loader.name ≠ package) {d : DexLoad}
    (hd : d ∈ m.loadsOf services w c) : d.package ≠ package := by
  rintro rfl
  obtain ⟨l, hl, howner, -⟩ := attributed_of_mem_loadsOf hd
  rw [hc, Option.some.injEq, Prod.mk.injEq] at hl
  obtain ⟨rfl, rfl⟩ := hl
  exact Registry.owner_resolve_ne h hloader d.path howner

end Manager

/-! ## Histories -/

/-- A call with the files and the outside world that it meets. -/
structure Event (ω : Type) where
  call : Call
  disk : FileTree
  world : ω

namespace Manager

/-- The manager after the events, one after another. -/
def performAll (services : Services ω) (file : LedgerFile) (m : Manager) (events : List (Event ω)) :
    Manager :=
  events.foldl (fun m e => (m.perform services file e.disk e.world e.call).1) m

theorem performAll_concat (services : Services ω) (file : LedgerFile) (m : Manager)
    (events : List (Event ω)) (e : Event ω) :
    m.performAll services file (events ++ [e]) =
      ((m.performAll services file events).perform services file e.disk e.world e.call).1 := by
  rw [performAll, List.foldl_concat]
  rfl

/-- The registry of a new manager after a history has the history of all changes of its calls. -/
theorem registry_performAll_new (services : Services ω) (file : LedgerFile) (policy : Policy)
    (events : List (Event ω)) :
    ((new policy).performAll services file events).registry =
      .ofHistory (events.flatMap fun e => e.call.changes services e.world) := by
  induction events using List.reverseRecOn with
  | nil => rfl
  | append_singleton events e ih =>
    rw [performAll_concat, registry_perform, ih, List.flatMap_append, Registry.ofHistory,
      Registry.ofHistory, List.foldl_append, List.flatMap_singleton]

end Manager

end DexTrail
