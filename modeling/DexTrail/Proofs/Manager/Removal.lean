-- SUMMARY: After its removal for a user, and until it is listed again, others load nothing of a package for that user.
import DexTrail.Proofs.Manager.CallHistory
import DexTrail.Proofs.Manager.LoadOrder

/-!
# Removed packages

A removal takes the user from the footprint of the package, or the footprint as a whole. What
gives the user back is an install that a call takes up, and nothing else: an update makes the
package known again, with its code alone. As long as the package does not have the user, no
load of another package is recorded for it.
-/

namespace DexTrail

variable {ω : Type} {services : Services ω} {file : LedgerFile} {m : Manager} {package : String}
  {user v : UserId}

namespace Manager

theorem not_has_noteRemoved (m : Manager) (package : String) (hv : v = user ∨ v = .all) :
    ¬(m.noteRemoved package v).registry.Has package user := by
  have hregistry : (m.noteRemoved package v).registry =
      m.registry.change (if v = .all then .remove package else .removeUser package v) := by
    simp only [noteRemoved]
    split
    · rfl
    · rfl
  rw [hregistry, Registry.has_change_iff]
  rintro ⟨hpackage, huser, -⟩
  by_cases hall : v = .all
  · exact hpackage (if_pos hall)
  · obtain rfl := hv.resolve_right hall
    exact huser (if_neg hall)

/-- A package that does not have a user does not get the user until it is listed for the user. -/
theorem not_has_performAll (h : ¬m.registry.Has package user) {events : List (Event ω)}
    (hlisted : ∀ e ∈ events, ∀ info, (user, info) ∈ e.call.installs services e.world →
      info.name ≠ package) :
    ¬(m.performAll services file events).registry.Has package user := by
  induction events generalizing m with
  | nil => exact h
  | cons e events ih =>
    refine ih ?_ fun d hd => hlisted d (List.mem_cons_of_mem e hd)
    rw [has_perform_iff h]
    rintro ⟨info, hinfo, hname, -⟩
    exact hlisted e List.mem_cons_self info hinfo hname

/-- A load or a registration by another package leaves the records of a package as they are, if
the package does not have the user. -/
theorem usage?_perform_of_not_has (h : ¬m.registry.Has package user) {c : Call}
    {loader : PackageInfo} (hc : c.loader? = some (loader, user)) (hloader : loader.name ≠ package)
    (t : FileTree) (w : ω) :
    (m.perform services file t w c).1.ledger.usage? package = m.ledger.usage? package := by
  have hloads : ∀ d ∈ m.loadsOf services w c, d.package ≠ package :=
    fun d hd => package_ne_of_mem_loadsOf h hc hloader hd
  rw [ledger_perform services file m t w (Option.isSome_iff_exists.2 ⟨_, hc⟩)]
  exact Ledger.usage?_recordEach_of_ne hloads m.ledger

/-- A package is removed for a user, or for all, in any state of the manager. As long as no call
lists it for the user again, whatever else is called, no path that another package loads for the
user is attributed to it, and neither a load nor a registration by another package for the user
creates or changes a record of it. -/
theorem not_attributed_after_removal (services : Services ω) (file : LedgerFile) (m : Manager)
    (package : String) (hv : v = user ∨ v = .all) {events : List (Event ω)}
    (hlisted : ∀ e ∈ events, ∀ info, (user, info) ∈ e.call.installs services e.world →
      info.name ≠ package) :
    let later := (m.noteRemoved package v).performAll services file events
    ∀ other : PackageInfo, other.name ≠ package →
      (∀ path, (later.resolve other path user).owner ≠ some package) ∧
      (∀ paths isa t w,
        (later.perform services file t w (.noteLoad other paths isa user)).1.ledger.usage? package =
          later.ledger.usage? package) ∧
      ∀ path shared t w,
        (later.perform services file t w (.register other path shared user)).1.ledger.usage?
          package = later.ledger.usage? package := by
  intro later other hother
  have hgone : ¬later.registry.Has package user :=
    not_has_performAll (m.not_has_noteRemoved package hv) hlisted
  refine ⟨?_, ?_, ?_⟩
  · exact fun path => Registry.owner_resolve_ne hgone hother path
  · exact fun paths isa t w => usage?_perform_of_not_has hgone rfl hother t w
  · exact fun path shared t w => usage?_perform_of_not_has hgone rfl hother t w

/-- A manager that knows one package for two users and another one for the first of them. -/
def twoUsers : Manager where
  policy := ⟨[], ["arm64"], .empty⟩
  registry := .ofHistory
    [.addPackage (dataApp "a") 0, .addPackage (dataApp "a") 10, .addPackage (dataApp "b") 0]
  store := .empty

/-- The first package is updated, and listed once more for the second user. -/
def updatedForOthers : List (Event Rehearsal) :=
  [⟨.noteUpdated "a" "/app/a.apk" [], .empty, .empty⟩,
    ⟨.noteInstalled (dataApp "a") 10, .empty, .empty⟩]

/-- The other package loads a file of the first one. That is recorded before the first one is
removed for the user, and not afterwards; for the second user it is recorded still. -/
theorem otherLoad_twoUsers :
    let file : LedgerFile := ⟨"usage.json", []⟩
    let otherLoad (user : UserId) : Call := .noteLoad (dataApp "b") ["/data/a/x"] "arm64" user
    let after (m : Manager) (user : UserId) : Option PackageUsage :=
      (m.perform Rehearsal.services file .empty .empty (otherLoad user)).1.ledger.usage? "a"
    let later := (twoUsers.noteRemoved "a" 0).performAll Rehearsal.services file updatedForOthers
    (after twoUsers 0).isSome ∧ after later 0 = none ∧ (after later 10).isSome := by
  intro file otherLoad after later
  have hlisted : ∀ e ∈ updatedForOthers, ∀ info,
      (0, info) ∈ e.call.installs Rehearsal.services e.world → info.name ≠ "a" := by
    intro e he info hinfo
    simp only [updatedForOthers, List.mem_cons, List.not_mem_nil, or_false] at he
    rcases he with rfl | rfl
    · cases hinfo
    · obtain ⟨hzero, -⟩ := Prod.mk.inj (List.mem_singleton.1 hinfo)
      cases hzero
  obtain ⟨-, hload, -⟩ :=
    not_attributed_after_removal (v := 0) Rehearsal.services file twoUsers "a" (.inl rfl) hlisted
      (dataApp "b") (by decide)
  have hnone : later.ledger.usage? "a" = none := by decide +kernel
  refine ⟨by decide +kernel, ?_, by decide +kernel⟩
  exact (hload ["/data/a/x"] "arm64" .empty .empty).trans hnone

end Manager

end DexTrail
