-- SUMMARY: When a registration that is answered as a success has recorded the module for its user.
import DexTrail.Proofs.Manager.Loadable

/-!
# Registered modules

A registration records its module once for each instruction set of the package, and it is
answered as a success whatever becomes of that. Records only grow (`UsageRecord.Extends`),
their owner and kind stay. So a module that was recorded before for another user, or as
installed code, stays recorded in that way, and the registration that was answered as a
success has not recorded it for its user.
-/

namespace DexTrail

variable {ω : Type}

/-! ## Growing records -/

/-- The second record is the first with more taken up. -/
structure UsageRecord.Extends (r r' : UsageRecord) : Prop where
  owner : r'.owner = r.owner
  code : r'.code = r.code
  isas : ∀ isa ∈ r.isas, isa ∈ r'.isas
  shared : r.shared → r'.shared

namespace UsageRecord

theorem Extends.refl (r : UsageRecord) : r.Extends r := ⟨rfl, rfl, fun _ h => h, id⟩

theorem Extends.trans {r r' r'' : UsageRecord} (h : r.Extends r') (h' : r'.Extends r'') :
    r.Extends r'' where
  owner := h'.owner.trans h.owner
  code := h'.code.trans h.code
  isas isa hisa := h'.isas isa (h.isas isa hisa)
  shared hshared := h'.shared (h.shared hshared)

theorem extends_merge (r : UsageRecord) (isa : String) (shared : Bool) :
    r.Extends (r.merge isa shared) where
  owner := rfl
  code := rfl
  isas _ h := SortedSet.mem_insert.2 (.inr h)
  shared h := Bool.or_eq_true_iff.2 (.inl h)

theorem extends_takeUp (r : UsageRecord) (d : DexLoad) : r.Extends (takeUp d (some r)) := by
  rw [takeUp]
  split
  · exact .refl r
  · exact r.extends_merge d.isa d.shared

end UsageRecord

namespace Ledger

/-- Whatever is recorded, a record that is there stays and only grows. -/
theorem exists_extends_recordEach {l : Ledger} {p path : String} {r : UsageRecord}
    (h : l.record? p path = some r) (loads : List DexLoad) :
    ∃ r', (l.recordEach loads).record? p path = some r' ∧ r.Extends r' := by
  induction loads generalizing l r with
  | nil => exact ⟨r, h, .refl r⟩
  | cons d loads ih =>
    obtain ⟨r', hr', hextends⟩ : ∃ r', (l.record d).1.record? p path = some r' ∧ r.Extends r' := by
      rw [record?_record, h]
      split
      · exact ⟨_, rfl, r.extends_takeUp d⟩
      · exact ⟨r, rfl, .refl r⟩
    obtain ⟨r'', hr'', hextends'⟩ := ih hr'
    exact ⟨r'', hr'', hextends.trans hextends'⟩

end Ledger

/-! ## The loads of a registration -/

/-- A module of a package is loaded by the package itself in one instruction set. -/
def moduleLoad (package path : String) (user : UserId) (shared : Bool) (isa : String) : DexLoad :=
  { package, path, user, isa, shared, code := false }

/-- A record that takes up the loads of a user's module. -/
def UsageRecord.IsModuleOf (r : UsageRecord) (user : UserId) : Prop :=
  r.isSecondary ∧ r.owner = user

namespace UsageRecord

theorem Extends.isModuleOf_iff {r r' : UsageRecord} (h : r.Extends r') {user : UserId} :
    r'.IsModuleOf user ↔ r.IsModuleOf user := by
  rw [IsModuleOf, IsModuleOf, isSecondary, isSecondary, h.code, h.owner]

variable (package path : String) (user : UserId) (shared : Bool) (isa : String)

/-- A load of a user's module makes its record, or is taken up by it. -/
theorem takeUp_moduleLoad {found : Option UsageRecord}
    (h : ∀ r, found = some r → r.IsModuleOf user) :
    (takeUp (moduleLoad package path user shared isa) found).IsModuleOf user ∧
      isa ∈ (takeUp (moduleLoad package path user shared isa) found).isas ∧
      (shared → (takeUp (moduleLoad package path user shared isa) found).shared) := by
  cases found with
  | none => exact ⟨⟨rfl, rfl⟩, SortedSet.mem_insert.2 (.inl rfl), id⟩
  | some r =>
    obtain ⟨hsecondary, howner⟩ := h r rfl
    have haccepts : r.refuses (moduleLoad package path user shared isa) = false := by
      simp [refuses, moduleLoad, howner]
    rw [takeUp, haccepts]
    refine ⟨⟨hsecondary, howner⟩, SortedSet.mem_insert.2 (.inl rfl), ?_⟩
    intro hshared
    exact Bool.or_eq_true_iff.2 (.inr hshared)

/-- A record of another user's module refuses the load. -/
theorem refuses_moduleLoad {r : UsageRecord} (hsecondary : r.isSecondary)
    (howner : r.owner ≠ user) : r.refuses (moduleLoad package path user shared isa) = true := by
  simp [refuses, moduleLoad, hsecondary, howner]

end UsageRecord

namespace Ledger

variable {package path : String} {user : UserId} {l : Ledger} {isas : List String} {isa : String}

/-- Where no record of another kind or user is in the way, each load of a module is found in
a record of the user afterwards. -/
theorem exists_isModuleOf_recordEach (h : ∀ r, l.record? package path = some r → r.IsModuleOf user)
    (shared : Bool) (hisa : isa ∈ isas) :
    ∃ r, (l.recordEach (isas.map (moduleLoad package path user shared))).record? package path =
        some r ∧ r.IsModuleOf user ∧ isa ∈ r.isas ∧ (shared → r.shared) := by
  induction isas generalizing l with
  | nil => cases hisa
  | cons first isas ih =>
    have hrecord : (l.record (moduleLoad package path user shared first)).1.record? package path =
        some (.takeUp (moduleLoad package path user shared first) (l.record? package path)) := by
      rw [record?_record, if_pos ⟨rfl, rfl, rfl⟩]
    obtain ⟨hmodule, hfirst, hshared⟩ :=
      UsageRecord.takeUp_moduleLoad package path user shared first h
    rcases List.mem_cons.1 hisa with rfl | hisa
    · obtain ⟨r, hr, hextends⟩ := exists_extends_recordEach hrecord
        (isas.map (moduleLoad package path user shared))
      exact ⟨r, hr, hextends.isModuleOf_iff.2 hmodule, hextends.isas _ hfirst,
        fun hs => hextends.shared (hshared hs)⟩
    · refine ih (fun r hr => ?_) hisa
      rw [hrecord] at hr
      cases hr
      exact hmodule

end Ledger

/-! ## Registrations -/

namespace Manager

/-- Loads that are all refused leave nothing to write. -/
theorem recordAll_of_refused {l : Ledger} {loads : List DexLoad}
    (h : ∀ d ∈ loads, ∃ e, l.record d = (l, .error e)) : recordAll l loads = (l, false) := by
  rw [recordAll_eq]
  induction loads with
  | nil => rfl
  | cons d loads ih =>
    obtain ⟨e, he⟩ := h d List.mem_cons_self
    rw [List.foldl_cons, Ledger.recordNext, he]
    exact ih fun d' hd' => h d' (List.mem_cons_of_mem d hd')

variable {services : Services ω} {m : Manager} {w : ω} {app : PackageInfo} {path : String}
  {shared : Bool} {user : UserId}

/-- Nothing stands in the way of a private file of a package with an instruction set. What
does stand in the way is not answered as a success. -/
theorem registerObstacle?_cases (m : Manager) (app : PackageInfo) (path : String) (user : UserId) :
    (m.registerObstacle? app path user = none ∧
      (m.resolve app path user).owner = some app.name ∧
      (m.resolve app path user).outcome.isCode = false ∧ app.isas ≠ []) ∨
    ∃ obstacle, m.registerObstacle? app path user = some obstacle ∧ obstacle.success = false := by
  simp only [registerObstacle?]
  split
  · exact .inr ⟨.packageNotFound, rfl, rfl⟩
  · split
    · exact .inr ⟨.foreign, rfl, rfl⟩
    · next howner =>
      split
      · exact .inr ⟨.installedCode, rfl, rfl⟩
      · next hcode =>
        split
        · exact .inr ⟨.noIsas, rfl, rfl⟩
        · next hisas =>
          exact .inl ⟨rfl, Decidable.not_not.1 howner, Bool.eq_false_iff.2 hcode,
            mt List.isEmpty_iff.2 hisas⟩

/-- A load that a call records is of the package and the kind to which its path is attributed. -/
theorem attributed_of_mem_loadsOf {c : Call} {d : DexLoad} (hd : d ∈ m.loadsOf services w c) :
    ∃ loader, c.loader? = some (loader, d.user) ∧
      (m.resolve loader d.path d.user).owner = some d.package ∧
      (m.resolve loader d.path d.user).outcome.isCode = d.code := by
  cases c with
  | noteLoad loader paths isa user =>
    rw [loadsOf] at hd
    split at hd
    · obtain ⟨path, -, hload⟩ := List.mem_filterMap.1 hd
      simp only [loadOf?] at hload
      split at hload
      · cases hload
      · next owner howner =>
        obtain ⟨-, he⟩ := Option.ite_none_left_eq_some.1 hload
        cases he
        exact ⟨loader, rfl, howner, rfl⟩
    · cases hd
  | register app path shared user =>
    rw [loadsOf] at hd
    split at hd
    · next hfile hobstacle =>
      obtain ⟨isa, -, rfl⟩ := List.mem_map.1 hd
      rcases m.registerObstacle?_cases app path user with
        ⟨-, howner, hcode, -⟩ | ⟨obstacle, hsome, -⟩
      · exact ⟨app, rfl, howner, hcode⟩
      · rw [hsome] at hobstacle
        cases hobstacle
    · cases hd
  | _ => cases hd

/-- A registration that is answered as a success has recorded a load for each instruction
set, of which there is one at least. -/
theorem register_of_success (h : (m.register services w app path shared user).2.2.success) :
    app.isas ≠ [] ∧
      (m.register services w app path shared user).1 =
        m.updateLedger
          (recordAll m.ledger (app.isas.map (moduleLoad app.name path user shared))) := by
  rcases hfile : services.fileExists .held path w with ⟨w', _ | _ | _⟩
  · simp [register, hfile, Registration.success] at h
  · simp [register, hfile, Registration.success] at h
  · rcases m.registerObstacle?_cases app path user with
      ⟨hnone, -, -, hisas⟩ | ⟨obstacle, hsome, hfails⟩
    · refine ⟨hisas, ?_⟩
      simp only [register, hfile, hnone]
      rfl
    · simp [register, hfile, hsome, hfails] at h

/-- A registration that is answered as a success has recorded the module for its user, with
every instruction set of the package and shared if that was said, exactly when the record
that was there before, if any, was secondary and of the same user. A record of installed
code, or of another user, keeps its kind and owner; where it is secondary and of another
user, the registration changes nothing at all. -/
theorem registered_iff (h : (m.register services w app path shared user).2.2.success) :
    let after := (m.register services w app path shared user).1
    ((∃ r, after.ledger.record? app.name path = some r ∧ r.isSecondary ∧ r.owner = user ∧
        (∀ isa ∈ app.isas, isa ∈ r.isas) ∧ (shared → r.shared)) ↔
      ∀ r, m.ledger.record? app.name path = some r → r.isSecondary ∧ r.owner = user) ∧
    (∀ r, m.ledger.record? app.name path = some r →
      ∃ r', after.ledger.record? app.name path = some r' ∧ r.Extends r') ∧
    (∀ r, m.ledger.record? app.name path = some r → r.isSecondary → r.owner ≠ user →
      after = m) := by
  obtain ⟨hisas, hafter⟩ := register_of_success h
  have hledger : (m.register services w app path shared user).1.ledger =
      m.ledger.recordEach (app.isas.map (moduleLoad app.name path user shared)) := by
    rw [hafter, ← Ledger.fst_recordAll]
    rfl
  have hgrown (r : UsageRecord) (hr : m.ledger.record? app.name path = some r) :
      ∃ r', (m.register services w app path shared user).1.ledger.record? app.name path =
        some r' ∧ r.Extends r' := by
    rw [hledger]
    exact Ledger.exists_extends_recordEach hr _
  refine ⟨⟨?_, ?_⟩, hgrown, ?_⟩
  · rintro ⟨r', hr', hsecondary, howner, -⟩ r hr
    obtain ⟨r'', hr'', hextends⟩ := hgrown r hr
    obtain rfl := Option.some.inj (hr''.symm.trans hr')
    exact hextends.isModuleOf_iff.1 ⟨hsecondary, howner⟩
  · intro hmodule
    have hrecorded (isa : String) (hisa : isa ∈ app.isas) :=
      Ledger.exists_isModuleOf_recordEach hmodule shared hisa
    obtain ⟨isa, hisa⟩ := List.exists_mem_of_ne_nil _ hisas
    obtain ⟨r, hr, ⟨hsecondary, howner⟩, -, hshared⟩ := hrecorded isa hisa
    refine ⟨r, hledger ▸ hr, hsecondary, howner, ?_, hshared⟩
    intro isa' hisa'
    obtain ⟨r', hr', -, hmem, -⟩ := hrecorded isa' hisa'
    obtain rfl := Option.some.inj (hr'.symm.trans hr)
    exact hmem
  · intro r hr hsecondary howner
    have hrefused : ∀ d ∈ app.isas.map (moduleLoad app.name path user shared),
        ∃ e, m.ledger.record d = (m.ledger, .error e) := by
      intro d hd
      obtain ⟨isa, -, rfl⟩ := List.mem_map.1 hd
      exact ⟨_, Ledger.record_refused rfl hr
        (UsageRecord.refuses_moduleLoad app.name path user shared isa hsecondary howner)⟩
    rw [hafter, recordAll_of_refused hrefused]
    rfl

/-! ### A module of two users -/

/-- A package with a data directory that two users share. -/
def sharedApp : PackageInfo where
  name := "com.a"
  uid := 0
  base := "/data/app/com.a/base.apk"
  splits := []
  dataDir := some "/data/data/com.a"
  deviceDir := none
  credentialDir := none
  volume := none
  isas := ["arm64"]

/-- A new manager has registered the existing module for user 10. -/
def firstRegistration : Manager × Rehearsal × Registration :=
  (new ⟨[], ["arm64"], .empty⟩).register Rehearsal.services
    (Rehearsal.empty.setFile "/data/data/com.a/x.jar" true) sharedApp "/data/data/com.a/x.jar"
    false 10

/-- Then the same module is registered for user 0, to be used by others. -/
def secondRegistration : Manager × Rehearsal × Registration :=
  firstRegistration.1.register Rehearsal.services firstRegistration.2.1 sharedApp
    "/data/data/com.a/x.jar" true 0

/-- The second registration is answered as a success and has changed nothing. -/
theorem secondRegistration_changes_nothing :
    secondRegistration.2.2.success = true ∧ secondRegistration.1 = firstRegistration.1 := by
  have hsuccess : secondRegistration.2.2.success = true := rfl
  exact ⟨hsuccess, (registered_iff hsuccess).2.2 _ rfl rfl (by decide)⟩

/-- The second registration is answered as a success, and the module has no record of its
user afterwards. -/
theorem success_without_record :
    secondRegistration.2.2.success = true ∧
    ¬∃ r, secondRegistration.1.ledger.record? sharedApp.name "/data/data/com.a/x.jar" = some r ∧
      r.isSecondary ∧ r.owner = 0 ∧ (∀ isa ∈ sharedApp.isas, isa ∈ r.isas) ∧ r.shared := by
  refine ⟨rfl, ?_⟩
  rintro ⟨r, hr, -, howner, -⟩
  have hkept : secondRegistration.1.ledger.record? sharedApp.name "/data/data/com.a/x.jar" =
      some (.ofLoad 10 "arm64" false false) := rfl
  rw [hkept] at hr
  cases hr
  exact absurd howner (by decide)

end Manager

end DexTrail
