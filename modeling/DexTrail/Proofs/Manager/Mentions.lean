-- SUMMARY: By which calls a user comes into the registry or the ledger, and that the stand-in for all users comes in by them too.
import DexTrail.Proofs.Manager.RecordLife

/-!
# Users that a manager mentions

A manager mentions a user when a package has the user or a record is of the user. A user who is
not mentioned comes in with an install, with a load that makes a record, or with a record of the
file that is taken up, and in no other way. The stand-in for all users is refused by one call
only, the install of a single package; through loads, registrations and the loading of a
database it comes in like any other user.
-/

namespace DexTrail

variable {ω : Type} {services : Services ω} {file : LedgerFile} {m : Manager} {t : FileTree}
  {w : ω} {c : Call} {user : UserId}

namespace Manager

/-- A package has the user, or a record is of the user. -/
def Mentions (m : Manager) (user : UserId) : Prop :=
  (∃ package, m.registry.Has package user) ∨
    ∃ package path r, m.ledger.record? package path = some r ∧ r.owner = user

/-- How a call brings in a user. -/
inductive Introduces (services : Services ω) (file : LedgerFile) (m : Manager) (e : Event ω)
    (user : UserId) : Prop where
  /-- A package is installed for the user, with a data directory. -/
  | install {info : PackageInfo} (listed : (user, info) ∈ e.call.installs services e.world)
    (stored : info.dataDirs ≠ [])
  /-- A load for the user is recorded of a file that had no record. -/
  | load {d : DexLoad} (recorded : d ∈ m.loadsOf services e.world e.call) (owner : d.user = user)
    (new : m.ledger.record? d.package d.path = none)
  /-- A record of the user is in the file, and its package is listed for the user. -/
  | record {info : PackageInfo} {path : String} {r : UsageRecord}
    (loads : e.call.loads services e.world)
    (read : (Store.ledgerOf (file.read e.disk)).record? info.name path = some r)
    (owner : r.owner = user) (listed : (user, info) ∈ e.call.installs services e.world)

/-! ## Records after a call -/

/-- A call that loads leaves the records of the file whose packages it lists for their owners. -/
theorem record?_perform_of_loads (hc : c.loads services w) {package path : String}
    {r : UsageRecord} :
    (m.perform services file t w c).1.ledger.record? package path = some r ↔
      (Store.ledgerOf (file.read t)).record? package path = some r ∧
        ∃ info, (r.owner, info) ∈ c.installs services w ∧ info.name = package := by
  have hload (installed : InstalledPackages) :
      (m.load installed (file.read t)).ledger.record? package path = some r ↔
        (Store.ledgerOf (file.read t)).record? package path = some r ∧
          ∃ info, (r.owner, info) ∈ installed.installs ∧ info.name = package := by
    rw [ledger_load, Ledger.record?_sync_usersByPackage, Option.filter_eq_some_iff,
      InstalledPackages.isSome_find?_iff]
  cases c with
  | load installed => exact hload installed
  | loadInstalled =>
    simp only [Call.loads] at hc
    simp only [perform, loadInstalled, Call.installs]
    rcases hw : services.enumerate w with ⟨w', _ | installed⟩
    · rw [hw] at hc
      cases hc
    · exact hload installed
  | _ => cases hc

/-- A record that a call makes is of the user of a load that the call records. -/
theorem exists_load_of_record?_perform (hc : c.loads services w = false) {package path : String}
    (hnew : m.ledger.record? package path = none) {r : UsageRecord}
    (hr : (m.perform services file t w c).1.ledger.record? package path = some r) :
    ∃ d ∈ m.loadsOf services w c, d.package = package ∧ d.path = path ∧ d.user = r.owner := by
  -- every record on the way is one from before, or of the user of such a load
  have hkept : Ledger.IsKept (· ∈ m.loadsOf services w c) (Ledger.EveryRecord fun p path r =>
      m.ledger.record? p path = none →
        ∃ d ∈ m.loadsOf services w c, d.package = p ∧ d.path = path ∧ d.user = r.owner) :=
    Ledger.isKept_everyRecord (fun d hd _ => ⟨d, hd, rfl, rfl, rfl⟩) (fun _ _ _ _ _ hgood => hgood)
  refine ledger_perform_of_not_loads hkept file t hc (fun _ hd => hd) ?_ package path r hr hnew
  intro p path r hr hnone
  rw [hnone] at hr
  cases hr

/-- All loads of a call are for one user. -/
theorem user_eq_of_mem_loadsOf {d d' : DexLoad} (hd : d ∈ m.loadsOf services w c)
    (hd' : d' ∈ m.loadsOf services w c) : d'.user = d.user := by
  obtain ⟨loader, hloader, -⟩ := attributed_of_mem_loadsOf hd
  obtain ⟨loader', hloader', -⟩ := attributed_of_mem_loadsOf hd'
  exact (Prod.mk.inj (Option.some.inj (hloader'.symm.trans hloader))).2

/-- A load that is recorded of a file without a record makes one of its user. -/
theorem exists_record?_perform_of_load {d : DexLoad} (hd : d ∈ m.loadsOf services w c)
    (hnew : m.ledger.record? d.package d.path = none) :
    ∃ r, (m.perform services file t w c).1.ledger.record? d.package d.path = some r ∧
      r.owner = d.user := by
  have hloader := isSome_loader?_of_mem_loadsOf hd
  have hsome := Ledger.isSome_record?_recordEach hd (isRelevant_of_mem_loadsOf hd) m.ledger
  rw [← ledger_perform services file m t w hloader] at hsome
  obtain ⟨r, hr⟩ := Option.isSome_iff_exists.1 hsome
  obtain ⟨d', hd', -, -, huser⟩ := exists_load_of_record?_perform (Call.loads_of_loader? hloader) hnew hr
  exact ⟨r, hr, huser.symm.trans (user_eq_of_mem_loadsOf hd hd')⟩

/-! ## Calls -/

/-- A user who is not mentioned is mentioned after a call exactly when the call brings the user
in. -/
theorem mentions_perform_iff {e : Event ω} (h : ¬m.Mentions user) :
    (m.perform services file e.disk e.world e.call).1.Mentions user ↔
      m.Introduces services file e user := by
  have hhas (package : String) : ¬m.registry.Has package user :=
    fun hp => h (.inl ⟨package, hp⟩)
  constructor
  · rintro (⟨package, hafter⟩ | ⟨package, path, r, hr, howner⟩)
    · obtain ⟨info, hinfo, -, hdirs⟩ := (has_perform_iff (hhas package)).1 hafter
      exact .install hinfo hdirs
    · cases hloads : e.call.loads services e.world with
      | true =>
        obtain ⟨hread, info, hinfo, rfl⟩ := (record?_perform_of_loads hloads).1 hr
        exact .record hloads hread howner (howner ▸ hinfo)
      | false =>
        cases hbefore : m.ledger.record? package path with
        | some r₀ =>
          -- the record was there before, and of the same owner
          have hextends := extends_perform hloads hbefore hr
          exact absurd (.inr ⟨package, path, r₀, hbefore, hextends.owner.symm.trans howner⟩) h
        | none =>
          obtain ⟨d, hd, rfl, rfl, huser⟩ := exists_load_of_record?_perform hloads hbefore hr
          exact .load hd (huser.trans howner) hbefore
  · intro hintroduces
    cases hintroduces with
    | @install info listed stored =>
      exact .inl ⟨info.name, (has_perform_iff (hhas info.name)).2 ⟨info, listed, rfl, stored⟩⟩
    | @load d recorded owner new =>
      obtain ⟨r, hr, howner⟩ := exists_record?_perform_of_load recorded new
      exact .inr ⟨d.package, d.path, r, hr, howner.trans owner⟩
    | @record info path r loads read owner listed =>
      refine .inr ⟨info.name, path, r, (record?_perform_of_loads loads).2 ?_, owner⟩
      exact ⟨read, info, owner ▸ listed, rfl⟩

/-- A call for other users, which lists no package for the user, does not bring the user in. -/
theorem not_introduces {e : Event ω} (hloader : ∀ loader, e.call.loader? ≠ some (loader, user))
    (hlisted : ∀ info, (user, info) ∉ e.call.installs services e.world) :
    ¬m.Introduces services file e user := by
  intro hintroduces
  cases hintroduces with
  | @install info listed stored => exact hlisted info listed
  | @load d recorded owner new =>
    obtain ⟨loader, hd, -⟩ := attributed_of_mem_loadsOf recorded
    exact hloader loader (owner ▸ hd)
  | @record info path r loads read owner listed => exact hlisted info listed

/-! ## Histories -/

theorem not_mentions_new (policy : Policy) : ¬(new policy).Mentions user := by
  rintro (⟨package, hhas⟩ | ⟨package, path, r, hr, -⟩)
  · exact Registry.not_has_empty hhas
  · cases hr

/-- A user whom no call of a history brings in is not mentioned after it. -/
theorem not_mentions_performAll (h : ¬m.Mentions user) {events : List (Event ω)}
    (hnone : ∀ past e future, events = past ++ e :: future →
      ¬(m.performAll services file past).Introduces services file e user) :
    ¬(m.performAll services file events).Mentions user := by
  induction events using List.reverseRecOn with
  | nil => exact h
  | append_singleton events e ih =>
    have hbefore : ¬(m.performAll services file events).Mentions user := by
      refine ih fun past d future hsplit => hnone past d (future ++ [e]) ?_
      rw [hsplit, List.append_assoc, List.cons_append]
    rw [performAll_concat, mentions_perform_iff hbefore]
    exact hnone events e [] rfl

/-- In a run from an empty manager, whatever is in the file, the stand-in for all users is taken
for a user at some stage, by the registry or as the owner of a record, exactly when a call of the
run brings it in: it lists a package with a data directory for all users, or it records a load
for all users of a file without a record, or it reads a record of all users of a package that it
lists for all users. It is never taken for a user when the calls of the run load and register
files for single users only, and list packages for single users only. -/
theorem mentions_all_iff (services : Services ω) (file : LedgerFile) (policy : Policy)
    (events : List (Event ω)) :
    let stage (past : List (Event ω)) := (new policy).performAll services file past
    ((∃ past future, events = past ++ future ∧ (stage past).Mentions .all) ↔
      ∃ past e future, events = past ++ e :: future ∧
        (stage past).Introduces services file e .all) ∧
    ((∀ e ∈ events, (∀ loader, e.call.loader? ≠ some (loader, .all)) ∧
        ∀ info, (.all, info) ∉ e.call.installs services e.world) →
      ∀ past future, events = past ++ future → ¬(stage past).Mentions .all) := by
  intro stage
  have hiff : (∃ past future, events = past ++ future ∧ (stage past).Mentions .all) ↔
      ∃ past e future, events = past ++ e :: future ∧
        (stage past).Introduces services file e .all := by
    constructor
    · rintro ⟨past, future, rfl, hmentions⟩
      by_contra hnone
      refine not_mentions_performAll (not_mentions_new policy) ?_ hmentions
      rintro before e after rfl hintroduces
      refine hnone ⟨before, e, after ++ future, ?_, hintroduces⟩
      rw [List.append_assoc, List.cons_append]
    · rintro ⟨past, e, future, rfl, hintroduces⟩
      by_cases hbefore : (stage past).Mentions .all
      · exact ⟨past, e :: future, rfl, hbefore⟩
      · have hafter := (mentions_perform_iff hbefore).2 hintroduces
        rw [← performAll_concat] at hafter
        exact ⟨past ++ [e], future, by simp, hafter⟩
  refine ⟨hiff, ?_⟩
  intro hsingle past future hsplit hmentions
  obtain ⟨before, e, after, rfl, hintroduces⟩ := hiff.1 ⟨past, future, hsplit, hmentions⟩
  obtain ⟨hloader, hlisted⟩ := hsingle e (by simp)
  exact not_introduces hloader hlisted hintroduces

/-- A package loads its own file for all users at once. The record that is made has them for its
owner. -/
theorem mentions_all_of_load :
    let load : Call := .noteLoad (dataApp "a") ["/data/a/x"] "arm64" .all
    let m := (new ⟨[], ["arm64"], .empty⟩).performAll Rehearsal.services ⟨"usage.json", []⟩
      [⟨load, .empty, .empty⟩]
    m.ledger.record? "a" "/data/a/x" = some (.ofLoad .all "arm64" false false) ∧
      m.Mentions .all := by
  intro load m
  have hr : m.ledger.record? "a" "/data/a/x" = some (.ofLoad .all "arm64" false false) := by
    decide +kernel
  exact ⟨hr, .inr ⟨"a", "/data/a/x", _, hr, rfl⟩⟩

end Manager

end DexTrail
