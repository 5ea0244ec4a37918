-- SUMMARY: A call about a package requests one write if it leaves another ledger than it found, and none otherwise.
import DexTrail.Proofs.Manager.Durability
import DexTrail.Proofs.Manager.Registration
import DexTrail.Proofs.Usage.Agreement
import DexTrail.Proofs.Usage.ChangeFlags

/-!
# Requests of calls

Loads only add to the ledger, and what else happens to a package only takes away from it.
Along either order a call does not come back to the ledger that it started from. So a loop
whose rounds raise a flag exactly when they change the ledger has its flag up at the end
exactly when the ledger is another one than at the start (`Reports.foldl`), and a call that
requests its write by that flag requests it for every change and for nothing else.
-/

namespace DexTrail

variable {ω : Type}

/-! ## Growing and shrinking ledgers -/

theorem UsageRecord.Extends.antisymm {r r' : UsageRecord} (h : r.Extends r') (h' : r'.Extends r) :
    r = r' := by
  have hisas : r.isas = r'.isas := SortedSet.ext fun isa => ⟨h.isas isa, h'.isas isa⟩
  have hshared : r.shared = r'.shared := Bool.eq_iff_iff.2 ⟨h.shared, h'.shared⟩
  have howner : r.owner = r'.owner := h.owner.symm
  have hcode : r.code = r'.code := h.code.symm
  cases r
  cases r'
  simp_all only

namespace Ledger

/-- Every record of the first ledger is in the second, where it may have taken up more. -/
def Grows (l k : Ledger) : Prop :=
  ∀ p path r, l.record? p path = some r → ∃ r', k.record? p path = some r' ∧ r.Extends r'

/-- Every record of the second ledger is one of the first. -/
def Shrinks (l k : Ledger) : Prop :=
  ∀ p path r, k.record? p path = some r → l.record? p path = some r

/-- A relation along which trim ledgers do not come back. -/
structure IsOneWay (le : Ledger → Ledger → Prop) : Prop where
  refl (l : Ledger) : le l l
  trans {l k j : Ledger} : le l k → le k j → le l j
  antisymm {l k : Ledger} : l.IsTrim → k.IsTrim → le l k → le k l → l = k

theorem isOneWay_grows : IsOneWay Grows where
  refl l p path r h := ⟨r, h, .refl r⟩
  trans h h' p path r hr := by
    obtain ⟨r', hr', hext⟩ := h p path r hr
    obtain ⟨r'', hr'', hext'⟩ := h' p path r' hr'
    exact ⟨r'', hr'', hext.trans hext'⟩
  antisymm := by
    intro l k hl hk h h'
    refine hl.ext hk fun p path => ?_
    cases hr : l.record? p path with
    | some r =>
      obtain ⟨r', hr', hext⟩ := h p path r hr
      obtain ⟨r'', hr'', hext'⟩ := h' p path r' hr'
      rw [hr, Option.some.injEq] at hr''
      rw [hr', hext.antisymm (hr'' ▸ hext')]
    | none =>
      cases hr' : k.record? p path with
      | none => rfl
      | some r' =>
        obtain ⟨r, hsome, -⟩ := h' p path r' hr'
        rw [hr] at hsome
        cases hsome

theorem isOneWay_shrinks : IsOneWay Shrinks where
  refl l p path r h := h
  trans h h' p path r hr := h p path r (h' p path r hr)
  antisymm := by
    intro l k hl hk h h'
    refine hl.ext hk fun p path => Option.ext fun r => ?_
    exact ⟨h' p path r, h p path r⟩

end Ledger

/-! ## Flags that report changes -/

/-- From `s` to `s'` the ledger goes along `le`, and the flag is up in `s'` exactly when it
was up in `s` or the ledger has changed. -/
structure Reports {σ : Type} (le : Ledger → Ledger → Prop) (ledger : σ → Ledger) (flag : σ → Bool)
    (s s' : σ) : Prop where
  along : le (ledger s) (ledger s')
  flag_iff : flag s' = true ↔ flag s = true ∨ ledger s' ≠ ledger s

namespace Reports

variable {σ α : Type} {le : Ledger → Ledger → Prop} {ledger : σ → Ledger} {flag : σ → Bool}

theorem refl (hle : Ledger.IsOneWay le) (s : σ) : Reports le ledger flag s s :=
  ⟨hle.refl _, by simp⟩

/-- Two changes one after the other do not cancel out. -/
theorem trans (hle : Ledger.IsOneWay le) {s s' s'' : σ} (hs : (ledger s).IsTrim)
    (hs' : (ledger s').IsTrim) (h : Reports le ledger flag s s')
    (h' : Reports le ledger flag s' s'') : Reports le ledger flag s s'' := by
  refine ⟨hle.trans h.along h'.along, ?_⟩
  rw [h'.flag_iff, h.flag_iff, or_assoc]
  refine or_congr_right ⟨?_, ?_⟩
  · rintro hchanged hback
    have hsame : ledger s' = ledger s :=
      hle.antisymm hs' hs (hback ▸ h'.along) h.along
    rcases hchanged with hne | hne
    · exact hne hsame
    · exact hne (hback.trans hsame.symm)
  · intro hne
    by_cases hsame : ledger s' = ledger s
    · exact .inr (hsame ▸ hne)
    · exact .inl hsame

/-- A loop reports what its rounds report. -/
theorem foldl (hle : Ledger.IsOneWay le) {next : σ → α → σ} {items : List α}
    (htrim : ∀ s, ∀ a ∈ items, (ledger s).IsTrim → (ledger (next s a)).IsTrim)
    (hround : ∀ s, ∀ a ∈ items, (ledger s).IsTrim → Reports le ledger flag s (next s a))
    {s : σ} (hs : (ledger s).IsTrim) : Reports le ledger flag s (items.foldl next s) := by
  induction items generalizing s with
  | nil => exact refl hle s
  | cons a items ih =>
    have hnext := htrim s a List.mem_cons_self hs
    refine (hround s a List.mem_cons_self hs).trans hle hs hnext (ih ?_ ?_ hnext)
    · exact fun s b hb => htrim s b (List.mem_cons_of_mem a hb)
    · exact fun s b hb => hround s b (List.mem_cons_of_mem a hb)

end Reports

/-! ## Single operations -/

namespace Ledger

theorem grows_record (l : Ledger) (d : DexLoad) : l.Grows (l.record d).1 :=
  fun _ _ _ hr => exists_extends_recordEach hr [d]

theorem shrinks_restrict (l : Ledger) (package : String) (keep : String → UsageRecord → Bool) :
    l.Shrinks (l.restrict package keep).1 := by
  intro p path r hr
  rw [record?_restrict] at hr
  split at hr
  · exact (Option.filter_eq_some_iff.1 hr).1
  · exact hr

theorem shrinks_removeFile (l : Ledger) (package path : String) (user : UserId) :
    l.Shrinks (l.removeFile package path user).1 := by
  unfold removeFile
  split
  · exact isOneWay_shrinks.refl l
  · split
    · exact l.shrinks_restrict package _
    · exact isOneWay_shrinks.refl l

/-! ## What rounds report -/

theorem reports_recordNext (s : Ledger × Bool) (d : DexLoad) :
    Reports Grows Prod.fst Prod.snd s (recordNext s d) := by
  refine ⟨?_, ?_⟩
  · rw [fst_recordNext]
    exact s.1.grows_record d
  · rw [fst_recordNext, ← record_changed_iff]
    unfold recordNext
    rcases s.1.record d with ⟨l, e | c⟩ <;> simp

end Ledger

theorem OptimizePass.reports_next (services : Services ω) (package filter : String) (force : Bool)
    {p : OptimizePass ω} (hp : p.ledger.IsTrim) (e : String × UsageRecord) :
    Reports Ledger.Shrinks OptimizePass.ledger OptimizePass.changed p
      (p.next services package filter force e) := by
  rw [next]
  rcases p.compile_cases services package filter force e.1 e.2 with ⟨hl, hc⟩ | ⟨hl, hc⟩
  · refine ⟨?_, ?_⟩
    · rw [hl]
      exact Ledger.isOneWay_shrinks.refl _
    · simp [hl, hc]
  · refine ⟨?_, ?_⟩
    · rw [hl]
      exact p.ledger.shrinks_restrict package _
    · rw [hl, hc, Bool.or_eq_true]
      exact or_congr_right hp.removeUser_changed_iff_ne

namespace Sweep

theorem flag_iff {s : Sweep ω} : s.flag = true ↔ ∃ path, path ∈ s.removed := by
  rw [flag, decide_eq_true_iff, SortedSet.size_pos_iff]

/-- Dropping a user whose file is looked at counts that file as removed, whenever a record
goes at all. -/
theorem reports_dropUser {s : Sweep ω} (hs : s.ledger.IsTrim) {package : String}
    {usage : PackageUsage} {e : String × UsageRecord} (he : e ∈ usage.secondary) :
    Reports Ledger.Shrinks Sweep.ledger Sweep.flag s (s.dropUser package usage e.2.owner) := by
  refine ⟨?_, ?_⟩
  · rw [ledger_dropUser]
    exact s.ledger.shrinks_restrict package _
  · rw [ledger_dropUser, ← hs.removeUser_changed_iff_ne]
    unfold dropUser
    rcases s.ledger.removeUser package e.2.owner with ⟨l, _ | _⟩
    · simp [flag]
    · refine iff_of_true (flag_iff.2 ⟨e.1, SortedSet.mem_insertMany.2 (.inl ?_)⟩) (.inr rfl)
      exact List.mem_map_of_mem (List.mem_filter.2 ⟨he, by simp⟩)

theorem reports_dropFile {s : Sweep ω} (hs : s.ledger.IsTrim) (package path : String)
    (user : UserId) :
    Reports Ledger.Shrinks Sweep.ledger Sweep.flag s (s.dropFile package path user) := by
  refine ⟨?_, ?_⟩
  · rw [ledger_dropFile]
    exact s.ledger.shrinks_removeFile package path user
  · rw [ledger_dropFile, ← hs.removeFile_changed_iff_ne]
    unfold dropFile
    rcases s.ledger.removeFile package path user with ⟨l, _ | _⟩
    · simp [flag]
    · exact iff_of_true (flag_iff.2 ⟨path, SortedSet.mem_insert.2 (.inl rfl)⟩) (.inr rfl)

theorem reports_next (services : Services ω) (package : String) {usage : PackageUsage}
    {s : Sweep ω} (hs : s.ledger.IsTrim) {e : String × UsageRecord} (he : e ∈ usage.secondary) :
    Reports Ledger.Shrinks Sweep.ledger Sweep.flag s (s.next services package usage e) := by
  rw [next]
  obtain ⟨w, hw | hw | hw⟩ := s.examine_cases services package usage e.1 e.2
  · rw [hw]
    -- only the world is another one, which the report does not look at
    exact ⟨Ledger.isOneWay_shrinks.refl _, by simp [flag]⟩
  · rw [hw]
    have hreport : Reports Ledger.Shrinks Sweep.ledger Sweep.flag { s with world := w }
        ({ s with world := w }.dropUser package usage e.2.owner) :=
      reports_dropUser (s := { s with world := w }) hs he
    exact ⟨hreport.along, hreport.flag_iff⟩
  · rw [hw]
    have hreport := reports_dropFile (s := { s with world := w }) hs package e.1 e.2.owner
    exact ⟨hreport.along, hreport.flag_iff⟩

end Sweep

/-! ## Calls -/

/-- Whether the call is about a package. Loading and flushing are about the file, and
maintenance consists of calls about packages. -/
def Call.concernsPackage : Call → Bool
  | .maintain | .load _ | .loadInstalled | .flush => false
  | _ => true

namespace Manager

/-- From `m` to `m'` one write is requested if the ledger has changed, and none otherwise. -/
def RequestsChange (m m' : Manager) : Prop :=
  m'.store.writes = if m'.ledger = m.ledger then m.store.writes else m.store.writes.schedule.1

theorem RequestsChange.refl (m : Manager) : m.RequestsChange m := (if_pos rfl).symm

/-- A call that takes a ledger with a truthful answer requests its changes. -/
theorem requestsChange_updateLedger {m : Manager} {result : Ledger × Bool}
    (h : result.2 = true ↔ result.1 ≠ m.ledger) : m.RequestsChange (m.updateLedger result) := by
  obtain ⟨l, changed⟩ := result
  change (m.store.writes.scheduleIf changed).1 =
    if l = m.ledger then m.store.writes else m.store.writes.schedule.1
  cases changed with
  | false =>
    have hsame : l = m.ledger := by
      by_contra hne
      cases h.2 hne
    rw [if_pos hsame]
    rfl
  | true =>
    rw [if_neg (h.1 rfl)]
    rfl

theorem recordAll_changed_iff {l : Ledger} (h : l.IsTrim) (loads : List DexLoad) :
    (recordAll l loads).2 = true ↔ (recordAll l loads).1 ≠ l := by
  have hreport : Reports Ledger.Grows Prod.fst Prod.snd (l, false) (recordAll l loads) := by
    rw [recordAll_eq]
    refine Reports.foldl Ledger.isOneWay_grows ?_ ?_ h
    · intro s d _ hs
      rw [Ledger.fst_recordNext]
      exact hs.record d
    · exact fun s d _ _ => Ledger.reports_recordNext s d
  simpa using hreport.flag_iff

theorem requestsChange_register (services : Services ω) {m : Manager} (h : m.ledger.IsTrim) (w : ω)
    (app : PackageInfo) (path : String) (shared : Bool) (user : UserId) :
    m.RequestsChange (m.register services w app path shared user).1 := by
  unfold register
  rcases services.fileExists .held path w with ⟨w, _ | _ | _⟩
  · exact .refl m
  · exact .refl m
  · cases m.registerObstacle? app path user with
    | some obstacle => exact .refl m
    | none => exact requestsChange_updateLedger (recordAll_changed_iff h _)

theorem requestsChange_optimize (services : Services ω) {m : Manager} (h : m.ledger.IsTrim) (w : ω)
    (package : String) (target : CompilerTarget) (force onlyShared : Bool) :
    m.RequestsChange (m.optimize services w package target force onlyShared).1 := by
  unfold optimize
  cases m.ledger.usage? package with
  | none => exact .refl m
  | some usage =>
    let next := OptimizePass.next services package (m.policy.filterOf target) force
    let considered := usage.secondary.filter fun e => !onlyShared || e.2.shared
    let start : OptimizePass ω := ⟨m.ledger, false, true, w⟩
    have hreport : Reports Ledger.Shrinks OptimizePass.ledger OptimizePass.changed start
        (considered.foldl next start) := by
      refine Reports.foldl Ledger.isOneWay_shrinks ?_ ?_ h
      · exact fun p e _ hp => OptimizePass.ledger_next Ledger.isKept_isTrim services _ _ _ hp e
      · exact fun p e _ hp => OptimizePass.reports_next services _ _ _ hp e
    have hflag : (considered.foldl next start).changed = true ↔
        (considered.foldl next start).ledger ≠ m.ledger := by
      simpa [start] using hreport.flag_iff
    exact requestsChange_updateLedger hflag

theorem requestsChange_reconcile (services : Services ω) {m : Manager} (h : m.ledger.IsTrim) (w : ω)
    (package : String) : m.RequestsChange (m.reconcile services w package).1 := by
  unfold reconcile
  cases m.ledger.usage? package with
  | none => exact .refl m
  | some usage =>
    let next := Sweep.next services package usage
    let start : Sweep ω := ⟨m.ledger, .empty, w⟩
    have hreport : Reports Ledger.Shrinks Sweep.ledger Sweep.flag start
        (usage.secondary.foldl next start) := by
      refine Reports.foldl Ledger.isOneWay_shrinks ?_ ?_ h
      · exact fun s e _ hs => Sweep.ledger_next Ledger.isKept_isTrim services package usage hs e
      · exact fun s e he hs => Sweep.reports_next services package hs he
    have hdown : start.flag = false := rfl
    have hflag : (usage.secondary.foldl next start).flag = true ↔
        (usage.secondary.foldl next start).ledger ≠ m.ledger := by
      simpa [hdown] using hreport.flag_iff
    exact requestsChange_updateLedger hflag

/-- Every call about a package requests its changes, whatever the services answer. -/
theorem requestsChange_perform (services : Services ω) (file : LedgerFile) {m : Manager}
    (h : m.ledger.IsTrim) (t : FileTree) (w : ω) {c : Call} (hc : c.concernsPackage) :
    m.RequestsChange (m.perform services file t w c).1 := by
  cases c with
  | noteLoad loader paths isa user =>
    simp only [perform, noteLoad]
    split
    · exact requestsChange_updateLedger (recordAll_changed_iff h _)
    · exact .refl m
  | noteInstalled info user =>
    simp only [perform, noteInstalled]
    by_cases hu : user = .all
    · rw [if_pos hu]
      exact .refl m
    · rw [if_neg hu]
      exact .refl m
  | noteUpdated package base splits => exact requestsChange_updateLedger h.restrict_changed_iff_ne
  | noteDataDestroyed package user =>
    refine requestsChange_updateLedger ?_
    split
    · exact Ledger.removePackage_changed_iff_ne
    · exact h.removeUser_changed_iff_ne
  | noteRemoved package user => exact .refl m
  | register app path shared user => exact requestsChange_register services h w app path shared user
  | optimize package target force onlyShared =>
    exact requestsChange_optimize services h w package target force onlyShared
  | reconcile package => exact requestsChange_reconcile services h w package
  | maintain => cases hc
  | load installed => cases hc
  | loadInstalled => cases hc
  | flush => cases hc

end Manager

/-! ## Runs -/

namespace Moment

/-- At every moment of a run that starts with an empty ledger, and whatever the services
answer then, a call about a package counts one more request if it leaves another ledger than
it found, and no more requests otherwise. -/
theorem requested_perform {services : Services ω} {file : LedgerFile} {h h' : Moment}
    (hempty : h.ledger = .empty) (idle : h.todo = []) (run : Leads services file h h')
    {ω' : Type} (services' : Services ω') (w : ω') {c : Call} (hc : c.concernsPackage) :
    let after := (h'.manager.perform services' file h'.disk w c).1
    after.store.writes.stats.requested =
      h'.manager.store.writes.stats.requested +
        if after.ledger = h'.manager.ledger then 0 else 1 := by
  intro after
  have htrim : h'.ledger.IsTrim := (isValid_iff_of_leads hempty idle run).1
  have hwrites : h'.manager.RequestsChange after :=
    Manager.requestsChange_perform services' file htrim h'.disk w hc
  rw [hwrites]
  split
  · rfl
  · exact WriteQueue.requested_schedule _

/-- A new manager hears of one load, requests a write of it, and none when it hears of the
same load again. -/
theorem requested_strayLoad_twice :
    let file : LedgerFile := ⟨"usage.json", []⟩
    let once := (fresh.manager.perform Rehearsal.services file fresh.disk .empty strayLoad).1
    let twice := (once.perform Rehearsal.services file fresh.disk .empty strayLoad).1
    once.ledger ≠ .empty ∧ once.store.writes.stats.requested = 1 ∧
      twice.store.writes.stats.requested = 1 := by
  intro file once twice
  have hchanged : once.ledger ≠ .empty := by decide
  have hsame : twice.ledger = once.ledger := by decide
  have start : Leads Rehearsal.services file fresh fresh := .refl
  have honce : once.store.writes.stats.requested = 0 + if once.ledger = .empty then 0 else 1 :=
    requested_perform rfl rfl start Rehearsal.services .empty rfl
  let h := fresh.perform Rehearsal.services file .empty strayLoad
  have run : Leads Rehearsal.services file fresh h := leads_perform _ _ _ _ rfl rfl
  have heq := manager_perform Rehearsal.services file .empty strayLoad fresh
  have hmanager : h.manager = once := congrArg Prod.fst heq
  have hdisk : h.disk = fresh.disk := congrArg Prod.snd heq
  have htwice := requested_perform (h := fresh) rfl rfl run Rehearsal.services .empty
    (c := strayLoad) rfl
  rw [hmanager, hdisk] at htwice
  rw [if_neg hchanged] at honce
  exact ⟨hchanged, honce, htwice.trans (by rw [if_pos hsame, honce])⟩

end Moment

end DexTrail
