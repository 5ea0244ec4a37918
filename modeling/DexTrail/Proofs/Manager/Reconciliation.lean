-- SUMMARY: What reconciliation asks about each secondary file, and exactly which records go for which answers.
import DexTrail.Proofs.Manager.Invariants

/-!
# Reconciliation

A pass over the secondary files of a package asks about one file after the other. What it
asks depends on the answers but not on the records that have gone by then. So the calls of
a pass can be told apart from their consequences: `inspectAll` makes the calls and keeps
the answers, `Sweep.settle` draws the consequence of one answer. A record goes for exactly
two reasons: the package is not installed for the owner, or the file itself is misplaced
or missing.
-/

namespace DexTrail

variable {ω : Type}

/-! ## Inspections -/

/-- What was asked about a secondary file and answered. -/
structure Inspection where
  path : String
  /-- The record that the file had when the pass began. -/
  record : UsageRecord
  /-- What the authority says of the package for the owner. -/
  lookup : Except AuthorityError (Option PackageInfo)
  /-- Whether the file exists, if the helper was asked. -/
  cleanUp : Option (Except HelperError Bool)

/-- Ask about a secondary file. The helper is asked when the package is installed and the
file lies in one of its storage areas. -/
def inspect (services : Services ω) (package : String) (w : ω) (e : String × UsageRecord) :
    ω × Inspection :=
  match services.lookup package e.2.owner w with
  | (w, .error fault) => (w, ⟨e.1, e.2, .error fault, none⟩)
  | (w, .ok none) => (w, ⟨e.1, e.2, .ok none, none⟩)
  | (w, .ok (some app)) =>
    match app.storageOf? e.1 with
    | none => (w, ⟨e.1, e.2, .ok (some app), none⟩)
    | some storage =>
      let request : Cleanup :=
        { path := e.1, package, uid := app.uid, isas := e.2.isas.toList, volume := app.volume,
          storage }
      let (w, answer) := services.cleanUp .held request w
      (w, ⟨e.1, e.2, .ok (some app), some answer⟩)

/-- Ask about secondary files one after the other. -/
def inspectAll (services : Services ω) (package : String) (w : ω) :
    List (String × UsageRecord) → ω × List Inspection
  | [] => (w, [])
  | e :: files =>
    let (w, i) := inspect services package w e
    let (w, inspected) := inspectAll services package w files
    (w, i :: inspected)

/-- The secondary files of a package with their records. -/
def Ledger.secondaryOf (l : Ledger) (package : String) : List (String × UsageRecord) :=
  match l.usage? package with
  | none => []
  | some usage => usage.secondary

namespace PackageInfo

/-- A path lies in no storage area when neither of the two directories holds it. -/
theorem storageOf?_eq_none_iff {info : PackageInfo} {path : String} :
    info.storageOf? path = none ↔
      ∀ dir, info.deviceDir = some dir ∨ info.credentialDir = some dir →
        isUnder dir path = false := by
  have hnone : info.storageOf? path = none ↔
      (info.deviceDir.any fun dir => isUnder dir path) = false ∧
      (info.credentialDir.any fun dir => isUnder dir path) = false := by
    unfold storageOf?
    split
    · next h => simp [h]
    · next h =>
      split
      · next h' => simp [h']
      · next h' => simp [h, h']
  rw [hnone, Option.any_eq_false, Option.any_eq_false]
  simp only [or_imp, forall_and]

end PackageInfo

namespace Inspection

/-- The package is not installed for the owner of the file. -/
def IsUninstalled (i : Inspection) : Prop := i.lookup = .ok none

/-- The file lies under neither storage directory of the package. -/
def IsMisplaced (i : Inspection) : Prop :=
  ∃ app, i.lookup = .ok (some app) ∧
    ∀ dir, app.deviceDir = some dir ∨ app.credentialDir = some dir → isUnder dir i.path = false

/-- The helper says that the file is missing. -/
def IsMissing (i : Inspection) : Prop := i.cleanUp = some (.ok false)

/-- A service gave no answer. -/
def IsFailed (i : Inspection) : Prop :=
  (∃ e, i.lookup = .error e) ∨ ∃ e, i.cleanUp = some (.error e)

/-- The helper is asked only about files in a storage area of an installed package. -/
def IsCoherent (i : Inspection) : Prop :=
  i.cleanUp ≠ none → ∃ app, i.lookup = .ok (some app) ∧ app.storageOf? i.path ≠ none

theorem IsCoherent.not_isMisplaced {i : Inspection} (h : i.IsCoherent) (hasked : i.cleanUp ≠ none) :
    ¬i.IsMisplaced := by
  rintro ⟨app, hlookup, houtside⟩
  obtain ⟨app', hlookup', hinside⟩ := h hasked
  rw [hlookup'] at hlookup
  cases hlookup
  exact hinside (PackageInfo.storageOf?_eq_none_iff.2 houtside)

/-- A service that gives no answer says nothing against a record. -/
theorem IsFailed.says_nothing {i : Inspection} (h : i.IsFailed) (hi : i.IsCoherent) :
    ¬i.IsUninstalled ∧ ¬i.IsMisplaced ∧ ¬i.IsMissing := by
  rcases h with ⟨e, he⟩ | ⟨e, he⟩
  · have hasked : i.cleanUp = none := by
      refine Classical.byContradiction fun hne => ?_
      obtain ⟨app, happ, -⟩ := hi hne
      rw [he] at happ
      cases happ
    simp [IsUninstalled, IsMisplaced, IsMissing, he, hasked]
  · have hasked : i.cleanUp ≠ none := by simp [he]
    obtain ⟨app, happ, -⟩ := hi hasked
    refine ⟨?_, hi.not_isMisplaced hasked, ?_⟩
    · simp [IsUninstalled, happ]
    · simp [IsMissing, he]

/-! ### Verdicts -/

/-- What follows from an inspection. -/
inductive Verdict where
  /-- Nothing goes. -/
  | keep
  /-- All records of the owner go. -/
  | dropOwner
  /-- The record of the file goes. -/
  | dropFile

def verdict (i : Inspection) : Verdict :=
  match i.lookup with
  | .error _ => .keep
  | .ok none => .dropOwner
  | .ok (some app) =>
    match app.storageOf? i.path, i.cleanUp with
    | none, _ => .dropFile
    | some _, some (.ok false) => .dropFile
    | some _, _ => .keep

theorem verdict_eq_dropOwner_iff {i : Inspection} : i.verdict = .dropOwner ↔ i.IsUninstalled := by
  unfold verdict IsUninstalled
  rcases i.lookup with _ | _ | app
  · simp
  · simp
  · simp only [reduceCtorEq, Except.ok.injEq, iff_false]
    split <;> simp

theorem verdict_eq_dropFile_iff {i : Inspection} (h : i.IsCoherent) :
    i.verdict = .dropFile ↔ i.IsMisplaced ∨ i.IsMissing := by
  constructor
  · intro hv
    unfold verdict at hv
    split at hv
    · cases hv
    · cases hv
    · next app hlookup =>
      split at hv
      · next hstorage => exact .inl ⟨app, hlookup, PackageInfo.storageOf?_eq_none_iff.1 hstorage⟩
      · next hmissing => exact .inr hmissing
      · cases hv
  · rintro (⟨app, hlookup, houtside⟩ | hmissing)
    · simp [verdict, hlookup, PackageInfo.storageOf?_eq_none_iff.2 houtside]
    · have hasked : i.cleanUp ≠ none := by
        rw [hmissing]
        simp
      obtain ⟨app, hlookup, hinside⟩ := h hasked
      obtain ⟨storage, hstorage⟩ := Option.ne_none_iff_exists'.1 hinside
      simp only [IsMissing] at hmissing
      simp [verdict, hlookup, hstorage, hmissing]

/-- Whether an inspection drops the record `r` of the file at `path`. -/
def drops (i : Inspection) (path : String) (r : UsageRecord) : Bool :=
  match i.verdict with
  | .keep => false
  | .dropOwner => r.owner == i.record.owner
  | .dropFile => path == i.path && r.owner == i.record.owner

theorem drops_iff {i : Inspection} (hi : i.IsCoherent) {path : String} {r : UsageRecord} :
    i.drops path r ↔
      i.IsUninstalled ∧ r.owner = i.record.owner ∨
      (i.IsMisplaced ∨ i.IsMissing) ∧ path = i.path ∧ r.owner = i.record.owner := by
  rw [← verdict_eq_dropOwner_iff, ← verdict_eq_dropFile_iff hi]
  unfold drops
  cases i.verdict <;> simp

end Inspection

theorem inspect_fields (services : Services ω) (package : String) (w : ω)
    (e : String × UsageRecord) :
    (inspect services package w e).2.path = e.1 ∧ (inspect services package w e).2.record = e.2 ∧
      (inspect services package w e).2.IsCoherent := by
  unfold inspect
  rcases services.lookup package e.2.owner w with ⟨w, _ | _ | app⟩
  · exact ⟨rfl, rfl, fun h => absurd rfl h⟩
  · exact ⟨rfl, rfl, fun h => absurd rfl h⟩
  · dsimp only
    split
    · exact ⟨rfl, rfl, fun h => absurd rfl h⟩
    · next storage hstorage => exact ⟨rfl, rfl, fun _ => ⟨app, rfl, by simp [hstorage]⟩⟩

/-- There is one inspection for each file, in the order of the files. -/
theorem map_inspectAll (services : Services ω) (package : String) (w : ω)
    (files : List (String × UsageRecord)) :
    (inspectAll services package w files).2.map (fun i => (i.path, i.record)) = files := by
  induction files generalizing w with
  | nil => rfl
  | cons e files ih =>
    obtain ⟨hpath, hrecord, -⟩ := inspect_fields services package w e
    rw [inspectAll, List.map_cons, hpath, hrecord, ih]

theorem mem_of_mem_inspectAll {services : Services ω} {package : String} {w : ω}
    {files : List (String × UsageRecord)} {i : Inspection}
    (h : i ∈ (inspectAll services package w files).2) : (i.path, i.record) ∈ files := by
  rw [← map_inspectAll services package w files]
  exact List.mem_map_of_mem h

/-- Every inspection of a pass is the inspection of some file. -/
theorem exists_of_mem_inspectAll {services : Services ω} {package : String} {w : ω}
    {files : List (String × UsageRecord)} {i : Inspection}
    (h : i ∈ (inspectAll services package w files).2) :
    ∃ w e, i = (inspect services package w e).2 := by
  induction files generalizing w with
  | nil => cases h
  | cons e files ih =>
    rcases List.mem_cons.1 h with rfl | h
    · exact ⟨w, e, rfl⟩
    · exact ih h

theorem isCoherent_of_mem_inspectAll {services : Services ω} {package : String} {w : ω}
    {files : List (String × UsageRecord)} {i : Inspection}
    (h : i ∈ (inspectAll services package w files).2) : i.IsCoherent := by
  obtain ⟨w, e, rfl⟩ := exists_of_mem_inspectAll h
  exact (inspect_fields services package w e).2.2

/-! ## Consequences -/

namespace Sweep

/-- Draw the consequence of an inspection. -/
def settle (package : String) (usage : PackageUsage) (s : Sweep ω) (i : Inspection) : Sweep ω :=
  match i.verdict with
  | .keep => s
  | .dropOwner => s.dropUser package usage i.record.owner
  | .dropFile => s.dropFile package i.path i.record.owner

/-- A consequence is the same in any outside world. -/
theorem exists_settle (package : String) (usage : PackageUsage) (l : Ledger)
    (removed : SortedSet String) (i : Inspection) :
    ∃ l' removed', ∀ {ω : Type} (w : ω),
      settle package usage ⟨l, removed, w⟩ i = ⟨l', removed', w⟩ := by
  unfold settle
  cases i.verdict with
  | keep => exact ⟨l, removed, fun _ => rfl⟩
  | dropOwner =>
    simp only [dropUser]
    rcases l.removeUser package i.record.owner with ⟨l', _ | _⟩
    · exact ⟨l', removed, fun _ => rfl⟩
    · exact ⟨l', _, fun _ => rfl⟩
  | dropFile =>
    simp only [dropFile]
    rcases l.removeFile package i.path i.record.owner with ⟨l', _ | _⟩
    · exact ⟨l', removed, fun _ => rfl⟩
    · exact ⟨l', _, fun _ => rfl⟩

/-- Consequences neither ask anything nor depend on what was asked. -/
theorem settle_withWorld (package : String) (usage : PackageUsage) (s : Sweep ω) (w : ω)
    (i : Inspection) :
    settle package usage { s with world := w } i =
      { s.settle package usage i with world := w } := by
  obtain ⟨l', removed', h⟩ := exists_settle package usage s.ledger s.removed i
  have hs : s.settle package usage i = ⟨l', removed', s.world⟩ := h s.world
  rw [hs]
  exact h w

theorem world_settle (package : String) (usage : PackageUsage) (s : Sweep ω) (i : Inspection) :
    (s.settle package usage i).world = s.world := by
  have hworld := congrArg Sweep.world (settle_withWorld package usage s s.world i)
  exact hworld

/-- Looking at a file is asking about it and drawing the consequence. -/
theorem examine_eq (services : Services ω) (package : String) (usage : PackageUsage) (s : Sweep ω)
    (e : String × UsageRecord) :
    s.examine services package usage e.1 e.2 =
      settle package usage { s with world := (inspect services package s.world e).1 }
        (inspect services package s.world e).2 := by
  simp only [examine, inspect]
  rcases services.lookup package e.2.owner s.world with ⟨w, _ | _ | app⟩
  · rfl
  · rfl
  · dsimp only
    cases hstorage : app.storageOf? e.1 with
    | none => simp [settle, Inspection.verdict, hstorage]
    | some storage =>
      dsimp only
      split <;> simp_all [settle, Inspection.verdict]

/-- A pass makes its calls whatever goes on the way, so all of them may come first. -/
theorem run_eq (services : Services ω) (package : String) (usage : PackageUsage) (s : Sweep ω)
    (files : List (String × UsageRecord)) :
    files.foldl (fun s e => s.examine services package usage e.1 e.2) s =
      (inspectAll services package s.world files).2.foldl (settle package usage)
        { s with world := (inspectAll services package s.world files).1 } := by
  induction files generalizing s with
  | nil => rfl
  | cons e files ih =>
    rw [List.foldl_cons, ih, examine_eq, settle_withWorld]
    simp only [inspectAll, List.foldl_cons, settle_withWorld]

/-! ### Records -/

theorem usage?_settle_of_ne (s : Sweep ω) (package : String) (usage : PackageUsage)
    (i : Inspection) {q : String} (h : q ≠ package) :
    (s.settle package usage i).ledger.usage? q = s.ledger.usage? q := by
  unfold settle
  cases i.verdict with
  | keep => rfl
  | dropOwner => rw [ledger_dropUser, Ledger.removeUser, Ledger.usage?_restrict, if_neg h]
  | dropFile =>
    rw [ledger_dropFile]
    exact s.ledger.usage?_removeFile_of_ne i.path i.record.owner h

/-- The consequence of an inspection drops exactly the records that the inspection drops. -/
theorem record?_settle (package : String) (usage : PackageUsage) (s : Sweep ω) (i : Inspection)
    (path : String) :
    (s.settle package usage i).ledger.record? package path =
      (s.ledger.record? package path).filter fun r => !i.drops path r := by
  unfold settle Inspection.drops
  cases i.verdict with
  | keep => cases s.ledger.record? package path <;> rfl
  | dropOwner =>
    rw [ledger_dropUser, Ledger.removeUser, Ledger.record?_restrict, if_pos rfl]
    rfl
  | dropFile =>
    rw [ledger_dropFile]
    by_cases hpath : path = i.path
    · subst hpath
      rw [Ledger.record?_removeFile_self]
      simp [bne]
    · rw [Ledger.record?_removeFile_of_ne _ _ (.inr hpath)]
      have hne : (path == i.path) = false := beq_eq_false_iff_ne.2 hpath
      cases s.ledger.record? package path <;> simp [Option.filter, hne]

/-- What no consequence changes is the same after all of them. -/
theorem foldl_settle_congr {β : Type} {package : String} {usage : PackageUsage}
    (view : Sweep ω → β) (h : ∀ s i, view (settle package usage s i) = view s) (s : Sweep ω)
    (inspected : List Inspection) :
    view (inspected.foldl (settle package usage) s) = view s := by
  induction inspected generalizing s with
  | nil => rfl
  | cons i inspected ih =>
    rw [List.foldl_cons, ih]
    exact h s i

/-- Where nothing speaks against a file, there are no consequences. -/
theorem foldl_settle_of_keep {inspected : List Inspection}
    (h : ∀ i ∈ inspected, i.verdict = .keep) (package : String) (usage : PackageUsage)
    (s : Sweep ω) : inspected.foldl (settle package usage) s = s := by
  induction inspected with
  | nil => rfl
  | cons i inspected ih =>
    rw [List.foldl_cons, settle, h i List.mem_cons_self]
    exact ih fun j hj => h j (List.mem_cons_of_mem i hj)

/-- After all consequences are drawn, a record is there when it was and no inspection drops it. -/
theorem record?_foldl_settle (package : String) (usage : PackageUsage) (s : Sweep ω)
    (inspected : List Inspection) (path : String) :
    (inspected.foldl (settle package usage) s).ledger.record? package path =
      (s.ledger.record? package path).filter fun r => !inspected.any fun i => i.drops path r := by
  induction inspected generalizing s with
  | nil =>
    rw [List.foldl_nil]
    cases s.ledger.record? package path <;> rfl
  | cons i inspected ih =>
    rw [List.foldl_cons, ih, record?_settle, Option.filter_filter]
    simp only [List.any_cons, Bool.not_or]

/-! ### Counting -/

/-- The removed paths are those secondary files of the usage at the start that have no
record now. What is left of the package was there at the start. -/
structure Counts (package : String) (usage : PackageUsage) (s : Sweep ω) : Prop where
  left : ∀ path r, s.ledger.record? package path = some r → usage.get? path = some r
  removed : ∀ path, path ∈ s.removed ↔
    ∃ r, usage.get? path = some r ∧ r.isSecondary ∧ s.ledger.record? package path = none

theorem mem_secondary_iff {usage : PackageUsage} {path : String} {r : UsageRecord} :
    (path, r) ∈ usage.secondary ↔ usage.get? path = some r ∧ r.isSecondary := by
  rw [PackageUsage.secondary, List.mem_filter, SortedMap.mem_toList_iff]

/-- The paths of selected secondary files. -/
theorem mem_paths_secondary_iff {usage : PackageUsage} {select : String × UsageRecord → Bool}
    {path : String} :
    path ∈ (usage.secondary.filter select).map (·.1) ↔
      ∃ r, usage.get? path = some r ∧ r.isSecondary ∧ select (path, r) := by
  rw [List.mem_map]
  constructor
  · rintro ⟨⟨p, r⟩, he, rfl⟩
    obtain ⟨he, hselect⟩ := List.mem_filter.1 he
    obtain ⟨hr, hsecondary⟩ := mem_secondary_iff.1 he
    exact ⟨r, hr, hsecondary, hselect⟩
  · rintro ⟨r, hr, hsecondary, hselect⟩
    exact ⟨(path, r), List.mem_filter.2 ⟨mem_secondary_iff.2 ⟨hr, hsecondary⟩, hselect⟩, rfl⟩

variable {package : String} {usage : PackageUsage} {s : Sweep ω}

theorem Counts.mem_removed_dropUser (h : s.Counts package usage) (user : UserId) (path : String) :
    path ∈ (s.dropUser package usage user).removed ↔
      path ∈ s.removed ∨
      ∃ r, s.ledger.record? package path = some r ∧ r.isSecondary ∧ r.owner == user := by
  unfold dropUser
  rcases hremove : s.ledger.removeUser package user with ⟨l, _ | _⟩
  · -- nothing of the user was left
    refine (or_iff_left ?_).symm
    rintro ⟨r, hr, -, howner⟩
    have hchanged : (s.ledger.removeUser package user).2 = true :=
      Ledger.restrict_changed_iff.2 ⟨path, r, hr, by simpa using howner⟩
    rw [hremove] at hchanged
    cases hchanged
  · dsimp only
    rw [SortedSet.mem_insertMany, or_comm, mem_paths_secondary_iff]
    constructor
    · rintro (hgone | ⟨r, hstart, hsecondary, howner⟩)
      · exact .inl hgone
      · -- a secondary file of the user has gone before, or it goes now
        cases hr : s.ledger.record? package path with
        | none => exact .inl ((h.removed path).2 ⟨r, hstart, hsecondary, hr⟩)
        | some r' =>
          obtain rfl : r' = r := Option.some.inj ((h.left path r' hr).symm.trans hstart)
          exact .inr ⟨r', rfl, hsecondary, howner⟩
    · rintro (hgone | ⟨r, hr, hsecondary, howner⟩)
      · exact .inl hgone
      · exact .inr ⟨r, h.left path r hr, hsecondary, howner⟩

theorem Counts.mem_removed_dropFile (h : s.Counts package usage) {file : String} {r : UsageRecord}
    (hfile : (file, r) ∈ usage.secondary) (path : String) :
    path ∈ (s.dropFile package file r.owner).removed ↔
      path ∈ s.removed ∨ path = file ∧ ∃ r', s.ledger.record? package file = some r' ∧
        r'.isSecondary ∧ r'.owner = r.owner := by
  have hstart := mem_secondary_iff.1 hfile
  unfold dropFile
  rcases hremove : s.ledger.removeFile package file r.owner with ⟨l, _ | _⟩
  · refine (or_iff_left ?_).symm
    rintro ⟨-, r', hr', -, howner⟩
    have hchanged := Ledger.removeFile_changed_iff.2 ⟨r', hr', howner⟩
    rw [hremove] at hchanged
    cases hchanged
  · have hchanged : (s.ledger.removeFile package file r.owner).2 = true := by rw [hremove]
    obtain ⟨r', hr', howner⟩ := Ledger.removeFile_changed_iff.1 hchanged
    -- what is left of the file is its record at the start
    obtain rfl : r' = r := Option.some.inj ((h.left file r' hr').symm.trans hstart.1)
    dsimp only
    rw [SortedSet.mem_insert, or_comm]
    refine or_congr_right (iff_self_and.2 ?_)
    intro _
    exact ⟨r', hr', hstart.2, rfl⟩

/-- The consequence of an inspection counts the secondary files whose records it drops. -/
theorem Counts.mem_removed_settle (h : s.Counts package usage) {i : Inspection}
    (hi : (i.path, i.record) ∈ usage.secondary) (path : String) :
    path ∈ (s.settle package usage i).removed ↔
      path ∈ s.removed ∨
      ∃ r, s.ledger.record? package path = some r ∧ r.isSecondary ∧ i.drops path r := by
  unfold settle Inspection.drops
  cases i.verdict with
  | keep => simp
  | dropOwner => exact h.mem_removed_dropUser i.record.owner path
  | dropFile =>
    dsimp only
    rw [h.mem_removed_dropFile hi path]
    refine or_congr_right ⟨?_, ?_⟩
    · rintro ⟨rfl, r, hr, hsecondary, howner⟩
      exact ⟨r, hr, hsecondary, by simp [howner]⟩
    · rintro ⟨r, hr, hsecondary, hdrops⟩
      obtain ⟨rfl, howner⟩ : path = i.path ∧ r.owner = i.record.owner := by simpa using hdrops
      exact ⟨rfl, r, hr, hsecondary, howner⟩

theorem counts_start {l : Ledger} (h : l.usage? package = some usage) (w : ω) :
    Counts package usage ⟨l, .empty, w⟩ where
  left := by
    intro path r hr
    rw [Ledger.record?, h] at hr
    exact hr
  removed := by
    intro path
    refine iff_of_false (SortedSet.not_mem_empty path) ?_
    rintro ⟨r, hr, -, hgone⟩
    rw [Ledger.record?, h] at hgone
    exact absurd (hr.symm.trans hgone) (Option.some_ne_none r)

theorem Counts.settle (h : s.Counts package usage) {i : Inspection}
    (hi : (i.path, i.record) ∈ usage.secondary) :
    (s.settle package usage i).Counts package usage where
  left := by
    intro path r hr
    rw [record?_settle] at hr
    exact h.left path r (Option.filter_eq_some_iff.1 hr).1
  removed := by
    intro path
    rw [h.mem_removed_settle hi, h.removed, record?_settle]
    cases hr : s.ledger.record? package path with
    | none => simp
    | some r =>
      have hstart : usage.get? path = some r := h.left path r hr
      simp [hstart, Option.filter_eq_none_iff]

theorem Counts.foldl_settle (h : s.Counts package usage) {inspected : List Inspection}
    (hi : ∀ i ∈ inspected, (i.path, i.record) ∈ usage.secondary) :
    (inspected.foldl (Sweep.settle package usage) s).Counts package usage := by
  induction inspected generalizing s with
  | nil => exact h
  | cons i inspected ih =>
    exact ih (h.settle (hi i List.mem_cons_self)) fun j hj => hi j (List.mem_cons_of_mem i hj)

/-- The number of removed paths is the number of secondary files without a record. -/
theorem Counts.size_removed (h : s.Counts package usage) :
    s.removed.size =
      (usage.secondary.filter fun e => (s.ledger.record? package e.1).isNone).length := by
  have hgone : ((usage.secondary.filter fun e =>
      (s.ledger.record? package e.1).isNone).map (·.1)).Nodup :=
    usage.nodup_keys.sublist ((List.filter_sublist.trans List.filter_sublist).map _)
  have hperm := (List.perm_ext_iff_of_nodup s.removed.nodup_toList hgone).2 fun path => by
    rw [SortedSet.mem_toList, h.removed, mem_paths_secondary_iff]
    simp only [Option.isNone_iff_eq_none]
  rw [← SortedSet.length_toList, hperm.length_eq, List.length_map]

end Sweep

/-! ## Passes -/

theorem Ledger.mem_secondaryOf_iff {l : Ledger} {package path : String} {r : UsageRecord} :
    (path, r) ∈ l.secondaryOf package ↔ l.record? package path = some r ∧ r.isSecondary := by
  unfold secondaryOf record?
  cases l.usage? package with
  | none => simp
  | some usage => exact Sweep.mem_secondary_iff

namespace Manager

/-- The inspections of a pass, and the outside world after them. -/
def inspections (services : Services ω) (m : Manager) (w : ω) (package : String) :
    ω × List Inspection :=
  inspectAll services package w (m.ledger.secondaryOf package)

variable {services : Services ω} {m : Manager} {w : ω} {package : String} {i : Inspection}

theorem isCoherent_of_mem_inspections (hi : i ∈ (m.inspections services w package).2) :
    i.IsCoherent :=
  isCoherent_of_mem_inspectAll hi

/-- Every inspection is of a secondary file with the record that it had at the start. -/
theorem record?_of_mem_inspections (hi : i ∈ (m.inspections services w package).2) :
    m.ledger.record? package i.path = some i.record ∧ i.record.isSecondary := by
  rw [← Ledger.mem_secondaryOf_iff]
  exact mem_of_mem_inspectAll hi

/-- What a pass leaves, in terms of its inspections. -/
theorem reconcile_spec (services : Services ω) (m : Manager) (w : ω) (package : String) :
    let result := m.reconcile services w package
    let inspected := m.inspections services w package
    result.2.1 = inspected.1 ∧
    (∀ q, q ≠ package → result.1.ledger.usage? q = m.ledger.usage? q) ∧
    (∀ path, result.1.ledger.record? package path =
      (m.ledger.record? package path).filter fun r => !inspected.2.any fun i => i.drops path r) ∧
    result.2.2.examined = (m.ledger.secondaryOf package).length ∧
    result.2.2.removed = ((m.ledger.secondaryOf package).filter fun e =>
      (result.1.ledger.record? package e.1).isNone).length := by
  dsimp only
  cases hu : m.ledger.usage? package with
  | none =>
    simp [reconcile, inspections, Ledger.secondaryOf, hu, inspectAll, Ledger.record?]
  | some usage =>
    have hsecondary : m.ledger.secondaryOf package = usage.secondary := by
      rw [Ledger.secondaryOf, hu]
    have hmem : ∀ i ∈ (inspectAll services package w usage.secondary).2,
        (i.path, i.record) ∈ usage.secondary := fun _ => mem_of_mem_inspectAll
    have hcounts := (Sweep.counts_start hu
      (inspectAll services package w usage.secondary).1).foldl_settle hmem
    simp only [reconcile, inspections, hu, hsecondary, Sweep.run, Sweep.run_eq]
    refine ⟨?_, ?_, ?_, trivial, hcounts.size_removed⟩
    · exact Sweep.foldl_settle_congr Sweep.world (Sweep.world_settle package usage) _ _
    · intro q hq
      exact Sweep.foldl_settle_congr (fun s => s.ledger.usage? q)
        (fun s i => s.usage?_settle_of_ne package usage i hq) _ _
    · intro path
      exact Sweep.record?_foldl_settle package usage _ _ path

theorem policy_reconcile (services : Services ω) (m : Manager) (w : ω) (package : String) :
    (m.reconcile services w package).1.policy = m.policy := by
  unfold reconcile
  cases m.ledger.usage? package <;> rfl

/-- Where nothing speaks against the secondary files, a pass changes nothing. -/
theorem reconcile_of_keep (h : ∀ i ∈ (m.inspections services w package).2, i.verdict = .keep) :
    m.reconcile services w package =
      (m, (m.inspections services w package).1, ⟨(m.ledger.secondaryOf package).length, 0⟩) := by
  unfold reconcile
  unfold inspections Ledger.secondaryOf at h ⊢
  cases hu : m.ledger.usage? package with
  | none => simp [inspectAll]
  | some usage =>
    rw [hu] at h
    simp only [Sweep.run, Sweep.run_eq, Sweep.foldl_settle_of_keep h]
    rfl

/-- A record that the package had at the start goes exactly when an inspection finds the
package uninstalled for its owner, or the file itself misplaced or missing. -/
theorem exists_drops_iff {path : String} {r : UsageRecord}
    (hr : m.ledger.record? package path = some r) :
    ((m.inspections services w package).2.any fun i => i.drops path r) ↔
      (∃ i ∈ (m.inspections services w package).2, i.IsUninstalled ∧ r.owner = i.record.owner) ∨
      r.isSecondary ∧ ∃ i ∈ (m.inspections services w package).2,
        path = i.path ∧ (i.IsMisplaced ∨ i.IsMissing) := by
  rw [List.any_eq_true]
  constructor
  · rintro ⟨i, hi, hdrops⟩
    rcases (Inspection.drops_iff (isCoherent_of_mem_inspections hi)).1 hdrops with
      h | ⟨hgone, rfl, -⟩
    · exact .inl ⟨i, hi, h⟩
    · obtain ⟨hstart, hsecondary⟩ := record?_of_mem_inspections hi
      obtain rfl := Option.some.inj (hstart.symm.trans hr)
      exact .inr ⟨hsecondary, i, hi, rfl, hgone⟩
  · rintro (⟨i, hi, h⟩ | ⟨-, i, hi, rfl, hgone⟩)
    · exact ⟨i, hi, (Inspection.drops_iff (isCoherent_of_mem_inspections hi)).2 (.inl h)⟩
    · obtain rfl := Option.some.inj ((record?_of_mem_inspections hi).1.symm.trans hr)
      exact ⟨i, hi, (Inspection.drops_iff (isCoherent_of_mem_inspections hi)).2
        (.inr ⟨hgone, rfl, rfl⟩)⟩

/-- Every secondary file has its inspection. -/
theorem exists_mem_inspections {path : String} {r : UsageRecord}
    (hr : m.ledger.record? package path = some r) (hsecondary : r.isSecondary)
    (services : Services ω) (w : ω) :
    ∃ i ∈ (m.inspections services w package).2, i.path = path ∧ i.record = r := by
  have hmem := Ledger.mem_secondaryOf_iff.2 ⟨hr, hsecondary⟩
  rw [← map_inspectAll services package w (m.ledger.secondaryOf package), List.mem_map] at hmem
  obtain ⟨i, hi, hpair⟩ := hmem
  cases hpair
  exact ⟨i, hi, rfl, rfl⟩

theorem record?_reconcile_eq_none_iff {path : String} {r : UsageRecord}
    (hr : m.ledger.record? package path = some r) :
    (m.reconcile services w package).1.ledger.record? package path = none ↔
      (∃ i ∈ (m.inspections services w package).2, i.IsUninstalled ∧ r.owner = i.record.owner) ∨
      r.isSecondary ∧ ∃ i ∈ (m.inspections services w package).2,
        path = i.path ∧ (i.IsMisplaced ∨ i.IsMissing) := by
  obtain ⟨-, -, hrecords, -, -⟩ := reconcile_spec services m w package
  rw [hrecords, hr, ← exists_drops_iff hr, Option.filter_some]
  cases (m.inspections services w package).2.any fun i => i.drops path r <;> simp

/-- A pass makes the calls of its inspections, one for each secondary file of the package,
and no others. It adds no record, changes none, and leaves other packages alone. A record
goes exactly when some inspection finds the package uninstalled for the record's owner, or,
if the record is secondary, when the file lies outside the storage directories of the package
that was answered for it or the helper says that it is missing. A service that gives no answer
says none of that. The report counts the secondary records looked at and those that went. -/
theorem reconcile_exact (services : Services ω) (m : Manager) (w : ω) (package : String) :
    let result := m.reconcile services w package
    let inspected := m.inspections services w package
    result.2.1 = inspected.1 ∧
    inspected.2.map (fun i => (i.path, i.record)) = m.ledger.secondaryOf package ∧
    (∀ q, q ≠ package → result.1.ledger.usage? q = m.ledger.usage? q) ∧
    (∀ path, m.ledger.record? package path = none →
      result.1.ledger.record? package path = none) ∧
    (∀ path r, m.ledger.record? package path = some r →
      (result.1.ledger.record? package path = some r ∨
        result.1.ledger.record? package path = none) ∧
      (result.1.ledger.record? package path = none ↔
        (∃ i ∈ inspected.2, i.IsUninstalled ∧ r.owner = i.record.owner) ∨
        r.isSecondary ∧ ∃ i ∈ inspected.2, path = i.path ∧ (i.IsMisplaced ∨ i.IsMissing))) ∧
    (∀ i ∈ inspected.2, i.IsFailed → ¬i.IsUninstalled ∧ ¬i.IsMisplaced ∧ ¬i.IsMissing) ∧
    result.2.2.examined = (m.ledger.secondaryOf package).length ∧
    result.2.2.removed = ((m.ledger.secondaryOf package).filter fun e =>
      (result.1.ledger.record? package e.1).isNone).length := by
  intro result inspected
  obtain ⟨hworld, hothers, hrecords, hexamined, hremoved⟩ :=
    reconcile_spec services m w package
  refine ⟨hworld, map_inspectAll services package w _, hothers, ?_, ?_, ?_, hexamined, hremoved⟩
  · intro path hr
    rw [hrecords, hr, Option.filter_none]
  · intro path r hr
    refine ⟨?_, record?_reconcile_eq_none_iff hr⟩
    rw [hrecords, hr, Option.filter_some]
    cases (m.inspections services w package).2.any fun i => i.drops path r with
    | false => exact .inl rfl
    | true => exact .inr rfl
  · intro i hi hfailed
    exact hfailed.says_nothing (isCoherent_of_mem_inspections hi)

end Manager

end DexTrail
