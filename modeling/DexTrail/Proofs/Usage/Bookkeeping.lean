-- SUMMARY: What each ledger operation answers about its own changes, and that no operation leaves an empty package.
import DexTrail.Usage.Ledger

/-!
# Bookkeeping of ledger operations

Every operation of the ledger answers whether it changed something. An operation
that answers that it did not has left the ledger as it was, provided that the
ledger is trim: every package in it has a record. All operations keep a ledger
trim.
-/

namespace DexTrail

/-! ## Records that take up nothing new -/

namespace UsageRecord

/-- A load that says nothing new leaves the record as it is. -/
theorem merge_eq_self {r : UsageRecord} {isa : String} {shared : Bool}
    (h : r.mergeChanges isa shared = false) : r.merge isa shared = r := by
  obtain ⟨owner, isas, known, code⟩ := r
  simp only [mergeChanges, Bool.or_eq_false_iff, Bool.not_eq_false'] at h
  have hisa : isas.insert isa = isas := SortedSet.insert_of_mem h.1
  have hshared : (known || shared) = known := by
    cases known <;> simp_all
  simp [merge, hisa, hshared]

end UsageRecord

/-! ## The four answers to a load -/

/-- Whether the load leaves a trace unless it is refused: a package that loads its
own installed code leaves none. -/
def DexLoad.isRelevant (d : DexLoad) : Bool := !d.code || d.shared

/-- Whether the record refuses the load: a secondary file takes up secondary loads
for its owner only. -/
def UsageRecord.refuses (r : UsageRecord) (d : DexLoad) : Bool :=
  r.isSecondary && !d.code && r.owner != d.user

namespace Ledger

theorem record?_congr {l k : Ledger} {p : String} (h : l.usage? p = k.usage? p) (path : String) :
    l.record? p path = k.record? p path := by
  rw [record?, h, record?]

theorem record_of_irrelevant {l : Ledger} {d : DexLoad} (h : d.isRelevant = false) :
    l.record d = (l, .ok false) := by
  have hd : (d.code && !d.shared) = true := by
    simpa [DexLoad.isRelevant] using h
  rw [record, if_pos hd]

theorem record_of_relevant {l : Ledger} {d : DexLoad} (h : d.isRelevant) :
    l.record d =
      match l.record? d.package d.path with
      | none =>
        (l.setRecord d.package d.path (.ofLoad d.user d.isa d.shared d.code), .ok true)
      | some r =>
        if r.refuses d then (l, .error ⟨d.package, d.path, r.owner, d.user⟩)
        else (l.setRecord d.package d.path (r.merge d.isa d.shared),
          .ok (r.mergeChanges d.isa d.shared)) := by
  have hd : ¬(d.code && !d.shared) = true := by
    rcases Bool.or_eq_true_iff.1 h with hc | hs
    · simp [Bool.not_eq_eq_eq_not.1 hc]
    · simp [hs]
  rw [record, if_neg hd]
  rfl

theorem record_new {l : Ledger} {d : DexLoad} (h : d.isRelevant)
    (hr : l.record? d.package d.path = none) :
    l.record d =
      (l.setRecord d.package d.path (.ofLoad d.user d.isa d.shared d.code), .ok true) := by
  rw [record_of_relevant h, hr]

theorem record_refused {l : Ledger} {d : DexLoad} {r : UsageRecord} (h : d.isRelevant)
    (hr : l.record? d.package d.path = some r) (hd : r.refuses d) :
    l.record d = (l, .error ⟨d.package, d.path, r.owner, d.user⟩) := by
  rw [record_of_relevant h, hr]
  exact if_pos hd

theorem record_merged {l : Ledger} {d : DexLoad} {r : UsageRecord} (h : d.isRelevant)
    (hr : l.record? d.package d.path = some r) (hd : r.refuses d = false) :
    l.record d =
      (l.setRecord d.package d.path (r.merge d.isa d.shared),
        .ok (r.mergeChanges d.isa d.shared)) := by
  rw [record_of_relevant h, hr]
  exact if_neg (Bool.eq_false_iff.1 hd)

/-- What a load does: nothing, or it makes a record, or it is refused, or it is
merged into a record. -/
theorem record_cases (l : Ledger) (d : DexLoad) :
    l.record d = (l, .ok false) ∨
    l.record d =
      (l.setRecord d.package d.path (.ofLoad d.user d.isa d.shared d.code), .ok true) ∨
    (∃ r, l.record d = (l, .error ⟨d.package, d.path, r, d.user⟩)) ∨
    ∃ r, l.record? d.package d.path = some r ∧
      l.record d =
        (l.setRecord d.package d.path (r.merge d.isa d.shared),
          .ok (r.mergeChanges d.isa d.shared)) := by
  cases h : d.isRelevant with
  | false => exact .inl (record_of_irrelevant h)
  | true =>
    cases hr : l.record? d.package d.path with
    | none => exact .inr (.inl (record_new h hr))
    | some r =>
      cases hd : r.refuses d with
      | true => exact .inr (.inr (.inl ⟨_, record_refused h hr hd⟩))
      | false => exact .inr (.inr (.inr ⟨r, rfl, record_merged h hr hd⟩))

/-! ## Trim ledgers -/

/-- Every package of the ledger has a record. -/
def IsTrim (l : Ledger) : Prop := ∀ p u, l.usage? p = some u → u.isEmpty = false

theorem isTrim_empty : empty.IsTrim := by
  intro p u h
  cases h

theorem IsTrim.isSome_usage?_iff {l : Ledger} (h : l.IsTrim) {p : String} :
    (l.usage? p).isSome ↔ ∃ path r, l.record? p path = some r := by
  constructor
  · intro hp
    obtain ⟨u, hu⟩ := Option.isSome_iff_exists.1 hp
    obtain ⟨e, he⟩ := List.exists_mem_of_ne_nil _ (List.isEmpty_eq_false_iff.1 (h p u hu))
    refine ⟨e.1, e.2, ?_⟩
    rw [record?, hu]
    exact SortedMap.mem_toList_iff.1 he
  · rintro ⟨path, r, hr⟩
    obtain ⟨u, hu, -⟩ := Option.bind_eq_some_iff.1 hr
    rw [hu]
    rfl

theorem IsTrim.setRecord {l : Ledger} (h : l.IsTrim) (p path : String) (r : UsageRecord) :
    (l.setRecord p path r).IsTrim := by
  intro q u hu
  rw [usage?_setRecord] at hu
  split at hu
  · cases hu
    exact SortedMap.isEmpty_insert _ _ _
  · exact h q u hu

theorem IsTrim.record {l : Ledger} (h : l.IsTrim) (d : DexLoad) : (l.record d).1.IsTrim := by
  rcases record_cases l d with hd | hd | ⟨_, hd⟩ | ⟨r, -, hd⟩ <;> rw [hd]
  · exact h
  · exact h.setRecord _ _ _
  · exact h
  · exact h.setRecord _ _ _

theorem usage?_restrict (l : Ledger) (p q : String) (keep : String → UsageRecord → Bool) :
    (l.restrict p keep).1.usage? q =
      if q = p then ((l.usage? q).map fun u => u.filter keep).filter fun u => !u.isEmpty
      else l.usage? q := by
  cases hu : l.usage? p with
  | none =>
    simp only [Ledger.restrict, hu]
    split
    · next hq => rw [hq, hu]; rfl
    · rfl
  | some u =>
    simp only [Ledger.restrict, hu]
    by_cases he : (SortedMap.filter keep u).isEmpty
    · rw [if_pos he]
      change (l.packages.erase p).get? q = _
      rw [SortedMap.get?_erase]
      by_cases hq : q = p
      · simp [hq, hu, he, Option.filter]
      · simp [hq, usage?]
    · rw [if_neg he]
      change (l.packages.insert p _).get? q = _
      rw [SortedMap.get?_insert]
      by_cases hq : q = p
      · simp [hq, hu, he, Option.filter]
      · simp [hq, usage?]

theorem IsTrim.restrict {l : Ledger} (h : l.IsTrim) (p : String)
    (keep : String → UsageRecord → Bool) : (l.restrict p keep).1.IsTrim := by
  intro q u hu
  rw [usage?_restrict] at hu
  split at hu
  · obtain ⟨-, hne⟩ := Option.filter_eq_some_iff.1 hu
    simpa using hne
  · exact h q u hu

theorem IsTrim.removePackage {l : Ledger} (h : l.IsTrim) (p : String) :
    (l.removePackage p).1.IsTrim := by
  intro q u hu
  simp only [Ledger.removePackage, usage?, SortedMap.get?_erase] at hu
  split at hu
  · cases hu
  · exact h q u hu

theorem IsTrim.removeFile {l : Ledger} (h : l.IsTrim) (p path : String) (user : UserId) :
    (l.removeFile p path user).1.IsTrim := by
  unfold Ledger.removeFile
  split
  · exact h
  · split
    · exact h.restrict _ _
    · exact h

/-- Pruning leaves a trim ledger whatever it starts from. -/
theorem isTrim_sync (l : Ledger) (installed : SortedMap String (SortedSet UserId)) :
    (l.sync installed).1.IsTrim := by
  intro p u hu
  simp only [sync, usage?, SortedMap.get?_filterMap, Option.bind_eq_some_iff] at hu
  obtain ⟨v, -, hv⟩ := hu
  obtain ⟨hne, hv⟩ := Option.ite_none_left_eq_some.1 hv
  rw [← Option.some.inj hv]
  exact Bool.eq_false_iff.2 hne

/-- The ledger of a document is trim. -/
theorem isTrim_ofDocument (doc : Ledger) : (ofDocument doc).IsTrim := by
  intro p u hu
  simp only [ofDocument, usage?, SortedMap.get?_filter] at hu
  obtain ⟨-, hne⟩ := Option.filter_eq_some_iff.1 hu
  simpa using hne

/-- A trim ledger is its own document. -/
theorem IsTrim.ofDocument {l : Ledger} (h : l.IsTrim) : Ledger.ofDocument l = l := by
  apply ext
  intro p
  simp only [Ledger.ofDocument, usage?, SortedMap.get?_filter]
  cases hu : l.packages.get? p with
  | none => rfl
  | some u =>
    simp [Option.filter, h p u hu]

/-! ## Operations that answer no change -/

theorem setRecord_eq_self {l : Ledger} {p path : String} {r : UsageRecord}
    (h : l.record? p path = some r) : l.setRecord p path r = l := by
  obtain ⟨u, hu, hr⟩ := Option.bind_eq_some_iff.1 h
  apply ext
  intro q
  rw [usage?_setRecord]
  split
  · next hq => rw [hq, hu, Option.getD_some, SortedMap.insert_get? hr]
  · rfl

/-- A refused load leaves the ledger as it is. -/
theorem record_of_error {l : Ledger} {d : DexLoad} {e : OwnerMismatch}
    (h : (l.record d).2 = .error e) : (l.record d).1 = l := by
  rcases record_cases l d with hd | hd | ⟨_, hd⟩ | ⟨r, -, hd⟩
  · rw [hd]
  · rw [hd] at h
    cases h
  · rw [hd]
  · rw [hd] at h
    cases h

theorem record_of_unchanged {l : Ledger} {d : DexLoad} (h : (l.record d).2 = .ok false) :
    (l.record d).1 = l := by
  rcases record_cases l d with hd | hd | ⟨_, hd⟩ | ⟨r, hr, hd⟩
  · rw [hd]
  · rw [hd] at h
    cases h
  · rw [hd]
  · rw [hd] at h ⊢
    rw [UsageRecord.merge_eq_self (Except.ok.inj h)]
    exact setRecord_eq_self hr

theorem IsTrim.restrict_of_unchanged {l : Ledger} (hl : l.IsTrim) {p : String}
    {keep : String → UsageRecord → Bool} (h : (l.restrict p keep).2 = false) :
    (l.restrict p keep).1 = l := by
  apply ext
  intro q
  rw [usage?_restrict]
  split
  · next hq =>
    subst hq
    cases hu : l.usage? q with
    | none => rfl
    | some u =>
      simp only [Ledger.restrict, hu, bne_eq_false_iff_eq] at h
      simp [SortedMap.filter_eq_self_of_size h, Option.filter, hl q u hu]
  · rfl

theorem removePackage_of_unchanged {l : Ledger} {p : String}
    (h : (l.removePackage p).2 = false) : (l.removePackage p).1 = l := by
  apply ext
  intro q
  simp only [Ledger.removePackage, SortedMap.contains, Option.isSome_eq_false_iff,
    Option.isNone_iff_eq_none] at h
  simp only [Ledger.removePackage, usage?, SortedMap.get?_erase]
  split
  · next hq => rw [Std.LawfulEqOrd.eq_of_compare hq, h]
  · rfl

theorem IsTrim.removeFile_of_unchanged {l : Ledger} (hl : l.IsTrim) {p path : String}
    {user : UserId} (h : (l.removeFile p path user).2 = false) :
    (l.removeFile p path user).1 = l := by
  unfold Ledger.removeFile at h ⊢
  split
  · rfl
  · split
    · next r hr ho =>
      rw [hr] at h
      simp only [if_pos ho] at h
      exact hl.restrict_of_unchanged h
    · rfl

theorem IsTrim.sync_of_unchanged {l : Ledger} (hl : l.IsTrim)
    {installed : SortedMap String (SortedSet UserId)} (h : (l.sync installed).2 = false) :
    (l.sync installed).1 = l := by
  apply ext
  intro p
  simp only [Ledger.sync, usage?, SortedMap.get?_filterMap]
  cases hu : l.packages.get? p with
  | none => rfl
  | some u =>
    have hany := List.any_eq_false.1 h (p, u) (SortedMap.mem_toList_iff.2 hu)
    cases hi : installed.get? p with
    | none => simp [SortedMap.contains, hi] at hany
    | some users =>
      simp only [SortedMap.contains, hi, Option.isSome_some, Bool.not_true, Bool.false_or,
        bne_iff_ne, ne_eq, Decidable.not_not] at hany
      simp [SortedMap.filter_eq_self_of_size hany, hl p u hu]

/-! ## When an operation answers a change -/

/-- Restricting a package answers a change exactly when a record goes. -/
theorem restrict_changed_iff {l : Ledger} {p : String} {keep : String → UsageRecord → Bool} :
    (l.restrict p keep).2 = true ↔
      ∃ path r, l.record? p path = some r ∧ keep path r = false := by
  cases hu : l.usage? p with
  | none => simp [restrict, record?, hu]
  | some u =>
    have hchanged : (l.restrict p keep).2 = ((SortedMap.filter keep u).size != u.size) := by
      simp only [restrict, hu]
    rw [hchanged, bne_iff_ne, ne_eq, SortedMap.size_filter_eq_iff]
    simp [record?, hu]

theorem removeFile_of_owner {l : Ledger} {p path : String} {r : UsageRecord}
    (h : l.record? p path = some r) :
    l.removeFile p path r.owner = l.restrict p fun q _ => q != path := by
  simp [removeFile, h]

theorem removeFile_of_none {l : Ledger} {p path : String} (h : l.record? p path = none)
    (user : UserId) : l.removeFile p path user = (l, false) := by
  simp [removeFile, h]

/-- The record of a removed file goes when it belongs to the user. -/
theorem record?_removeFile_self (l : Ledger) (p path : String) (user : UserId) :
    (l.removeFile p path user).1.record? p path =
      (l.record? p path).filter fun r => r.owner != user := by
  cases hr : l.record? p path with
  | none => rw [removeFile_of_none hr, hr, Option.filter_none]
  | some r =>
    by_cases ho : r.owner = user
    · subst ho
      rw [removeFile_of_owner hr, record?_restrict]
      simp [hr, Option.filter]
    · simp [removeFile, hr, ho, Option.filter]

theorem record?_removeFile_of_ne (l : Ledger) {p path q file : String} (user : UserId)
    (h : q ≠ p ∨ file ≠ path) :
    (l.removeFile p path user).1.record? q file = l.record? q file := by
  unfold removeFile
  split
  · rfl
  · split
    · rw [record?_restrict]
      split
      · next hq =>
        have hfile : (file != path) = true := bne_iff_ne.2 (h.resolve_left (· hq))
        cases l.record? q file <;> simp [Option.filter, hfile]
      · rfl
    · rfl

theorem usage?_removeFile_of_ne (l : Ledger) {p q : String} (path : String) (user : UserId)
    (h : q ≠ p) : (l.removeFile p path user).1.usage? q = l.usage? q := by
  unfold removeFile
  split
  · rfl
  · split
    · rw [usage?_restrict, if_neg h]
    · rfl

/-- Removing a file answers a change exactly when the file's record belongs to the user. -/
theorem removeFile_changed_iff {l : Ledger} {p path : String} {user : UserId} :
    (l.removeFile p path user).2 = true ↔ ∃ r, l.record? p path = some r ∧ r.owner = user := by
  cases hr : l.record? p path with
  | none => simp [removeFile_of_none hr]
  | some r =>
    by_cases ho : r.owner = user
    · subst ho
      rw [removeFile_of_owner hr, restrict_changed_iff]
      exact iff_of_true ⟨path, r, hr, bne_self_eq_false path⟩ ⟨r, rfl, rfl⟩
    · simp [removeFile, hr, ho]

/-- Pruning answers a change exactly when a record goes, since every package has one. -/
theorem IsTrim.sync_changed_iff {l : Ledger} (hl : l.IsTrim)
    {installed : SortedMap String (SortedSet UserId)} :
    (l.sync installed).2 = true ↔
      ∃ p path r, l.record? p path = some r ∧
        ((installed.get? p).any fun users => users.contains r.owner) = false := by
  constructor
  · intro h
    obtain ⟨⟨p, u⟩, he, hchanged⟩ := List.any_eq_true.1 h
    have hu : l.usage? p = some u := SortedMap.mem_toList_iff.1 he
    have hrecord (path : String) : l.record? p path = u.get? path := by
      rw [record?, hu]
      rfl
    cases hi : installed.get? p with
    | none =>
      obtain ⟨e, he⟩ := List.exists_mem_of_ne_nil _ (List.isEmpty_eq_false_iff.1 (hl p u hu))
      exact ⟨p, e.1, e.2, (hrecord e.1).trans (SortedMap.mem_toList_iff.1 he), by simp [hi]⟩
    | some users =>
      simp only [SortedMap.contains, hi, Option.isSome_some, Bool.not_true, Bool.false_or,
        bne_iff_ne, ne_eq, SortedMap.size_filter_eq_iff, Classical.not_forall] at hchanged
      obtain ⟨path, r, hr, hgone⟩ := hchanged
      exact ⟨p, path, r, (hrecord path).trans hr, by simpa [hi] using hgone⟩
  · rintro ⟨p, path, r, hr, hgone⟩
    cases hsame : (l.sync installed).2 with
    | true => rfl
    | false =>
      have hkept := record?_sync l installed p path
      rw [hl.sync_of_unchanged hsame, hr] at hkept
      simp [Option.filter, hgone] at hkept

end Ledger

end DexTrail
