-- SUMMARY: The answers of the ledger's operations say exactly whether the ledger is another one afterwards.
import DexTrail.Proofs.Usage.Kept

/-!
# Change flags

The operations of the ledger do not compare ledgers to answer whether they changed something:
they look at a record before it is merged, at whether a package is there, at sizes before and
after. In a trim ledger that comes to the same. A package without records would be dropped
without a word, but no operation leaves one behind. So in every ledger that operations reach,
the answers are exact (`Ledger.answers_ofOperations`).
-/

namespace DexTrail

/-! ## Recording -/

theorem UsageRecord.merge_ne_self {r : UsageRecord} {isa : String} {shared : Bool}
    (h : r.mergeChanges isa shared = true) : r.merge isa shared ≠ r := by
  intro hsame
  have hisa : r.isas.contains isa = true := by
    rw [← hsame]
    exact SortedSet.mem_insert.2 (.inl rfl)
  have hshared : (r.shared || shared) = r.shared := congrArg UsageRecord.shared hsame
  cases hr : r.shared <;> simp_all [mergeChanges]

namespace Ledger

theorem setRecord_ne {l : Ledger} {p path : String} {r : UsageRecord}
    (h : l.record? p path ≠ some r) : l.setRecord p path r ≠ l := by
  intro hsame
  have hafter := record?_setRecord l p path p path r
  rw [hsame, if_pos ⟨rfl, rfl⟩] at hafter
  exact h hafter

/-- Recording answers a change exactly when it changes the ledger. -/
theorem record_changed_iff {l : Ledger} {d : DexLoad} :
    (l.record d).2 = .ok true ↔ (l.record d).1 ≠ l := by
  constructor
  · intro hchanged
    cases hd : d.isRelevant with
    | false => simp [record_of_irrelevant hd] at hchanged
    | true =>
      cases hr : l.record? d.package d.path with
      | none =>
        rw [record_new hd hr]
        apply setRecord_ne
        simp [hr]
      | some r =>
        cases href : r.refuses d with
        | true => simp [record_refused hd hr href] at hchanged
        | false =>
          rw [record_merged hd hr href] at hchanged ⊢
          apply setRecord_ne
          rw [hr, ne_eq, Option.some.injEq]
          exact (UsageRecord.merge_ne_self (Except.ok.inj hchanged)).symm
  · intro hne
    rcases hanswer : (l.record d).2 with e | _ | _
    · exact absurd (record_of_error hanswer) hne
    · exact absurd (record_of_unchanged hanswer) hne
    · rfl

/-! ## Removing -/

theorem IsTrim.restrict_changed_iff_ne {l : Ledger} (hl : l.IsTrim) {package : String}
    {keep : String → UsageRecord → Bool} :
    (l.restrict package keep).2 = true ↔ (l.restrict package keep).1 ≠ l := by
  constructor
  · intro hchanged hsame
    obtain ⟨path, r, hr, hgone⟩ := restrict_changed_iff.1 hchanged
    have hafter := record?_restrict l package package path keep
    rw [hsame, hr, if_pos rfl, Option.filter_some, hgone] at hafter
    cases hafter
  · intro hne
    cases hanswer : (l.restrict package keep).2 with
    | true => rfl
    | false => exact absurd (hl.restrict_of_unchanged hanswer) hne

theorem IsTrim.removeUser_changed_iff_ne {l : Ledger} (hl : l.IsTrim) {package : String}
    {user : UserId} :
    (l.removeUser package user).2 = true ↔ (l.removeUser package user).1 ≠ l :=
  hl.restrict_changed_iff_ne

theorem removePackage_changed_iff_ne {l : Ledger} {package : String} :
    (l.removePackage package).2 = true ↔ (l.removePackage package).1 ≠ l := by
  constructor
  · intro hchanged hsame
    have hafter : (l.removePackage package).1.packages.get? package = none := by
      rw [removePackage, SortedMap.get?_erase, if_pos (Std.ReflCmp.compare_self)]
    rw [hsame] at hafter
    rw [removePackage, SortedMap.contains, hafter] at hchanged
    cases hchanged
  · intro hne
    cases hanswer : (l.removePackage package).2 with
    | true => rfl
    | false => exact absurd (removePackage_of_unchanged hanswer) hne

theorem IsTrim.removeFile_changed_iff_ne {l : Ledger} (hl : l.IsTrim) {package path : String}
    {user : UserId} :
    (l.removeFile package path user).2 = true ↔ (l.removeFile package path user).1 ≠ l := by
  unfold Ledger.removeFile
  split
  · simp
  · split
    · exact hl.restrict_changed_iff_ne
    · simp

/-! ## Pruning -/

theorem IsTrim.sync_changed_iff_ne {l : Ledger} (hl : l.IsTrim)
    {installed : SortedMap String (SortedSet UserId)} :
    (l.sync installed).2 = true ↔ (l.sync installed).1 ≠ l := by
  constructor
  · intro hchanged hsame
    obtain ⟨p, path, r, hr, hgone⟩ := hl.sync_changed_iff.1 hchanged
    have hafter := record?_sync l installed p path
    rw [hsame, hr, Option.filter_some, hgone] at hafter
    cases hafter
  · intro hne
    cases hanswer : (l.sync installed).2 with
    | true => rfl
    | false => exact absurd (hl.sync_of_unchanged hanswer) hne

/-! ## All operations -/

/-- After any operations, each operation that answers whether it changed the ledger answers that
it did exactly when the ledger is another one afterwards. A load that is refused leaves the
ledger as it is. -/
theorem answers_ofOperations (operations : List Operation) :
    let l := ofOperations operations
    (∀ d, ((l.record d).2 = .ok true ↔ (l.record d).1 ≠ l) ∧
      ∀ e, (l.record d).2 = .error e → (l.record d).1 = l) ∧
    (∀ p, (l.clearShared p).2 = true ↔ (l.clearShared p).1 ≠ l) ∧
    (∀ p, (l.removePackage p).2 = true ↔ (l.removePackage p).1 ≠ l) ∧
    (∀ p user, (l.removeUser p user).2 = true ↔ (l.removeUser p user).1 ≠ l) ∧
    (∀ p path user, (l.removeFile p path user).2 = true ↔ (l.removeFile p path user).1 ≠ l) ∧
    ∀ installed, (l.sync installed).2 = true ↔ (l.sync installed).1 ≠ l := by
  intro l
  have htrim : l.IsTrim :=
    isKept_isTrim.ofOperations isTrim_empty fun doc _ => isTrim_ofDocument doc
  refine ⟨fun d => ⟨record_changed_iff, fun e he => record_of_error he⟩, ?_, ?_, ?_, ?_, ?_⟩
  · exact fun p => htrim.restrict_changed_iff_ne
  · exact fun p => removePackage_changed_iff_ne
  · exact fun p user => htrim.removeUser_changed_iff_ne
  · exact fun p path user => htrim.removeFile_changed_iff_ne
  · exact fun installed => htrim.sync_changed_iff_ne

end Ledger

end DexTrail
