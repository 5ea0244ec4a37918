-- SUMMARY: How many records a reconciliation takes from the ledger, and when its report counts all of them.
import DexTrail.Manager.Rehearsal
import DexTrail.Proofs.Manager.Reconciliation
import DexTrail.Proofs.Manager.RecordLife
import Mathlib.Data.List.Basic
import Mathlib.Data.List.Nodup

/-!
# Counting what reconciliation removes

The records of a ledger are counted as a list in which each stands once with its package and its
path (`Ledger.allRecords`). So what a ledger has lost to another is counted by the records that
are there no more. Reconciliation takes secondary records, which it reports, and along with them
the records of code of a user who has the package no more, which it does not report.
-/

namespace DexTrail

variable {ω : Type}

/-! ## Lists of records -/

namespace Ledger

/-- The files of a package with their records. -/
def filesOf (l : Ledger) (package : String) : List (String × UsageRecord) :=
  match l.usage? package with
  | none => []
  | some usage => usage.toList

/-- The files of a package's installed code with their records. -/
def codeOf (l : Ledger) (package : String) : List (String × UsageRecord) :=
  (l.filesOf package).filter fun e => e.2.code

/-- All records with their packages and paths. -/
def allRecords (l : Ledger) : List (String × String × UsageRecord) :=
  l.packages.toList.flatMap fun e => e.2.toList.map (Prod.mk e.1)

variable {l k : Ledger} {package path : String} {r : UsageRecord}

theorem mem_filesOf_iff : (path, r) ∈ l.filesOf package ↔ l.record? package path = some r := by
  unfold filesOf record?
  cases l.usage? package with
  | none => simp
  | some usage => exact SortedMap.mem_toList_iff

theorem nodup_filesOf (l : Ledger) (package : String) : (l.filesOf package).Nodup := by
  unfold filesOf
  cases l.usage? package with
  | none => exact .nil
  | some usage => exact List.Nodup.of_map Prod.fst usage.nodup_keys

/-- The files of a package are its secondary files and its code. -/
theorem length_filter_filesOf (l : Ledger) (package : String)
    (select : String × UsageRecord → Bool) :
    ((l.filesOf package).filter select).length =
      ((l.secondaryOf package).filter select).length +
        ((l.codeOf package).filter select).length := by
  have hsecondary : l.secondaryOf package =
      (l.filesOf package).filter fun e => e.2.isSecondary := by
    unfold secondaryOf filesOf
    cases l.usage? package <;> rfl
  have hcode : l.codeOf package = (l.filesOf package).filter fun e => !e.2.isSecondary := by
    simp only [codeOf, UsageRecord.isSecondary, Bool.not_not]
  rw [hsecondary, hcode, List.filter_comm select, List.filter_comm select]
  exact List.length_eq_length_filter_add _

theorem mem_allRecords_iff :
    (package, path, r) ∈ l.allRecords ↔ l.record? package path = some r := by
  unfold allRecords record? usage?
  simp only [List.mem_flatMap, List.mem_map, Option.bind_eq_some_iff]
  constructor
  · rintro ⟨⟨p, u⟩, hu, ⟨q, r'⟩, hr, he⟩
    cases he
    exact ⟨u, SortedMap.mem_toList_iff.1 hu, SortedMap.mem_toList_iff.1 hr⟩
  · rintro ⟨u, hu, hr⟩
    exact ⟨(package, u), SortedMap.mem_toList_iff.2 hu, (path, r), SortedMap.mem_toList_iff.2 hr,
      rfl⟩

theorem nodup_allRecords (l : Ledger) : l.allRecords.Nodup := by
  refine List.nodup_flatMap.2 ⟨?_, ?_⟩
  · intro e _
    refine (List.Nodup.of_map Prod.fst (SortedMap.nodup_keys e.2)).map ?_
    intro f f' he
    exact (Prod.mk.inj he).2
  · refine l.packages.ascending.imp ?_
    intro e e' hlt f hf hf'
    obtain ⟨_, _, rfl⟩ := List.mem_map.1 hf
    obtain ⟨_, _, he⟩ := List.mem_map.1 hf'
    -- packages at different places have different names
    rw [(Prod.mk.inj he).1] at hlt
    simp at hlt

theorem recordCount_eq (l : Ledger) : l.recordCount = l.allRecords.length := by
  have hcount (es : List (String × PackageUsage)) (n : Nat) :
      (es.map (·.2)).foldl (fun n u => n + u.size) n =
        n + (es.flatMap fun e => e.2.toList.map (Prod.mk e.1)).length := by
    induction es generalizing n with
    | nil => rfl
    | cons e es ih =>
      rw [List.map_cons, List.foldl_cons, ih, List.flatMap_cons, List.length_append,
        List.length_map, Nat.add_assoc]
      rfl
  exact (hcount l.packages.toList 0).trans (Nat.zero_add _)

/-- What a ledger has lost to another one is counted by the records that are there no more. -/
theorem Shrinks.recordCount_eq (h : l.Shrinks k) :
    l.recordCount =
      k.recordCount + (l.allRecords.filter fun e => (k.record? e.1 e.2.1).isNone).length := by
  have hleft : (l.allRecords.filter fun e => !(k.record? e.1 e.2.1).isNone).Perm k.allRecords := by
    refine (List.perm_ext_iff_of_nodup (l.nodup_allRecords.filter _) k.nodup_allRecords).2 ?_
    rintro ⟨p, path, r⟩
    rw [List.mem_filter, mem_allRecords_iff, mem_allRecords_iff, Option.not_isNone,
      Option.isSome_iff_exists]
    constructor
    · rintro ⟨hr, r', hr'⟩
      rw [Option.some.inj ((h p path r' hr').symm.trans hr)] at hr'
      exact hr'
    · exact fun hr => ⟨h p path r hr, r, hr⟩
  rw [l.recordCount_eq, k.recordCount_eq, ← hleft.length_eq, Nat.add_comm,
    ← List.length_eq_length_filter_add]

/-- Where only one package has changed, the records that are lost are among its files. -/
theorem length_lost (h : ∀ q, q ≠ package → k.usage? q = l.usage? q) :
    (l.allRecords.filter fun e => (k.record? e.1 e.2.1).isNone).length =
      ((l.filesOf package).filter fun e => (k.record? package e.1).isNone).length := by
  let lost := (l.filesOf package).filter fun e => (k.record? package e.1).isNone
  have hnodup : (lost.map (Prod.mk package)).Nodup := by
    refine ((l.nodup_filesOf package).filter _).map ?_
    intro e e' he
    exact (Prod.mk.inj he).2
  have hperm : (l.allRecords.filter fun e => (k.record? e.1 e.2.1).isNone).Perm
      (lost.map (Prod.mk package)) := by
    refine (List.perm_ext_iff_of_nodup (l.nodup_allRecords.filter _) hnodup).2 ?_
    rintro ⟨p, path, r⟩
    rw [List.mem_filter, mem_allRecords_iff, List.mem_map]
    constructor
    · rintro ⟨hr, hgone⟩
      have hp : p = package := by
        by_contra hne
        rw [record?_congr (h p hne), hr] at hgone
        cases hgone
      subst hp
      exact ⟨(path, r), List.mem_filter.2 ⟨mem_filesOf_iff.2 hr, hgone⟩, rfl⟩
    · rintro ⟨e, he, heq⟩
      cases heq
      obtain ⟨hr, hgone⟩ := List.mem_filter.1 he
      exact ⟨mem_filesOf_iff.1 hr, hgone⟩
  rw [hperm.length_eq, List.length_map]

end Ledger

/-! ## Reports -/

namespace Manager

theorem shrinks_reconcile (services : Services ω) (m : Manager) (w : ω) (package : String) :
    m.ledger.Shrinks (m.reconcile services w package).1.ledger :=
  (all_reconcileActions (Ledger.isKept_shrinks m.ledger) services
    (Ledger.isOneWay_shrinks.refl m.ledger) w package).2

/-- Code is lost only along with a user for whom the package is not installed. -/
theorem lost_code_eq_nil_iff {services : Services ω} {m : Manager} {w : ω} {package : String} :
    ((m.ledger.codeOf package).filter fun e =>
        ((m.reconcile services w package).1.ledger.record? package e.1).isNone) = [] ↔
      ∀ path r, m.ledger.record? package path = some r → r.code →
        ∀ i ∈ (m.inspections services w package).2, i.IsUninstalled → i.record.owner ≠ r.owner := by
  rw [List.filter_eq_nil_iff]
  constructor
  · intro h path r hr hcode i hi hgone howner
    have hmem : (path, r) ∈ m.ledger.codeOf package :=
      List.mem_filter.2 ⟨Ledger.mem_filesOf_iff.2 hr, hcode⟩
    refine h (path, r) hmem (Option.isNone_iff_eq_none.2 ?_)
    exact (record?_reconcile_eq_none_iff hr).2 (.inl ⟨i, hi, hgone, howner.symm⟩)
  · rintro h ⟨path, r⟩ he hlost
    obtain ⟨hmem, hcode⟩ := List.mem_filter.1 he
    have hr := Ledger.mem_filesOf_iff.1 hmem
    rcases (record?_reconcile_eq_none_iff hr).1 (Option.isNone_iff_eq_none.1 hlost) with
      ⟨i, hi, hgone, howner⟩ | ⟨hsecondary, -⟩
    · exact h path r hr hcode i hi hgone howner.symm
    · have hcode : r.code = true := hcode
      simp [UsageRecord.isSecondary, hcode] at hsecondary

/-- A reconciliation takes the secondary records that it reports from the ledger, and besides
them the records of code that are lost. So its report counts all that goes exactly when no code
of the package is recorded for a user for whom the package is found not to be installed. -/
theorem removed_reconcile_iff (services : Services ω) (m : Manager) (w : ω) (package : String) :
    let result := m.reconcile services w package
    let inspected := (m.inspections services w package).2
    let after := result.1.ledger
    m.ledger.recordCount = after.recordCount + result.2.2.removed +
      ((m.ledger.codeOf package).filter fun e => (after.record? package e.1).isNone).length ∧
    (result.2.2.removed = m.ledger.recordCount - after.recordCount ↔
      ∀ path r, m.ledger.record? package path = some r → r.code →
        ∀ i ∈ inspected, i.IsUninstalled → i.record.owner ≠ r.owner) := by
  intro result inspected after
  obtain ⟨-, hothers, -, -, hremoved⟩ := reconcile_spec services m w package
  have hcount : m.ledger.recordCount = after.recordCount + result.2.2.removed +
      ((m.ledger.codeOf package).filter fun e => (after.record? package e.1).isNone).length := by
    rw [(shrinks_reconcile services m w package).recordCount_eq, Ledger.length_lost hothers,
      Ledger.length_filter_filesOf, hremoved, Nat.add_assoc]
  have hlost : ((m.ledger.codeOf package).filter
        fun e => (after.record? package e.1).isNone).length = 0 ↔
      ∀ path r, m.ledger.record? package path = some r → r.code →
        ∀ i ∈ inspected, i.IsUninstalled → i.record.owner ≠ r.owner :=
    List.length_eq_zero_iff.trans lost_code_eq_nil_iff
  refine ⟨hcount, Iff.trans ?_ hlost⟩
  omega

/-- A package whose code another one loads. -/
def loadedApp : PackageInfo where
  name := "a"
  uid := 0
  base := "/app/a.apk"
  splits := []
  dataDir := some "/data/a"
  deviceDir := none
  credentialDir := none
  volume := none
  isas := []

/-- The package that loads it. -/
def loadingApp : PackageInfo :=
  { loadedApp with name := "b", base := "/app/b.apk", dataDir := some "/data/b" }

/-- Another package loads the code of a package, and that loads a secondary file of its own. -/
def codeAndFile : Manager :=
  ({ new ⟨[], ["arm64"], .empty⟩ with registry := Registry.empty.addPackage loadedApp 0 }.noteLoad
    loadingApp ["/app/a.apk"] "arm64" 0).noteLoad loadedApp ["/data/a/x"] "arm64" 0

/-- When the package is gone both records go, and the report counts one. -/
theorem removed_codeAndFile :
    let result := codeAndFile.reconcile Rehearsal.services .empty "a"
    result.2.2.removed ≠ codeAndFile.ledger.recordCount - result.1.ledger.recordCount := by
  decide +kernel

end Manager

end DexTrail
