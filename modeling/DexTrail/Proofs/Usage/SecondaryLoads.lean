-- SUMMARY: Which accepted secondary loads can be seen in the ledger as secondary use.
import DexTrail.Proofs.Usage.History
import DexTrail.Proofs.Usage.Kept

/-!
# Accepted secondary loads

A secondary load is refused by a secondary record of another user only. An accepted one is seen
in the ledger as a secondary record of its user, unless the file has a record as installed code:
that takes the load up, stays what it is, and the package is not listed for secondary files on
its account (`Ledger.shows_record_iff`).
-/

namespace DexTrail

namespace Ledger

/-- The ledger shows the load as secondary use: the file has a secondary record of the load's
user, with its instruction set and, when the load is a shared one, the mark; and the package is
listed for secondary files. -/
def Shows (l : Ledger) (d : DexLoad) : Prop :=
  (∃ r, l.record? d.package d.path = some r ∧ r.isSecondary ∧ r.owner = d.user ∧
    d.isa ∈ r.isas ∧ (d.shared → r.shared)) ∧
  d.package ∈ l.withSecondary

variable {l : Ledger} {d : DexLoad} {r : UsageRecord}

/-- A secondary record with what the load says shows the load. -/
theorem shows_setRecord (hsecondary : r.isSecondary) (howner : r.owner = d.user)
    (hisa : d.isa ∈ r.isas) (hshared : d.shared → r.shared) :
    (l.setRecord d.package d.path r).Shows d := by
  have hr : (l.setRecord d.package d.path r).record? d.package d.path = some r := by
    rw [record?_setRecord, if_pos ⟨rfl, rfl⟩]
  exact ⟨⟨r, hr, hsecondary, howner, hisa, hshared⟩,
    mem_withSecondary_iff.2 ⟨d.path, r, hr, hsecondary⟩⟩

/-- A record as installed code does not show the load. -/
theorem not_shows_of_code (hr : l.record? d.package d.path = some r) (hcode : r.code) :
    ¬l.Shows d := by
  rintro ⟨⟨r', hr', hsecondary, -⟩, -⟩
  rw [hr] at hr'
  cases hr'
  simp [UsageRecord.isSecondary, hcode] at hsecondary

theorem isRelevant_of_secondary (hd : d.code = false) : d.isRelevant := by
  simp [DexLoad.isRelevant, hd]

/-- A secondary load is accepted unless a secondary record belongs to another user. -/
theorem exists_record_eq_ok_iff (hd : d.code = false) :
    (∃ changed, (l.record d).2 = .ok changed) ↔
      ∀ r, l.record? d.package d.path = some r → r.isSecondary → r.owner = d.user := by
  have hrelevant := isRelevant_of_secondary hd
  cases hr : l.record? d.package d.path with
  | none => simp [record_new hrelevant hr]
  | some r =>
    have hrefuses : r.refuses d = (r.isSecondary && r.owner != d.user) := by
      simp [UsageRecord.refuses, hd]
    cases hd' : r.refuses d with
    | true =>
      rw [record_refused hrelevant hr hd']
      simpa [hrefuses] using hd'
    | false =>
      rw [record_merged hrelevant hr hd']
      simpa [hrefuses] using hd'

/-- A new file, or one with a secondary record that accepts the load, shows it. -/
theorem shows_record (hd : d.code = false) (hok : ∃ changed, (l.record d).2 = .ok changed)
    (hkind : ∀ r, l.record? d.package d.path = some r → r.isSecondary) :
    (l.record d).1.Shows d := by
  have hrelevant := isRelevant_of_secondary hd
  have howner := (exists_record_eq_ok_iff hd).1 hok
  cases hr : l.record? d.package d.path with
  | none =>
    rw [record_new hrelevant hr]
    refine shows_setRecord ?_ rfl (SortedSet.mem_insert.2 (.inl rfl)) id
    simp [UsageRecord.isSecondary, UsageRecord.ofLoad, hd]
  | some r =>
    have haccepts : r.refuses d = false := by
      simp [UsageRecord.refuses, howner r hr (hkind r hr)]
    rw [record_merged hrelevant hr haccepts]
    refine shows_setRecord (hkind r hr) (howner r hr (hkind r hr))
      (SortedSet.mem_insert.2 (.inl rfl)) fun hshared => ?_
    exact Bool.or_eq_true_iff.2 (.inr hshared)

/-- A record as installed code takes up every secondary load, of whatever user, and keeps its
owner and its kind. -/
theorem record_of_code (hd : d.code = false) (hr : l.record? d.package d.path = some r)
    (hcode : r.code) :
    l.record d =
      (l.setRecord d.package d.path (r.merge d.isa d.shared),
        .ok (r.mergeChanges d.isa d.shared)) := by
  refine record_merged (isRelevant_of_secondary hd) hr ?_
  simp [UsageRecord.refuses, UsageRecord.isSecondary, hcode]

/-- Changing the record of installed code lists no package for secondary files, and unlists
none. -/
theorem mem_withSecondary_setRecord_of_code {p path : String} {r' : UsageRecord}
    (hr : l.record? p path = some r) (hcode : r.code) (hcode' : r'.code) (q : String) :
    q ∈ (l.setRecord p path r').withSecondary ↔ q ∈ l.withSecondary := by
  simp only [mem_withSecondary_iff, record?_setRecord]
  refine exists_congr fun file => ?_
  by_cases hfile : q = p ∧ file = path
  · obtain ⟨rfl, rfl⟩ := hfile
    simp [hr, UsageRecord.isSecondary, hcode, hcode']
  · simp only [if_neg hfile]

/-- A secondary load is accepted exactly when no secondary record of another user is there. The
ledger then shows it exactly when there was no record of the file as installed code. Such a
record takes the load up and keeps its owner and its kind, and the packages that are listed for
secondary files stay the same. -/
theorem shows_record_iff (l : Ledger) {d : DexLoad} (hd : d.code = false) :
    ((∃ changed, (l.record d).2 = .ok changed) ↔
      ∀ r, l.record? d.package d.path = some r → r.isSecondary → r.owner = d.user) ∧
    ((∃ changed, (l.record d).2 = .ok changed) →
      ((l.record d).1.Shows d ↔ ∀ r, l.record? d.package d.path = some r → r.code = false)) ∧
    ∀ r, l.record? d.package d.path = some r → r.code →
      (∃ changed, (l.record d).2 = .ok changed) ∧
      (l.record d).1.record? d.package d.path =
        some { r with isas := r.isas.insert d.isa, shared := r.shared || d.shared } ∧
      ∀ p, p ∈ (l.record d).1.withSecondary ↔ p ∈ l.withSecondary := by
  refine ⟨exists_record_eq_ok_iff hd, fun hok => ⟨?_, ?_⟩, ?_⟩
  · intro hshows r hr
    cases hcode : r.code with
    | false => rfl
    | true =>
      refine absurd hshows (not_shows_of_code (r := r.merge d.isa d.shared) ?_ hcode)
      rw [record_of_code hd hr hcode, record?_setRecord, if_pos ⟨rfl, rfl⟩]
  · intro hkind
    refine shows_record hd hok fun r hr => ?_
    simp [UsageRecord.isSecondary, hkind r hr]
  · intro r hr hcode
    rw [record_of_code hd hr hcode]
    refine ⟨⟨_, rfl⟩, ?_, fun p => ?_⟩
    · rw [record?_setRecord, if_pos ⟨rfl, rfl⟩]
      rfl
    · have hcode' : (r.merge d.isa d.shared).code := hcode
      exact mem_withSecondary_setRecord_of_code hr hcode hcode' p

/-- Another package loads a file of a package as installed code. -/
def codeUse : List Operation :=
  [.record ⟨"com.a", "/data/data/com.a/x.apk", 0, "arm64", true, true⟩]

/-- A later load of the file as a secondary one, for another user. -/
def laterUse : DexLoad := ⟨"com.a", "/data/data/com.a/x.apk", 10, "arm", false, false⟩

/-- On a ledger without the file the load is shown; after its use as installed code it is taken
up by that record, and the package is not listed for secondary files. -/
theorem shows_record_iff_laterUse :
    (empty.record laterUse).1.Shows laterUse ∧
      ((ofOperations codeUse).record laterUse).1.record? "com.a" "/data/data/com.a/x.apk" =
        some ⟨0, .ofList ["arm", "arm64"], true, true⟩ ∧
      "com.a" ∉ ((ofOperations codeUse).record laterUse).1.withSecondary := by
  have hd : laterUse.code = false := rfl
  obtain ⟨haccepted, hshown, -⟩ := shows_record_iff empty hd
  obtain ⟨-, -, htaken⟩ := shows_record_iff (ofOperations codeUse) hd
  have hrecord : (ofOperations codeUse).record? "com.a" "/data/data/com.a/x.apk" =
      some ⟨0, .ofList ["arm64"], true, true⟩ := by decide +kernel
  obtain ⟨-, hrecord', hlisted⟩ := htaken _ hrecord rfl
  have hnone : empty.record? laterUse.package laterUse.path = none := record?_empty _ _
  have hok := haccepted.2 fun r hr => by
    rw [hnone] at hr
    cases hr
  refine ⟨(hshown hok).2 fun r hr => ?_, ?_, ?_⟩
  · rw [hnone] at hr
    cases hr
  · exact hrecord'.trans (by decide +kernel)
  · rw [hlisted]
    decide +kernel

/-- The load is accepted as one that changes the ledger, and the ledger does not show it. -/
theorem not_shows_laterUse :
    let l := ofOperations codeUse
    laterUse.code = false ∧ (l.record laterUse).2 = .ok true ∧
      ¬(l.record laterUse).1.Shows laterUse := by
  intro l
  have hrecord : (l.record laterUse).1.record? laterUse.package laterUse.path =
      some ⟨0, .ofList ["arm", "arm64"], true, true⟩ := by decide +kernel
  exact ⟨rfl, by decide +kernel, not_shows_of_code hrecord rfl⟩

end Ledger

end DexTrail
