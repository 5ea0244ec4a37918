-- SUMMARY: The shape of every ledger that operations reach, and what lists and answers about packages mean for it.
import DexTrail.Proofs.Usage.Kept

/-!
# Well-formed ledgers

Four operations can take the last record of a package, and one can bring in a package without
records; none leaves such a package behind. A record is made and merged with an instruction
set, and a record of installed code is made by another package only. So in every ledger that
operations reach, the packages are those with records, and a package without secondary files is
there because others use its code.
-/

namespace DexTrail

namespace Ledger

/-! ## The shape -/

/-- Every record of installed code is marked as used by others. -/
def IsMarked (l : Ledger) : Prop := l.EveryRecord fun _ _ r => r.code → r.shared

theorem isKept_isMarked : IsKept (fun _ => True) IsMarked := by
  refine IsKept.of_relevant (isKept_everyRecord ?_ ?_)
  · intro d hd hcode
    -- a relevant load of installed code is one by another package
    have hcode : d.code = true := hcode
    have hshared : d.shared = true := by simpa [DexLoad.isRelevant, hcode] using hd
    exact hshared
  · intro p path r isa shared hmarked hcode
    exact Bool.or_eq_true_iff.2 (.inl (hmarked hcode))

/-- Every package has a record, every record an instruction set, and every record of installed
code the mark that others use it. -/
structure IsWellFormed (l : Ledger) : Prop where
  trim : l.IsTrim
  isas : l.HasIsas
  marked : l.IsMarked

/-- A ledger is well-formed after any operations, if the records of the documents that were put
in its place are. The packages of the documents need not have records. -/
theorem isWellFormed_ofOperations {operations : List Operation}
    (hdocs : ∀ doc, .replace doc ∈ operations → doc.HasIsas ∧ doc.IsMarked) :
    (ofOperations operations).IsWellFormed where
  trim := isKept_isTrim.ofOperations isTrim_empty fun doc _ => isTrim_ofDocument doc
  isas := isKept_hasIsas.ofOperations everyRecord_empty fun doc hdoc =>
    EveryRecord.ofDocument (hdocs doc hdoc).1
  marked := isKept_isMarked.ofOperations everyRecord_empty fun doc hdoc =>
    EveryRecord.ofDocument (hdocs doc hdoc).2

/-! ## What it means for packages -/

variable {l : Ledger} {p : String}

/-- The packages of a well-formed ledger are those with records. -/
theorem IsTrim.mem_keys_iff (h : l.IsTrim) :
    p ∈ l.packages.keys ↔ ∃ path r, l.record? p path = some r :=
  SortedMap.mem_keys_iff.trans h.isSome_usage?_iff

/-- All records of a package without secondary files are of its code. -/
theorem code_of_not_mem_withSecondary (hp : p ∉ l.withSecondary) {path : String} {r : UsageRecord}
    (hr : l.record? p path = some r) : r.code = true := by
  cases hcode : r.code with
  | true => rfl
  | false =>
    have hsecondary : r.isSecondary = true := by simp [UsageRecord.isSecondary, hcode]
    exact absurd (mem_withSecondary_iff.2 ⟨path, r, hr, hsecondary⟩) hp

/-- A package without secondary files is there exactly when others use its code. -/
theorem IsWellFormed.isSome_usage?_iff_code (h : l.IsWellFormed) (hp : p ∉ l.withSecondary) :
    (l.usage? p).isSome ↔ ∃ path r, l.record? p path = some r ∧ r.code ∧ r.shared := by
  rw [h.trim.isSome_usage?_iff]
  constructor
  · rintro ⟨path, r, hr⟩
    have hcode := code_of_not_mem_withSecondary hp hr
    exact ⟨path, r, hr, hcode, h.marked p path r hr hcode⟩
  · rintro ⟨path, r, hr, -⟩
    exact ⟨path, r, hr⟩

/-- A package without secondary files is there exactly when it is answered as used by others. -/
theorem IsWellFormed.isSome_usage?_iff_isShared (h : l.IsWellFormed) (hp : p ∉ l.withSecondary) :
    (l.usage? p).isSome ↔ l.isShared p := by
  rw [h.isSome_usage?_iff_code hp, isShared_iff]
  constructor
  · rintro ⟨path, r, hr, -, hshared⟩
    exact ⟨path, r, hr, hshared⟩
  · rintro ⟨path, r, hr, hshared⟩
    exact ⟨path, r, hr, code_of_not_mem_withSecondary hp hr, hshared⟩

/-- After any operations, where the documents put in the ledger's place have records with an
instruction set only, and those of installed code are marked: every package has a record, every
record has an instruction set, and every record of installed code is marked as used by others.
So the packages that are counted are those with records, and only such packages are listed for
their secondary files or answered as used by others. A package that is not listed for secondary
files is there exactly when others use its code, and then it is answered so. -/
theorem shape_ofOperations {operations : List Operation}
    (hdocs : ∀ doc, .replace doc ∈ operations → doc.HasIsas ∧ doc.IsMarked) :
    let l := ofOperations operations
    (∀ p u, l.usage? p = some u → ∃ path r, u.get? path = some r) ∧
    (∀ p path r, l.record? p path = some r → (∃ isa, isa ∈ r.isas) ∧ (r.code → r.shared)) ∧
    (∃ names : List String, names.Nodup ∧ names.length = l.size ∧
      ∀ p, p ∈ names ↔ ∃ path r, l.record? p path = some r) ∧
    (∀ p, p ∈ l.withSecondary ↔ ∃ path r, l.record? p path = some r ∧ r.isSecondary) ∧
    (∀ p, l.isShared p ↔ ∃ path r, l.record? p path = some r ∧ r.shared) ∧
    ∀ p, p ∉ l.withSecondary →
      ((l.usage? p).isSome ↔ ∃ path r, l.record? p path = some r ∧ r.code ∧ r.shared) ∧
      ((l.usage? p).isSome ↔ l.isShared p) := by
  intro l
  have h : l.IsWellFormed := isWellFormed_ofOperations hdocs
  refine ⟨?_, ?_, ?_, fun _ => mem_withSecondary_iff, fun _ => isShared_iff, ?_⟩
  · intro p u hu
    obtain ⟨path, r, hr⟩ := h.trim.isSome_usage?_iff.1 (Option.isSome_iff_exists.2 ⟨u, hu⟩)
    rw [record?, hu] at hr
    exact ⟨path, r, hr⟩
  · intro p path r hr
    exact ⟨SortedSet.isEmpty_eq_false_iff.1 (h.isas p path r hr), h.marked p path r hr⟩
  · refine ⟨l.packages.keys, l.packages.nodup_keys, ?_, fun p => h.trim.mem_keys_iff⟩
    rw [SortedMap.keys, List.length_map]
    rfl
  · intro p hp
    exact ⟨h.isSome_usage?_iff_code hp, h.isSome_usage?_iff_isShared hp⟩

/-- A document with a package that has no records. -/
def bareDocument : Ledger := ⟨SortedMap.empty.insert "com.b" .empty⟩

/-- The document is put in place. Then another package loads code and a secondary file of a
package, and the secondary file is removed. -/
def codeLeft : List Operation :=
  [.replace bareDocument,
    .record ⟨"com.a", "/data/app/com.a/base.apk", 0, "arm64", true, true⟩,
    .record ⟨"com.a", "/data/data/com.a/x.jar", 0, "arm64", true, false⟩,
    .removeFile "com.a" "/data/data/com.a/x.jar" 0]

/-- The package is there for the sake of its code, and the one without records is not. -/
theorem shape_codeLeft :
    let l := ofOperations codeLeft
    "com.a" ∉ l.withSecondary ∧ (l.usage? "com.a").isSome ∧ l.isShared "com.a" ∧
      l.usage? "com.b" = none := by
  intro l
  have hbare {good : String → String → UsageRecord → Prop} : bareDocument.EveryRecord good := by
    intro package path r hr
    simp only [bareDocument, record?, usage?, SortedMap.get?_insert] at hr
    split at hr <;> cases hr
  have hdocs : ∀ doc, .replace doc ∈ codeLeft → doc.HasIsas ∧ doc.IsMarked := by
    intro doc hdoc
    simp only [codeLeft, List.mem_cons, List.not_mem_nil, Operation.replace.injEq, reduceCtorEq,
      or_false] at hdoc
    exact hdoc ▸ ⟨hbare, hbare⟩
  obtain ⟨-, -, -, -, -, hcode⟩ := shape_ofOperations hdocs
  have hp : "com.a" ∉ l.withSecondary := by decide +kernel
  have hthere : (l.usage? "com.a").isSome := by decide +kernel
  exact ⟨hp, hthere, (hcode "com.a" hp).2.1 hthere, by decide +kernel⟩

end Ledger

end DexTrail
