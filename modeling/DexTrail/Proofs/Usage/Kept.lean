-- SUMMARY: Properties of a ledger that its operations keep, in any sequence of them.
import DexTrail.Proofs.Usage.Bookkeeping

/-!
# Kept properties

A ledger is changed by recording, by removing and by pruning, and it is replaced as a whole.
What the first three keep (`Ledger.IsKept`) holds after any sequence of operations that starts
with the empty ledger, if it holds of the documents that are put in the ledger's place
(`Ledger.IsKept.ofOperations`). A property of single records is kept when the record of a new
load has it and merging a load keeps it.
-/

namespace DexTrail

namespace Ledger

/-! ## What single operations keep -/

/-- Removals, pruning and the loads that satisfy `ok` keep `P`. -/
structure IsKept (ok : DexLoad → Prop) (P : Ledger → Prop) : Prop where
  record : ∀ {l d}, P l → ok d → P (l.record d).1
  restrict : ∀ {l} package keep, P l → P (l.restrict package keep).1
  removePackage : ∀ {l} package, P l → P (l.removePackage package).1
  sync : ∀ {l} installed, P l → P (l.sync installed).1

section

variable {ok : DexLoad → Prop} {P : Ledger → Prop}

theorem IsKept.removeUser (hP : IsKept ok P) {l : Ledger} (h : P l) (package : String)
    (user : UserId) : P (l.removeUser package user).1 := hP.restrict _ _ h

theorem IsKept.removeFile (hP : IsKept ok P) {l : Ledger} (h : P l) (package path : String)
    (user : UserId) : P (l.removeFile package path user).1 := by
  unfold Ledger.removeFile
  split
  · exact h
  · split
    · exact hP.restrict _ _ h
    · exact h

/-- A load that is not relevant changes nothing, so only the relevant ones matter. -/
theorem IsKept.of_relevant (hP : IsKept (fun d => d.isRelevant) P) : IsKept (fun _ => True) P where
  record := by
    intro l d h _
    cases hd : d.isRelevant with
    | true => exact hP.record h hd
    | false =>
      rw [record_of_irrelevant hd]
      exact h
  restrict := hP.restrict
  removePackage := hP.removePackage
  sync := hP.sync

end

theorem isKept_isTrim : IsKept (fun _ => True) IsTrim where
  record h _ := h.record _
  restrict _ _ h := h.restrict _ _
  removePackage _ h := h.removePackage _
  sync _ _ := isTrim_sync _ _

/-! ## Properties of all records -/

/-- Every record of the ledger is as `good` says. -/
def EveryRecord (good : String → String → UsageRecord → Prop) (l : Ledger) : Prop :=
  ∀ package path r, l.record? package path = some r → good package path r

variable {good : String → String → UsageRecord → Prop}

theorem everyRecord_empty : empty.EveryRecord good := by
  intro package path r hr
  cases hr

theorem EveryRecord.setRecord {l : Ledger} (h : l.EveryRecord good) {p path : String}
    {r : UsageRecord} (hr : good p path r) : (l.setRecord p path r).EveryRecord good := by
  intro q file r' hr'
  rw [record?_setRecord] at hr'
  split at hr'
  · next he =>
    obtain ⟨rfl, rfl⟩ := he
    cases hr'
    exact hr
  · exact h q file r' hr'

/-- What new and merged records have is kept by all operations of the ledger. -/
theorem isKept_everyRecord {ok : DexLoad → Prop}
    (hnew : ∀ d, ok d → good d.package d.path (.ofLoad d.user d.isa d.shared d.code))
    (hmerge : ∀ p path r isa shared, good p path r → good p path (r.merge isa shared)) :
    IsKept ok (EveryRecord good) where
  record := by
    intro l d h hd
    rcases record_cases l d with he | he | ⟨_, he⟩ | ⟨r, hr, he⟩ <;> rw [he]
    · exact h
    · exact h.setRecord (hnew d hd)
    · exact h
    · exact h.setRecord (hmerge _ _ r _ _ (h _ _ r hr))
  restrict := by
    intro l package keep h q path r hr
    rw [record?_restrict] at hr
    split at hr
    · exact h q path r (Option.filter_eq_some_iff.1 hr).1
    · exact h q path r hr
  removePackage := by
    intro l package h q path r hr
    rw [record?_removePackage] at hr
    split at hr
    · cases hr
    · exact h q path r hr
  sync := by
    intro l installed h q path r hr
    rw [record?_sync] at hr
    exact h q path r (Option.filter_eq_some_iff.1 hr).1

/-- Packages without records have no part in what a document says of the files. -/
theorem record?_ofDocument (doc : Ledger) (p path : String) :
    (ofDocument doc).record? p path = doc.record? p path := by
  simp only [record?, usage?, ofDocument, SortedMap.get?_filter]
  cases doc.packages.get? p with
  | none => rfl
  | some u =>
    cases he : u.isEmpty with
    | false => simp [Option.filter, he]
    | true => simp [Option.filter, SortedMap.isEmpty_iff.1 he]

theorem EveryRecord.ofDocument {doc : Ledger} (h : doc.EveryRecord good) :
    (Ledger.ofDocument doc).EveryRecord good := by
  intro package path r hr
  rw [record?_ofDocument] at hr
  exact h package path r hr

/-- Every record names an instruction set. -/
def HasIsas (l : Ledger) : Prop := l.EveryRecord fun _ _ r => r.isas.isEmpty = false

theorem isKept_hasIsas : IsKept (fun _ => True) HasIsas :=
  isKept_everyRecord (fun _ _ => SortedMap.isEmpty_insert _ _ _)
    (fun _ _ _ _ _ _ => SortedMap.isEmpty_insert _ _ _)

/-! ## Sequences of operations -/

/-- An operation of the ledger with its arguments. -/
inductive Operation where
  | record (d : DexLoad)
  | clearShared (package : String)
  | removePackage (package : String)
  | removeUser (package : String) (user : UserId)
  | removeFile (package path : String) (user : UserId)
  | sync (installed : SortedMap String (SortedSet UserId))
  | clear
  | replace (doc : Ledger)

/-- The ledger after an operation, whatever that answers. -/
def apply (l : Ledger) : Operation → Ledger
  | .record d => (l.record d).1
  | .clearShared package => (l.clearShared package).1
  | .removePackage package => (l.removePackage package).1
  | .removeUser package user => (l.removeUser package user).1
  | .removeFile package path user => (l.removeFile package path user).1
  | .sync installed => (l.sync installed).1
  | .clear => .empty
  | .replace doc => .ofDocument doc

/-- The ledger that starts empty and goes through the operations. -/
def ofOperations (operations : List Operation) : Ledger := operations.foldl apply empty

variable {P : Ledger → Prop}

theorem IsKept.apply (hP : IsKept (fun _ => True) P) (hempty : P empty) {l : Ledger} (h : P l)
    {operation : Operation} (hdoc : ∀ doc, operation = .replace doc → P (ofDocument doc)) :
    P (l.apply operation) := by
  cases operation with
  | record d => exact hP.record h trivial
  | clearShared package => exact hP.restrict _ _ h
  | removePackage package => exact hP.removePackage _ h
  | removeUser package user => exact hP.removeUser h _ _
  | removeFile package path user => exact hP.removeFile h _ _ _
  | sync installed => exact hP.sync _ h
  | clear => exact hempty
  | replace doc => exact hdoc doc rfl

theorem IsKept.foldl_apply (hP : IsKept (fun _ => True) P) (hempty : P empty) {l : Ledger} (h : P l)
    {operations : List Operation} (hdoc : ∀ doc, .replace doc ∈ operations → P (ofDocument doc)) :
    P (operations.foldl Ledger.apply l) := by
  induction operations generalizing l with
  | nil => exact h
  | cons operation operations ih =>
    refine ih (hP.apply hempty h ?_) fun doc hd => hdoc doc (List.mem_cons_of_mem operation hd)
    rintro doc rfl
    exact hdoc doc List.mem_cons_self

/-- What every operation keeps holds after any sequence of operations, if it holds of the empty
ledger and of the documents that are put in its place. -/
theorem IsKept.ofOperations (hP : IsKept (fun _ => True) P) (hempty : P empty)
    {operations : List Operation} (hdoc : ∀ doc, .replace doc ∈ operations → P (ofDocument doc)) :
    P (ofOperations operations) :=
  hP.foldl_apply hempty hempty hdoc

end Ledger

end DexTrail
