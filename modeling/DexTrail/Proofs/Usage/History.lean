-- SUMMARY: What a ledger holds after any history of loads, in closed form.
import DexTrail.Proofs.Usage.Bookkeeping
import Mathlib.Data.List.Induction

/-!
# Histories of loads

A ledger that starts empty and records loads one after another is determined,
file by file, by the loads of that file. The first load that leaves a trace fixes
the owner and the kind of the record. The later ones add to its instruction sets
and its shared mark, unless a secondary file refuses them for their user.
-/

namespace DexTrail

/-! ## Loads of one file -/

namespace DexLoad

/-- Whether a file whose first load is `first` takes up the load `d`. A secondary
file takes up secondary loads for its owner only. -/
def accepts (first d : DexLoad) : Bool := first.code || d.code || d.user == first.user

@[simp] theorem accepts_self (d : DexLoad) : d.accepts d = true := by
  simp [accepts]

/-- The loads of a file that can leave a trace, in their order. -/
def relevantTo (package path : String) (history : List DexLoad) : List DexLoad :=
  history.filter fun d => d.package == package && d.path == path && d.isRelevant

theorem relevantTo_append (package path : String) (before after : List DexLoad) :
    relevantTo package path (before ++ after) =
      relevantTo package path before ++ relevantTo package path after :=
  List.filter_append before after

theorem relevantTo_singleton (package path : String) (d : DexLoad) :
    relevantTo package path [d] =
      if d.package = package ∧ d.path = path ∧ d.isRelevant then [d] else [] := by
  by_cases h : d.package = package ∧ d.path = path ∧ d.isRelevant
  · rw [if_pos h]
    simp [relevantTo, h]
  · rw [if_neg h]
    simpa [relevantTo, and_assoc] using h

end DexLoad

/-! ## The record that loads make -/

namespace UsageRecord

/-- The record that the relevant loads of a file make together. -/
def ofLoads : List DexLoad → Option UsageRecord
  | [] => none
  | first :: rest =>
    let accepted := (first :: rest).filter first.accepts
    some {
      owner := first.user
      isas := .ofList (accepted.map (·.isa))
      shared := accepted.any (·.shared)
      code := first.code }

/-- What becomes of a file's record when a relevant load is recorded. -/
def takeUp (d : DexLoad) : Option UsageRecord → UsageRecord
  | none => .ofLoad d.user d.isa d.shared d.code
  | some r => if r.refuses d then r else r.merge d.isa d.shared

/-- The record of loads refuses exactly what their first one does not accept. -/
theorem refuses_ofLoads {first : DexLoad} {rest : List DexLoad} {r : UsageRecord} (d : DexLoad)
    (h : ofLoads (first :: rest) = some r) :
    r.owner = first.user ∧ r.refuses d = !first.accepts d := by
  cases h
  refine ⟨rfl, ?_⟩
  cases hc : first.code <;> cases hd : d.code <;>
    simp [refuses, isSecondary, DexLoad.accepts, hc, hd, bne, Bool.beq_comm]

theorem ofLoads_append (loads : List DexLoad) (d : DexLoad) :
    ofLoads (loads ++ [d]) = some (takeUp d (ofLoads loads)) := by
  cases loads with
  | nil => simp [ofLoads, takeUp, ofLoad, SortedSet.ofList, SortedSet.insertMany]
  | cons first rest =>
    obtain ⟨r, hr⟩ : ∃ r, ofLoads (first :: rest) = some r := ⟨_, rfl⟩
    have hrefuse := (refuses_ofLoads d hr).2
    simp only [hr, takeUp, hrefuse]
    cases hr
    rw [List.cons_append, ofLoads, ← List.cons_append, List.filter_append]
    cases ha : first.accepts d with
    | false => simp [ha]
    | true =>
      simp [ha, merge, SortedSet.ofList, SortedSet.insertMany, List.foldl_append, Bool.or_assoc]

end UsageRecord

namespace Ledger

/-! ## Recording loads one after another -/

/-- The ledger after loads are recorded one after another. A refused load changes
nothing and stops nothing. -/
def recordEach (l : Ledger) (loads : List DexLoad) : Ledger :=
  loads.foldl (fun l d => (l.record d).1) l

theorem recordEach_append (l : Ledger) (loads : List DexLoad) (d : DexLoad) :
    l.recordEach (loads ++ [d]) = ((l.recordEach loads).record d).1 := by
  simp [recordEach, List.foldl_append]

theorem record?_record (l : Ledger) (d : DexLoad) (p path : String) :
    (l.record d).1.record? p path =
      if d.package = p ∧ d.path = path ∧ d.isRelevant then some (.takeUp d (l.record? p path))
      else l.record? p path := by
  cases hd : d.isRelevant with
  | false => simp [record_of_irrelevant hd]
  | true =>
    by_cases hp : d.package = p ∧ d.path = path
    · obtain ⟨rfl, rfl⟩ := hp
      rw [if_pos ⟨rfl, rfl, rfl⟩]
      cases hr : l.record? d.package d.path with
      | none => simp [record_new hd hr, record?_setRecord, UsageRecord.takeUp]
      | some r =>
        cases href : r.refuses d with
        | true => simp [record_refused hd hr href, UsageRecord.takeUp, href, hr]
        | false =>
          simp [record_merged hd hr href, record?_setRecord, UsageRecord.takeUp, href]
    · have hne : ¬(p = d.package ∧ path = d.path) := fun h => hp ⟨h.1.symm, h.2.symm⟩
      rw [if_neg fun h => hp ⟨h.1, h.2.1⟩]
      rcases record_cases l d with h | h | ⟨_, h⟩ | ⟨r, -, h⟩ <;> rw [h] <;>
        simp [record?_setRecord, hne]

theorem usage?_record (l : Ledger) (d : DexLoad) (p : String) :
    (l.record d).1.usage? p = l.usage? p ∨ d.package = p ∧ d.isRelevant := by
  cases hd : d.isRelevant with
  | false => exact .inl (by rw [record_of_irrelevant hd])
  | true =>
    by_cases hp : d.package = p
    · exact .inr ⟨hp, rfl⟩
    · refine .inl ?_
      rcases record_cases l d with h | h | ⟨_, h⟩ | ⟨r, -, h⟩ <;> rw [h] <;>
        simp [usage?_setRecord, Ne.symm hp]

/-- A load is refused exactly when the file's record refuses it. -/
theorem record_eq_error_iff {l : Ledger} {d : DexLoad} {e : OwnerMismatch} :
    (l.record d).2 = .error e ↔
      d.isRelevant ∧ ∃ r, l.record? d.package d.path = some r ∧ r.refuses d ∧
        e = ⟨d.package, d.path, r.owner, d.user⟩ := by
  cases hd : d.isRelevant with
  | false => simp [record_of_irrelevant hd]
  | true =>
    cases hr : l.record? d.package d.path with
    | none => simp [record_new hd hr]
    | some r =>
      cases href : r.refuses d with
      | true =>
        rw [record_refused hd hr href]
        constructor
        · intro h
          exact ⟨rfl, r, rfl, href, (Except.error.inj h).symm⟩
        · rintro ⟨-, r', hr', -, rfl⟩
          cases hr'
          rfl
      | false => simp [record_merged hd hr href, href]

/-- The records of a file after a history are those of its relevant loads. -/
theorem record?_recordEach (history : List DexLoad) (p path : String) :
    (empty.recordEach history).record? p path =
      UsageRecord.ofLoads (DexLoad.relevantTo p path history) := by
  induction history using List.reverseRecOn with
  | nil => rfl
  | append_singleton history d ih =>
    rw [recordEach_append, record?_record, ih, DexLoad.relevantTo_append,
      DexLoad.relevantTo_singleton]
    split
    · rw [UsageRecord.ofLoads_append]
    · rw [List.append_nil]

/-- No package appears that no relevant load names. -/
theorem usage?_recordEach (history : List DexLoad) (p : String) :
    (empty.recordEach history).usage? p = none ∨ ∃ d ∈ history, d.package = p ∧ d.isRelevant := by
  induction history using List.reverseRecOn with
  | nil => exact .inl rfl
  | append_singleton history d ih =>
    rw [recordEach_append]
    rcases usage?_record (empty.recordEach history) d p with h | h
    · rw [h]
      apply ih.imp_right
      rintro ⟨d', hd', h'⟩
      exact ⟨d', List.mem_append_left _ hd', h'⟩
    · exact .inr ⟨d, by simp, h⟩

/-- Loads of other packages leave a package as it is. -/
theorem usage?_recordEach_of_ne {loads : List DexLoad} {p : String}
    (h : ∀ d ∈ loads, d.package ≠ p) (l : Ledger) :
    (l.recordEach loads).usage? p = l.usage? p := by
  induction loads generalizing l with
  | nil => rfl
  | cons d loads ih =>
    have hd := (usage?_record l d p).resolve_right fun hp => h d List.mem_cons_self hp.1
    exact (ih (fun e he => h e (List.mem_cons_of_mem d he)) _).trans hd

/-- A load of a history is refused exactly when it is relevant and the file's first
relevant load does not accept it. -/
theorem record_recordEach_eq_error_iff (before after : List DexLoad) (d : DexLoad)
    (e : OwnerMismatch) :
    ((empty.recordEach before).record d).2 = .error e ↔
      d.isRelevant ∧ ∃ first,
        (DexLoad.relevantTo d.package d.path (before ++ d :: after)).head? = some first ∧
        first.accepts d = false ∧ e = ⟨d.package, d.path, first.user, d.user⟩ := by
  rw [record_eq_error_iff, record?_recordEach, DexLoad.relevantTo_append,
    ← List.singleton_append, DexLoad.relevantTo_append, DexLoad.relevantTo_singleton]
  apply and_congr_right
  intro hd
  rw [if_pos ⟨rfl, rfl, hd⟩]
  cases hb : DexLoad.relevantTo d.package d.path before with
  | nil => simp [UsageRecord.ofLoads]
  | cons first rest =>
    obtain ⟨r, hr⟩ : ∃ r, UsageRecord.ofLoads (first :: rest) = some r := ⟨_, rfl⟩
    obtain ⟨howner, hrefuse⟩ := UsageRecord.refuses_ofLoads d hr
    simp [hr, howner, hrefuse]

/-- After any history of loads, the record of a file is the closed form of its
relevant loads. A load was refused exactly when it was relevant and not accepted by
the first of them, and then it changed nothing. Every package was named by a
relevant load. -/
theorem recordEach_closed_form :
    (∀ history p path, (empty.recordEach history).record? p path =
      UsageRecord.ofLoads (DexLoad.relevantTo p path history)) ∧
    (∀ before d after e,
      (((empty.recordEach before).record d).2 = .error e ↔
        d.isRelevant ∧ ∃ first,
          (DexLoad.relevantTo d.package d.path (before ++ d :: after)).head? = some first ∧
          first.accepts d = false ∧ e = ⟨d.package, d.path, first.user, d.user⟩) ∧
      (((empty.recordEach before).record d).2 = .error e ↔
        (empty.recordEach before).record d = (empty.recordEach before, .error e))) ∧
    ∀ history p, (empty.recordEach history).usage? p = none ∨
      ∃ d ∈ history, d.package = p ∧ d.isRelevant := by
  refine ⟨record?_recordEach, fun before d after e => ?_, usage?_recordEach⟩
  refine ⟨record_recordEach_eq_error_iff before after d e, fun h => ?_, fun h => ?_⟩
  · exact Prod.ext (record_of_error h) h
  · rw [h]

end Ledger

end DexTrail
