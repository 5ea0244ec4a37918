-- SUMMARY: Loads that agree about their files may be recorded in any order and any number of times.
import DexTrail.Proofs.Usage.History

/-!
# Agreeing loads

Loads agree when those of one file are for one user and of one kind. The records that they
make do not depend on their order, and a load that was recorded before says nothing new. So
the ledger after a history of agreeing loads depends on which loads were recorded, and not
on when or how often.
-/

namespace DexTrail

/-- Loads of one file are for one user and of one kind. -/
def DexLoad.Agrees (d d' : DexLoad) : Prop :=
  d.package = d'.package → d.path = d'.path → d.user = d'.user ∧ d.code = d'.code

instance (d d' : DexLoad) : Decidable (d.Agrees d') :=
  inferInstanceAs (Decidable (_ → _ → _ ∧ _))

/-! ## One record -/

namespace UsageRecord

variable {d d' : DexLoad}

/-- A record decides by user and kind whether it refuses a load. -/
theorem refuses_congr (huser : d.user = d'.user) (hcode : d.code = d'.code) (r : UsageRecord) :
    r.refuses d = r.refuses d' := by
  rw [refuses, refuses, huser, hcode]

/-- A record goes on refusing what it refused, and taking up what it took up. -/
theorem refuses_merge (r : UsageRecord) (isa : String) (shared : Bool) :
    (r.merge isa shared).refuses d = r.refuses d := rfl

/-- The record of a first load takes up what agrees with that. -/
theorem refuses_ofLoad (huser : d.user = d'.user) :
    (ofLoad d.user d.isa d.shared d.code).refuses d' = false := by
  simp [refuses, ofLoad, huser]

theorem merge_comm (r : UsageRecord) (isa isa' : String) (shared shared' : Bool) :
    (r.merge isa shared).merge isa' shared' = (r.merge isa' shared').merge isa shared := by
  simp only [merge, SortedSet.insert_comm r.isas isa isa', Bool.or_right_comm]

theorem merge_merge (r : UsageRecord) (isa : String) (shared : Bool) :
    (r.merge isa shared).merge isa shared = r.merge isa shared := by
  have hisa : (r.isas.insert isa).contains isa = true := SortedSet.mem_insert.2 (.inl rfl)
  apply merge_eq_self
  cases shared <;> simp [mergeChanges, merge, hisa]

theorem takeUp_comm (huser : d.user = d'.user) (hcode : d.code = d'.code)
    (known : Option UsageRecord) :
    takeUp d' (some (takeUp d known)) = takeUp d (some (takeUp d' known)) := by
  cases known with
  | none =>
    simp only [takeUp, refuses_ofLoad huser, refuses_ofLoad huser.symm, Bool.false_eq_true,
      if_false]
    simp only [ofLoad, merge, SortedSet.insert_comm _ d.isa d'.isa, Bool.or_comm d.shared, huser,
      hcode]
  | some r =>
    cases hr : r.refuses d with
    | true => simp [takeUp, hr, ← refuses_congr huser hcode r]
    | false =>
      simp only [takeUp, refuses_merge, ← refuses_congr huser hcode r, hr, Bool.false_eq_true,
        if_false]
      exact merge_comm r d.isa d'.isa d.shared d'.shared

theorem takeUp_takeUp (d : DexLoad) (known : Option UsageRecord) :
    takeUp d (some (takeUp d known)) = takeUp d known := by
  cases known with
  | none =>
    have hisa : (SortedSet.empty.insert d.isa).contains d.isa = true :=
      SortedSet.mem_insert.2 (.inl rfl)
    simp only [takeUp, refuses_ofLoad rfl, Bool.false_eq_true, if_false]
    apply merge_eq_self
    cases d.shared <;> simp [mergeChanges, ofLoad, hisa]
  | some r =>
    cases hr : r.refuses d with
    | true => simp [takeUp, hr]
    | false => simp [takeUp, hr, refuses_merge, merge_merge]

end UsageRecord

/-! ## The ledger -/

namespace Ledger

/-- Ledgers with the same records and the same packages are equal. -/
theorem ext_record? {l k : Ledger} (hrecords : ∀ p path, l.record? p path = k.record? p path)
    (hpackages : ∀ p, (l.usage? p).isSome = (k.usage? p).isSome) : l = k := by
  apply ext
  intro p
  have hp := hpackages p
  have hfiles (path : String) : (l.usage? p).bind (·.get? path) = (k.usage? p).bind (·.get? path) :=
    hrecords p path
  cases hl : l.usage? p with
  | none =>
    rw [hl, Option.isSome_none, eq_comm, Option.isSome_eq_false_iff, Option.isNone_iff_eq_none]
      at hp
    exact hp.symm
  | some u =>
    rw [hl, Option.isSome_some, eq_comm] at hp
    obtain ⟨v, hv⟩ := Option.isSome_iff_exists.1 hp
    rw [hv]
    refine congrArg some (SortedMap.ext fun path => ?_)
    simpa [hl, hv] using hfiles path

/-- Trim ledgers with the same records are equal. -/
theorem IsTrim.ext {l k : Ledger} (hl : l.IsTrim) (hk : k.IsTrim)
    (h : ∀ p path, l.record? p path = k.record? p path) : l = k := by
  refine ext_record? h fun p => ?_
  rw [Bool.eq_iff_iff, hl.isSome_usage?_iff, hk.isSome_usage?_iff]
  simp only [h]

theorem isSome_usage?_record (l : Ledger) (d : DexLoad) (p : String) :
    ((l.record d).1.usage? p).isSome =
      ((l.usage? p).isSome || (d.package == p && d.isRelevant)) := by
  have hset (r : UsageRecord) : ((l.setRecord d.package d.path r).usage? p).isSome =
      ((l.usage? p).isSome || d.package == p) := by
    rw [usage?_setRecord]
    by_cases hp : p = d.package
    · simp [hp]
    · simp [hp, Ne.symm hp]
  cases hd : d.isRelevant with
  | false => simp [record_of_irrelevant hd]
  | true =>
    rw [Bool.and_true]
    cases hr : l.record? d.package d.path with
    | none =>
      rw [record_new hd hr]
      exact hset _
    | some r =>
      cases href : r.refuses d with
      | true =>
        -- what is refused has a record, so its package is there
        rw [record_refused hd hr href]
        obtain ⟨u, hu, -⟩ := Option.bind_eq_some_iff.1 hr
        by_cases hp : d.package = p
        · simp [← hp, hu]
        · simp [hp]
      | false =>
        rw [record_merged hd hr href]
        exact hset _

/-- Agreeing loads may be recorded in either order. -/
theorem record_comm {d d' : DexLoad} (h : d.Agrees d') (l : Ledger) :
    ((l.record d).1.record d').1 = ((l.record d').1.record d).1 := by
  apply ext_record?
  · intro p path
    simp only [record?_record]
    split
    · next hd' =>
      split
      · next hd =>
        obtain ⟨huser, hcode⟩ := h (hd.1.trans hd'.1.symm) (hd.2.1.trans hd'.2.1.symm)
        rw [UsageRecord.takeUp_comm huser hcode]
      · rfl
    · rfl
  · intro p
    simp only [isSome_usage?_record, Bool.or_right_comm]

/-- A load that was recorded says nothing new. -/
theorem record_record (l : Ledger) (d : DexLoad) :
    ((l.record d).1.record d).1 = (l.record d).1 := by
  apply ext_record?
  · intro p path
    simp only [record?_record]
    split
    · rw [UsageRecord.takeUp_takeUp]
    · rfl
  · intro p
    simp only [isSome_usage?_record, Bool.or_assoc, Bool.or_self]

/-! ## Histories -/

variable {loads loads' : List DexLoad}

/-- Agreeing loads may be recorded in any order. -/
theorem recordEach_perm (h : loads.Perm loads')
    (hagree : ∀ d ∈ loads, ∀ d' ∈ loads, d.Agrees d') (l : Ledger) :
    l.recordEach loads = l.recordEach loads' :=
  h.foldl_eq' (fun d hd d' hd' l => record_comm (hagree d hd d' hd') l) l

/-- A load of the history says nothing new at its end. -/
theorem record_recordEach_of_mem (hagree : ∀ d ∈ loads, ∀ d' ∈ loads, d.Agrees d') {d : DexLoad}
    (hd : d ∈ loads) (l : Ledger) : ((l.recordEach loads).record d).1 = l.recordEach loads := by
  have hlast : loads.Perm (loads.erase d ++ [d]) :=
    (List.perm_cons_erase hd).trans (List.perm_append_singleton d _).symm
  rw [recordEach_perm hlast hagree, recordEach_append, record_record]

/-- Loads of the history say nothing new when they are recorded again. -/
theorem recordEach_append_of_subset (hagree : ∀ d ∈ loads, ∀ d' ∈ loads, d.Agrees d')
    (h : ∀ d ∈ loads', d ∈ loads) (l : Ledger) :
    l.recordEach (loads ++ loads') = l.recordEach loads := by
  induction loads' using List.reverseRecOn with
  | nil => rw [List.append_nil]
  | append_singleton loads' d ih =>
    rw [← List.append_assoc, recordEach_append, ih fun e he => h e (List.mem_append_left _ he)]
    exact record_recordEach_of_mem hagree (h d (by simp)) l

/-- The ledger after agreeing loads depends only on which loads were recorded. -/
theorem recordEach_congr (hagree : ∀ d ∈ loads, ∀ d' ∈ loads, d.Agrees d')
    (h : ∀ d, d ∈ loads ↔ d ∈ loads') (l : Ledger) : l.recordEach loads = l.recordEach loads' := by
  have hagree' : ∀ d ∈ loads', ∀ d' ∈ loads', d.Agrees d' :=
    fun d hd d' hd' => hagree d ((h d).2 hd) d' ((h d').2 hd')
  have hboth : ∀ d ∈ loads ++ loads', ∀ d' ∈ loads ++ loads', d.Agrees d' := by
    simp only [List.mem_append, ← h, or_self]
    exact hagree
  calc
    l.recordEach loads = l.recordEach (loads ++ loads') :=
      (recordEach_append_of_subset hagree (fun d hd => (h d).2 hd) l).symm
    _ = l.recordEach (loads' ++ loads) := recordEach_perm List.perm_append_comm hboth l
    _ = l.recordEach loads' := recordEach_append_of_subset hagree' (fun d hd => (h d).1 hd) l

end Ledger

end DexTrail
