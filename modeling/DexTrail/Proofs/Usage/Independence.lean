-- SUMMARY: Operations on different packages of a ledger do not notice each other, in whatever order they interleave.
import DexTrail.Proofs.Usage.History

/-!
# Independence of packages

Every operation that names a package reads and changes the usage of that package alone
(`Ledger.carryOut_congr`, `Ledger.usage?_carryOut_of_ne`). So of any sequence of operations,
those on some packages answer and leave what they would without the others
(`Ledger.transcript_filter`). Two sequences that name no package in common can therefore
interleave in any way: each of them sees a ledger on which it runs alone.
-/

namespace DexTrail

/-! ## Interleavings -/

/-- The third list is made of the first two, each of which keeps its order. -/
inductive Interleaves {α : Type} : List α → List α → List α → Prop where
  | done : Interleaves [] [] []
  /-- The next turn is the first list's. -/
  | first {a : α} {as bs all : List α} (h : Interleaves as bs all) :
    Interleaves (a :: as) bs (a :: all)
  /-- The next turn is the second list's. -/
  | second {b : α} {as bs all : List α} (h : Interleaves as bs all) :
    Interleaves as (b :: bs) (b :: all)

namespace Interleaves

variable {α : Type} {as bs all : List α}

theorem swap (h : Interleaves as bs all) : Interleaves bs as all := by
  induction h with
  | done => exact .done
  | first _ ih => exact .second ih
  | second _ ih => exact .first ih

theorem mem_iff (h : Interleaves as bs all) {a : α} : a ∈ all ↔ a ∈ as ∨ a ∈ bs := by
  induction h with
  | done => simp
  | first _ ih => simp [ih, or_assoc]
  | second _ ih => simp [ih, or_left_comm]

/-- What is true of the elements of the first list only picks that list out. -/
theorem filter_eq (h : Interleaves as bs all) {p : α → Bool} (hfirst : ∀ a ∈ as, p a = true)
    (hsecond : ∀ b ∈ bs, p b = false) : all.filter p = as := by
  induction h with
  | done => rfl
  | @first a as bs all _ ih =>
    rw [List.filter_cons_of_pos (hfirst a List.mem_cons_self),
      ih (fun x hx => hfirst x (List.mem_cons_of_mem a hx)) hsecond]
  | @second b as bs all _ ih =>
    have hb : ¬p b = true := Bool.eq_false_iff.1 (hsecond b List.mem_cons_self)
    rw [List.filter_cons_of_neg hb,
      ih hfirst fun x hx => hsecond x (List.mem_cons_of_mem b hx)]

end Interleaves

/-! ## Operations of one package -/

/-- An operation of the ledger that names a package. -/
inductive PackageOperation where
  | record (d : DexLoad)
  | clearShared (package : String)
  | removePackage (package : String)
  | removeUser (package : String) (user : UserId)
  | removeFile (package path : String) (user : UserId)
  | usage (package : String)
  | isShared (package : String)
  deriving DecidableEq

/-- The package that the operation names. -/
def PackageOperation.package : PackageOperation → String
  | .record d => d.package
  | .clearShared package => package
  | .removePackage package => package
  | .removeUser package _ => package
  | .removeFile package _ _ => package
  | .usage package => package
  | .isShared package => package

/-- What an operation answers. -/
inductive PackageAnswer where
  | recorded (outcome : Except OwnerMismatch Bool)
  | changed (b : Bool)
  | found (usage : Option PackageUsage)
  | shared (b : Bool)
  deriving DecidableEq

namespace Ledger

/-- Carry out an operation, as a whole and with no other at the same time. -/
def carryOut (l : Ledger) : PackageOperation → Ledger × PackageAnswer
  | .record d => (l.record d).map id .recorded
  | .clearShared package => (l.clearShared package).map id .changed
  | .removePackage package => (l.removePackage package).map id .changed
  | .removeUser package user => (l.removeUser package user).map id .changed
  | .removeFile package path user => (l.removeFile package path user).map id .changed
  | .usage package => (l, .found (l.usage? package))
  | .isShared package => (l, .shared (l.isShared package))

/-- The ledger after the operations. -/
def after (l : Ledger) (operations : List PackageOperation) : Ledger :=
  operations.foldl (fun l o => (l.carryOut o).1) l

/-- The operations, each with what it answers when its turn comes. -/
def transcript (l : Ledger) : List PackageOperation → List (PackageOperation × PackageAnswer)
  | [] => []
  | o :: operations => (o, (l.carryOut o).2) :: (l.carryOut o).1.transcript operations

/-! ### What an operation reads and changes -/

variable {l k : Ledger} {p : String}

theorem restrict_congr (h : l.usage? p = k.usage? p) (keep : String → UsageRecord → Bool) :
    (l.restrict p keep).2 = (k.restrict p keep).2 ∧
      (l.restrict p keep).1.usage? p = (k.restrict p keep).1.usage? p := by
  refine ⟨?_, ?_⟩
  · rw [restrict, restrict, h]
    cases k.usage? p <;> rfl
  · rw [usage?_restrict, usage?_restrict, if_pos rfl, if_pos rfl, h]

theorem record_congr {d : DexLoad} (h : l.usage? d.package = k.usage? d.package) :
    (l.record d).2 = (k.record d).2 ∧
      (l.record d).1.usage? d.package = (k.record d).1.usage? d.package := by
  have hrecord := record?_congr h d.path
  have hset (r : UsageRecord) : (l.setRecord d.package d.path r).usage? d.package =
      (k.setRecord d.package d.path r).usage? d.package := by
    rw [usage?_setRecord, usage?_setRecord, if_pos rfl, if_pos rfl, h]
  cases hd : d.isRelevant with
  | false =>
    rw [record_of_irrelevant hd, record_of_irrelevant hd]
    exact ⟨rfl, h⟩
  | true =>
    cases hr : k.record? d.package d.path with
    | none =>
      rw [record_new hd (hrecord.trans hr), record_new hd hr]
      exact ⟨rfl, hset _⟩
    | some r =>
      cases hrefuses : r.refuses d with
      | true =>
        rw [record_refused hd (hrecord.trans hr) hrefuses, record_refused hd hr hrefuses]
        exact ⟨rfl, h⟩
      | false =>
        rw [record_merged hd (hrecord.trans hr) hrefuses, record_merged hd hr hrefuses]
        exact ⟨rfl, hset _⟩

theorem usage?_removePackage (l : Ledger) (p q : String) :
    (l.removePackage p).1.usage? q = if q = p then none else l.usage? q := by
  simp [removePackage, usage?, SortedMap.get?_erase]

theorem removePackage_congr (h : l.usage? p = k.usage? p) :
    (l.removePackage p).2 = (k.removePackage p).2 ∧
      (l.removePackage p).1.usage? p = (k.removePackage p).1.usage? p := by
  refine ⟨congrArg Option.isSome h, ?_⟩
  rw [usage?_removePackage, usage?_removePackage, if_pos rfl, if_pos rfl]

theorem removeFile_congr (h : l.usage? p = k.usage? p) (path : String) (user : UserId) :
    (l.removeFile p path user).2 = (k.removeFile p path user).2 ∧
      (l.removeFile p path user).1.usage? p = (k.removeFile p path user).1.usage? p := by
  rw [removeFile, removeFile, record?_congr h path]
  cases k.record? p path with
  | none => exact ⟨rfl, h⟩
  | some r =>
    by_cases howner : r.owner = user
    · simp only [if_pos howner]
      exact restrict_congr h _
    · simp only [if_neg howner]
      exact ⟨trivial, h⟩

theorem isShared_congr (h : l.usage? p = k.usage? p) : l.isShared p = k.isShared p := by
  rw [isShared, isShared, h]

/-- What an operation answers, and what it makes of its package, depends on the usage of that
package only. -/
theorem carryOut_congr {o : PackageOperation} (h : l.usage? o.package = k.usage? o.package) :
    (l.carryOut o).2 = (k.carryOut o).2 ∧
      (l.carryOut o).1.usage? o.package = (k.carryOut o).1.usage? o.package := by
  cases o with
  | record d =>
    obtain ⟨hanswer, husage⟩ := record_congr h
    exact ⟨congrArg PackageAnswer.recorded hanswer, husage⟩
  | clearShared package =>
    obtain ⟨hanswer, husage⟩ := restrict_congr h fun _ r => r.isSecondary
    exact ⟨congrArg PackageAnswer.changed hanswer, husage⟩
  | removePackage package =>
    obtain ⟨hanswer, husage⟩ := removePackage_congr h
    exact ⟨congrArg PackageAnswer.changed hanswer, husage⟩
  | removeUser package user =>
    obtain ⟨hanswer, husage⟩ := restrict_congr h fun _ r => r.owner != user
    exact ⟨congrArg PackageAnswer.changed hanswer, husage⟩
  | removeFile package path user =>
    obtain ⟨hanswer, husage⟩ := removeFile_congr h path user
    exact ⟨congrArg PackageAnswer.changed hanswer, husage⟩
  | usage package => exact ⟨congrArg PackageAnswer.found h, h⟩
  | isShared package => exact ⟨congrArg PackageAnswer.shared (isShared_congr h), h⟩

/-- An operation leaves the usage of every other package as it is. -/
theorem usage?_carryOut_of_ne (l : Ledger) {o : PackageOperation} (h : p ≠ o.package) :
    (l.carryOut o).1.usage? p = l.usage? p := by
  cases o with
  | record d =>
    rcases usage?_record l d p with hsame | ⟨hp, -⟩
    · exact hsame
    · exact absurd hp.symm h
  | clearShared package => exact (usage?_restrict l package p _).trans (if_neg h)
  | removePackage package => exact (usage?_removePackage l package p).trans (if_neg h)
  | removeUser package user => exact (usage?_restrict l package p _).trans (if_neg h)
  | removeFile package path user => exact usage?_removeFile_of_ne l path user h
  | usage package => rfl
  | isShared package => rfl

/-! ### Sequences of operations -/

variable {inside : String → Bool}

/-- An operation on a package inside keeps two ledgers alike on what is inside. -/
theorem usage?_carryOut_congr (h : ∀ p, inside p = true → l.usage? p = k.usage? p)
    {o : PackageOperation} (ho : inside o.package = true) :
    ∀ p, inside p = true → (l.carryOut o).1.usage? p = (k.carryOut o).1.usage? p := by
  intro p hp
  by_cases hpo : p = o.package
  · rw [hpo]
    exact (carryOut_congr (h o.package ho)).2
  · rw [usage?_carryOut_of_ne l hpo, usage?_carryOut_of_ne k hpo]
    exact h p hp

/-- An operation on a package outside changes nothing inside. -/
theorem usage?_carryOut_outside (h : ∀ p, inside p = true → l.usage? p = k.usage? p)
    {o : PackageOperation} (ho : ¬inside o.package = true) :
    ∀ p, inside p = true → (l.carryOut o).1.usage? p = k.usage? p := by
  intro p hp
  rw [usage?_carryOut_of_ne l fun hpo => ho (hpo ▸ hp)]
  exact h p hp

/-- The operations on the packages inside answer what they answer without the others. -/
theorem transcript_filter (inside : String → Bool)
    (h : ∀ p, inside p = true → l.usage? p = k.usage? p) (operations : List PackageOperation) :
    (l.transcript operations).filter (fun e => inside e.1.package) =
      k.transcript (operations.filter fun o => inside o.package) := by
  induction operations generalizing l k with
  | nil => rfl
  | cons o operations ih =>
    rw [transcript]
    by_cases ho : inside o.package = true
    · rw [List.filter_cons_of_pos (by exact ho), List.filter_cons_of_pos (by exact ho), transcript,
        ih (usage?_carryOut_congr h ho), (carryOut_congr (h o.package ho)).1]
    · rw [List.filter_cons_of_neg (by exact ho), List.filter_cons_of_neg (by exact ho),
        ih (usage?_carryOut_outside h ho)]

/-- The packages inside end up as they do without the other operations. -/
theorem usage?_after_filter (inside : String → Bool)
    (h : ∀ p, inside p = true → l.usage? p = k.usage? p) (operations : List PackageOperation) :
    ∀ p, inside p = true → (l.after operations).usage? p =
      (k.after (operations.filter fun o => inside o.package)).usage? p := by
  induction operations generalizing l k with
  | nil => exact h
  | cons o operations ih =>
    by_cases ho : inside o.package = true
    · rw [List.filter_cons_of_pos (by exact ho)]
      exact ih (usage?_carryOut_congr h ho)
    · rw [List.filter_cons_of_neg (by exact ho)]
      exact ih (usage?_carryOut_outside h ho)

/-! ### Interleaved sequences -/

/-- Two sequences of operations that name no package in common, interleaved in any way. The
operations of each answer, in their order, exactly what they answer when the sequence runs alone
from the same ledger; each package that a sequence names ends up with the usage that the
sequence alone gives it; and every other package keeps the usage it had. -/
theorem unnoticed_of_interleaves {first second all : List PackageOperation}
    (h : Interleaves first second all)
    (hdisjoint : ∀ o ∈ first, ∀ o' ∈ second, o.package ≠ o'.package) (l : Ledger) :
    (l.transcript all).filter (fun e => e.1.package ∈ first.map (·.package)) =
      l.transcript first ∧
    (l.transcript all).filter (fun e => e.1.package ∈ second.map (·.package)) =
      l.transcript second ∧
    (∀ p ∈ first.map (·.package), (l.after all).usage? p = (l.after first).usage? p) ∧
    (∀ p ∈ second.map (·.package), (l.after all).usage? p = (l.after second).usage? p) ∧
    ∀ p, p ∉ first.map (·.package) → p ∉ second.map (·.package) →
      (l.after all).usage? p = l.usage? p := by
  have hmine {os : List PackageOperation} :
      ∀ o ∈ os, decide (o.package ∈ os.map (·.package)) = true :=
    fun o ho => decide_eq_true (List.mem_map_of_mem ho)
  have hfirst : all.filter (fun o => o.package ∈ first.map (·.package)) = first := by
    refine h.filter_eq hmine fun o' ho' => decide_eq_false ?_
    intro hshared
    obtain ⟨o, ho, heq⟩ := List.mem_map.1 hshared
    exact hdisjoint o ho o' ho' heq
  have hsecond : all.filter (fun o => o.package ∈ second.map (·.package)) = second := by
    refine h.swap.filter_eq hmine fun o ho => decide_eq_false ?_
    intro hshared
    obtain ⟨o', ho', heq⟩ := List.mem_map.1 hshared
    exact hdisjoint o ho o' ho' heq.symm
  have husage (names : List String) (p : String) (hp : p ∈ names) :
      (l.after all).usage? p = (l.after (all.filter fun o => o.package ∈ names)).usage? p :=
    usage?_after_filter (fun p => p ∈ names) (fun _ _ => rfl) all p (decide_eq_true hp)
  refine ⟨?_, ?_, ?_, ?_, ?_⟩
  · rw [transcript_filter (fun p => p ∈ first.map (·.package)) (fun _ _ => rfl), hfirst]
  · rw [transcript_filter (fun p => p ∈ second.map (·.package)) (fun _ _ => rfl), hsecond]
  · intro p hp
    rw [husage _ p hp, hfirst]
  · intro p hp
    rw [husage _ p hp, hsecond]
  · intro p hp hp'
    -- no operation names the package, so nothing is left of them
    have hnone : all.filter (fun o => o.package ∈ [p]) = [] := by
      refine List.filter_eq_nil_iff.2 fun o ho hop => ?_
      have hop : o.package = p := by simpa using hop
      rcases h.mem_iff.1 ho with ho | ho
      · exact hp (hop ▸ List.mem_map_of_mem ho)
      · exact hp' (hop ▸ List.mem_map_of_mem ho)
    rw [husage [p] p List.mem_cons_self, hnone]
    rfl

/-- A file of a package is loaded for two users, of whom the second is refused, and the package
is asked for. -/
def loads : List PackageOperation :=
  [.record ⟨"com.a", "/data/data/com.a/x.jar", 0, "arm64", false, false⟩,
    .record ⟨"com.a", "/data/data/com.a/x.jar", 10, "arm64", false, false⟩,
    .usage "com.a"]

/-- The only file of another package is loaded and removed, and the package goes with it. -/
def departure : List PackageOperation :=
  [.record ⟨"com.b", "/data/data/com.b/y.jar", 0, "arm", true, false⟩,
    .removeFile "com.b" "/data/data/com.b/y.jar" 0,
    .removePackage "com.b"]

/-- The refusal stays between the operations on the other package, and the last of these finds
its package gone. -/
theorem unnoticed_loads_departure :
    let all := [loads[0], departure[0], loads[1], departure[1], departure[2], loads[2]]
    (empty.transcript all).filter (fun e => e.1.package ∈ loads.map (·.package)) =
        empty.transcript loads ∧
      (empty.after all).usage? "com.b" = (empty.after departure).usage? "com.b" ∧
      (empty.transcript loads).map (·.2) =
        [.recorded (.ok true),
          .recorded (.error ⟨"com.a", "/data/data/com.a/x.jar", 0, 10⟩),
          .found ((empty.after loads).usage? "com.a")] ∧
      (empty.transcript departure).map (·.2) =
        [.recorded (.ok true), .changed true, .changed false] := by
  intro all
  have h : Interleaves loads departure all :=
    .first (.second (.first (.second (.second (.first .done)))))
  have hdisjoint : ∀ o ∈ loads, ∀ o' ∈ departure, o.package ≠ o'.package := by decide
  obtain ⟨hfirst, -, -, husage, -⟩ := unnoticed_of_interleaves h hdisjoint empty
  exact ⟨hfirst, husage "com.b" (by decide), by decide +kernel, by decide +kernel⟩

end Ledger

end DexTrail
