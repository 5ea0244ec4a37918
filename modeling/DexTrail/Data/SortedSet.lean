-- SUMMARY: Finite sets listed in ascending order.
import DexTrail.Data.SortedMap

/-!
# Sorted sets

A set is a sorted map whose values say nothing. Membership is the view:
`SortedSet.ext` makes equality of sets the same as having the same members.
-/

namespace DexTrail

open Std

/-- Members in strictly ascending order. -/
structure SortedSet (α : Type) [Ord α] where
  table : SortedMap α Unit
  deriving DecidableEq

namespace SortedSet

variable {α : Type} [Ord α]

def empty : SortedSet α := ⟨.empty⟩

instance : Inhabited (SortedSet α) := ⟨empty⟩

def contains (s : SortedSet α) (a : α) : Bool := s.table.contains a

instance : Membership α (SortedSet α) := ⟨fun s a => s.contains a = true⟩

instance (s : SortedSet α) (a : α) : Decidable (a ∈ s) :=
  inferInstanceAs (Decidable (s.contains a = true))

/-- The members in ascending order. -/
def toList (s : SortedSet α) : List α := s.table.keys

def size (s : SortedSet α) : Nat := s.table.size

def isEmpty (s : SortedSet α) : Bool := s.table.isEmpty

/-- Whether some member satisfies `p`. -/
def any (p : α → Bool) (s : SortedSet α) : Bool := s.toList.any p

/-- Keep the members that satisfy `p`. -/
def filter (p : α → Bool) (s : SortedSet α) : SortedSet α := ⟨s.table.filter fun a _ => p a⟩

theorem mem_iff {s : SortedSet α} {a : α} : a ∈ s ↔ (s.table.get? a).isSome := Iff.rfl

@[simp] theorem not_mem_empty (a : α) : a ∉ (empty : SortedSet α) := by
  simp [mem_iff, empty]

theorem length_toList (s : SortedSet α) : s.toList.length = s.size := by
  simp [size, SortedMap.size, toList, SortedMap.keys]

theorem nodup_toList [LawfulEqOrd α] (s : SortedSet α) : s.toList.Nodup := s.table.nodup_keys

section

variable [TransOrd α] [LawfulEqOrd α]

def insert (s : SortedSet α) (a : α) : SortedSet α := ⟨s.table.insert a ()⟩

def insertMany (s : SortedSet α) (as : List α) : SortedSet α := as.foldl insert s

def ofList (as : List α) : SortedSet α := empty.insertMany as

@[simp] theorem mem_insert {s : SortedSet α} {a b : α} : b ∈ s.insert a ↔ b = a ∨ b ∈ s := by
  simp only [mem_iff, insert, SortedMap.get?_insert]
  by_cases h : compare b a = .eq
  · simp [LawfulEqOrd.eq_of_compare h]
  · have hne : b ≠ a := fun e => h (by simp [e])
    simp [h, hne]

@[simp] theorem mem_insertMany {s : SortedSet α} {as : List α} {b : α} :
    b ∈ s.insertMany as ↔ b ∈ as ∨ b ∈ s := by
  induction as generalizing s with
  | nil => simp [insertMany]
  | cons a as ih =>
    rw [insertMany, List.foldl_cons, ← insertMany, ih, mem_insert, List.mem_cons]
    constructor
    · rintro (h | h | h)
      · exact .inl (.inr h)
      · exact .inl (.inl h)
      · exact .inr h
    · rintro ((h | h) | h)
      · exact .inr (.inl h)
      · exact .inl h
      · exact .inr (.inr h)

@[simp] theorem mem_ofList {as : List α} {b : α} : b ∈ ofList as ↔ b ∈ as := by
  simp [ofList]

@[simp] theorem mem_filter {s : SortedSet α} {p : α → Bool} {a : α} :
    a ∈ s.filter p ↔ a ∈ s ∧ p a := by
  simp only [mem_iff, filter, SortedMap.get?_filter]
  cases h : s.table.get? a <;> simp [Option.filter]

@[simp] theorem mem_toList {s : SortedSet α} {a : α} : a ∈ s.toList ↔ a ∈ s :=
  SortedMap.mem_keys_iff

theorem size_pos_iff {s : SortedSet α} : 0 < s.size ↔ ∃ a, a ∈ s := by
  rw [← length_toList, List.length_pos_iff_exists_mem]
  simp only [mem_toList]

theorem isEmpty_eq_false_iff {s : SortedSet α} : s.isEmpty = false ↔ ∃ a, a ∈ s := by
  rw [← size_pos_iff, isEmpty, SortedMap.isEmpty, List.isEmpty_eq_false_iff, size, SortedMap.size,
    List.length_pos_iff]

/-- Sets with the same members are equal. -/
theorem ext {s t : SortedSet α} (h : ∀ a, a ∈ s ↔ a ∈ t) : s = t := by
  obtain ⟨m⟩ := s
  obtain ⟨n⟩ := t
  congr 1
  refine SortedMap.ext fun a => ?_
  have ha := h a
  simp only [mem_iff] at ha
  cases hm : m.get? a <;> cases hn : n.get? a <;> simp_all

theorem insert_of_mem {s : SortedSet α} {a : α} (h : a ∈ s) : s.insert a = s := by
  apply ext
  intro b
  rw [mem_insert, or_iff_right_iff_imp]
  rintro rfl
  exact h

theorem insert_comm (s : SortedSet α) (a b : α) : (s.insert a).insert b = (s.insert b).insert a := by
  apply ext
  intro c
  simp only [mem_insert, or_left_comm]

/-- A set is the set of its members. -/
@[simp] theorem ofList_toList (s : SortedSet α) : ofList s.toList = s :=
  ext fun a => by rw [mem_ofList, mem_toList]

end

theorem isEmpty_iff {s : SortedSet α} : s.isEmpty ↔ s = empty := by
  obtain ⟨m⟩ := s
  simp [isEmpty, SortedMap.isEmpty_iff, empty]

end SortedSet

end DexTrail
