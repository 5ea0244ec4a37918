-- SUMMARY: Typed readers take back what the encoders of their types wrote.
import DexTrail.Json.Decode
import DexTrail.Proofs.Json.Lexing

/-!
# Decoding written values

Every typed reader is the inverse of the writer beside it: numbers, texts, lists,
objects by key and structures by field. A structure is written as an object with
its fields in the order in which the reader asks for them.
-/

namespace DexTrail.Json.Decode

open Std

variable {α β : Type}

/-- Reading item by item succeeds when every item can be read. -/
theorem mapM_eq_some {f : α → Option β} {g : α → β} {items : List α}
    (h : ∀ a ∈ items, f a = some (g a)) : items.mapM f = some (items.map g) := by
  induction items with
  | nil => rfl
  | cons a items ih =>
    obtain ⟨ha, hitems⟩ := List.forall_mem_cons.1 h
    rw [List.mapM_cons, ha, ih hitems]
    rfl

/-! ## Scalars -/

@[simp] theorem bool_bool (b : Bool) : bool (.bool b) = some b := rfl

@[simp] theorem text_ofString (s : String) : text (.ofString s) = some s := Literal.text?_encode s

@[simp] theorem int_ofInt (n : Int) : int (.ofInt n) = some n := Decimal.read?_write n

@[simp] theorem int32_ofInt (n : Int32) : int32 (.ofInt n.toInt) = some n := by
  rw [int32, int_ofInt, Option.bind_some, Decimal.toInt32?_toInt]

@[simp] theorem uint32_ofInt (n : UInt32) : uint32 (.ofInt n.toNat) = some n := by
  have hlt : (n.toNat : Int) < UInt32.size := Int.ofNat_lt.2 n.toNat_lt
  rw [uint32, int_ofInt, Option.bind_some, Decimal.toUInt32?, if_pos ⟨Int.natCast_nonneg _, hlt⟩,
    Int.toNat_natCast, UInt32.ofNat_toNat]

/-! ## Containers -/

@[simp] theorem list_ofStrings (ss : List String) : list text (.ofStrings ss) = some ss := by
  rw [Value.ofStrings, list, List.mapM_map, mapM_eq_some, List.map_id]
  exact fun s _ => text_ofString s

/-- A map that is written with text keys is read back when its items are. -/
theorem map_ofMembers {item : Value → Option β} {encode : β → Value}
    (h : ∀ b, item (encode b) = some b) (m : SortedMap String β) :
    map Literal.text? item (.ofMembers (m.toList.map fun (key, b) => (key, encode b))) =
      some m := by
  rw [Value.ofMembers, map, List.map_map, List.mapM_map, mapM_eq_some, List.map_id,
    Option.map_some, SortedMap.ofList_toList]
  intro e _
  simp [h]

/-! ## Structures -/

/-- The values of one name among members whose names differ. -/
theorem filter_name_eq {members : List (String × Value)} (hn : (members.map Prod.fst).Nodup)
    {m : String × Value} (hm : m ∈ members) : members.filter (·.1 == m.1) = [m] := by
  induction members with
  | nil => cases hm
  | cons e members ih =>
    rw [List.map_cons, List.nodup_cons] at hn
    rcases List.mem_cons.1 hm with rfl | hm
    · rw [List.filter_cons_of_pos (by simp)]
      refine congrArg _ (List.filter_eq_nil_iff.2 fun d hd hdm => hn.1 ?_)
      rw [← eq_of_beq hdm]
      exact List.mem_map_of_mem hd
    · have hne : e.1 ≠ m.1 := fun he => hn.1 (he ▸ List.mem_map_of_mem hm)
      rw [List.filter_cons_of_neg (by simpa using hne), ih hn.2 hm]

/-- The fields of a structure are found where they were written. -/
theorem fields_ofMembers (members : List (String × Value)) (hn : (members.map Prod.fst).Nodup) :
    fields (members.map Prod.fst) (.ofMembers members) =
      some (members.map fun m => some m.2) := by
  -- the names are read first, and then the members of each name are looked up
  rw [Value.ofMembers, fields, List.mapM_map, mapM_eq_some (g := id), List.map_id]
  · simp only [Option.bind_eq_bind, Option.bind_some]
    rw [List.mapM_map, mapM_eq_some]
    intro m hm
    rw [Function.comp_apply, filter_name_eq hn hm]
  · intro m _
    simp

end DexTrail.Json.Decode
