-- SUMMARY: Finite maps kept in ascending key order, with at most one entry for a key.

/-!
# Sorted maps

A map is its list of entries in strictly ascending key order. The order is the
one every listing and document of the tracker uses, and it makes equality of
maps the same as equality of what they hold: `SortedMap.ext`.

Reasoning goes through the view `SortedMap.get?`. Each operation has one lemma
that says what it does to that view.
-/

namespace DexTrail

open Std

/-- Entries in strictly ascending key order. -/
structure SortedMap (α β : Type) [Ord α] where
  entries : List (α × β)
  ascending : entries.Pairwise fun a b => compare a.1 b.1 = .lt
  deriving DecidableEq

namespace SortedMap

variable {α β γ : Type} [Ord α]

/-! ## Entry lists -/

/-- The value of the first entry with key `k`. -/
def lookupIn (k : α) : List (α × β) → Option β
  | [] => none
  | e :: es => if compare k e.1 = .eq then some e.2 else lookupIn k es

/-- Put an entry at its place in an ascending list; an entry with the same key
gives way. -/
def insertIn (k : α) (v : β) : List (α × β) → List (α × β)
  | [] => [(k, v)]
  | e :: es =>
    match compare k e.1 with
    | .lt => (k, v) :: e :: es
    | .eq => (k, v) :: es
    | .gt => e :: insertIn k v es

theorem mem_insertIn {k : α} {v : β} {e : α × β} {es : List (α × β)}
    (h : e ∈ insertIn k v es) : e = (k, v) ∨ e ∈ es := by
  induction es with
  | nil => simpa [insertIn] using h
  | cons d es ih =>
    rw [insertIn] at h
    split at h
    · simpa using h
    · rcases List.mem_cons.1 h with h | h
      · exact .inl h
      · exact .inr (List.mem_cons_of_mem _ h)
    · rcases List.mem_cons.1 h with h | h
      · exact .inr (h ▸ List.mem_cons_self)
      · exact (ih h).imp_right (List.mem_cons_of_mem _)

theorem ascending_insertIn [TransOrd α] [LawfulEqOrd α] {k : α} {v : β} {es : List (α × β)}
    (h : es.Pairwise fun a b => compare a.1 b.1 = .lt) :
    (insertIn k v es).Pairwise fun a b => compare a.1 b.1 = .lt := by
  induction es with
  | nil => simp [insertIn]
  | cons d es ih =>
    obtain ⟨hd, hes⟩ := List.pairwise_cons.1 h
    rw [insertIn]
    split
    · next hlt =>
      refine List.pairwise_cons.2 ⟨fun e he => ?_, h⟩
      rcases List.mem_cons.1 he with rfl | he
      · exact hlt
      · exact TransCmp.lt_trans hlt (hd e he)
    · next heq =>
      have hk : k = d.1 := LawfulEqOrd.eq_of_compare heq
      exact List.pairwise_cons.2 ⟨fun e he => hk ▸ hd e he, hes⟩
    · next hgt =>
      refine List.pairwise_cons.2 ⟨fun e he => ?_, ih hes⟩
      rcases mem_insertIn he with rfl | he
      · exact OrientedCmp.lt_of_gt hgt
      · exact hd e he

theorem lookupIn_insertIn [TransOrd α] [LawfulEqOrd α] (k k' : α) (v : β)
    {es : List (α × β)} (h : es.Pairwise fun a b => compare a.1 b.1 = .lt) :
    lookupIn k' (insertIn k v es) = if compare k' k = .eq then some v else lookupIn k' es := by
  induction es with
  | nil => simp [insertIn, lookupIn]
  | cons d es ih =>
    obtain ⟨hd, hes⟩ := List.pairwise_cons.1 h
    rw [insertIn]
    split
    · simp [lookupIn]
    · next heq =>
      have hk : k = d.1 := LawfulEqOrd.eq_of_compare heq
      subst hk
      by_cases hc : compare k' d.1 = .eq <;> simp [lookupIn, hc]
    · next hgt =>
      rw [lookupIn, lookupIn, ih hes]
      by_cases hc : compare k' k = .eq
      · have hk : k' = k := LawfulEqOrd.eq_of_compare hc
        subst hk
        simp [hgt]
      · simp [hc]

theorem lookupIn_filterMap [TransOrd α] (k : α) (f : α → β → Option γ) [LawfulEqOrd α]
    {es : List (α × β)} (h : es.Pairwise fun a b => compare a.1 b.1 = .lt) :
    lookupIn k (es.filterMap fun e => (f e.1 e.2).map (e.1, ·)) = (lookupIn k es).bind (f k) := by
  induction es with
  | nil => rfl
  | cons d es ih =>
    obtain ⟨hd, hes⟩ := List.pairwise_cons.1 h
    by_cases hc : compare k d.1 = .eq
    · have hk : k = d.1 := LawfulEqOrd.eq_of_compare hc
      subst hk
      have hno : lookupIn d.1 es = none := by
        clear ih
        induction es with
        | nil => rfl
        | cons a es iha =>
          have hlt := hd a List.mem_cons_self
          rw [lookupIn, if_neg (by simp [hlt])]
          exact iha (List.pairwise_cons.2
              ⟨fun e he => hd e (List.mem_cons_of_mem _ he), (List.pairwise_cons.1 hes).2⟩)
            (fun e he => hd e (List.mem_cons_of_mem _ he)) (List.pairwise_cons.1 hes).2
      rw [List.filterMap_cons]
      cases hf : f d.1 d.2 with
      | none => simp [lookupIn, hf, ih hes, hno]
      | some w => simp [lookupIn, hf]
    · rw [List.filterMap_cons]
      cases hf : f d.1 d.2 with
      | none => simp [lookupIn, hc, ih hes]
      | some w => simp [lookupIn, hc, ih hes]

theorem lookupIn_of_mem [TransOrd α] [LawfulEqOrd α] {e : α × β} {es : List (α × β)}
    (h : es.Pairwise fun a b => compare a.1 b.1 = .lt) (he : e ∈ es) :
    lookupIn e.1 es = some e.2 := by
  induction es with
  | nil => simp at he
  | cons d es ih =>
    obtain ⟨hd, hes⟩ := List.pairwise_cons.1 h
    rcases List.mem_cons.1 he with rfl | he
    · simp [lookupIn]
    · have hlt := hd e he
      rw [lookupIn, if_neg, ih hes he]
      rw [OrientedCmp.gt_of_lt hlt]
      simp

theorem mem_of_lookupIn [LawfulEqOrd α] {k : α} {v : β} {es : List (α × β)}
    (h : lookupIn k es = some v) : (k, v) ∈ es := by
  induction es with
  | nil => simp [lookupIn] at h
  | cons d es ih =>
    rw [lookupIn] at h
    split at h
    · next hc =>
      have hk : k = d.1 := LawfulEqOrd.eq_of_compare hc
      obtain ⟨a, b⟩ := d
      simp_all
    · exact List.mem_cons_of_mem _ (ih h)

/-! ## Operations -/

/-- The map without entries. -/
def empty : SortedMap α β := ⟨[], .nil⟩

instance : Inhabited (SortedMap α β) := ⟨empty⟩

/-- The value at `k`, if there is one. -/
def get? (m : SortedMap α β) (k : α) : Option β := lookupIn k m.entries

def contains (m : SortedMap α β) (k : α) : Bool := (m.get? k).isSome

/-- The entries in key order. -/
def toList (m : SortedMap α β) : List (α × β) := m.entries

def keys (m : SortedMap α β) : List α := m.entries.map (·.1)

def values (m : SortedMap α β) : List β := m.entries.map (·.2)

def size (m : SortedMap α β) : Nat := m.entries.length

def isEmpty (m : SortedMap α β) : Bool := m.entries.isEmpty

/-- Keep or change entries: `f` says what becomes of each. -/
def filterMap (f : α → β → Option γ) (m : SortedMap α β) : SortedMap α γ :=
  ⟨m.entries.filterMap fun e => (f e.1 e.2).map (e.1, ·), by
    refine List.Pairwise.filterMap _ ?_ m.ascending
    intro a a' h b hb b' hb'
    simp only [Option.map_eq_some_iff] at hb hb'
    obtain ⟨_, _, rfl⟩ := hb
    obtain ⟨_, _, rfl⟩ := hb'
    exact h⟩

/-- Keep the entries that satisfy `p`. -/
def filter (p : α → β → Bool) (m : SortedMap α β) : SortedMap α β :=
  m.filterMap fun k v => if p k v then some v else none

/-- Remove the entry with key `k`. -/
def erase (m : SortedMap α β) (k : α) : SortedMap α β :=
  m.filter fun k' _ => compare k k' != .eq

/-- Whether some entry satisfies `p`. -/
def any (p : α → β → Bool) (m : SortedMap α β) : Bool := m.entries.any fun e => p e.1 e.2

section

variable [TransOrd α] [LawfulEqOrd α]

/-- Set the value at `k`. -/
def insert (m : SortedMap α β) (k : α) (v : β) : SortedMap α β :=
  ⟨insertIn k v m.entries, ascending_insertIn m.ascending⟩

/-- Set or remove the value at `k`, seeing what is there now. -/
def alter (m : SortedMap α β) (k : α) (f : Option β → Option β) : SortedMap α β :=
  match f (m.get? k) with
  | some v => m.insert k v
  | none => m.erase k

/-- Insert entries from left to right: of entries with one key the last stays. -/
def insertMany (m : SortedMap α β) (es : List (α × β)) : SortedMap α β :=
  es.foldl (fun m e => m.insert e.1 e.2) m

/-- The map of a list of entries; of entries with one key the last stays. -/
def ofList (es : List (α × β)) : SortedMap α β := empty.insertMany es

end

/-! ## What each operation does to the view -/

@[simp] theorem get?_empty (k : α) : (empty : SortedMap α β).get? k = none := rfl

@[simp] theorem toList_empty : (empty : SortedMap α β).toList = [] := rfl

theorem nodup_keys [LawfulEqOrd α] (m : SortedMap α β) : m.keys.Nodup := by
  refine m.ascending.map _ ?_
  rintro a b h he
  rw [he] at h
  simp at h

section

variable [TransOrd α] [LawfulEqOrd α]

theorem get?_insert (m : SortedMap α β) (k k' : α) (v : β) :
    (m.insert k v).get? k' = if compare k' k = .eq then some v else m.get? k' :=
  lookupIn_insertIn k k' v m.ascending

@[simp] theorem get?_insert_self (m : SortedMap α β) (k : α) (v : β) :
    (m.insert k v).get? k = some v := by
  simp [get?_insert]

@[simp] theorem get?_filterMap (m : SortedMap α β) (f : α → β → Option γ) (k : α) :
    (m.filterMap f).get? k = (m.get? k).bind (f k) :=
  lookupIn_filterMap k f m.ascending

theorem get?_filter (m : SortedMap α β) (p : α → β → Bool) (k : α) :
    (m.filter p).get? k = (m.get? k).filter (p k) := by
  rw [filter, get?_filterMap]
  cases m.get? k <;> simp [Option.filter]

theorem get?_erase (m : SortedMap α β) (k k' : α) :
    (m.erase k).get? k' = if compare k' k = .eq then none else m.get? k' := by
  rw [erase, get?_filter]
  by_cases hc : compare k' k = .eq
  · have hk : k' = k := LawfulEqOrd.eq_of_compare hc
    subst hk
    cases m.get? k' <;> simp [Option.filter]
  · have hc' : compare k k' ≠ .eq := fun h => hc (OrientedCmp.eq_symm h)
    cases m.get? k' <;> simp [Option.filter, hc, hc']

theorem get?_alter (m : SortedMap α β) (k k' : α) (f : Option β → Option β) :
    (m.alter k f).get? k' = if compare k' k = .eq then f (m.get? k) else m.get? k' := by
  rw [alter]
  cases hf : f (m.get? k) with
  | none => exact get?_erase m k k'
  | some v => exact get?_insert m k k' v

theorem mem_toList_iff {m : SortedMap α β} {k : α} {v : β} :
    (k, v) ∈ m.toList ↔ m.get? k = some v :=
  ⟨fun h => lookupIn_of_mem m.ascending h, mem_of_lookupIn⟩

theorem any_iff {m : SortedMap α β} {p : α → β → Bool} :
    m.any p ↔ ∃ k v, m.get? k = some v ∧ p k v := by
  simp only [any, List.any_eq_true, ← mem_toList_iff, toList, Prod.exists]

theorem mem_keys_iff {m : SortedMap α β} {k : α} : k ∈ m.keys ↔ (m.get? k).isSome := by
  simp only [keys, List.mem_map, Option.isSome_iff_exists]
  constructor
  · rintro ⟨⟨a, b⟩, h, rfl⟩
    exact ⟨b, mem_toList_iff.1 h⟩
  · rintro ⟨v, h⟩
    exact ⟨(k, v), mem_toList_iff.2 h, rfl⟩

private theorem entries_eq_of_lookupIn {es fs : List (α × β)}
    (hes : es.Pairwise fun a b => compare a.1 b.1 = .lt)
    (hfs : fs.Pairwise fun a b => compare a.1 b.1 = .lt)
    (h : ∀ k, lookupIn k es = lookupIn k fs) : es = fs := by
  induction es generalizing fs with
  | nil =>
    cases fs with
    | nil => rfl
    | cons f fs => simpa [lookupIn] using h f.1
  | cons e es ih =>
    cases fs with
    | nil => simpa [lookupIn] using h e.1
    | cons f fs =>
      obtain ⟨he, hes'⟩ := List.pairwise_cons.1 hes
      obtain ⟨hf, hfs'⟩ := List.pairwise_cons.1 hfs
      have hef : f = e := by
        have h₁ := h e.1
        have h₂ := h f.1
        rw [lookupIn_of_mem hes List.mem_cons_self] at h₁
        rw [lookupIn_of_mem hfs List.mem_cons_self] at h₂
        rcases List.mem_cons.1 (mem_of_lookupIn h₁.symm) with h₁ | h₁
        · exact h₁.symm
        · rcases List.mem_cons.1 (mem_of_lookupIn h₂) with h₂ | h₂
          · exact h₂
          · have hlt := hf _ h₁
            have hgt := he _ h₂
            simp only at hlt hgt
            rw [OrientedCmp.gt_of_lt hlt] at hgt
            simp at hgt
      subst hef
      congr 1
      refine ih hes' hfs' fun k => ?_
      by_cases hc : compare k f.1 = .eq
      · have hk : k = f.1 := LawfulEqOrd.eq_of_compare hc
        subst hk
        have none_of {gs : List (α × β)} (hg : ∀ a ∈ gs, compare f.1 a.1 = .lt) :
            lookupIn f.1 gs = none := by
          cases hl : lookupIn f.1 gs with
          | none => rfl
          | some v =>
            have := hg _ (mem_of_lookupIn hl)
            simp at this
        rw [none_of he, none_of hf]
      · simpa [lookupIn, hc] using h k

/-- Maps that hold the same values are equal. -/
theorem ext {m n : SortedMap α β} (h : ∀ k, m.get? k = n.get? k) : m = n := by
  obtain ⟨es, hes⟩ := m
  obtain ⟨fs, hfs⟩ := n
  have : es = fs := entries_eq_of_lookupIn hes hfs h
  subst this
  rfl

/-- Entries with different keys are all there after they are inserted. -/
theorem get?_insertMany {es : List (α × β)} (h : es.Pairwise fun a b => compare a.1 b.1 = .lt)
    (m : SortedMap α β) (k : α) : (m.insertMany es).get? k = (lookupIn k es).or (m.get? k) := by
  induction es generalizing m with
  | nil => simp [insertMany, lookupIn]
  | cons e es ih =>
    obtain ⟨he, hes⟩ := List.pairwise_cons.1 h
    rw [insertMany, List.foldl_cons, ← insertMany, ih hes, get?_insert, lookupIn]
    split
    · next hc =>
      have hk : k = e.1 := LawfulEqOrd.eq_of_compare hc
      cases hl : lookupIn k es with
      | none => rfl
      | some v =>
        have := he _ (mem_of_lookupIn hl)
        simp [hk] at this
    · rfl

/-- A map is the map of its entries. -/
@[simp] theorem ofList_toList (m : SortedMap α β) : ofList m.toList = m :=
  ext fun k => by rw [ofList, toList, get?_insertMany m.ascending, get?_empty, Option.or_none, get?]

end

theorem isEmpty_iff {m : SortedMap α β} : m.isEmpty ↔ m = empty := by
  obtain ⟨es, h⟩ := m
  cases es <;> simp [isEmpty, empty]

theorem toList_filter (m : SortedMap α β) (p : α → β → Bool) :
    (m.filter p).toList = m.toList.filter fun e => p e.1 e.2 := by
  change m.entries.filterMap _ = m.entries.filter _
  induction m.entries with
  | nil => rfl
  | cons e es ih =>
    rw [List.filterMap_cons, List.filter_cons, ih]
    by_cases hp : p e.1 e.2 <;> simp [hp]

/-- Text keys ascend in the order of texts. -/
theorem ascending_toList (m : SortedMap String β) : m.toList.Pairwise fun a b => a.1 < b.1 :=
  m.ascending.imp compareOfLessAndEq_eq_lt.1

/-- A filter that keeps the size keeps everything. -/
theorem filter_eq_self_of_size {m : SortedMap α β} {p : α → β → Bool}
    (h : (m.filter p).size = m.size) : m.filter p = m := by
  have hlist : (m.filter p).toList = m.toList := by
    rw [toList_filter]
    refine List.filter_eq_self.2 (List.length_filter_eq_length_iff.1 ?_)
    rw [← toList_filter]
    exact h
  obtain ⟨es, hes⟩ := m
  exact (SortedMap.mk.injEq ..).mpr hlist

section

variable [TransOrd α] [LawfulEqOrd α]

@[simp] theorem isEmpty_insert (m : SortedMap α β) (k : α) (v : β) :
    (m.insert k v).isEmpty = false := by
  refine Bool.eq_false_iff.2 fun h => ?_
  have hv : (m.insert k v).get? k = some v := get?_insert_self m k v
  rw [isEmpty_iff.1 h] at hv
  cases hv

/-- A filter keeps the size exactly when every entry satisfies it. -/
theorem size_filter_eq_iff {m : SortedMap α β} {p : α → β → Bool} :
    (m.filter p).size = m.size ↔ ∀ k v, m.get? k = some v → p k v := by
  constructor
  · intro h k v hv
    have hk := get?_filter m p k
    rw [filter_eq_self_of_size h, hv] at hk
    exact (Option.filter_eq_some_iff.1 hk.symm).2
  · intro h
    refine congrArg size (ext fun k => ?_)
    rw [get?_filter]
    cases hv : m.get? k with
    | none => rfl
    | some v => simp [Option.filter, h k v hv]

/-- Setting a value that is there already changes nothing. -/
theorem insert_get? {m : SortedMap α β} {k : α} {v : β}
    (h : m.get? k = some v) : m.insert k v = m := by
  refine ext fun k' => ?_
  rw [get?_insert]
  split
  · next hc => rw [LawfulEqOrd.eq_of_compare hc, h]
  · rfl

end

end SortedMap

end DexTrail
