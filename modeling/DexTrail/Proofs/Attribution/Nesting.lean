-- SUMMARY: Containment of paths as a relation: what lies under a directory, and directories inside directories.
import DexTrail.Attribution.Containment
import Mathlib.Data.List.DropRight

/-!
# Nested directories

A path lies under a directory when it is the directory's text without the slashes at its
end, and then nothing or a slash and more. The relation is transitive, although the text
of the directory in the middle may end in slashes that the path does not have.
-/

namespace DexTrail

/-! ## What may follow a directory's text -/

/-- Nothing follows, or a slash and more. -/
def EndsName (rest : List Char) : Prop := rest = [] ∨ rest.head? = some '/'

theorem EndsName.append {s t : List Char} (hs : EndsName s) (ht : EndsName t) :
    EndsName (s ++ t) := by
  cases s with
  | nil => exact ht
  | cons c s =>
    obtain hc | hc := hs
    · cases hc
    · exact .inr hc

/-- A start of what may follow may follow too. -/
theorem EndsName.of_prefix {s t : List Char} (ht : EndsName t) (h : s <+: t) : EndsName s := by
  cases s with
  | nil => exact .inl rfl
  | cons c s =>
    obtain ⟨u, rfl⟩ := h
    obtain hc | hc := ht
    · cases hc
    · exact .inr hc

/-! ## Slashes at the end -/

/-- What was dropped from the end is slashes, so it may follow the rest. -/
theorem exists_dropSlashesAtEnd_append (cs : List Char) :
    ∃ rest, cs = dropSlashesAtEnd cs ++ rest ∧ EndsName rest := by
  refine ⟨cs.rtakeWhile (· == '/'), List.rdropWhile_append_rtakeWhile.symm, ?_⟩
  cases hs : cs.rtakeWhile (· == '/') with
  | nil => exact .inl rfl
  | cons c rest =>
    have hc : c ∈ cs.rtakeWhile (· == '/') := by
      rw [hs]
      exact List.mem_cons_self
    obtain rfl : c = '/' := by simpa using List.mem_rtakeWhile_imp hc
    exact .inr rfl

/-- Only slashes of the second text go when the first one ends in none. -/
theorem dropSlashesAtEnd_append {s : List Char} (hs : dropSlashesAtEnd s = s) (t : List Char) :
    dropSlashesAtEnd (s ++ t) = s ++ dropSlashesAtEnd t := by
  simp only [dropSlashesAtEnd, List.reverse_append, List.dropWhile_append]
  split
  · next ht =>
    rw [List.isEmpty_iff.1 ht, List.reverse_nil, List.append_nil]
    exact hs
  · rw [List.reverse_append, List.reverse_reverse]

/-! ## Containment -/

theorem isUnder_iff {dir path : String} :
    isUnder dir path ↔
      dropSlashesAtEnd dir.toList ≠ [] ∧
      ∃ rest, path.toList = dropSlashesAtEnd dir.toList ++ rest ∧ EndsName rest := by
  unfold isUnder
  cases hd : dropSlashesAtEnd dir.toList with
  | nil => simp
  | cons d ds =>
    dsimp only
    cases hp : (d :: ds).isPrefixOf? path.toList with
    | none =>
      refine iff_of_false Bool.false_ne_true ?_
      rintro ⟨-, rest, hpath, -⟩
      rw [List.isPrefixOf?_eq_some_iff_append_eq.2 hpath.symm] at hp
      cases hp
    | some rest =>
      have hpath : (d :: ds) ++ rest = path.toList :=
        List.isPrefixOf?_eq_some_iff_append_eq.1 hp
      simp [← hpath, EndsName]

/-- A directory lies under itself unless its text is only slashes. -/
theorem isUnder_self_iff {dir : String} : isUnder dir dir ↔ dropSlashesAtEnd dir.toList ≠ [] := by
  rw [isUnder_iff]
  exact and_iff_left (exists_dropSlashesAtEnd_append dir.toList)

/-- Only a directory that lies under itself holds anything. -/
theorem isUnder_self_of_isUnder {dir path : String} (h : isUnder dir path) : isUnder dir dir :=
  isUnder_self_iff.2 (isUnder_iff.1 h).1

theorem isUnder_trans {a b c : String} (hab : isUnder a b) (hbc : isUnder b c) : isUnder a c := by
  obtain ⟨ha, rest, hb, hrest⟩ := isUnder_iff.1 hab
  obtain ⟨-, rest', hc, hrest'⟩ := isUnder_iff.1 hbc
  have hidem : dropSlashesAtEnd (dropSlashesAtEnd a.toList) = dropSlashesAtEnd a.toList :=
    List.rdropWhile_idempotent _ _
  -- `b` without its slashes still starts with `a`, since `a` ends in no slash
  have htrim : dropSlashesAtEnd b.toList =
      dropSlashesAtEnd a.toList ++ dropSlashesAtEnd rest := by
    rw [hb, dropSlashesAtEnd_append hidem]
  refine isUnder_iff.2 ⟨ha, dropSlashesAtEnd rest ++ rest', ?_, ?_⟩
  · rw [hc, htrim, List.append_assoc]
  · exact (hrest.of_prefix (List.rdropWhile_prefix _ rest)).append hrest'

end DexTrail
