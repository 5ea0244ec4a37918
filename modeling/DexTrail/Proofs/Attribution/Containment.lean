-- SUMMARY: Containment of paths by their components, and what follows from that.
import DexTrail.Proofs.Attribution.Nesting
import DexTrail.Proofs.Disk.Pieces

/-!
# Containment by components

The components of a text are its pieces between slashes, the empty ones among them. A directory
holds a path when its components, without those of the slashes at its end, are the first ones of
the path (`isUnder_iff_components`). So directories that hold the same path hold one another.
-/

namespace DexTrail

variable {cs ds : List Char}

/-! ## Texts and their components -/

/-- The components of a text are the first ones of another text when the other text is the same
or goes on with a slash. -/
theorem splitAtSlashes_prefix_iff :
    splitAtSlashes cs <+: splitAtSlashes ds ↔ ∃ rest, ds = cs ++ rest ∧ EndsName rest := by
  constructor
  · rintro ⟨after, hafter⟩
    have hds : ds = joinPieces (splitAtSlashes cs ++ after) := by
      rw [hafter, joinPieces_splitAtSlashes]
    cases after with
    | nil =>
      refine ⟨[], ?_, .inl rfl⟩
      rw [hds, List.append_nil, joinPieces_splitAtSlashes, List.append_nil]
    | cons piece after =>
      refine ⟨'/' :: joinPieces (piece :: after), ?_, .inr rfl⟩
      rw [hds, joinPieces_append (splitAtSlashes_ne_nil cs) (List.cons_ne_nil _ _),
        joinPieces_splitAtSlashes]
  · rintro ⟨rest, rfl, hrest⟩
    cases rest with
    | nil => exact ⟨[], by rw [List.append_nil, List.append_nil]⟩
    | cons c rest =>
      obtain hc | hc := hrest
      · cases hc
      · obtain rfl : c = '/' := Option.some.inj hc
        rw [splitAtSlashes_slash]
        exact List.prefix_append _ _

/-! ## Directories -/

/-- A directory holds a path when its components are the first ones of the path. -/
theorem isUnder_iff_components {dir path : String} :
    isUnder dir path ↔
      dropSlashesAtEnd dir.toList ≠ [] ∧
        splitAtSlashes (dropSlashesAtEnd dir.toList) <+: splitAtSlashes path.toList := by
  rw [isUnder_iff, splitAtSlashes_prefix_iff]

theorem prefix_splitAtSlashes_dropSlashesAtEnd (cs : List Char) :
    splitAtSlashes (dropSlashesAtEnd cs) <+: splitAtSlashes cs :=
  splitAtSlashes_prefix_iff.2 (exists_dropSlashesAtEnd_append cs)

/-- Slashes at the end of a directory make no difference. -/
theorem isUnder_append_slashes (dir path : String) (n : Nat) :
    isUnder (dir ++ String.ofList (List.replicate n '/')) path = isUnder dir path := by
  have htrim : dropSlashesAtEnd (dir.toList ++ List.replicate n '/') =
      dropSlashesAtEnd dir.toList := by
    rw [dropSlashesAtEnd, List.reverse_append, List.reverse_replicate,
      List.dropWhile_append_of_pos]
    · rfl
    · intro c hc
      rw [List.eq_of_mem_replicate hc]
      rfl
  rw [isUnder, String.toList_append, String.toList_ofList, htrim]
  rfl

/-- Of two directories that hold the same path one holds the other. -/
theorem isUnder_or_isUnder {dir other path : String} (h : isUnder dir path)
    (hother : isUnder other path) : isUnder dir other ∨ isUnder other dir := by
  simp only [isUnder_iff_components] at *
  obtain ⟨hdir, hprefix⟩ := h
  obtain ⟨hother, hprefix'⟩ := hother
  obtain hin | hin := List.prefix_or_prefix_of_prefix hprefix hprefix'
  · exact .inl ⟨hdir, hin.trans (prefix_splitAtSlashes_dropSlashesAtEnd _)⟩
  · exact .inr ⟨hother, hin.trans (prefix_splitAtSlashes_dropSlashesAtEnd _)⟩

/-- A directory holds a path exactly when it is more than slashes and its components, without
those of the slashes at its end, are the first ones of the path. So it holds itself unless it is
only slashes, it holds what the directories in it hold, slashes at its end make no difference, and
of two directories that hold the same path one holds the other. -/
theorem isUnder_componentwise (dir path : String) :
    (isUnder dir path ↔
      dropSlashesAtEnd dir.toList ≠ [] ∧
        splitAtSlashes (dropSlashesAtEnd dir.toList) <+: splitAtSlashes path.toList) ∧
    (isUnder dir dir ↔ dropSlashesAtEnd dir.toList ≠ []) ∧
    (∀ inner, isUnder dir inner → isUnder inner path → isUnder dir path) ∧
    (∀ n, isUnder (dir ++ String.ofList (List.replicate n '/')) path = isUnder dir path) ∧
    ∀ other, isUnder dir path → isUnder other path → isUnder dir other ∨ isUnder other dir := by
  refine ⟨isUnder_iff_components, isUnder_self_iff, ?_, isUnder_append_slashes dir path, ?_⟩
  · intro inner hinner hpath
    exact isUnder_trans hinner hpath
  · intro other h hother
    exact isUnder_or_isUnder h hother

end DexTrail
