-- SUMMARY: The pieces of a text between its slashes: putting them together, parting them, and texts that start another.
import DexTrail.Disk.Path
import Mathlib.Data.List.Infix

/-!
# Pieces of texts

Slashes divide a text into pieces, and the pieces put together again are the text. So what is said
of a text can be said of its pieces: a slash between two texts parts their pieces, and a text
starts another one when all its pieces but the last are the first ones of the other, and the last
one starts the next (`prefix_iff_splitAtSlashes`).
-/

namespace DexTrail

variable {cs ds name more : List Char} {before after : List (List Char)}

/-! ## Putting together -/

@[simp] theorem joinPieces_splitAtSlashes (cs : List Char) : joinPieces (splitAtSlashes cs) = cs :=
  List.intercalate_splitOn '/'

/-- A slash joins two parts of the pieces. -/
theorem joinPieces_append (hbefore : before ≠ []) (hafter : after ≠ []) :
    joinPieces (before ++ after) = joinPieces before ++ '/' :: joinPieces after := by
  induction before with
  | nil => exact absurd rfl hbefore
  | cons piece before ih =>
    cases before with
    | nil => simp [joinPieces, List.intercalate_cons_of_ne_nil hafter]
    | cons next before =>
      have hrest := ih (List.cons_ne_nil next before)
      simp only [joinPieces, List.cons_append, List.intercalate_cons_cons] at hrest ⊢
      simp only [hrest, List.append_assoc]

/-- What is added to the last piece is added to the text. -/
theorem joinPieces_concat_append (before : List (List Char)) (name more : List Char) :
    joinPieces (before ++ [name ++ more]) = joinPieces (before ++ [name]) ++ more := by
  cases before with
  | nil => simp [joinPieces]
  | cons piece before =>
    rw [joinPieces_append (List.cons_ne_nil _ _) (List.cons_ne_nil _ _),
      joinPieces_append (List.cons_ne_nil _ _) (List.cons_ne_nil _ _)]
    simp [joinPieces]

/-! ## Parting -/

theorem splitAtSlashes_ne_nil (cs : List Char) : splitAtSlashes cs ≠ [] := List.splitOn_ne_nil '/' cs

/-- A slash between two texts parts their pieces. -/
theorem splitAtSlashes_slash (cs ds : List Char) :
    splitAtSlashes (cs ++ '/' :: ds) = splitAtSlashes cs ++ splitAtSlashes ds :=
  List.splitOn_append_cons_self cs ds

/-- A suffix without slashes goes to the last piece. -/
theorem splitAtSlashes_append {suffix : List Char} (hslash : '/' ∉ suffix) (cs : List Char) :
    ∃ init last, splitAtSlashes cs = init ++ [last] ∧
      splitAtSlashes (cs ++ suffix) = init ++ [last ++ suffix] := by
  unfold splitAtSlashes
  induction cs with
  | nil => exact ⟨[], [], List.splitOn_nil _, List.splitOn_eq_singleton hslash⟩
  | cons c cs ih =>
    obtain ⟨init, last, hcs, hsuffixed⟩ := ih
    rw [List.cons_append, List.splitOn_cons_eq_if_modifyHead, List.splitOn_cons_eq_if_modifyHead,
      hcs, hsuffixed]
    split
    · exact ⟨[] :: init, last, rfl, rfl⟩
    · cases init with
      | nil => exact ⟨[], c :: last, rfl, rfl⟩
      | cons piece init => exact ⟨(c :: piece) :: init, last, rfl, rfl⟩

theorem slash_notMem_piece {piece cs : List Char} (h : piece ∈ splitAtSlashes cs) :
    '/' ∉ piece := by
  induction cs generalizing piece with
  | nil =>
    rw [splitAtSlashes, List.splitOn_nil, List.mem_singleton] at h
    rw [h]
    exact List.not_mem_nil
  | cons c cs ih =>
    rw [splitAtSlashes, List.splitOn_cons_eq_if_modifyHead] at h
    split at h
    · rcases List.mem_cons.1 h with rfl | hrest
      · exact List.not_mem_nil
      · exact ih hrest
    · next hc =>
      obtain ⟨first, rest, hpieces⟩ := List.exists_cons_of_ne_nil (splitAtSlashes_ne_nil cs)
      rw [← splitAtSlashes, hpieces, List.modifyHead_cons] at h
      rcases List.mem_cons.1 h with rfl | hrest
      · refine List.not_mem_cons_of_ne_of_not_mem (Ne.symm (mt beq_iff_eq.2 hc)) ?_
        exact ih (hpieces ▸ List.mem_cons_self)
      · exact ih (hpieces ▸ List.mem_cons_of_mem first hrest)

/-! ## Texts that start another -/

/-- A text starts another one when its pieces do, the last of them as the start of one. -/
theorem prefix_iff_splitAtSlashes :
    cs <+: ds ↔ ∃ before name more after, splitAtSlashes cs = before ++ [name] ∧
      splitAtSlashes ds = before ++ (name ++ more) :: after := by
  constructor
  · rintro ⟨rest, rfl⟩
    by_cases hslash : '/' ∈ rest
    · obtain ⟨more, after, rfl, hmore⟩ := List.eq_append_cons_of_mem hslash
      obtain ⟨before, name, hcs, hds⟩ := splitAtSlashes_append hmore cs
      refine ⟨before, name, more, splitAtSlashes after, hcs, ?_⟩
      rw [← List.append_assoc, splitAtSlashes_slash, hds, List.append_assoc]
      rfl
    · obtain ⟨before, name, hcs, hds⟩ := splitAtSlashes_append hslash cs
      exact ⟨before, name, rest, [], hcs, hds⟩
  · rintro ⟨before, name, more, after, hcs, hds⟩
    have hstart : cs <+: joinPieces (before ++ [name ++ more]) := by
      rw [joinPieces_concat_append, ← hcs, joinPieces_splitAtSlashes]
      exact List.prefix_append _ _
    rw [← joinPieces_splitAtSlashes ds, hds, List.append_cons]
    cases after with
    | nil => rwa [List.append_nil]
    | cons piece after =>
      rw [joinPieces_append (by simp) (List.cons_ne_nil _ _)]
      exact hstart.trans (List.prefix_append _ _)

theorem length_splitAtSlashes_le (h : cs <+: ds) :
    (splitAtSlashes cs).length ≤ (splitAtSlashes ds).length := by
  obtain ⟨before, name, more, after, hcs, hds⟩ := prefix_iff_splitAtSlashes.1 h
  rw [hcs, hds, List.length_append, List.length_append, List.length_singleton, List.length_cons]
  omega

/-! ## The last piece -/

theorem ne_nil_of_name (hcs : splitAtSlashes cs = before ++ [name]) (hname : name ≠ []) :
    cs ≠ [] := by
  rintro rfl
  have hlast := congrArg List.getLast? hcs
  rw [List.getLast?_concat] at hlast
  exact hname (Option.some.inj hlast).symm

/-- A text ends in a slash when its last piece is empty. -/
theorem getLast?_eq_slash_iff (hcs : splitAtSlashes cs = before ++ [name]) (hne : cs ≠ []) :
    cs.getLast? = some '/' ↔ name = [] := by
  constructor
  · intro hlast
    obtain ⟨init, rfl⟩ := List.getLast?_eq_some_iff.1 hlast
    rw [splitAtSlashes_slash] at hcs
    exact (List.append_singleton_inj.1 hcs).2.symm
  · rintro rfl
    rw [← joinPieces_splitAtSlashes cs, hcs] at hne ⊢
    cases before with
    | nil => exact absurd rfl hne
    | cons piece before =>
      rw [joinPieces_append (List.cons_ne_nil _ _) (List.cons_ne_nil _ _)]
      exact List.getLast?_concat

end DexTrail
