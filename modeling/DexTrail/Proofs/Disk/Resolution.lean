-- SUMMARY: Where a path leads when its dots are resolved, and when it stays below its base.
import DexTrail.Proofs.Disk.Neighbours

/-!
# Resolving paths

In a tree without links a path that leads anywhere leads to where its pieces say, whatever
stands there (`FileTree.location_eq_resolve`). So where a joined path leads is read off its text
(`Path.resolve_join`), and a relative path whose two dots only take back its own names leads to
the place that it is taken from or below it (`Path.Stays.prefix_resolve_join`).
-/

namespace DexTrail

namespace Path

variable {here place : Location} {names rest : List String} {base path name : String}

/-! ## Resolution -/

/-- Where a path leads from the root when its dots are resolved. -/
def resolve (path : String) : Location := (pieces path).foldl follow []

/-- The place lies somewhere below the other one. -/
def Below (place here : Location) : Prop := place <+: here ∧ place ≠ here

@[simp] theorem follow_empty (here : Location) : follow here "" = here := rfl

/-- Empty pieces at the end lead nowhere else. -/
theorem foldl_follow_rdropWhile (here : Location) (names : List String) :
    (names.rdropWhile (· == "")).foldl follow here = names.foldl follow here := by
  induction names using List.reverseRecOn with
  | nil => rfl
  | append_singleton names piece ih =>
    rw [List.rdropWhile_concat]
    split
    · next hempty =>
      rw [ih, List.foldl_concat, beq_iff_eq.1 hempty, follow_empty]
    · rfl

theorem below_concat_iff : Below place (here ++ [name]) ↔ place <+: here := by
  rw [Below, List.prefix_concat_iff]
  constructor
  · rintro ⟨hsame | hprefix, hne⟩
    · exact absurd hsame hne
    · exact hprefix
  · intro hprefix
    refine ⟨.inr hprefix, ?_⟩
    rintro rfl
    have hlength := hprefix.length_le
    rw [List.length_append, List.length_singleton] at hlength
    omega

/-! ## Names -/

/-- The pieces after the start are pieces of the path. -/
theorem parts_subset (cs : List Char) : (parts cs).2 ⊆ splitAtSlashes cs := by
  unfold parts
  split
  · next body hpieces =>
    split
    · exact List.nil_subset _
    · rw [hpieces]
      exact List.subset_cons_self _ body
  · next body hpieces =>
    rw [hpieces]
    exact List.subset_cons_self _ body
  · exact List.Subset.refl _

theorem slash_notMem_fileName {last : List Char} (h : fileName? path = some last) :
    '/' ∉ last := by
  have hbody : dropTrivialAtEnd (parts path.toList).2 ⊆ (parts path.toList).2 :=
    (List.rdropWhile_prefix _ _).subset
  simp only [fileName?] at h
  split at h
  · next name before hname =>
    split at h
    · cases h
    · cases h
      apply slash_notMem_piece
      apply parts_subset path.toList
      apply hbody
      rw [← List.mem_reverse, hname]
      exact List.mem_cons_self
  · cases h

/-- A stem is the start of a name. -/
theorem slash_notMem_fileStem {stem : List Char} (h : fileStem? path = some stem) :
    '/' ∉ stem := by
  obtain ⟨last, hlast, hstem⟩ := Option.map_eq_some_iff.1 h
  have hslash := slash_notMem_fileName hlast
  split at hstem
  · rwa [← hstem]
  · rwa [← hstem]
  · rw [← hstem]
    intro hmem
    apply hslash
    exact (List.rdropWhile_prefix (· != '.') last).subset (List.dropLast_subset _ hmem)

/-! ## Joined paths -/

/-- A slash between two texts divides their pieces. -/
theorem pieces_of_slash {text before after : String}
    (h : text.toList = before.toList ++ '/' :: after.toList) :
    pieces text = pieces before ++ pieces after := by
  rw [pieces, h, splitAtSlashes_slash, List.map_append]
  rfl

/-- A joined path is followed from where its base leads, unless it is absolute. -/
theorem resolve_join (base path : String) :
    resolve (join base path) =
      if isAbsolute path then resolve path else (pieces path).foldl follow (resolve base) := by
  unfold join
  split
  · rfl
  · split
    · next hslash =>
      rw [Bool.or_eq_true, beq_iff_eq] at hslash
      rcases hslash with hempty | hlast
      · rw [String.isEmpty_iff.1 hempty, String.empty_append]
        rfl
      -- the base ends with a slash, so its last piece is empty
      · obtain ⟨init, hbase⟩ := List.getLast?_eq_some_iff.1 hlast
        have hjoined :
            (base ++ path).toList = (String.ofList init).toList ++ '/' :: path.toList := by
          simp [hbase]
        have hbase' : base.toList = (String.ofList init).toList ++ '/' :: "".toList := by
          simp [hbase]
        rw [resolve, resolve, pieces_of_slash hjoined, pieces_of_slash hbase', List.foldl_append,
          List.foldl_append]
        rfl
    · have hjoined : (base ++ "/" ++ path).toList = base.toList ++ '/' :: path.toList := by
        simp
      rw [resolve, pieces_of_slash hjoined, List.foldl_append]
      rfl

/-- A name that is joined leads to the place below. -/
theorem resolve_join_name (hslash : '/' ∉ name.toList) (hlong : 2 < name.toList.length) :
    resolve (join base name) = resolve base ++ [name] := by
  have hrelative : isAbsolute name = false := by
    rw [isAbsolute, beq_eq_false_iff_ne]
    exact fun hhead => hslash (List.mem_of_head? hhead)
  have hpieces : pieces name = [name] := by
    rw [pieces, splitAtSlashes, List.splitOn_eq_singleton hslash, List.map_singleton,
      String.ofList_toList]
  rw [resolve_join, hrelative, hpieces]
  exact follow_name _ hlong

/-! ## Paths that stay below -/

/-- Whether pieces never lead above the place that is `depth` names up. -/
def staysWithin : Nat → List String → Bool
  | _, [] => true
  | depth, piece :: rest =>
    if piece = "" ∨ piece = "." then staysWithin depth rest
    else if piece = ".." then depth ≠ 0 && staysWithin (depth - 1) rest
    else staysWithin (depth + 1) rest

/-- A relative path whose two dots only take back its own names. -/
structure Stays (path : String) : Prop where
  relative : isAbsolute path = false
  within : staysWithin 0 (pieces path) = true

theorem prefix_of_staysWithin (place : Location) (h : staysWithin names.length rest = true) :
    place <+: rest.foldl follow (place ++ names) := by
  induction rest generalizing names with
  | nil => exact List.prefix_append place names
  | cons piece rest ih =>
    rw [staysWithin] at h
    rw [List.foldl_cons, follow]
    split at h
    · next htrivial =>
      rw [if_pos htrivial]
      exact ih h
    · next hname =>
      rw [if_neg hname]
      split at h
      · next hup =>
        rw [Bool.and_eq_true, decide_eq_true_iff] at h
        obtain ⟨hdepth, hrest⟩ := h
        have hnames : names ≠ [] := mt List.length_eq_zero_iff.2 hdepth
        rw [if_pos hup, List.dropLast_append_of_ne_nil hnames]
        apply ih
        rwa [List.length_dropLast]
      · next hdown =>
        rw [if_neg hdown, List.append_assoc]
        apply ih
        rwa [List.length_append]

/-- A path that stays leads from its base to there or below. -/
theorem Stays.prefix_resolve_join (h : Stays path) : resolve base <+: resolve (join base path) := by
  rw [resolve_join, h.relative, if_neg Bool.false_ne_true]
  have hnone : staysWithin ([] : List String).length (pieces path) = true := h.within
  have hprefix := prefix_of_staysWithin (resolve base) hnone
  rwa [List.append_nil] at hprefix

end Path

namespace FileTree

variable {t : FileTree} {here there : Location} {pieces : List String} {path : String}

/-! ## Where paths lead -/

theorem eq_foldl_of_walk (h : t.walk here pieces = .ok there) :
    there = pieces.foldl Path.follow here := by
  induction pieces generalizing here with
  | nil =>
    cases h
    rfl
  | cons piece pieces ih =>
    rw [← List.singleton_append] at h
    obtain ⟨place, hstep, hrest⟩ := walk_append_eq_ok_iff.1 h
    rw [walk_singleton] at hstep
    rw [List.foldl_cons, ← (follow_of_step hstep).2]
    exact ih hrest

/-- Whatever a path leads to from the root stands where its pieces say. -/
theorem location_eq_resolve {target : Target} (h : t.locate [] path = .ok target) :
    target.location = Path.resolve path := by
  have hwalk := eq_foldl_of_walk (walk_of_locate h).2
  rw [startOf, ite_self, Path.body, ← List.rdropWhile, Path.foldl_follow_rdropWhile] at hwalk
  exact hwalk

end FileTree

end DexTrail
