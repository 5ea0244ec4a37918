-- SUMMARY: Writing a file whose path is another's with a suffix leaves what is read at the other path.
import DexTrail.Proofs.Disk.Pieces
import DexTrail.Proofs.Disk.Replacement
import Mathlib.Data.List.DropRight

/-!
# Neighbouring files

A suffix without slashes changes the last name of a path and nothing before it. So a path and
the path with the suffix lead through the same directories to different places, and a file that
is written at the second one is not found at the first.
-/

namespace DexTrail

/-! ## Paths with a suffix -/

/-- The suffix is long enough to make a name of any piece, and has no slash. -/
structure IsNameSuffix (suffix : String) : Prop where
  noSlash : '/' ∉ suffix.toList
  long : 2 < suffix.toList.length

namespace Path

variable {here : Location} {piece : String}

/-- Where a piece leads from a place, whatever stands there: it stays, goes up or follows the
name. -/
def follow (here : Location) (piece : String) : Location :=
  if piece = "" ∨ piece = "." then here
  else if piece = ".." then here.dropLast
  else here ++ [piece]

theorem follow_cases (here : Location) (piece : String) :
    follow here piece = here ∨ follow here piece = here.dropLast ∨
      follow here piece = here ++ [piece] := by
  unfold follow
  split
  · exact .inl rfl
  · split
    · exact .inr (.inl rfl)
    · exact .inr (.inr rfl)

/-- A long piece is a name. -/
theorem follow_name (here : Location) (hlong : 2 < piece.toList.length) :
    follow here piece = here ++ [piece] := by
  have hne (s : String) (hshort : s.toList.length ≤ 2) : piece ≠ s := by
    rintro rfl
    omega
  rw [follow, if_neg (not_or.2 ⟨hne "" (by decide), hne "." (by decide)⟩),
    if_neg (hne ".." (by decide))]

end Path

namespace FileTree

variable {links : Bool} {t t' : FileTree links} {cwd start here there dir place : Location}
  {path piece name suffix : String} {init body way : List String} {content : ByteArray}
  {target : Target}

/-! ## Steps and walks -/

/-- A step is taken in a directory, and leads where its piece says. -/
theorem follow_of_step (hs : t.step here piece = .ok there) :
    t.get? here = some .dir ∧ there = Path.follow here piece := by
  unfold step at hs
  split at hs
  · cases hs
  · next hdir =>
    refine ⟨hdir, ?_⟩
    rw [Path.follow]
    split at hs
    · next htrivial =>
      cases hs
      rw [if_pos htrivial]
    · next hname =>
      rw [if_neg hname]
      split at hs
      · next hup =>
        cases hs
        rw [if_pos hup]
      · next hdown =>
        rw [if_neg hdown]
        split at hs
        · cases hs
        · cases hs
          rfl
  · cases hs

/-- A long piece is a name. -/
theorem eq_append_of_step (hs : t.step here piece = .ok there) (hlong : 2 < piece.toList.length) :
    there = here ++ [piece] :=
  (follow_of_step hs).2.trans (Path.follow_name here hlong)

/-- Steps from a place depend on nothing but whether it is a directory. -/
theorem step_congr (hdir : t.get? here = some .dir) (hdir' : t'.get? here = some .dir)
    (piece : String) : t'.step here piece = t.step here piece := by
  rw [step, step, hdir, hdir']

theorem walk_singleton (t : FileTree links) (here : Location) (piece : String) :
    t.walk here [piece] = t.step here piece := by
  rw [walk, List.foldlM_cons]
  cases t.step here piece <;> rfl

theorem walk_append_eq_ok_iff {before after : List String} :
    t.walk here (before ++ after) = .ok there ↔
      ∃ place, t.walk here before = .ok place ∧ t.walk place after = .ok there := by
  rw [walk, List.foldlM_append, ← walk, bind_eq_ok_iff]
  rfl

theorem walk_concat_eq_ok_iff :
    t.walk here (init ++ [piece]) = .ok there ↔
      ∃ place, t.walk here init = .ok place ∧ t.step place piece = .ok there := by
  simp only [walk_append_eq_ok_iff, walk_singleton]

/-- Whoever walks to a directory starts in one. -/
theorem isDir_of_walk {pieces : List String} (hw : t.walk here pieces = .ok there)
    (hdir : t.get? there = some .dir) : t.get? here = some .dir := by
  cases pieces with
  | nil =>
    cases hw
    exact hdir
  | cons piece pieces =>
    rw [← List.singleton_append] at hw
    obtain ⟨place, hstep, -⟩ := walk_append_eq_ok_iff.1 hw
    rw [walk_singleton] at hstep
    exact (follow_of_step hstep).1

/-! ## The last piece of a path -/

/-- The first link before the last piece is the first link. -/
theorem firstLink?_concat_of_some {held : String} {rest : List String}
    (h : t.firstLink? here init = some (dir, held, rest)) (piece : String) :
    t.firstLink? here (init ++ [piece]) = some (dir, held, rest ++ [piece]) := by
  fun_induction t.firstLink? here init with
  | case1 | case2 => cases h
  | case3 here first init next hs path hlink =>
    cases h
    exact firstLink?_cons_of_link hs hlink _
  | case4 here first init next hs hlink ih =>
    rw [List.cons_append, firstLink?_cons hs hlink]
    exact ih h

/-- When no link is before the last piece, the last piece may lead to one. -/
theorem firstLink?_concat_of_none (h : t.firstLink? here init = none) (piece : String) :
    t.firstLink? here (init ++ [piece]) = none ∨
      ∃ dir held, t.firstLink? here (init ++ [piece]) = some (dir, held, []) := by
  fun_induction t.firstLink? here init with
  | case1 here =>
    cases hs : t.step here piece with
    | error e => exact .inl (firstLink?_cons_of_error hs [])
    | ok next =>
      cases hlink : t.linkAt? next with
      | some path => exact .inr ⟨here, path, firstLink?_cons_of_link hs hlink []⟩
      | none => exact .inl (firstLink?_cons hs hlink [])
  | case2 here first init e hs => exact .inl (firstLink?_cons_of_error hs _)
  | case3 => cases h
  | case4 here first init next hs hlink ih =>
    rw [List.cons_append, firstLink?_cons hs hlink]
    exact ih h

/-- When a link at the end is not followed, the last piece stays the last. -/
theorem straighten_concat (t : FileTree links) (fuel : Nat) (here : Location) (init : List String)
    (piece : String) :
    t.straighten false fuel here (init ++ [piece]) =
      (t.straighten true fuel here init).map fun (start, way) => (start, way ++ [piece]) := by
  fun_induction t.straighten true fuel here init with
  | case1 fuel here init hfirst =>
    rcases firstLink?_concat_of_none hfirst piece with hnone | ⟨dir, held, hlast⟩
    · rw [straighten, hnone]
      rfl
    · rw [straighten, hlast]
      rfl
  | case2 fuel here init dir held rest hfirst hlast => simp at hlast
  | case3 here init dir held rest hfirst hlast =>
    rw [straighten, firstLink?_concat_of_some hfirst]
    simp [Except.map]
  | case4 here init dir held rest hfirst hlast fuel ih =>
    rw [straighten, firstLink?_concat_of_some hfirst]
    simp [← ih, List.append_assoc]

/-- A path whose last name is kept leads from the directory of its other pieces by that name. -/
theorem exists_of_locate_concat (hbody : Path.body path = init ++ [piece])
    (hl : t.locate cwd path false = .ok target) :
    ∃ start way dir, t.straighten true maxLinks (startOf cwd path) init = .ok (start, way) ∧
      t.walk start way = .ok dir ∧ t.step dir piece = .ok target.location := by
  obtain ⟨-, -, start, way, hs, hw, -⟩ := locate_eq_ok_iff.1 hl
  rw [hbody, straighten_concat] at hs
  cases hinit : t.straighten true maxLinks (startOf cwd path) init with
  | error e =>
    rw [hinit] at hs
    cases hs
  | ok found =>
    rw [hinit] at hs
    cases hs
    obtain ⟨dir, hdir, hstep⟩ := walk_concat_eq_ok_iff.1 hw
    exact ⟨found.1, found.2, dir, rfl, hdir, hstep⟩

/-- The pieces of a path and of the path with a suffix. -/
theorem pieces_withSuffix (hsuffix : IsNameSuffix suffix) (path : String) :
    ∃ init last, Path.pieces path = init ++ [last] ∧
      Path.pieces (Path.withSuffix path suffix) = init ++ [last ++ suffix] := by
  obtain ⟨init, last, hpieces, hsuffixed⟩ := splitAtSlashes_append hsuffix.noSlash path.toList
  refine ⟨init.map String.ofList, String.ofList last, ?_, ?_⟩
  · rw [Path.pieces, hpieces, List.map_append, List.map_singleton]
  · rw [Path.pieces, Path.withSuffix, String.toList_append, hsuffixed, List.map_append,
      List.map_singleton, String.ofList_append, String.ofList_toList]

/-- The pieces that are walked: all of them without the empty ones at the end. -/
theorem body_cases (hpieces : Path.pieces path = init ++ [piece]) :
    Path.body path <+: init ∨ Path.body path = init ++ [piece] := by
  rw [Path.body, hpieces, ← List.rdropWhile, List.rdropWhile_concat]
  split
  · exact .inl (List.rdropWhile_prefix _ init)
  · exact .inr rfl

theorem body_of_ne_empty (hpieces : Path.pieces path = init ++ [piece]) (hne : piece ≠ "") :
    Path.body path = init ++ [piece] := by
  rw [Path.body, hpieces, ← List.rdropWhile,
    List.rdropWhile_concat_neg _ _ _ (by simpa using hne)]

/-- Where a path with a suffix leads: to another name in the last directory of the path. -/
theorem exists_of_locate_withSuffix (hsuffix : IsNameSuffix suffix) (hpath : path ≠ "")
    (hl : t.locate cwd (Path.withSuffix path suffix) false = .ok target) :
    ∃ init piece start way dir, Path.pieces path = init ++ [piece] ∧
      t.straighten true maxLinks (startOf cwd path) init = .ok (start, way) ∧
      t.walk start way = .ok dir ∧ t.get? dir = some .dir ∧
      target.location = dir ++ [piece ++ suffix] := by
  obtain ⟨init, piece, hpieces, hsuffixed⟩ := pieces_withSuffix hsuffix path
  have hlong : 2 < (piece ++ suffix).toList.length := by
    rw [String.toList_append, List.length_append]
    exact Nat.lt_of_lt_of_le hsuffix.long (Nat.le_add_left _ _)
  have hne : piece ++ suffix ≠ "" := by
    intro he
    rw [he] at hlong
    cases hlong
  have hstart : startOf cwd (Path.withSuffix path suffix) = startOf cwd path := by
    rw [startOf, startOf, Path.isAbsolute, Path.isAbsolute, Path.withSuffix, String.toList_append,
      List.head?_append_of_ne_nil _ (mt String.toList_eq_nil_iff.1 hpath)]
  obtain ⟨start, way, dir, hs, hw, hstep⟩ :=
    exists_of_locate_concat (body_of_ne_empty hsuffixed hne) hl
  rw [hstart] at hs
  exact ⟨init, piece, start, way, dir, hpieces, hs, hw, (follow_of_step hstep).1,
    eq_append_of_step hstep hlong⟩

theorem ne_append_suffix (hsuffix : IsNameSuffix suffix) (piece : String) :
    piece ≠ piece ++ suffix := by
  intro he
  have hlength := congrArg (List.length ·.toList) he
  simp only [String.toList_append, List.length_append] at hlength
  have := hsuffix.long
  omega

/-- A step does not lead to another name. -/
theorem ne_append_of_step (hs : t.step dir piece = .ok there) (hne : piece ≠ name) :
    there ≠ dir ++ [name] := by
  rintro rfl
  obtain ⟨hdir, hfollow⟩ := follow_of_step hs
  rcases Path.follow_cases dir piece with hsame | hup | hname
  · have hlength := congrArg List.length (hfollow.trans hsame)
    simp at hlength
  · have hlength := congrArg List.length (hfollow.trans hup)
    simp only [List.length_append, List.length_singleton, List.length_dropLast] at hlength
    omega
  · rw [hname, List.append_cancel_left_eq, List.cons.injEq] at hfollow
    exact hne hfollow.1.symm

/-- What stands at a path is not what stands at the path with a suffix. -/
theorem location_ne_of_withSuffix (hsuffix : IsNameSuffix suffix)
    (hpath : t.locate cwd path false = .ok ⟨place, false⟩)
    (hl : t.locate cwd (Path.withSuffix path suffix) false = .ok target) :
    place ≠ target.location := by
  obtain ⟨-, hne, -, -, -, -, hslashed⟩ := locate_eq_ok_iff.1 hpath
  obtain ⟨init, piece, start, way, dir, hpieces, hs, hw, hdir, hplace⟩ :=
    exists_of_locate_withSuffix hsuffix hne hl
  have hlast : piece ≠ "" := by
    rintro rfl
    simp [Path.isSlashed, hpieces] at hslashed
  obtain ⟨start', way', dir', hs', hw', hstep⟩ :=
    exists_of_locate_concat (body_of_ne_empty hpieces hlast) hpath
  rw [hs] at hs'
  cases hs'
  rw [hw] at hw'
  cases hw'
  rw [hplace]
  exact ne_append_of_step hstep (ne_append_suffix hsuffix piece)

/-! ## A new file beside a path -/

/-- A file with another name in the last directory of a path is not on the way, and not at the
end of it. -/
theorem walk_set (content : ByteArray) (hwalk : t.walk start init = .ok dir)
    (hdir : t.get? dir = some .dir) (hfile : t.get? (dir ++ [name]) ≠ some .dir)
    (hne : piece ≠ name) (hbody : body <+: init ∨ body = init ++ [piece]) :
    (t.set (dir ++ [name]) (.file content)).walk start body = t.walk start body ∧
      ∀ place, t.walk start body = .ok place → place ≠ dir ++ [name] := by
  have hkeeps := keepsDirs_set hfile content
  rcases hbody with ⟨rest, rfl⟩ | rfl
  · obtain ⟨place, hbody, hrest⟩ := walk_append_eq_ok_iff.1 hwalk
    have hplace : t.get? place = some .dir := isDir_of_walk hrest hdir
    refine ⟨(hkeeps.walk hbody).trans hbody.symm, ?_⟩
    rintro place' hbody' rfl
    rw [hbody] at hbody'
    cases hbody'
    exact hfile hplace
  · have hlast (t' : FileTree links) (hwalk' : t'.walk start init = .ok dir) :
        t'.walk start (init ++ [piece]) = t'.step dir piece := by
      rw [walk, List.foldlM_append, ← walk, hwalk', ← walk_singleton]
      rfl
    rw [hlast _ hwalk, hlast _ (hkeeps.walk hwalk)]
    refine ⟨step_congr hdir (hkeeps dir hdir) piece, fun place hstep => ?_⟩
    exact ne_append_of_step hstep hne

section Unlinked

variable {t t' : FileTree}

/-- What is read at a path depends on where it leads and on what is there. -/
theorem read_congr (hlocate : t'.locate cwd path = t.locate cwd path)
    (hget : ∀ target, t.locate cwd path = .ok target →
      t'.get? target.location = t.get? target.location) :
    t'.read cwd path = t.read cwd path := by
  unfold read lookup
  rw [hlocate]
  cases hl : t.locate cwd path with
  | error e => rfl
  | ok target => simp only [bind, Except.bind, hget target hl]

/-- Where a path leads depends on the walk along its pieces. -/
theorem locate_congr (hwalk : t'.walk (startOf cwd path) (Path.body path) =
      t.walk (startOf cwd path) (Path.body path)) :
    t'.locate cwd path = t.locate cwd path := by
  simp only [locate, straighten_unlinked, bind, Except.bind, hwalk]

/-- What is located is where the walk ends. -/
theorem walk_of_locate (hl : t.locate cwd path = .ok target) :
    path ≠ "" ∧ t.walk (startOf cwd path) (Path.body path) = .ok target.location := by
  obtain ⟨-, hne, start, way, hs, hw, -⟩ := locate_eq_ok_iff.1 hl
  rw [straighten_unlinked] at hs
  cases hs
  exact ⟨hne, hw⟩

/-- A file that is written at a path with a suffix leaves what is read at the path. -/
theorem read_of_writeFile_withSuffix (hsuffix : IsNameSuffix suffix)
    (h : t.writeFile cwd (Path.withSuffix path suffix) content = .ok t') :
    t'.read cwd path = t.read cwd path := by
  obtain ⟨there, hl, hfile, rfl⟩ := writeFile_eq_ok_iff.1 h
  by_cases hpath : path = ""
  · subst hpath
    exact read_congr (locate_congr rfl) fun target htarget => absurd rfl (walk_of_locate htarget).1
  · rw [← locate_unlinked _ _ _ false] at hl
    obtain ⟨init, piece, start, way, dir, hpieces, hs, hw, hdir, rfl⟩ :=
      exists_of_locate_withSuffix hsuffix hpath hl
    rw [straighten_unlinked] at hs
    cases hs
    obtain ⟨hsame, haway⟩ :=
      walk_set content hw hdir hfile (ne_append_suffix hsuffix piece) (body_cases hpieces)
    refine read_congr (locate_congr hsame) fun target htarget => ?_
    rw [get?_set _ _ _ _ (ne_root hfile), if_neg (haway _ (walk_of_locate htarget).2)]

/-! ## Directories that are there -/

/-- Making a directory that is there changes nothing. -/
theorem makeDirs_of_isDir (h : t.isDir cwd path = true) : t.makeDirs cwd path = (t, .ok ()) := by
  have hmake : t.makeDir cwd path = .error .alreadyExists := by
    unfold isDir lookup at h
    rw [makeDir, locate_unlinked]
    cases hl : t.locate cwd path with
    | error e => simp [hl, bind, Except.bind] at h
    | ok target =>
      cases hg : t.get? target.location with
      | none => simp [hl, hg, bind, Except.bind] at h
      | some node => simp [hg, bind, Except.bind]
  unfold makeDirs makeDirs.go
  split
  · rfl
  · rw [hmake]

end Unlinked

end FileTree

end DexTrail
