-- SUMMARY: What decides where a path leads, when operations on files succeed, and that a written file is read back.
import DexTrail.Disk.FileTree

/-!
# Replacing files

Where a path leads depends on the directories and the symbolic links of the tree alone
(`FileTree.KeepsWays`). Each operation on a file succeeds exactly where the tree lets it, and its
result is one change of the tree (`FileTree.writeFile_eq_ok_iff_put` and those beside it). In a
tree without links ways are straight and these conditions are simpler; a file that is written
keeps every directory, so its path still leads to it and reading finds what was written.
-/

namespace DexTrail

/-- Two steps that may fail succeed when both do. -/
theorem bind_eq_ok_iff {ε α β : Type} {x : Except ε α} {f : α → Except ε β} {b : β} :
    x >>= f = .ok b ↔ ∃ a, x = .ok a ∧ f a = .ok b := by
  cases x with
  | error e => simp [bind, Except.bind]
  | ok a => simp [bind, Except.bind]

namespace FileTree

/-! ## What keeps the ways of paths -/

section Links

variable {links : Bool} {t t' : FileTree links} {cwd here there : Location} {path : String}
  {pieces way : List String} {target : Target} {follow : Bool} {node : Node links}
  {content : ByteArray}

/-- Every directory of `t` is one of `t'`. -/
def KeepsDirs (t t' : FileTree links) : Prop :=
  ∀ here, t.get? here = some .dir → t'.get? here = some .dir

/-- Every directory of `t` is one of `t'`, and the symbolic links are the same. -/
structure KeepsWays (t t' : FileTree links) : Prop where
  dirs : t.KeepsDirs t'
  links : ∀ here, t'.linkAt? here = t.linkAt? here

theorem KeepsWays.trans {t'' : FileTree links} (h : t.KeepsWays t') (h' : t'.KeepsWays t'') :
    t.KeepsWays t'' where
  dirs here hdir := h'.dirs here (h.dirs here hdir)
  links here := (h'.links here).trans (h.links here)

theorem KeepsDirs.step (h : t.KeepsDirs t') {piece : String} (hs : t.step here piece = .ok there) :
    t'.step here piece = .ok there := by
  unfold FileTree.step at hs
  split at hs
  · cases hs
  · next hd =>
    rw [FileTree.step, h here hd]
    exact hs
  · cases hs

theorem walk_cons {piece : String} (hs : t.step here piece = .ok there) (pieces : List String) :
    t.walk here (piece :: pieces) = t.walk there pieces := by
  rw [FileTree.walk, List.foldlM_cons, hs]
  rfl

theorem exists_step_of_walk {piece : String} (hw : t.walk here (piece :: pieces) = .ok there) :
    ∃ next, t.step here piece = .ok next ∧ t.walk next pieces = .ok there := by
  rw [FileTree.walk, List.foldlM_cons] at hw
  exact bind_eq_ok_iff.1 hw

theorem KeepsDirs.walk (h : t.KeepsDirs t') (hw : t.walk here pieces = .ok there) :
    t'.walk here pieces = .ok there := by
  induction pieces generalizing here with
  | nil => exact hw
  | cons piece pieces ih =>
    obtain ⟨next, hs, hw⟩ := exists_step_of_walk hw
    rw [walk_cons (h.step hs)]
    exact ih hw

/-! ## Links on the way -/

theorem firstLink?_cons_of_link {piece held : String} (hs : t.step here piece = .ok there)
    (hlink : t.linkAt? there = some held) (pieces : List String) :
    t.firstLink? here (piece :: pieces) = some (here, held, pieces) := by
  rw [FileTree.firstLink?, hs]
  simp only [hlink]

theorem firstLink?_cons {piece : String} (hs : t.step here piece = .ok there)
    (hlink : t.linkAt? there = none) (pieces : List String) :
    t.firstLink? here (piece :: pieces) = t.firstLink? there pieces := by
  rw [FileTree.firstLink?, hs]
  simp only [hlink]

theorem firstLink?_cons_of_error {piece : String} {e : DiskError}
    (hs : t.step here piece = .error e) (pieces : List String) :
    t.firstLink? here (piece :: pieces) = none := by
  rw [FileTree.firstLink?, hs]

/-- The first link on a way is the same when the way leads somewhere. -/
theorem KeepsWays.firstLink? (h : t.KeepsWays t')
    (hway : t.firstLink? here pieces = none → ∃ there, t.walk here pieces = .ok there) :
    t'.firstLink? here pieces = t.firstLink? here pieces := by
  fun_induction t.firstLink? here pieces with
  | case1 => rfl
  | case2 here piece pieces e hs =>
    obtain ⟨there, hw⟩ := hway rfl
    obtain ⟨next, hnext, -⟩ := exists_step_of_walk hw
    rw [hs] at hnext
    cases hnext
  | case3 here piece pieces next hs held hlink =>
    exact firstLink?_cons_of_link (h.dirs.step hs) ((h.links next).trans hlink) pieces
  | case4 here piece pieces next hs hlink ih =>
    rw [firstLink?_cons (h.dirs.step hs) ((h.links next).trans hlink)]
    exact ih fun hnone => (hway hnone).imp fun _ hw => (walk_cons hs pieces).symm.trans hw

/-- A way that leads somewhere is straightened alike. -/
theorem KeepsWays.straighten (h : t.KeepsWays t') {fuel : Nat} {start : Location}
    (hs : t.straighten follow fuel here pieces = .ok (start, way))
    (hw : t.walk start way = .ok there) :
    t'.straighten follow fuel here pieces = .ok (start, way) := by
  fun_induction t.straighten follow fuel here pieces with
  | case1 fuel here pieces hfirst =>
    cases hs
    rw [FileTree.straighten, h.firstLink? fun _ => ⟨there, hw⟩, hfirst]
  | case2 fuel here pieces dir held rest hfirst hlast =>
    cases hs
    rw [FileTree.straighten, h.firstLink? fun _ => ⟨there, hw⟩, hfirst]
    exact if_pos hlast
  | case3 => cases hs
  | case4 here pieces dir held rest hfirst hlast fuel ih =>
    have hsome : t.firstLink? here pieces ≠ none := by
      rw [hfirst]
      exact Option.some_ne_none _
    rw [FileTree.straighten, h.firstLink? fun hnone => absurd hnone hsome, hfirst]
    exact (if_neg hlast).trans (ih hs)

/-- A text can be a path when it is short and has no null character. -/
theorem fits_of_notMem (path : String) (hshort : path.utf8ByteSize ≤ maxPathSize)
    (hnull : '\x00' ∉ path.toList) :
    ¬(maxPathSize < path.utf8ByteSize ∨ path.contains '\x00' = true) := by
  rw [String.contains_char_eq]
  exact not_or.2 ⟨Nat.not_lt.2 hshort, mt of_decide_eq_true hnull⟩

/-- What is located is where the walk along the straightened way ends. -/
theorem locate_eq_ok_iff :
    t.locate cwd path follow = .ok target ↔
      ¬(maxPathSize < path.utf8ByteSize ∨ path.contains '\x00' = true) ∧ path ≠ "" ∧
      ∃ start way, t.straighten follow maxLinks (startOf cwd path) (Path.body path) =
          .ok (start, way) ∧
        t.walk start way = .ok target.location ∧ target.slashed = Path.isSlashed path := by
  unfold locate
  split
  · next hlong =>
    constructor
    · rintro ⟨⟩
    · rintro ⟨hfits, -⟩
      exact absurd hlong hfits
  · next hfits =>
    split
    · next hempty =>
      constructor
      · rintro ⟨⟩
      · rintro ⟨-, hne, -⟩
        exact absurd (String.isEmpty_iff.1 hempty) hne
    · next hne =>
      rw [String.isEmpty_iff] at hne
      obtain ⟨location, slashed⟩ := target
      constructor
      · intro hl
        obtain ⟨⟨start, way⟩, hs, hl⟩ := bind_eq_ok_iff.1 hl
        obtain ⟨there, hw, hl⟩ := bind_eq_ok_iff.1 hl
        cases hl
        exact ⟨hfits, hne, start, way, hs, hw, rfl⟩
      · rintro ⟨-, -, start, way, hs, hw, rfl⟩
        simp only [hs, hw, bind, Except.bind, pure, Except.pure]

/-- A path leads where it led when the directories and the links on its way stay. -/
theorem KeepsWays.locate (h : t.KeepsWays t') (hl : t.locate cwd path follow = .ok target) :
    t'.locate cwd path follow = .ok target := by
  obtain ⟨hfits, hne, start, way, hs, hw, hslashed⟩ := locate_eq_ok_iff.1 hl
  exact locate_eq_ok_iff.2 ⟨hfits, hne, start, way, h.straighten hs hw, h.dirs.walk hw, hslashed⟩

/-! ## Links at the end -/

/-- A way whose first link is at its end leads to that link. -/
theorem walk_of_firstLink? {dir : Location} {held : String}
    (h : t.firstLink? here pieces = some (dir, held, [])) :
    ∃ there, t.walk here pieces = .ok there ∧ t.linkAt? there = some held := by
  fun_induction t.firstLink? here pieces with
  | case1 | case2 => cases h
  | case3 here piece pieces next hs path hlink =>
    cases h
    exact ⟨next, walk_cons hs [], hlink⟩
  | case4 here piece pieces next hs hlink ih =>
    rw [walk_cons hs]
    exact ih h

/-- Where no link is at the end, it does not matter whether it would be followed. -/
theorem straighten_of_not_link {fuel : Nat} {start : Location}
    (hs : t.straighten false fuel here pieces = .ok (start, way))
    (hw : t.walk start way = .ok there) (hlink : t.linkAt? there = none) :
    t.straighten true fuel here pieces = .ok (start, way) := by
  fun_induction t.straighten false fuel here pieces with
  | case1 fuel here pieces hfirst =>
    rw [FileTree.straighten, hfirst]
    exact hs
  | case2 fuel here pieces dir held rest hfirst hlast =>
    cases hs
    obtain rfl : rest = [] := by simpa using hlast
    obtain ⟨place, hwalk, hheld⟩ := walk_of_firstLink? hfirst
    rw [hw] at hwalk
    cases hwalk
    rw [hlink] at hheld
    cases hheld
  | case3 => cases hs
  | case4 here pieces dir held rest hfirst hlast fuel ih =>
    have hrest : rest ≠ [] := by simpa using hlast
    rw [FileTree.straighten, hfirst]
    simpa [hrest] using ih hs

/-- What can be followed to its end can be walked to the link there. -/
theorem exists_straighten_of_follow {fuel : Nat} {start : Location}
    (hs : t.straighten true fuel here pieces = .ok (start, way))
    (hw : t.walk start way = .ok there) :
    ∃ start' way' there', t.straighten false fuel here pieces = .ok (start', way') ∧
      t.walk start' way' = .ok there' := by
  fun_induction t.straighten true fuel here pieces with
  | case1 fuel here pieces hfirst =>
    cases hs
    exact ⟨start, way, there, by rw [FileTree.straighten, hfirst], hw⟩
  | case2 fuel here pieces dir held rest hfirst hlast => simp at hlast
  | case3 => cases hs
  | case4 here pieces dir held rest hfirst hlast fuel ih =>
    by_cases hrest : rest = []
    · subst hrest
      obtain ⟨place, hwalk, -⟩ := walk_of_firstLink? hfirst
      exact ⟨here, pieces, place, by simp [FileTree.straighten, hfirst], hwalk⟩
    · obtain ⟨start', way', there', hs', hw'⟩ := ih hs
      refine ⟨start', way', there', ?_, hw'⟩
      rw [FileTree.straighten, hfirst]
      simpa [hrest] using hs'

/-- A path leads to the place of its last name when no link is there. -/
theorem locate_of_not_link (hl : t.locate cwd path false = .ok target)
    (hlink : t.linkAt? target.location = none) : t.locate cwd path = .ok target := by
  obtain ⟨hfits, hne, start, way, hs, hw, hslashed⟩ := locate_eq_ok_iff.1 hl
  exact locate_eq_ok_iff.2
    ⟨hfits, hne, start, way, straighten_of_not_link hs hw hlink, hw, hslashed⟩

/-- Where no link can be at the end, a path leads to the place of its last name. -/
theorem locate_iff_of_not_link {slashed : Bool}
    (hlink : ∀ here, t.locate cwd path false = .ok ⟨here, slashed⟩ → t.linkAt? here = none) :
    t.locate cwd path = .ok ⟨here, slashed⟩ ↔ t.locate cwd path false = .ok ⟨here, slashed⟩ := by
  have hfollow {here : Location} (hl : t.locate cwd path false = .ok ⟨here, slashed⟩) :
      t.locate cwd path = .ok ⟨here, slashed⟩ := locate_of_not_link hl (hlink here hl)
  refine ⟨fun hl => ?_, hfollow⟩
  obtain ⟨hfits, hne, start, way, hs, hw, hslashed⟩ := locate_eq_ok_iff.1 hl
  obtain ⟨start', way', there', hs', hw'⟩ := exists_straighten_of_follow hs hw
  have hl' : t.locate cwd path false = .ok ⟨there', slashed⟩ :=
    locate_eq_ok_iff.2 ⟨hfits, hne, start', way', hs', hw', hslashed⟩
  rw [hfollow hl'] at hl
  cases hl
  exact hl'

/-- The root is a directory. -/
theorem ne_root (h : t.get? here ≠ some .dir) : here ≠ [] := by
  rintro rfl
  exact h rfl

/-- A file in place of what is no directory keeps the directories. -/
theorem keepsDirs_set (h : t.get? here ≠ some .dir) (content : ByteArray) :
    t.KeepsDirs (t.set here (.file content)) := by
  intro there hd
  rw [get?_set t here there _ (ne_root h), if_neg]
  · exact hd
  · rintro rfl
    exact h hd

/-! ## What the operations answer -/

theorem read_eq_ok_iff_contentAt? :
    t.read cwd path = .ok content ↔
      ∃ here, t.locate cwd path = .ok ⟨here, false⟩ ∧ t.contentAt? here = some content := by
  simp only [read, lookup, bind_eq_ok_iff, contentAt?]
  constructor
  · rintro ⟨found, ⟨⟨here, slashed⟩, hl, hfound⟩, hcontent⟩
    refine ⟨here, ?_⟩
    cases hg : t.get? here with
    | none => simp [hg] at hfound
    | some node =>
      rw [hg] at hfound
      cases node with
      | dir =>
        cases hfound
        cases hcontent
      | link => cases hfound
      | file old | shared _ _ old =>
        cases slashed with
        | true => cases hfound
        | false =>
          cases hfound
          cases hcontent
          exact ⟨hl, rfl⟩
  · rintro ⟨here, hl, hg⟩
    obtain ⟨node, hnode, hcontent⟩ := Option.bind_eq_some_iff.1 hg
    refine ⟨.file content, ⟨_, hl, ?_⟩, rfl⟩
    rw [hnode]
    cases node <;> cases hcontent <;> rfl

theorem writeFile_eq_ok_iff_put :
    t.writeFile cwd path content = .ok t' ↔
      ∃ here, t.locate cwd path = .ok ⟨here, false⟩ ∧ t.get? here ≠ some .dir ∧
        t.linkAt? here = none ∧ t' = t.put here content := by
  simp only [writeFile, bind_eq_ok_iff, linkAt?]
  constructor
  · rintro ⟨⟨here, slashed⟩, hl, hmade⟩
    refine ⟨here, ?_⟩
    cases hg : t.get? here with
    | none => cases slashed <;> simp_all
    | some node => cases node <;> cases slashed <;> simp_all [Node.path?]
  · rintro ⟨here, hl, hg, hlink, rfl⟩
    refine ⟨_, hl, ?_⟩
    cases hn : t.get? here with
    | none => simp
    | some node => cases node <;> simp_all [Node.path?]

theorem removeFile_eq_ok_iff_erase :
    t.removeFile cwd path = .ok t' ↔
      ∃ here node, t.locate cwd path false = .ok ⟨here, false⟩ ∧ t.get? here = some node ∧
        node ≠ .dir ∧ t' = t.erase here := by
  simp only [removeFile, bind_eq_ok_iff]
  constructor
  · rintro ⟨⟨here, slashed⟩, hl, hgone⟩
    refine ⟨here, ?_⟩
    cases hg : t.get? here with
    | none => simp [hg] at hgone
    | some node => cases node <;> cases slashed <;> simp_all
  · rintro ⟨here, node, hl, hg, hnode, rfl⟩
    refine ⟨_, hl, ?_⟩
    cases node <;> simp_all

/-- A file or a link is renamed when it is there and no directory is in its new place. -/
theorem renameFile_eq_ok_iff_moved {source destination : String} :
    t.renameFile cwd source destination = .ok t' ↔
      ∃ origin place node, t.locate cwd source false = .ok ⟨origin, false⟩ ∧
        t.get? origin = some node ∧ node ≠ .dir ∧
        t.locate cwd destination false = .ok ⟨place, false⟩ ∧ t.get? place ≠ some .dir ∧
        t' = if t.isSameFile origin place then t else (t.set place node).erase origin := by
  have hresult (origin place : Location) (moved : FileTree links) :
      (if t.isSameFile origin place then .ok t else .ok moved :
        Except DiskError (FileTree links)) = .ok t' ↔
        t' = if t.isSameFile origin place then t else moved := by
    split <;> rw [Except.ok.injEq, eq_comm]
  simp only [renameFile, bind_eq_ok_iff]
  constructor
  · rintro ⟨⟨origin, slashed⟩, hlo, ⟨place, ending⟩, hlp, hmoved⟩
    split at hmoved
    · cases hmoved
    · next hplain =>
      obtain ⟨rfl, rfl⟩ : slashed = false ∧ ending = false := by simpa using hplain
      split at hmoved
      · cases hmoved
      · cases hmoved
      · cases hmoved
      · next node hnode hgo hgp =>
        exact ⟨origin, place, node, hlo, hgo, hnode, hlp, hgp, (hresult origin place _).1 hmoved⟩
  · rintro ⟨origin, place, node, hlo, hgo, hnode, hlp, hgp, ht'⟩
    refine ⟨_, hlo, _, hlp, ?_⟩
    dsimp only
    rw [if_neg (by simp), hgo]
    split
    · next h => cases h
    · next h => exact absurd (Option.some.inj h) hnode
    · next h => exact absurd h hgp
    · next hsome _ =>
      cases hsome
      exact (hresult origin place _).2 ht'

end Links

/-! ## Trees without links -/

section Unlinked

variable {t t' : FileTree} {cwd here : Location} {path source destination : String}
  {content : ByteArray}

@[simp] theorem linkAt?_unlinked (t : FileTree) (here : Location) : t.linkAt? here = none := by
  rw [linkAt?]
  cases t.get? here with
  | none => rfl
  | some node => cases node <;> first | rfl | contradiction

@[simp] theorem numberAt?_unlinked (t : FileTree) (here : Location) : t.numberAt? here = none := by
  rw [numberAt?]
  cases t.get? here with
  | none => rfl
  | some node => cases node <;> first | rfl | contradiction

theorem isSameFile_unlinked (t : FileTree) (here there : Location) :
    t.isSameFile here there = decide (here = there) := by
  simp [isSameFile]

@[simp] theorem put_unlinked (t : FileTree) (here : Location) (content : ByteArray) :
    t.put here content = t.set here (.file content) := by
  simp [put]

/-- Without links a way is straight. -/
@[simp] theorem straighten_unlinked (t : FileTree) (follow : Bool) (fuel : Nat) (here : Location)
    (pieces : List String) : t.straighten follow fuel here pieces = .ok (here, pieces) := by
  have hnone : t.firstLink? here pieces = none := by
    fun_induction t.firstLink? here pieces with
    | case1 | case2 => rfl
    | case3 here piece pieces next hs held hlink =>
      rw [linkAt?_unlinked] at hlink
      cases hlink
    | case4 here piece pieces next hs hlink ih => exact ih
  rw [straighten, hnone]

theorem locate_unlinked (t : FileTree) (cwd : Location) (path : String) (follow : Bool) :
    t.locate cwd path follow = t.locate cwd path := by
  simp only [locate, straighten_unlinked]

/-- Where a path leads that is neither empty nor too long and has no null character. -/
theorem locate_eq_map_walk (hshort : path.utf8ByteSize ≤ maxPathSize)
    (hnull : '\x00' ∉ path.toList) (hne : path ≠ "") :
    t.locate cwd path = (t.walk (startOf cwd path) (Path.body path)).map fun location =>
      ⟨location, Path.isSlashed path⟩ := by
  rw [locate, if_neg (fits_of_notMem path hshort hnull), if_neg (mt String.isEmpty_iff.1 hne),
    straighten_unlinked]
  cases hw : t.walk (startOf cwd path) (Path.body path) <;>
    simp [hw, bind, Except.bind, pure, Except.pure, Except.map]

/-- A file and a directory are all that stands somewhere. -/
theorem contentAt?_eq_some_iff : t.contentAt? here = some content ↔
    t.get? here = some (.file content) := by
  rw [contentAt?]
  cases t.get? here with
  | none => simp
  | some node => cases node <;> first | contradiction | simp [Node.content?]

theorem KeepsDirs.keepsWays (h : t.KeepsDirs t') : t.KeepsWays t' where
  dirs := h
  links here := by rw [linkAt?_unlinked, linkAt?_unlinked]

theorem KeepsDirs.locate (h : t.KeepsDirs t') {target : Target}
    (hl : t.locate cwd path = .ok target) : t'.locate cwd path = .ok target :=
  h.keepsWays.locate hl

theorem read_eq_ok_iff :
    t.read cwd path = .ok content ↔
      ∃ here, t.locate cwd path = .ok ⟨here, false⟩ ∧ t.get? here = some (.file content) := by
  simp only [read_eq_ok_iff_contentAt?, contentAt?_eq_some_iff]

theorem writeFile_eq_ok_iff :
    t.writeFile cwd path content = .ok t' ↔
      ∃ here, t.locate cwd path = .ok ⟨here, false⟩ ∧ t.get? here ≠ some .dir ∧
        t' = t.set here (.file content) := by
  simp only [writeFile_eq_ok_iff_put, linkAt?_unlinked, put_unlinked, true_and]

/-- A file is renamed when it is there and no directory is in its new place. -/
theorem renameFile_eq_ok_iff :
    t.renameFile cwd source destination = .ok t' ↔
      ∃ origin place content, t.locate cwd source = .ok ⟨origin, false⟩ ∧
        t.get? origin = some (.file content) ∧ t.locate cwd destination = .ok ⟨place, false⟩ ∧
        t.get? place ≠ some .dir ∧
        t' = if origin = place then t else (t.set place (.file content)).erase origin := by
  simp only [renameFile_eq_ok_iff_moved, locate_unlinked, isSameFile_unlinked, decide_eq_true_eq]
  constructor
  · rintro ⟨origin, place, node, hlo, hgo, hnode, hlp, hgp, rfl⟩
    cases node with
    | file content => exact ⟨origin, place, content, hlo, hgo, hlp, hgp, rfl⟩
    | dir => exact absurd rfl hnode
    | link allowed | shared allowed => contradiction
  · rintro ⟨origin, place, content, hlo, hgo, hlp, hgp, rfl⟩
    exact ⟨origin, place, .file content, hlo, hgo, by simp, hlp, hgp, rfl⟩

/-! ## Written files are read back -/

theorem read_of_writeFile (h : t.writeFile cwd path content = .ok t') :
    t'.read cwd path = .ok content := by
  obtain ⟨here, hl, hg, rfl⟩ := writeFile_eq_ok_iff.1 h
  refine read_eq_ok_iff.2 ⟨here, (keepsDirs_set hg content).locate hl, ?_⟩
  rw [get?_set t here here _ (ne_root hg), if_pos rfl]

end Unlinked

end FileTree

end DexTrail
