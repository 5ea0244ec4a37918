-- SUMMARY: What each operation of a file tree changes, and that everything else stands where it stood.
import DexTrail.Proofs.Disk.Replacement

/-!
# Effects of operations

An operation that succeeds sets or takes one place, which is no directory, or adds directories
where nothing stood (`FileTree.AddsDirs`); only a file with several names is written in more than
one place. So the trees agree elsewhere (`FileTree.AgreesBut`), and a path that leads away from
the place leads where it led to what was there (`FileTree.AgreesBut.lookup`).
-/

namespace DexTrail

namespace FileTree

variable {links : Bool} {t t' t'' : FileTree links} {cwd here there : Location}
  {path : String} {content : ByteArray} {target : Target}

/-! ## Trees with the same ways -/

/-- The trees have the same directories. -/
def SameDirs (t t' : FileTree links) : Prop :=
  ∀ here, t.get? here = some .dir ↔ t'.get? here = some .dir

theorem SameDirs.symm (h : t.SameDirs t') : t'.SameDirs t := fun here => (h here).symm

/-- Paths lead to the same places in trees with the same directories and no links. -/
theorem SameDirs.locate_iff {t t' : FileTree} (h : t.SameDirs t') :
    t.locate cwd path = .ok target ↔ t'.locate cwd path = .ok target := by
  have hkeeps : t.KeepsDirs t' := fun here => (h here).1
  have hkeeps' : t'.KeepsDirs t := fun here => (h here).2
  exact ⟨hkeeps.locate, hkeeps'.locate⟩

/-- No way leads on from the place: neither a directory nor a symbolic link stands there. -/
structure IsEnd (t : FileTree links) (here : Location) : Prop where
  noDir : t.get? here ≠ some .dir
  noLink : t.linkAt? here = none

theorem IsEnd.ne_root (h : t.IsEnd here) : here ≠ [] := FileTree.ne_root h.noDir

theorem isEnd_of_content (h : t.contentAt? here = some content) : t.IsEnd here := by
  rw [contentAt?] at h
  obtain ⟨node, hnode, hcontent⟩ := Option.bind_eq_some_iff.1 h
  refine ⟨?_, ?_⟩
  · rw [hnode]
    rintro ⟨⟩
    cases hcontent
  · rw [linkAt?, hnode, Option.bind_some]
    cases node <;> first | rfl | cases hcontent

theorem isEnd_of_none (h : t.get? here = none) : t.IsEnd here where
  noDir := by simp [h]
  noLink := by simp [linkAt?, h]

/-- The trees differ at one place at most. -/
def AgreesBut (here : Location) (t t' : FileTree links) : Prop :=
  ∀ there, there ≠ here → t'.get? there = t.get? there

theorem AgreesBut.symm (h : t.AgreesBut here t') : t'.AgreesBut here t :=
  fun there hne => (h there hne).symm

theorem AgreesBut.trans (h : t.AgreesBut here t') (h' : t'.AgreesBut here t'') :
    t.AgreesBut here t'' :=
  fun there hne => (h' there hne).trans (h there hne)

theorem AgreesBut.isEnd (h : t.AgreesBut here t') (hne : there ≠ here) (hend : t.IsEnd there) :
    t'.IsEnd there where
  noDir := by
    rw [h there hne]
    exact hend.noDir
  noLink := by
    rw [linkAt?, h there hne]
    exact hend.noLink

theorem agreesBut_set (h : here ≠ []) (node : Node links) : t.AgreesBut here (t.set here node) :=
  fun there hne => by rw [get?_set _ _ _ _ h, if_neg hne]

theorem agreesBut_erase (h : here ≠ []) : t.AgreesBut here (t.erase here) :=
  fun there hne => by rw [get?_erase _ _ _ h, if_neg hne]

/-- What happens at an end changes no way. -/
theorem AgreesBut.keepsWays (h : t.AgreesBut here t') (hend : t.IsEnd here)
    (hend' : t'.IsEnd here) : t.KeepsWays t' where
  dirs there hdir := by
    have hne : there ≠ here := by
      rintro rfl
      exact hend.noDir hdir
    rw [h there hne, hdir]
  links there := by
    by_cases hne : there = here
    · rw [hne, hend.noLink, hend'.noLink]
    · rw [linkAt?, linkAt?, h there hne]

theorem AgreesBut.locate_iff (h : t.AgreesBut here t') (hend : t.IsEnd here)
    (hend' : t'.IsEnd here) {follow : Bool} :
    t.locate cwd path follow = .ok target ↔ t'.locate cwd path follow = .ok target :=
  ⟨(h.keepsWays hend hend').locate, (h.symm.keepsWays hend' hend).locate⟩

/-! ## What stays -/

/-- Whatever stands in the first tree stands in the second, which may have more directories. -/
structure AddsDirs (t t' : FileTree links) : Prop where
  kept : ∀ here node, t.get? here = some node → t'.get? here = some node
  added : ∀ here, t.get? here = none → t'.get? here = none ∨ t'.get? here = some .dir

theorem AddsDirs.refl (t : FileTree links) : t.AddsDirs t where
  kept _ _ := id
  added _ := .inl

theorem AddsDirs.trans (h : t.AddsDirs t') (h' : t'.AddsDirs t'') : t.AddsDirs t'' where
  kept here node hnode := h'.kept here node (h.kept here node hnode)
  added here hnone := by
    rcases h.added here hnone with hfree | hdir
    · exact h'.added here hfree
    · exact .inr (h'.kept here .dir hdir)

theorem AddsDirs.keepsWays (h : t.AddsDirs t') : t.KeepsWays t' where
  dirs here := h.kept here .dir
  links here := by
    cases hnode : t.get? here with
    | some node => rw [linkAt?, linkAt?, h.kept here node hnode, hnode]
    | none => rcases h.added here hnode with hfree | hdir <;> simp [linkAt?, *, Node.path?]

/-! ## What operations answer and leave -/

/-- A lookup that succeeds finds what stands where the path leads. -/
theorem exists_of_lookup {found : Node} (h : t.lookup cwd path = .ok found) :
    ∃ target node, t.locate cwd path = .ok target ∧ t.get? target.location = some node ∧
      (target.slashed = true → node = .dir) := by
  obtain ⟨target, hl, hfound⟩ := bind_eq_ok_iff.1 h
  refine ⟨target, ?_⟩
  cases hg : t.get? target.location with
  | none => simp [hg] at hfound
  | some node =>
    refine ⟨node, hl, rfl, fun hslashed => ?_⟩
    cases node <;> simp_all

theorem lookup_congr (hl : t.locate cwd path = .ok target) (hl' : t'.locate cwd path = .ok target)
    (hget : t'.get? target.location = t.get? target.location) :
    t'.lookup cwd path = t.lookup cwd path := by
  rw [lookup, lookup, hl, hl']
  simp only [bind, Except.bind, hget]

/-- A path that leads away from the one place that changes leads to what was there. -/
theorem AgreesBut.lookup (h : t.AgreesBut here t') (hend : t.IsEnd here) (hend' : t'.IsEnd here)
    {found : Node} (hl : t.lookup cwd path = .ok found)
    (haway : t.locate cwd path ≠ .ok ⟨here, false⟩) : t'.lookup cwd path = .ok found := by
  obtain ⟨⟨place, slashed⟩, node, hlocate, hnode, hslashed⟩ := exists_of_lookup hl
  have hne : place ≠ here := by
    rintro rfl
    cases slashed with
    | true => exact hend.noDir (hnode.trans (congrArg some (hslashed rfl)))
    | false => exact haway hlocate
  rw [← hl]
  exact lookup_congr hlocate ((h.locate_iff hend hend').1 hlocate) (h place hne)

/-- Directories that are added are on no way that led somewhere. -/
theorem AddsDirs.lookup (h : t.AddsDirs t') {found : Node} (hl : t.lookup cwd path = .ok found) :
    t'.lookup cwd path = .ok found := by
  obtain ⟨target, node, hlocate, hnode, -⟩ := exists_of_lookup hl
  rw [← hl]
  apply lookup_congr hlocate (h.keepsWays.locate hlocate)
  rw [hnode, h.kept _ node hnode]

/-- A file that is written keeps its number. -/
theorem exists_get?_put (hdir : t.get? here ≠ some .dir) (content : ByteArray) :
    ∃ node, (t.put here content).get? here = some node ∧ node.content? = some content ∧
      node.number? = t.numberAt? here := by
  have hroot : here ≠ [] := ne_root hdir
  rw [put]
  cases hnumber : t.numberAt? here with
  | none =>
    refine ⟨.file content, ?_, rfl, rfl⟩
    rw [get?_set _ _ _ _ hroot, if_pos rfl]
  | some number =>
    rw [numberAt?, get?, if_neg hroot] at hnumber
    obtain ⟨node, hnode, hnumber⟩ := Option.bind_eq_some_iff.1 hnumber
    cases node with
    | shared allowed n old =>
      cases hnumber
      refine ⟨.shared allowed number content, ?_, rfl, rfl⟩
      simp [get?, hroot, hnode, Node.rewrite]
    | file | dir | link => cases hnumber

theorem contentAt?_put (hdir : t.get? here ≠ some .dir) (content : ByteArray) :
    (t.put here content).contentAt? here = some content := by
  obtain ⟨node, hnode, hcontent, -⟩ := exists_get?_put hdir content
  rw [contentAt?, hnode, Option.bind_some, hcontent]

/-- The place is the only name of what stands there. -/
def IsAlone (t : FileTree links) (here : Location) : Prop :=
  ∀ there, t.isSameFile here there = true → there = here

theorem isSameFile_iff :
    t.isSameFile here there = true ↔
      here = there ∨
        ∃ number, t.numberAt? here = some number ∧ t.numberAt? there = some number := by
  simp [isSameFile]

/-- Only a file with a number has another name. -/
theorem isAlone_of_numberAt? (h : t.numberAt? here = none) : t.IsAlone here := by
  intro there hsame
  rcases isSameFile_iff.1 hsame with rfl | ⟨number, hnumber, -⟩
  · rfl
  · rw [h] at hnumber
    cases hnumber

/-- A file that has no other name is written in one place. -/
theorem agreesBut_put (hdir : t.get? here ≠ some .dir) (halone : t.IsAlone here)
    (content : ByteArray) : t.AgreesBut here (t.put here content) := by
  have hroot : here ≠ [] := ne_root hdir
  rw [put]
  cases hnumber : t.numberAt? here with
  | none => exact agreesBut_set hroot _
  | some number =>
    intro there hne
    have hother : t.numberAt? there ≠ some number := by
      intro hsame
      apply hne
      apply halone
      exact isSameFile_iff.2 (.inr ⟨number, hnumber, hsame⟩)
    rw [get?, get?, SortedMap.get?_filterMap]
    rw [numberAt?, get?] at hother
    split
    · rfl
    · next hthere =>
      rw [if_neg hthere] at hother
      cases hnode : t.nodes.get? there with
      | none => rfl
      | some node =>
        rw [hnode] at hother
        cases node with
        | shared allowed n old =>
          have hn : n ≠ number := fun he => hother (congrArg some he)
          simp [Node.rewrite, hn]
        | file | dir | link => rfl

theorem isAlone_put (hdir : t.get? here ≠ some .dir) (halone : t.IsAlone here)
    (content : ByteArray) : (t.put here content).IsAlone here := by
  intro there hsame
  apply Decidable.byContradiction
  intro hne
  obtain ⟨node, hnode, -, hkept⟩ := exists_get?_put hdir content
  have hnumber : (t.put here content).numberAt? here = t.numberAt? here := by
    rw [numberAt?, hnode, Option.bind_some, hkept]
  have hother : (t.put here content).numberAt? there = t.numberAt? there := by
    rw [numberAt?, agreesBut_put hdir halone content there hne, numberAt?]
  apply hne
  apply halone
  rw [isSameFile_iff, hnumber, hother] at hsame
  exact isSameFile_iff.2 hsame

theorem makeDir_eq_ok_iff :
    t.makeDir cwd path = .ok t' ↔
      ∃ target, t.locate cwd path false = .ok target ∧ t.get? target.location = none ∧
        t' = t.set target.location .dir := by
  unfold makeDir
  cases hl : t.locate cwd path false with
  | error e => simp [bind, Except.bind]
  | ok target =>
    cases hg : t.get? target.location <;> simp [hg, bind, Except.bind, eq_comm]

/-- Making a directory takes nothing away. -/
theorem addsDirs_makeDir (h : t.makeDir cwd path = .ok t') : t.AddsDirs t' := by
  obtain ⟨target, -, hfree, rfl⟩ := makeDir_eq_ok_iff.1 h
  have hroot : target.location ≠ [] := ne_root (t := t) (by simp [hfree])
  refine ⟨fun there node hnode => ?_, fun there hnone => ?_⟩
  · have hne : there ≠ target.location := by
      rintro rfl
      rw [hfree] at hnode
      cases hnode
    rw [agreesBut_set hroot .dir there hne, hnode]
  · rw [get?_set _ _ _ _ hroot]
    split
    · exact .inr rfl
    · exact .inl hnone

/-- Making directories takes nothing away, even when it fails. -/
theorem addsDirs_makeDirs (t : FileTree links) (cwd : Location) (path : String) :
    t.AddsDirs (t.makeDirs cwd path).1 := by
  unfold makeDirs
  generalize path.utf8ByteSize = fuel
  fun_induction makeDirs.go t cwd fuel path with
  | case1 | case7 | case8 | case9 => exact .refl t
  | case2 _ _ _ made hmake => exact addsDirs_makeDir hmake
  -- the directories above cannot be made, or all the same this one cannot
  | case3 _ _ _ _ _ _ _ _ habove ih | case5 _ _ _ _ _ _ _ habove _ _ _ ih
  | case6 _ _ _ _ _ _ _ habove _ _ _ ih =>
    rw [habove] at ih
    exact ih
  | case4 _ _ _ _ _ _ _ habove _ hmake ih =>
    rw [habove] at ih
    exact ih.trans (addsDirs_makeDir hmake)

/-! ## Trees without links -/

section Unlinked

variable {t t' : FileTree} {node : Node}

theorem lookup_eq_ok_iff :
    t.lookup cwd path = .ok node ↔
      ∃ target, t.locate cwd path = .ok target ∧ t.get? target.location = some node ∧
        (target.slashed = true → node = .dir) := by
  rw [lookup, bind_eq_ok_iff]
  refine exists_congr fun target => and_congr_right fun _ => ?_
  cases t.get? target.location with
  | none => simp
  | some found =>
    cases found with
    | dir => simp +contextual
    | file content => cases target.slashed <;> simp +contextual [eq_comm]
    | link allowed | shared allowed => contradiction

theorem removeFile_eq_ok_iff :
    t.removeFile cwd path = .ok t' ↔
      ∃ here content, t.locate cwd path = .ok ⟨here, false⟩ ∧ t.get? here = some (.file content) ∧
        t' = t.erase here := by
  simp only [removeFile_eq_ok_iff_erase, locate_unlinked]
  constructor
  · rintro ⟨here, node, hl, hnode, hdir, rfl⟩
    cases node with
    | file content => exact ⟨here, content, hl, hnode, rfl⟩
    | dir => exact absurd rfl hdir
    | link allowed | shared allowed => contradiction
  · rintro ⟨here, content, hl, hnode, rfl⟩
    exact ⟨here, .file content, hl, hnode, by simp, rfl⟩

end Unlinked

end FileTree

end DexTrail
