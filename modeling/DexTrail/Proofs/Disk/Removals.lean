-- SUMMARY: A tree without the files that paths lead to, and what stands in the way of a removal.
import DexTrail.Proofs.Disk.Effects

/-!
# Removals

Removing files keeps the directories, so a path leads to the same file whichever files were
removed before, unless it was that file. So what is removed one after another is what the paths
lead to at the start: a removal leaves the tree without the file of its path
(`FileTree.removeFile_cases`), and taking some files and then others takes them all
(`FileTree.without_without`).
-/

namespace DexTrail.FileTree

variable {t t' : FileTree} {cwd here there : Location} {path : String} {paths : List String}

/-! ## The file of a path -/

/-- The place of the file that a path leads to. -/
def fileAt? (t : FileTree) (cwd : Location) (path : String) : Option Location :=
  match t.locate cwd path with
  | .ok ⟨here, false⟩ =>
    match t.get? here with
    | some (.file _) => some here
    | _ => none
  | _ => none

theorem fileAt?_eq_some_iff :
    t.fileAt? cwd path = some here ↔
      ∃ content, t.locate cwd path = .ok ⟨here, false⟩ ∧ t.get? here = some (.file content) := by
  unfold fileAt?
  constructor
  · intro h
    split at h
    · next place hlocate =>
      split at h
      · next content hcontent =>
        cases h
        exact ⟨content, hlocate, hcontent⟩
      · cases h
    · cases h
  · rintro ⟨content, hlocate, hcontent⟩
    simp only [hlocate, hcontent]

theorem not_dir_of_fileAt? (h : t.fileAt? cwd path = some here) : t.get? here ≠ some .dir := by
  obtain ⟨content, -, hcontent⟩ := fileAt?_eq_some_iff.1 h
  simp [hcontent]

theorem removeFile_iff_fileAt? :
    t.removeFile cwd path = .ok t' ↔
      ∃ here, t.fileAt? cwd path = some here ∧ t' = t.erase here := by
  simp only [removeFile_eq_ok_iff, fileAt?_eq_some_iff]
  constructor
  · rintro ⟨here, content, hlocate, hcontent, ht'⟩
    exact ⟨here, ⟨content, hlocate, hcontent⟩, ht'⟩
  · rintro ⟨here, ⟨content, hlocate, hcontent⟩, ht'⟩
    exact ⟨here, content, hlocate, hcontent, ht'⟩

/-- What a path leads to is its file or a directory. -/
theorem pathExists_iff :
    t.pathExists cwd path = true ↔
      (∃ here, t.fileAt? cwd path = some here) ∨ t.lookup cwd path = .ok .dir := by
  unfold pathExists
  constructor
  · intro h
    cases hlookup : t.lookup cwd path with
    | error e =>
      rw [hlookup] at h
      cases h
    | ok node =>
      cases node with
      | dir => exact .inr rfl
      | file content =>
        obtain ⟨⟨here, slashed⟩, hlocate, hcontent, hslashed⟩ := lookup_eq_ok_iff.1 hlookup
        cases slashed with
        | true => cases hslashed rfl
        | false => exact .inl ⟨here, fileAt?_eq_some_iff.2 ⟨content, hlocate, hcontent⟩⟩
      | link allowed | shared allowed => contradiction
  · rintro (⟨here, hfile⟩ | hdir)
    · obtain ⟨content, hlocate, hcontent⟩ := fileAt?_eq_some_iff.1 hfile
      have hlookup : t.lookup cwd path = .ok (.file content) :=
        lookup_eq_ok_iff.2 ⟨⟨here, false⟩, hlocate, hcontent, (absurd · Bool.false_ne_true)⟩
      simp [hlookup, Except.isOk, Except.toBool]
    · simp [hdir, Except.isOk, Except.toBool]

/-! ## Refusals -/

/-- The path cannot be removed, for another reason than that nothing is there. -/
def Refuses (t : FileTree) (cwd : Location) (path : String) : Prop :=
  ∃ e, t.removeFile cwd path = .error e ∧ e ≠ .notFound

theorem refuses_of_dir (h : t.lookup cwd path = .ok .dir) : t.Refuses cwd path := by
  obtain ⟨target, hlocate, hdir, -⟩ := lookup_eq_ok_iff.1 h
  refine ⟨.isADirectory, ?_, by decide⟩
  simp [removeFile, locate_unlinked, hlocate, hdir, bind, Except.bind]

theorem not_refuses_of_fileAt? (h : t.fileAt? cwd path = some here) : ¬t.Refuses cwd path := by
  rintro ⟨e, hremove, -⟩
  rw [removeFile_iff_fileAt?.2 ⟨here, h, rfl⟩] at hremove
  cases hremove

/-! ## The tree without some files -/

/-- The places of the files that paths lead to. -/
def filesAt (t : FileTree) (cwd : Location) (paths : List String) : List Location :=
  paths.filterMap (t.fileAt? cwd)

/-- The tree without the files that paths lead to. -/
def without (t : FileTree) (cwd : Location) (paths : List String) : FileTree :=
  ⟨t.nodes.filter fun here _ => decide (here ∉ t.filesAt cwd paths)⟩

theorem mem_filesAt : here ∈ t.filesAt cwd paths ↔ ∃ path ∈ paths, t.fileAt? cwd path = some here :=
  List.mem_filterMap

theorem nodes_without (t : FileTree) (cwd : Location) (paths : List String) (here : Location) :
    (t.without cwd paths).nodes.get? here =
      if here ∈ t.filesAt cwd paths then none else t.nodes.get? here := by
  rw [without, SortedMap.get?_filter]
  split
  · next h => cases t.nodes.get? here <;> simp [Option.filter, h]
  · next h => cases t.nodes.get? here <;> simp [Option.filter, h]

theorem get?_without (t : FileTree) (cwd : Location) (paths : List String) (here : Location) :
    (t.without cwd paths).get? here =
      if here ∈ t.filesAt cwd paths then none else t.get? here := by
  by_cases hroot : here = []
  · subst hroot
    rw [if_neg]
    · rfl
    · intro hmem
      obtain ⟨path, -, hfile⟩ := mem_filesAt.1 hmem
      exact not_dir_of_fileAt? hfile rfl
  · rw [get?, get?, if_neg hroot, if_neg hroot, nodes_without]

theorem sameDirs_without (t : FileTree) (cwd : Location) (paths : List String) :
    t.SameDirs (t.without cwd paths) := by
  intro here
  rw [get?_without]
  split
  · next h =>
    obtain ⟨path, -, hfile⟩ := mem_filesAt.1 h
    simp [not_dir_of_fileAt? hfile]
  · rfl

/-- A file is found where it was found, unless it is one of those that were taken. -/
theorem fileAt?_without :
    (t.without cwd paths).fileAt? cwd path = some here ↔
      t.fileAt? cwd path = some here ∧ here ∉ t.filesAt cwd paths := by
  constructor
  · intro h
    obtain ⟨content, hlocate, hcontent⟩ := fileAt?_eq_some_iff.1 h
    rw [get?_without] at hcontent
    split at hcontent
    · cases hcontent
    · next hkept =>
      refine ⟨fileAt?_eq_some_iff.2 ⟨content, ?_, hcontent⟩, hkept⟩
      exact (sameDirs_without t cwd paths).locate_iff.2 hlocate
  · rintro ⟨hfile, hkept⟩
    obtain ⟨content, hlocate, hcontent⟩ := fileAt?_eq_some_iff.1 hfile
    refine fileAt?_eq_some_iff.2 ⟨content, ?_, ?_⟩
    · exact (sameDirs_without t cwd paths).locate_iff.1 hlocate
    · rw [get?_without, if_neg hkept, hcontent]

theorem mem_filesAt_without {after : List String} :
    here ∈ (t.without cwd paths).filesAt cwd after ↔
      here ∈ t.filesAt cwd after ∧ here ∉ t.filesAt cwd paths := by
  simp only [mem_filesAt, fileAt?_without]
  constructor
  · rintro ⟨path, hmem, hfile, hkept⟩
    exact ⟨⟨path, hmem, hfile⟩, hkept⟩
  · rintro ⟨⟨path, hmem, hfile⟩, hkept⟩
    exact ⟨path, hmem, hfile, hkept⟩

theorem ext_nodes (h : ∀ here, t.nodes.get? here = t'.nodes.get? here) : t = t' := by
  cases t
  cases t'
  exact congrArg FileTree.mk (SortedMap.ext h)

/-- Nothing is taken where no path leads to a file. -/
theorem without_eq_self (h : t.filesAt cwd paths = []) : t.without cwd paths = t := by
  apply ext_nodes
  intro here
  rw [nodes_without, h, if_neg List.not_mem_nil]

/-- Taking some files and then others takes them all. -/
theorem without_without (t : FileTree) (cwd : Location) (before after : List String) :
    (t.without cwd before).without cwd after = t.without cwd (before ++ after) := by
  have happend (here : Location) :
      here ∈ t.filesAt cwd (before ++ after) ↔
        here ∈ t.filesAt cwd before ∨ here ∈ t.filesAt cwd after := by
    rw [filesAt, List.filterMap_append, List.mem_append, ← filesAt, ← filesAt]
  apply ext_nodes
  intro here
  simp only [nodes_without, mem_filesAt_without, happend]
  by_cases hbefore : here ∈ t.filesAt cwd before
  · simp [hbefore]
  · simp [hbefore]

/-- A removal takes the file of its path, finds nothing, or is refused. -/
theorem removeFile_cases (t : FileTree) (cwd : Location) (path : String) :
    t.removeFile cwd path = .ok (t.without cwd [path]) ∨
      (t.removeFile cwd path = .error .notFound ∧ t.without cwd [path] = t) ∨
      t.Refuses cwd path := by
  cases hfile : t.fileAt? cwd path with
  | some here =>
    have htaken : t.erase here = t.without cwd [path] := by
      apply ext_nodes
      intro there
      simp [nodes_without, filesAt, hfile, erase, SortedMap.get?_erase]
    rw [removeFile_iff_fileAt?.2 ⟨here, hfile, htaken.symm⟩]
    exact .inl rfl
  | none =>
    cases hremove : t.removeFile cwd path with
    | ok t' =>
      obtain ⟨here, hsome, -⟩ := removeFile_iff_fileAt?.1 hremove
      rw [hfile] at hsome
      cases hsome
    | error e =>
      by_cases he : e = .notFound
      · have hnone : t.filesAt cwd [path] = [] := by simp [filesAt, hfile]
        exact .inr (.inl ⟨congrArg Except.error he, without_eq_self hnone⟩)
      · exact .inr (.inr ⟨e, hremove, he⟩)

/-- A path leads to nothing once its file was taken, unless it cannot be removed. -/
theorem pathExists_without (hmem : path ∈ paths) (hremove : ¬t.Refuses cwd path) :
    (t.without cwd paths).pathExists cwd path = false := by
  apply Bool.eq_false_iff.2
  intro hexists
  rcases pathExists_iff.1 hexists with ⟨here, hfile⟩ | hdir
  · obtain ⟨hfile, hkept⟩ := fileAt?_without.1 hfile
    exact hkept (mem_filesAt.2 ⟨path, hmem, hfile⟩)
  · obtain ⟨target, hlocate, hget, hslashed⟩ := lookup_eq_ok_iff.1 hdir
    have hsame : (t.without cwd paths).SameDirs t := (sameDirs_without t cwd paths).symm
    apply hremove
    apply refuses_of_dir
    exact lookup_eq_ok_iff.2
      ⟨target, hsame.locate_iff.1 hlocate, (hsame target.location).1 hget, hslashed⟩

end DexTrail.FileTree
