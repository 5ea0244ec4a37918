-- SUMMARY: Writing the ledger's file replaces it as a whole or leaves what was there, whichever step fails.
import DexTrail.Proofs.Disk.Effects
import DexTrail.Proofs.Disk.Neighbours
import DexTrail.Usage.LedgerFile
import Mathlib.Logic.Relation

/-!
# Atomic writes

The ledger's file is written in five steps: the directories above it are made, a temporary file
beside it is created, the document is written into that and synchronised, and the temporary file
is given the file's name. The tree can refuse a step, and so can the device that holds it, for
reasons that no tree shows. `LedgerFile.Ends` lists how a write can end. Only the last step
touches the file: before it nothing changes but the temporary file, which is elsewhere, and
directories are added (`LedgerFile.IsKept`).

The temporary file is created like any other, so a symbolic link in its place is followed and
another name of the same file is written as well. Where links come into the way
(`LedgerFile.IsClear` fails), what is replaced is another file
(`LedgerFile.overwritten_throughLink`).
-/

namespace DexTrail

variable {links : Bool}

/-- A file can be put, or is already, at the path itself. -/
def FileTree.Takes (t : FileTree links) (cwd : Location) (path : String) : Prop :=
  ∃ here, t.locate cwd path false = .ok ⟨here, false⟩ ∧ t.get? here ≠ some .dir

/-- Nothing stands at the path itself, not even a link that leads nowhere. -/
def FileTree.IsFree (t : FileTree links) (cwd : Location) (path : String) : Prop :=
  ∃ here, t.locate cwd path false = .ok ⟨here, false⟩ ∧ t.get? here = none

namespace LedgerFile

variable {f : LedgerFile} {l : Ledger} {t t' made written left placed : FileTree links} {ok : Bool}
  {aside place : Location}

theorem isNameSuffix_temporary : IsNameSuffix ".tmp" where
  noSlash := by decide
  long := by decide

/-! ## How a write can end -/

/-- How a write can end: with the tree that is left and whether it succeeds. The device may
refuse every step that the tree allows; of renaming, that it is done or has no effect is all that
is assumed. -/
inductive Ends (f : LedgerFile) (l : Ledger) (t : FileTree links) :
    FileTree links → Bool → Prop where
  /-- A directory above the file cannot be made. Those down to `reached` are there. -/
  | unreached {reached : String}
      (habove : Relation.TransGen (fun dir up => Path.parent? dir = some up) f.path reached) :
      f.Ends l t (t.makeDirs f.cwd reached).1 false
  /-- The temporary file cannot be created. -/
  | uncreated {made : FileTree links} (hmade : f.makeParent t = (made, .ok ())) :
      f.Ends l t made false
  /-- The document is not written whole, or not synchronised. What was written stays. -/
  | unwritten {made written : FileTree links} {size : Nat} (hmade : f.makeParent t = (made, .ok ()))
      (hwritten : made.writeFile f.cwd f.temporary
        ((LedgerDocument.write l).toUTF8.extract 0 size) = .ok written) :
      f.Ends l t written false
  /-- The temporary file cannot be renamed, and is removed. -/
  | unplaced {made written left : FileTree links} (hmade : f.makeParent t = (made, .ok ()))
      (hwritten : made.writeFile f.cwd f.temporary (LedgerDocument.write l).toUTF8 = .ok written)
      (hleft : written.removeFile f.cwd f.temporary = .ok left) : f.Ends l t left false
  /-- The temporary file can be neither renamed nor removed. -/
  | stuck {made written : FileTree links} (hmade : f.makeParent t = (made, .ok ()))
      (hwritten : made.writeFile f.cwd f.temporary (LedgerDocument.write l).toUTF8 = .ok written) :
      f.Ends l t written false
  /-- The temporary file has the file's name. -/
  | replaced {made written placed : FileTree links} (hmade : f.makeParent t = (made, .ok ()))
      (hwritten : made.writeFile f.cwd f.temporary (LedgerDocument.write l).toUTF8 = .ok written)
      (hplaced : written.renameFile f.cwd f.temporary f.path = .ok placed) : f.Ends l t placed true

/-- The ends that the tree alone decides are among them. -/
theorem ends_write (f : LedgerFile) (l : Ledger) (t : FileTree links) :
    f.Ends l t (f.write l t).1 (f.write l t).2 := by
  unfold write
  split
  · next made e hmade =>
    unfold makeParent at hmade
    split at hmade
    · cases hmade
    · next parent hparent =>
      have hup : Path.parent? f.path = some parent := (Option.filter_eq_some_iff.1 hparent).1
      have hends := Ends.unreached (l := l) (t := t) (.single hup)
      rw [hmade] at hends
      exact hends
  · next made hmade =>
    split
    · exact .uncreated hmade
    · next written hwritten =>
      split
      · next placed hplaced => exact .replaced hmade hwritten hplaced
      · split
        · next left hleft => exact .unplaced hmade hwritten hleft
        · exact .stuck hmade hwritten

/-! ## Links in the way -/

/-- No link makes another file of the file or of the temporary one. The file may itself be a
symbolic link, to another file than the temporary one and on the way to neither of them. -/
structure IsClear (f : LedgerFile) (t : FileTree links) : Prop where
  /-- The temporary file is no symbolic link, and has no other name. -/
  temporary : ∀ here, t.locate f.cwd f.temporary false = .ok ⟨here, false⟩ →
    t.linkAt? here = none ∧ t.IsAlone here
  /-- The path does not lead to the temporary file. -/
  apart : ∀ here, t.locate f.cwd f.temporary false = .ok ⟨here, false⟩ →
    t.locate f.cwd f.path ≠ .ok ⟨here, false⟩
  /-- Without a link that stands at the path, both paths lead where they lead. -/
  path : ∀ here, t.locate f.cwd f.path false = .ok ⟨here, false⟩ → t.linkAt? here ≠ none →
    ∀ path ∈ [f.path, f.temporary],
      (t.erase here).locate f.cwd path false = t.locate f.cwd path false

/-- Nothing is in the way in a tree without links. -/
theorem isClear_unlinked (f : LedgerFile) (t : FileTree) : f.IsClear t where
  temporary here _ :=
    ⟨t.linkAt?_unlinked here, FileTree.isAlone_of_numberAt? (t.numberAt?_unlinked here)⟩
  apart here haside hpath := by
    rw [← FileTree.locate_unlinked _ _ _ false] at hpath
    exact FileTree.location_ne_of_withSuffix isNameSuffix_temporary hpath haside rfl
  path here _ hlink := absurd (t.linkAt?_unlinked here) hlink

/-- What stands at the path is on the way to neither file. -/
theorem IsClear.locate_erase (h : f.IsClear t)
    (hplace : t.locate f.cwd f.path false = .ok ⟨place, false⟩) (hdir : t.get? place ≠ some .dir)
    {path : String} (hpath : path ∈ [f.path, f.temporary]) {target : FileTree.Target}
    (hl : t.locate f.cwd path false = .ok target) :
    (t.erase place).locate f.cwd path false = .ok target := by
  by_cases hlink : t.linkAt? place = none
  · have hfree : (t.erase place).get? place = none := by
      rw [FileTree.get?_erase _ _ _ (FileTree.ne_root hdir), if_pos rfl]
    exact ((FileTree.agreesBut_erase (FileTree.ne_root hdir)).locate_iff ⟨hdir, hlink⟩
      (FileTree.isEnd_of_none hfree)).1 hl
  · rw [h.path place hplace hlink path hpath, hl]

/-- Something is written into the temporary file and nowhere else. -/
theorem IsClear.exists_aside (h : f.IsClear made) {content : ByteArray}
    (hwritten : made.writeFile f.cwd f.temporary content = .ok written) :
    ∃ aside, made.locate f.cwd f.temporary false = .ok ⟨aside, false⟩ ∧ made.IsEnd aside ∧
      made.AgreesBut aside written ∧ written.contentAt? aside = some content ∧
      written.IsAlone aside := by
  obtain ⟨aside, hlocate, hdir, hlink, rfl⟩ := FileTree.writeFile_eq_ok_iff_put.1 hwritten
  have haside : made.locate f.cwd f.temporary false = .ok ⟨aside, false⟩ :=
    (FileTree.locate_iff_of_not_link fun here hl => (h.temporary here hl).1).1 hlocate
  have halone : made.IsAlone aside := (h.temporary aside haside).2
  exact ⟨aside, haside, ⟨hdir, hlink⟩, FileTree.agreesBut_put hdir halone content,
    FileTree.contentAt?_put hdir content, FileTree.isAlone_put hdir halone content⟩

/-! ## What is kept -/

theorem addsDirs_makeParent (hmade : f.makeParent t = (made, .ok ())) : t.AddsDirs made := by
  unfold makeParent at hmade
  split at hmade
  · cases hmade
    exact .refl t
  · next parent _ =>
    have hadds := t.addsDirs_makeDirs f.cwd parent
    rw [hmade] at hadds
    exact hadds

/-- The path leads to what it led to, and all else stands but a temporary file. -/
structure IsKept (f : LedgerFile) (t t' : FileTree links) : Prop where
  path : ∀ node, t.lookup f.cwd f.path = .ok node → t'.lookup f.cwd f.path = .ok node
  rest : ∀ here node, t.get? here = some node →
    t'.get? here = some node ∨ node ≠ .dir ∧ t'.locate f.cwd f.temporary false = .ok ⟨here, false⟩

theorem isKept_of_added (h : t.AddsDirs t') : f.IsKept t t' where
  path _ := h.lookup
  rest here node hnode := .inl (h.kept here node hnode)

/-- When directories are added, and then something happens to the temporary file, the file is
kept. -/
theorem isKept_of_aside (hadded : t.AddsDirs made) (hclear : f.IsClear made)
    (haside : made.locate f.cwd f.temporary false = .ok ⟨aside, false⟩) (hend : made.IsEnd aside)
    (hagrees : made.AgreesBut aside t') (hend' : t'.IsEnd aside) : f.IsKept t t' where
  path node hnode :=
    hagrees.lookup hend hend' (hadded.lookup hnode) (hclear.apart aside haside)
  rest here node hnode := by
    have hnode : made.get? here = some node := hadded.kept here node hnode
    by_cases hhere : here = aside
    · subst hhere
      refine .inr ⟨?_, (hagrees.locate_iff hend hend').1 haside⟩
      rintro rfl
      exact hend.noDir hnode
    · exact .inl ((hagrees here hhere).trans hnode)

theorem Ends.isKept (hclear : f.IsClear (f.makeParent t).1) (h : f.Ends l t t' false) :
    f.IsKept t t' := by
  cases h with
  | unreached _ => exact isKept_of_added (t.addsDirs_makeDirs f.cwd _)
  | uncreated hmade => exact isKept_of_added (addsDirs_makeParent hmade)
  | unwritten hmade hwritten | stuck hmade hwritten =>
    rw [hmade] at hclear
    obtain ⟨aside, haside, hend, hagrees, hcontent, -⟩ := hclear.exists_aside hwritten
    exact isKept_of_aside (addsDirs_makeParent hmade) hclear haside hend hagrees
      (FileTree.isEnd_of_content hcontent)
  | @unplaced made written _ hmade hwritten hleft =>
    rw [hmade] at hclear
    obtain ⟨aside, haside, hend, hagrees, hcontent, -⟩ := hclear.exists_aside hwritten
    have hend' := FileTree.isEnd_of_content hcontent
    obtain ⟨gone, _, hgone, -, -, rfl⟩ := FileTree.removeFile_eq_ok_iff_erase.1 hleft
    -- what is removed is the temporary file again
    rw [← hagrees.locate_iff hend hend', haside] at hgone
    cases hgone
    have hfree : (written.erase aside).get? aside = none := by
      rw [FileTree.get?_erase _ _ _ hend.ne_root, if_pos rfl]
    exact isKept_of_aside (addsDirs_makeParent hmade) hclear haside hend
      (hagrees.trans (FileTree.agreesBut_erase hend.ne_root)) (FileTree.isEnd_of_none hfree)

/-! ## What is replaced -/

/-- The temporary file takes the place of the file. -/
structure IsMoved (f : LedgerFile) (made placed : FileTree links) (aside place : Location)
    (content : ByteArray) : Prop where
  asideEnd : made.IsEnd aside
  noDir : made.get? place ≠ some .dir
  locate_aside : made.locate f.cwd f.temporary false = .ok ⟨aside, false⟩
  locate_place : made.locate f.cwd f.path false = .ok ⟨place, false⟩
  gone : placed.get? aside = none
  content : placed.contentAt? place = some content
  rest : ∀ here, here ≠ aside → here ≠ place → placed.get? here = made.get? here

theorem IsClear.exists_isMoved (h : f.IsClear made) {content : ByteArray}
    (hwritten : made.writeFile f.cwd f.temporary content = .ok written)
    (hplaced : written.renameFile f.cwd f.temporary f.path = .ok placed) :
    ∃ aside place, f.IsMoved made placed aside place content := by
  obtain ⟨aside, haside, hend, hagrees, hcontent, halone⟩ := h.exists_aside hwritten
  have hend' := FileTree.isEnd_of_content hcontent
  obtain ⟨origin, place, node, horigin, hnode, -, hplace, hdir, hmoved⟩ :=
    FileTree.renameFile_eq_ok_iff_moved.1 hplaced
  -- what is renamed is the temporary file
  rw [← hagrees.locate_iff hend hend', haside] at horigin
  cases horigin
  have hne : place ≠ aside :=
    FileTree.location_ne_of_withSuffix isNameSuffix_temporary hplace
      ((hagrees.locate_iff hend hend').1 haside)
  have hother : written.isSameFile aside place = false :=
    Bool.eq_false_iff.2 fun hsame => hne (halone place hsame)
  rw [hother, if_neg Bool.false_ne_true] at hmoved
  have hset := FileTree.agreesBut_set (t := written) (FileTree.ne_root hdir) node
  have herased : (written.set place node).AgreesBut aside placed := by
    rw [hmoved]
    exact FileTree.agreesBut_erase hend.ne_root
  refine ⟨aside, place, hend, ?_, haside, (hagrees.locate_iff hend hend').2 hplace, ?_, ?_, ?_⟩
  · rwa [← hagrees place hne]
  · rw [hmoved, FileTree.get?_erase _ _ _ hend.ne_root, if_pos rfl]
  · rw [FileTree.contentAt?, herased place hne,
      FileTree.get?_set _ _ _ _ (FileTree.ne_root hdir), if_pos rfl, ← hnode]
    exact hcontent
  · intro here haway hplaceAway
    rw [herased here haway, hset here hplaceAway, hagrees here haway]

/-- The ways that did not go over what stood at the path are as before. -/
theorem IsMoved.keepsWays {content : ByteArray} (h : f.IsMoved made placed aside place content) :
    (made.erase place).KeepsWays placed := by
  have hroot : place ≠ [] := FileTree.ne_root h.noDir
  have hendPlaced : placed.IsEnd place := FileTree.isEnd_of_content h.content
  have hne : aside ≠ place := by
    rintro rfl
    have hcontent := h.content
    rw [FileTree.contentAt?, h.gone] at hcontent
    cases hcontent
  have hbefore := FileTree.agreesBut_erase (t := made) hroot
  have hafter := FileTree.agreesBut_erase (t := placed) hroot
  have hagrees : (made.erase place).AgreesBut aside (placed.erase place) := by
    intro there haway
    by_cases hthere : there = place
    · rw [hthere, FileTree.get?_erase _ _ _ hroot, FileTree.get?_erase _ _ _ hroot, if_pos rfl,
        if_pos rfl]
    · rw [hafter there hthere, hbefore there hthere, h.rest there haway hthere]
  have hfree : (placed.erase place).get? place = none := by
    rw [FileTree.get?_erase _ _ _ hroot, if_pos rfl]
  have hgone : (placed.erase place).get? aside = none := by
    rw [hafter aside hne, h.gone]
  exact (hagrees.keepsWays (hbefore.isEnd hne h.asideEnd) (FileTree.isEnd_of_none hgone)).trans
    (hafter.symm.keepsWays (FileTree.isEnd_of_none hfree) hendPlaced)

/-- The file is written and the temporary file is gone. All else stands, and no directory has
given way. -/
structure IsReplaced (f : LedgerFile) (l : Ledger) (t t' : FileTree links) : Prop where
  path : t'.read f.cwd f.path = .ok (LedgerDocument.write l).toUTF8
  temporary : t'.IsFree f.cwd f.temporary
  rest : ∀ here node, t.get? here = some node →
    t'.get? here = some node ∨ node ≠ .dir ∧
      (t'.locate f.cwd f.temporary false = .ok ⟨here, false⟩ ∨
        t'.locate f.cwd f.path false = .ok ⟨here, false⟩)

theorem Ends.isReplaced (hclear : f.IsClear (f.makeParent t).1) (h : f.Ends l t t' true) :
    f.IsReplaced l t t' := by
  cases h with
  | @replaced made _ _ hmade hwritten hplaced =>
    rw [hmade] at hclear
    obtain ⟨aside, place, hmoved⟩ := hclear.exists_isMoved hwritten hplaced
    have hplace : t'.locate f.cwd f.path false = .ok ⟨place, false⟩ :=
      hmoved.keepsWays.locate (hclear.locate_erase hmoved.locate_place hmoved.noDir
        (List.mem_cons_self ..) hmoved.locate_place)
    have haside : t'.locate f.cwd f.temporary false = .ok ⟨aside, false⟩ :=
      hmoved.keepsWays.locate (hclear.locate_erase hmoved.locate_place hmoved.noDir
        (List.mem_cons_of_mem _ (List.mem_cons_self ..)) hmoved.locate_aside)
    refine ⟨?_, ?_, ?_⟩
    · refine FileTree.read_eq_ok_iff_contentAt?.2 ⟨place, ?_, hmoved.content⟩
      exact FileTree.locate_of_not_link hplace (FileTree.isEnd_of_content hmoved.content).noLink
    · exact ⟨aside, haside, hmoved.gone⟩
    · intro here node hnode
      have hnode : made.get? here = some node := (addsDirs_makeParent hmade).kept here node hnode
      by_cases haway : here = aside
      · subst haway
        refine .inr ⟨?_, .inl haside⟩
        rintro rfl
        exact hmoved.asideEnd.noDir hnode
      · by_cases hthere : here = place
        · subst hthere
          refine .inr ⟨?_, .inr hplace⟩
          rintro rfl
          exact hmoved.noDir hnode
        · exact .inl ((hmoved.rest here haway hthere).trans hnode)

/-- A write succeeds exactly when the directories above the file are there or can be made, and
neither at the path nor at the temporary one a directory is in the way. -/
theorem write_eq_true_iff (hclear : f.IsClear (f.makeParent t).1) :
    (f.write l t).2 = true ↔
      ∃ made, f.makeParent t = (made, .ok ()) ∧ made.Takes f.cwd f.temporary ∧
        made.Takes f.cwd f.path := by
  constructor
  · intro hok
    have hends := f.ends_write l t
    rw [hok] at hends
    generalize (f.write l t).1 = left at hends
    cases hends with
    | @replaced made _ _ hmade hwritten hplaced =>
      rw [hmade] at hclear
      obtain ⟨aside, place, hmoved⟩ := hclear.exists_isMoved hwritten hplaced
      exact ⟨made, hmade, ⟨aside, hmoved.locate_aside, hmoved.asideEnd.noDir⟩, place,
        hmoved.locate_place, hmoved.noDir⟩
  · rintro ⟨made, hmade, ⟨aside, haside, hdir⟩, place, hplace, hnodir⟩
    rw [hmade] at hclear
    have hwritten : made.writeFile f.cwd f.temporary (LedgerDocument.write l).toUTF8 =
        .ok (made.put aside (LedgerDocument.write l).toUTF8) := by
      apply FileTree.writeFile_eq_ok_iff_put.2
      have hlocate := (FileTree.locate_iff_of_not_link fun here hl =>
        (hclear.temporary here hl).1).2 haside
      exact ⟨aside, hlocate, hdir, (hclear.temporary aside haside).1, rfl⟩
    obtain ⟨_, haside', hend, hagrees, hcontent, -⟩ := hclear.exists_aside hwritten
    rw [haside] at haside'
    cases haside'
    have hend' := FileTree.isEnd_of_content hcontent
    have hne : place ≠ aside :=
      FileTree.location_ne_of_withSuffix isNameSuffix_temporary hplace haside
    obtain ⟨node, hnode, -⟩ := Option.bind_eq_some_iff.1 hcontent
    obtain ⟨placed, hplaced⟩ : ∃ placed, (made.put aside (LedgerDocument.write l).toUTF8).renameFile
        f.cwd f.temporary f.path = .ok placed := by
      refine ⟨_, FileTree.renameFile_eq_ok_iff_moved.2 ⟨aside, place, node, ?_, hnode, ?_, ?_, ?_,
        rfl⟩⟩
      · exact (hagrees.locate_iff hend hend').1 haside
      · rintro rfl
        exact hend'.noDir hnode
      · exact (hagrees.locate_iff hend hend').1 hplace
      · rwa [hagrees place hne]
    simp only [write, hmade, hwritten, hplaced]

/-- Whatever fails on the way, a write ends in one of two ways, unless links are in the way of
the file or of the temporary one. It succeeds, and then the path holds the document of the ledger
and there is no temporary file; or it fails, and then the path leads to what it led to before.
Either way whatever was there before is there unchanged, but for a file at the temporary path and,
after a success, one at the path. As far as the tree decides, a write succeeds exactly when the
directories above the file can be made and no directory is in its place or in that of the
temporary file. -/
theorem replaced_or_kept (f : LedgerFile) (l : Ledger) (t : FileTree links)
    (hclear : f.IsClear (f.makeParent t).1) :
    f.Ends l t (f.write l t).1 (f.write l t).2 ∧
    ((f.write l t).2 = true ↔
      ∃ made, f.makeParent t = (made, .ok ()) ∧ made.Takes f.cwd f.temporary ∧
        made.Takes f.cwd f.path) ∧
    ∀ t' ok, f.Ends l t t' ok →
      (ok = true →
        t'.read f.cwd f.path = .ok (LedgerDocument.write l).toUTF8 ∧
        t'.IsFree f.cwd f.temporary) ∧
      (ok = false → ∀ node,
        t.lookup f.cwd f.path = .ok node → t'.lookup f.cwd f.path = .ok node) ∧
      ∀ here node, t.get? here = some node →
        t'.get? here = some node ∨
        node ≠ .dir ∧
          (t'.locate f.cwd f.temporary false = .ok ⟨here, false⟩ ∨
            ok = true ∧ t'.locate f.cwd f.path false = .ok ⟨here, false⟩) := by
  refine ⟨f.ends_write l t, write_eq_true_iff hclear, ?_⟩
  intro t' ok hends
  cases ok with
  | true =>
    obtain ⟨hpath, htemporary, hrest⟩ := hends.isReplaced hclear
    refine ⟨fun _ => ⟨hpath, htemporary⟩, (absurd · Bool.false_ne_true.symm), ?_⟩
    intro here node hnode
    rcases hrest here node hnode with hsame | ⟨hnodir, haside | hplace⟩
    · exact .inl hsame
    · exact .inr ⟨hnodir, .inl haside⟩
    · exact .inr ⟨hnodir, .inr ⟨rfl, hplace⟩⟩
  | false =>
    obtain ⟨hpath, hrest⟩ := hends.isKept hclear
    refine ⟨(absurd · Bool.false_ne_true), fun _ => hpath, ?_⟩
    intro here node hnode
    rcases hrest here node hnode with hsame | ⟨hnodir, haside⟩
    · exact .inl hsame
    · exact .inr ⟨hnodir, .inl haside⟩

/-- The path of the ledger's file is a symbolic link to a file in another directory. -/
def storedElsewhere : FileTree true :=
  ⟨.ofList [(["usage.json"], .link rfl "store/ledger"), (["store"], .dir),
    (["store", "ledger"], .file "old".toUTF8)]⟩

/-- When only three bytes of the document can be written, the link still leads to the old
document. -/
theorem kept_shortWrite :
    let file : LedgerFile := ⟨"usage.json", []⟩
    let short := (LedgerDocument.write .empty).toUTF8.extract 0 3
    let left := storedElsewhere.set ["usage.json.tmp"] (.file short)
    file.IsClear (file.makeParent storedElsewhere).1 ∧ file.Ends .empty storedElsewhere left false ∧
      left.lookup [] "usage.json" = .ok (.file "old".toUTF8) ∧
      left.get? ["usage.json.tmp"] = some (.file short) := by
  intro file short left
  have hname : file.temporary = "usage.json.tmp" := by decide
  have hfits := FileTree.fits_of_notMem "usage.json" (by decide) (by decide)
  have hfits' := FileTree.fits_of_notMem "usage.json.tmp" (by decide) (by decide)
  have hplace : storedElsewhere.locate [] "usage.json" false = .ok ⟨["usage.json"], false⟩ :=
    FileTree.locate_eq_ok_iff.2 ⟨hfits, by decide, [], ["usage.json"], rfl, rfl, rfl⟩
  have hpath : storedElsewhere.locate [] "usage.json" = .ok ⟨["store", "ledger"], false⟩ :=
    FileTree.locate_eq_ok_iff.2 ⟨hfits, by decide, [], ["store", "ledger"], rfl, rfl, rfl⟩
  have haside (follow : Bool) :
      storedElsewhere.locate [] "usage.json.tmp" follow = .ok ⟨["usage.json.tmp"], false⟩ := by
    refine FileTree.locate_eq_ok_iff.2 ⟨hfits', by decide, [], ["usage.json.tmp"], ?_, rfl, rfl⟩
    cases follow <;> rfl
  have hmade : file.makeParent storedElsewhere = (storedElsewhere, .ok ()) := by
    have hparent : file.parent? = none := by decide
    rw [makeParent, hparent]
  have hclear : file.IsClear storedElsewhere := by
    rw [← hname] at haside
    refine ⟨fun here hl => ?_, fun here hl => ?_, fun here hl _ path hmem => ?_⟩
    · rw [haside] at hl
      cases hl
      exact ⟨by decide +kernel, FileTree.isAlone_of_numberAt? (by decide +kernel)⟩
    · rw [haside] at hl
      cases hl
      rw [hpath]
      decide
    -- without the link both names lead to their places, as they do with it
    · rw [hplace] at hl
      cases hl
      rw [hname, List.mem_pair] at hmem
      rcases hmem with rfl | rfl
      · change (storedElsewhere.erase ["usage.json"]).locate [] "usage.json" false = _
        refine Eq.trans ?_ hplace.symm
        exact FileTree.locate_eq_ok_iff.2 ⟨hfits, by decide, [], ["usage.json"], rfl, rfl, rfl⟩
      · refine Eq.trans ?_ (hname ▸ haside false).symm
        exact FileTree.locate_eq_ok_iff.2 ⟨hfits', by decide, [], ["usage.json.tmp"], rfl, rfl, rfl⟩
  have hwritten : storedElsewhere.writeFile file.cwd file.temporary short = .ok left := by
    rw [hname]
    exact FileTree.writeFile_eq_ok_iff_put.2
      ⟨_, haside _, by decide +kernel, by decide +kernel, rfl⟩
  have hends : file.Ends .empty storedElsewhere left false := .unwritten hmade hwritten
  have hold : storedElsewhere.lookup [] "usage.json" = .ok (.file "old".toUTF8) := by
    rw [FileTree.lookup, hpath]
    rfl
  rw [hmade]
  obtain ⟨-, -, hresult⟩ := replaced_or_kept file .empty storedElsewhere (by rwa [hmade])
  refine ⟨hclear, hends, (hresult left false hends).2.1 rfl _ hold, ?_⟩
  rw [FileTree.get?_set _ _ _ _ (List.cons_ne_nil _ _), if_pos rfl]

/-- The temporary file is a symbolic link to another file. -/
def linkedToNotes : FileTree true :=
  ⟨.ofList [(["notes"], .file "old".toUTF8), (["usage.json.tmp"], .link rfl "notes")]⟩

/-- The temporary file is a symbolic link to the ledger's file. -/
def linkedToItself : FileTree true :=
  ⟨.ofList [(["usage.json"], .file "old".toUTF8), (["usage.json.tmp"], .link rfl "usage.json")]⟩

/-- Links in place of the temporary file are followed. A write succeeds, but the document is in
another file, which is none of the two. Or a write fails after three bytes, and the old document
is lost. -/
theorem overwritten_throughLink :
    let file : LedgerFile := ⟨"usage.json", []⟩
    let document := (LedgerDocument.write .empty).toUTF8
    ((file.write .empty linkedToNotes).2 = true ∧
      linkedToNotes.get? ["notes"] = some (.file "old".toUTF8) ∧
      (file.write .empty linkedToNotes).1.get? ["notes"] = some (.file document) ∧
      document ≠ "old".toUTF8) ∧
    ∃ left, file.Ends .empty linkedToItself left false ∧
      linkedToItself.lookup [] "usage.json" = .ok (.file "old".toUTF8) ∧
      left.lookup [] "usage.json" = .ok (.file (document.extract 0 3)) ∧
      document.extract 0 3 ≠ "old".toUTF8 := by
  intro file document
  have hname : file.temporary = "usage.json.tmp" := by decide
  have hfits := FileTree.fits_of_notMem "usage.json" (by decide) (by decide)
  have hfits' := FileTree.fits_of_notMem "usage.json.tmp" (by decide) (by decide)
  have hmade (t : FileTree true) : file.makeParent t = (t, .ok ()) := by
    have hparent : file.parent? = none := by decide
    rw [makeParent, hparent]
  constructor
  · let written := linkedToNotes.put ["notes"] document
    let placed := (written.set ["usage.json"] (.link rfl "notes")).erase ["usage.json.tmp"]
    have hwritten : linkedToNotes.writeFile file.cwd file.temporary document = .ok written := by
      rw [hname]
      have hnotes : linkedToNotes.locate [] "usage.json.tmp" = .ok ⟨["notes"], false⟩ :=
        FileTree.locate_eq_ok_iff.2 ⟨hfits', by decide, [], ["notes"], rfl, rfl, rfl⟩
      exact FileTree.writeFile_eq_ok_iff_put.2
        ⟨_, hnotes, by decide +kernel, by decide +kernel, rfl⟩
    -- the link is given the name, not the file that it leads to
    have hplaced : written.renameFile file.cwd file.temporary file.path = .ok placed := by
      rw [hname]
      have hlink : written.locate [] "usage.json.tmp" false = .ok ⟨["usage.json.tmp"], false⟩ :=
        FileTree.locate_eq_ok_iff.2 ⟨hfits', by decide, [], ["usage.json.tmp"], rfl, rfl, rfl⟩
      have hplace : written.locate [] "usage.json" false = .ok ⟨["usage.json"], false⟩ :=
        FileTree.locate_eq_ok_iff.2 ⟨hfits, by decide, [], ["usage.json"], rfl, rfl, rfl⟩
      exact FileTree.renameFile_eq_ok_iff_moved.2
        ⟨_, _, .link rfl "notes", hlink, rfl, by decide, hplace, by decide +kernel, rfl⟩
    have hwrite : file.write .empty linkedToNotes = (placed, true) := by
      simp only [write, hmade, hwritten, hplaced, document]
    rw [hwrite]
    exact ⟨rfl, by decide +kernel, rfl, by decide +kernel⟩
  · let left := linkedToItself.put ["usage.json"] (document.extract 0 3)
    have hwritten : linkedToItself.writeFile file.cwd file.temporary (document.extract 0 3) =
        .ok left := by
      rw [hname]
      have hitself : linkedToItself.locate [] "usage.json.tmp" = .ok ⟨["usage.json"], false⟩ :=
        FileTree.locate_eq_ok_iff.2 ⟨hfits', by decide, [], ["usage.json"], rfl, rfl, rfl⟩
      exact FileTree.writeFile_eq_ok_iff_put.2
        ⟨_, hitself, by decide +kernel, by decide +kernel, rfl⟩
    have hplace : linkedToItself.locate [] "usage.json" = .ok ⟨["usage.json"], false⟩ :=
      FileTree.locate_eq_ok_iff.2 ⟨hfits, by decide, [], ["usage.json"], rfl, rfl, rfl⟩
    have hplace' : left.locate [] "usage.json" = .ok ⟨["usage.json"], false⟩ :=
      FileTree.locate_eq_ok_iff.2 ⟨hfits, by decide, [], ["usage.json"], rfl, rfl, rfl⟩
    refine ⟨left, .unwritten (hmade _) hwritten, ?_, ?_, by decide +kernel⟩
    · rw [FileTree.lookup, hplace]
      rfl
    · rw [FileTree.lookup, hplace']
      rfl

end LedgerFile

end DexTrail
