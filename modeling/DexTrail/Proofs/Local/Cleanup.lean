-- SUMMARY: Cleaning up after a dex file removes its artifacts in order, up to the first that cannot be removed.
import DexTrail.Local.Artifacts
import DexTrail.Proofs.Disk.Neighbours
import DexTrail.Proofs.Disk.Removals
import DexTrail.Proofs.Disk.Resolution

/-!
# Cleaning up

A clean-up looks at the dex file, takes the files of the artifact paths one after another and
stops at the first that is refused. The device may refuse a look or a removal that the tree
allows; `Ends` lists how a clean-up can end, and the clean-up that the tree alone decides is one
of its cases (`ends_cleanUp`). What is left is the tree without the files of the paths before the
refused one, so nothing but artifacts is gone and nothing is new. But a look that fails counts as
a missing file, whether the file is there or not (`missing_of_spread`).
-/

namespace DexTrail.Artifacts

open FileTree

variable {t left : FileTree} {path dex : String} {paths isas : List String}
  {answer : Except HelperError Bool}

/-! ## Removing files in order -/

/-- Where a removal is not refused, the others go on without the file. -/
theorem removeAll_cons (h : ¬t.Refuses [] path) :
    removeAll t (path :: paths) = removeAll (t.without [] [path]) paths := by
  rcases removeFile_cases t [] path with hremove | ⟨hremove, hsame⟩ | hrefused
  · rw [removeAll, hremove]
  · rw [removeAll, hremove, hsame]
  · exact absurd hrefused h

theorem removeAll_of_refuses (h : t.Refuses [] path) :
    removeAll t (path :: paths) = (t, .error .io) := by
  obtain ⟨e, hremove, hother⟩ := h
  rw [removeAll, hremove]
  cases e with
  | notFound => exact absurd rfl hother
  | notADirectory | isADirectory | alreadyExists | badPath | tooManyLinks | notPermitted => rfl

/-- Every path is removed, or one is refused and those before it are removed. -/
theorem removeAll_cases (t : FileTree) (paths : List String) :
    (removeAll t paths = (t.without [] paths, .ok ()) ∧
      ∀ before path after, paths = before ++ path :: after →
        ¬(t.without [] before).Refuses [] path) ∨
    ∃ before path after, paths = before ++ path :: after ∧
      (t.without [] before).Refuses [] path ∧
      removeAll t paths = (t.without [] before, .error .io) := by
  induction paths generalizing t with
  | nil => exact .inl ⟨by rw [removeAll, without_eq_self rfl], by simp⟩
  | cons path paths ih =>
    by_cases hrefused : t.Refuses [] path
    · refine .inr ⟨[], path, paths, rfl, ?_, ?_⟩
      · rwa [without_eq_self rfl]
      · rw [removeAll_of_refuses hrefused, without_eq_self rfl]
    -- the rest starts from the tree without the first file, and what it takes is taken as well
    · have hgone (taken : List String) :
          (t.without [] [path]).without [] taken = t.without [] (path :: taken) :=
        without_without t [] [path] taken
      simp only [removeAll_cons hrefused]
      rcases ih (t.without [] [path]) with ⟨hall, hnone⟩ | ⟨before, next, after, rfl, hnext, hstop⟩
      · refine .inl ⟨by rw [hall, hgone], fun before next after hsplit => ?_⟩
        cases before with
        | nil =>
          cases hsplit
          rwa [without_eq_self rfl]
        | cons first before =>
          cases hsplit
          rw [← hgone]
          exact hnone before next after rfl
      · refine .inr ⟨path :: before, next, after, rfl, ?_, ?_⟩
        · rwa [← hgone]
        · rw [hstop, hgone]

/-! ## Clean-ups -/

theorem cleanUp_of_relative (h : Path.isAbsolute dex = false) :
    cleanUp t dex isas = (t, .error (relativePath dex)) := by
  rw [cleanUp, dexExists, h]
  rfl

theorem cleanUp_of_exists (h : Path.isAbsolute dex = true) (hexists : t.pathExists [] dex = true) :
    cleanUp t dex isas = (t, .ok true) := by
  rw [cleanUp, dexExists, if_pos h, hexists]

theorem cleanUp_of_missing (h : Path.isAbsolute dex = true)
    (hmissing : t.pathExists [] dex = false) :
    cleanUp t dex isas =
      ((removeAll t (Artifacts.paths dex isas)).1,
        (removeAll t (Artifacts.paths dex isas)).2.map fun _ => false) := by
  rw [cleanUp, dexExists, if_pos h, hmissing]
  rcases removeAll t (Artifacts.paths dex isas) with ⟨left, _ | _⟩ <;> rfl

/-- A clean-up after a missing dex file takes the artifacts up to the first that is refused. -/
theorem cleanUp_cases (habsolute : Path.isAbsolute dex = true)
    (hmissing : t.pathExists [] dex = false) (h : cleanUp t dex isas = (left, answer)) :
    (left = t.without [] (Artifacts.paths dex isas) ∧ answer = .ok false ∧
      ∀ before artifact after, Artifacts.paths dex isas = before ++ artifact :: after →
        ¬(t.without [] before).Refuses [] artifact) ∨
    ∃ before artifact after, Artifacts.paths dex isas = before ++ artifact :: after ∧
      left = t.without [] before ∧ left.Refuses [] artifact ∧ answer = .error .io := by
  rw [cleanUp_of_missing habsolute hmissing] at h
  rcases removeAll_cases t (Artifacts.paths dex isas) with
    ⟨hall, hnone⟩ | ⟨before, artifact, after, hsplit, hrefused, hstop⟩
  · rw [hall] at h
    cases h
    exact .inl ⟨rfl, rfl, hnone⟩
  · rw [hstop] at h
    cases h
    exact .inr ⟨before, artifact, after, hsplit, rfl, hrefused, rfl⟩

/-! ## How a clean-up can end -/

/-- Files are removed one after another: with the tree that is left and the path that was refused,
if one was. The tree may refuse it, or the device that holds the tree. -/
inductive Removing : FileTree → List String → FileTree → Option String → Prop where
  | done {t : FileTree} : Removing t [] t none
  | removed {t next left : FileTree} {path : String} {rest : List String} {refused : Option String}
      (hremove : t.removeFile [] path = .ok next) (go : Removing next rest left refused) :
      Removing t (path :: rest) left refused
  | absent {t left : FileTree} {path : String} {rest : List String} {refused : Option String}
      (hremove : t.removeFile [] path = .error .notFound) (go : Removing t rest left refused) :
      Removing t (path :: rest) left refused
  | refused {t : FileTree} {path : String} {rest : List String} :
      Removing t (path :: rest) t (some path)

/-- How a clean-up can end when a look finds the dex file or does not, and a removal is refused or
none is: with the tree that is left and the answer. A look finds what is there, but it may fail
to. -/
inductive Ends (t : FileTree) (dex : String) (isas : List String) :
    Bool → Option String → FileTree → Except HelperError Bool → Prop where
  | relative {seen : Bool} (h : Path.isAbsolute dex = false) :
      Ends t dex isas seen none t (.error (relativePath dex))
  | kept (h : Path.isAbsolute dex = true) (hthere : t.pathExists [] dex = true) :
      Ends t dex isas true none t (.ok true)
  | cleaned {left : FileTree} (h : Path.isAbsolute dex = true)
      (hremoved : Removing t (Artifacts.paths dex isas) left none) :
      Ends t dex isas false none left (.ok false)
  | stopped {left : FileTree} {artifact : String} (h : Path.isAbsolute dex = true)
      (hremoved : Removing t (Artifacts.paths dex isas) left (some artifact)) :
      Ends t dex isas false (some artifact) left (.error .io)

/-- The removal that the tree alone decides is among them. -/
theorem exists_removing (t : FileTree) (paths : List String) :
    ∃ refused, Removing t paths (removeAll t paths).1 refused ∧
      (removeAll t paths).2 = if refused.isSome then .error .io else .ok () := by
  induction paths generalizing t with
  | nil => exact ⟨none, .done, rfl⟩
  | cons path paths ih =>
    rcases removeFile_cases t [] path with hremove | ⟨hremove, -⟩ | hrefused
    · obtain ⟨refused, hgo, hanswer⟩ := ih (t.without [] [path])
      rw [removeAll, hremove]
      exact ⟨refused, .removed hremove hgo, hanswer⟩
    · obtain ⟨refused, hgo, hanswer⟩ := ih t
      rw [removeAll, hremove]
      exact ⟨refused, .absent hremove hgo, hanswer⟩
    · rw [removeAll_of_refuses hrefused]
      exact ⟨some path, .refused, rfl⟩

/-- The clean-up that the tree alone decides is among the ends. -/
theorem ends_cleanUp (t : FileTree) (dex : String) (isas : List String) :
    ∃ refused, Ends t dex isas (t.pathExists [] dex) refused (cleanUp t dex isas).1
      (cleanUp t dex isas).2 := by
  cases habsolute : Path.isAbsolute dex with
  | false =>
    rw [cleanUp_of_relative habsolute]
    exact ⟨none, .relative habsolute⟩
  | true =>
    cases hexists : t.pathExists [] dex with
    | true =>
      rw [cleanUp_of_exists habsolute hexists]
      exact ⟨none, .kept habsolute hexists⟩
    | false =>
      obtain ⟨refused, hremoved, hanswer⟩ := exists_removing t (Artifacts.paths dex isas)
      rw [cleanUp_of_missing habsolute hexists, hanswer]
      cases refused with
      | none => exact ⟨none, .cleaned habsolute hremoved⟩
      | some artifact => exact ⟨some artifact, .stopped habsolute hremoved⟩

/-- What is taken after the first file is taken as well, and no path leads to any of it. -/
theorem left_of_taken (hpath : ¬t.Refuses [] path) {taken : List String}
    (hleft : left = (t.without [] [path]).without [] taken)
    (hgone : ∀ p ∈ taken, left.pathExists [] p = false) :
    left = t.without [] (path :: taken) ∧ ∀ p ∈ path :: taken, left.pathExists [] p = false := by
  have hall : left = t.without [] (path :: taken) := hleft.trans (without_without t [] [path] taken)
  refine ⟨hall, List.forall_mem_cons.2 ⟨?_, hgone⟩⟩
  rw [hall]
  exact pathExists_without List.mem_cons_self hpath

/-- What is left is the tree without the files of the paths before the refused one, or of all paths
if none was refused, and those paths lead to nothing any more. -/
theorem Removing.left_eq {refused : Option String} (h : Removing t paths left refused) :
    ∃ taken rest, paths = taken ++ rest ∧ rest.head? = refused ∧ left = t.without [] taken ∧
      ∀ path ∈ taken, left.pathExists [] path = false := by
  induction h with
  | done => exact ⟨[], [], rfl, rfl, (without_eq_self rfl).symm, by simp⟩
  | @refused t path rest => exact ⟨[], path :: rest, rfl, rfl, (without_eq_self rfl).symm, by simp⟩
  | @removed t next left path rest refused hremove go ih =>
    obtain ⟨taken, after, rfl, hhead, hleft, hgone⟩ := ih
    have hpath : ¬t.Refuses [] path := by
      rintro ⟨e, herror, -⟩
      rw [hremove] at herror
      cases herror
    have hnext : next = t.without [] [path] := by
      rcases removeFile_cases t [] path with htaken | ⟨habsent, -⟩ | hrefused
      · rw [hremove] at htaken
        exact Except.ok.inj htaken
      · rw [hremove] at habsent
        cases habsent
      · exact absurd hrefused hpath
    rw [hnext] at hleft
    exact ⟨path :: taken, after, rfl, hhead, left_of_taken hpath hleft hgone⟩
  | @absent t left path rest refused hremove go ih =>
    obtain ⟨taken, after, rfl, hhead, hleft, hgone⟩ := ih
    have hpath : ¬t.Refuses [] path := by
      rintro ⟨e, herror, hother⟩
      rw [hremove] at herror
      exact hother (Except.error.inj herror).symm
    have hsame : t.without [] [path] = t := by
      rcases removeFile_cases t [] path with htaken | ⟨-, hsame⟩ | hrefused
      · rw [hremove] at htaken
        cases htaken
      · exact hsame
      · exact absurd hrefused hpath
    refine ⟨path :: taken, after, rfl, hhead, left_of_taken hpath ?_ hgone⟩
    rw [hsame]
    exact hleft

/-- Whatever was changed was a file that one of the paths leads to, and is gone. -/
theorem Removing.changed {refused : Option String} (h : Removing t paths left refused)
    (here : Location) :
    left.get? here = t.get? here ∨ left.get? here = none ∧ here ∈ t.filesAt [] paths := by
  obtain ⟨taken, rest, rfl, -, rfl, -⟩ := h.left_eq
  rw [get?_without]
  split
  · next hmem =>
    obtain ⟨path, hpath, hfile⟩ := mem_filesAt.1 hmem
    exact .inr ⟨rfl, mem_filesAt.2 ⟨path, List.mem_append_left rest hpath, hfile⟩⟩
  · exact .inl rfl

section

variable {seen : Bool} {refused : Option String}

theorem Ends.of_relative (h : Ends t dex isas seen refused left answer)
    (hrelative : Path.isAbsolute dex = false) :
    left = t ∧ answer = .error (relativePath dex) := by
  cases h with
  | relative _ => exact ⟨rfl, rfl⟩
  | kept h _ => cases hrelative.symm.trans h
  | cleaned h _ => cases hrelative.symm.trans h
  | stopped h _ => cases hrelative.symm.trans h

/-- A dex file is told to exist exactly when the look finds it. -/
theorem Ends.ok_true_iff (h : Ends t dex isas seen refused left answer) :
    answer = .ok true ↔ Path.isAbsolute dex = true ∧ seen = true := by
  cases h with
  | relative h => simp [h]
  | kept h _ => simp [h]
  | cleaned h _ => simp
  | stopped h _ => simp

theorem Ends.of_ok_true (h : Ends t dex isas seen refused left answer) (hok : answer = .ok true) :
    left = t ∧ t.pathExists [] dex = true := by
  cases h with
  | relative _ => cases hok
  | kept _ hthere => exact ⟨rfl, hthere⟩
  | cleaned _ _ => cases hok
  | stopped _ _ => cases hok

/-- A dex file is told to be missing only when no artifact exists any more. -/
theorem Ends.of_ok_false (h : Ends t dex isas seen refused left answer) (hok : answer = .ok false) :
    ∀ artifact ∈ Artifacts.paths dex isas, left.pathExists [] artifact = false := by
  cases h with
  | relative _ => cases hok
  | kept _ _ => cases hok
  | cleaned _ hremoved =>
    obtain ⟨taken, rest, hsplit, hhead, -, hgone⟩ := hremoved.left_eq
    obtain rfl : rest = [] := List.head?_eq_none_iff.1 hhead
    rw [hsplit, List.append_nil]
    exact hgone
  | stopped _ _ => cases hok

/-- The error of the file system is that a removal was refused. -/
theorem Ends.io_iff (h : Ends t dex isas seen refused left answer) :
    answer = .error .io ↔ refused.isSome = true := by
  cases h with
  | relative _ => simp [relativePath]
  | kept _ _ => simp
  | cleaned _ _ => simp
  | stopped _ _ => simp

/-- Nothing is removed after a refusal. -/
theorem Ends.of_refused {artifact : String} (h : Ends t dex isas seen (some artifact) left answer) :
    ∃ before after, Artifacts.paths dex isas = before ++ artifact :: after ∧
      left = t.without [] before := by
  cases h with
  | stopped _ hremoved =>
    obtain ⟨before, rest, hsplit, hhead, hleft, -⟩ := hremoved.left_eq
    obtain ⟨after, rfl⟩ := List.head?_eq_some_iff.1 hhead
    exact ⟨before, after, hsplit, hleft⟩

theorem Ends.changed (h : Ends t dex isas seen refused left answer) (here : Location) :
    left.get? here = t.get? here ∨
      left.get? here = none ∧ here ∈ t.filesAt [] (Artifacts.paths dex isas) := by
  cases h with
  | relative _ => exact .inl rfl
  | kept _ _ => exact .inl rfl
  | cleaned _ hremoved => exact hremoved.changed here
  | stopped _ hremoved => exact hremoved.changed here

end

/-- Whatever a clean-up changes was a file that an artifact path leads to, and is gone. -/
theorem changed_cleanUp (h : cleanUp t dex isas = (left, answer)) (here : Location) :
    left.get? here = t.get? here ∨
      left.get? here = none ∧ here ∈ t.filesAt [] (Artifacts.paths dex isas) := by
  obtain ⟨refused, hends⟩ := ends_cleanUp t dex isas
  rw [h] at hends
  exact hends.changed here

/-- As far as the tree decides, the error is that an artifact cannot be removed when its turn
comes. -/
theorem io_cleanUp_iff (habsolute : Path.isAbsolute dex = true)
    (hmissing : t.pathExists [] dex = false) :
    (cleanUp t dex isas).2 = .error .io ↔
      ∃ before artifact after, Artifacts.paths dex isas = before ++ artifact :: after ∧
        (t.without [] before).Refuses [] artifact := by
  rcases hclean : cleanUp t dex isas with ⟨left, answer⟩
  rcases cleanUp_cases habsolute hmissing hclean with
    ⟨-, rfl, hnone⟩ | ⟨before, artifact, after, hsplit, rfl, hrefused, rfl⟩
  · constructor
    · intro hio
      cases hio
    · rintro ⟨before, artifact, after, hsplit, hrefused⟩
      exact absurd hrefused (hnone before artifact after hsplit)
  · exact ⟨fun _ => ⟨before, artifact, after, hsplit, hrefused⟩, fun _ => rfl⟩

/-- Whatever looks and removals fail on the way, a clean-up refuses a relative path and answers
that an absolute one exists exactly when the look finds it, and nothing changes then. Else it takes
artifacts and nothing but artifacts: all of them, and none exists afterwards, or those before one
that is refused, which is the error and the end of it. As far as the tree decides, that is one that
cannot be removed when its turn comes, for another reason than its absence. -/
theorem ends_exact (t : FileTree) (dex : String) (isas : List String) :
    (∃ refused, Ends t dex isas (t.pathExists [] dex) refused (cleanUp t dex isas).1
      (cleanUp t dex isas).2) ∧
    (Path.isAbsolute dex = true → t.pathExists [] dex = false →
      ((cleanUp t dex isas).2 = .error .io ↔
        ∃ before artifact after, Artifacts.paths dex isas = before ++ artifact :: after ∧
          (t.without [] before).Refuses [] artifact)) ∧
    ∀ seen refused left answer, Ends t dex isas seen refused left answer →
      (Path.isAbsolute dex = false → left = t ∧ answer = .error (relativePath dex)) ∧
      (answer = .ok true ↔ Path.isAbsolute dex = true ∧ seen = true) ∧
      (answer = .ok true → left = t ∧ t.pathExists [] dex = true) ∧
      (answer = .ok false →
        ∀ artifact ∈ Artifacts.paths dex isas, left.pathExists [] artifact = false) ∧
      (answer = .error .io ↔ refused.isSome = true) ∧
      (∀ artifact, refused = some artifact →
        ∃ before after, Artifacts.paths dex isas = before ++ artifact :: after ∧
          left = t.without [] before) ∧
      ∀ here, left.get? here = t.get? here ∨
        left.get? here = none ∧ here ∈ t.filesAt [] (Artifacts.paths dex isas) := by
  refine ⟨ends_cleanUp t dex isas, io_cleanUp_iff, fun seen refused left answer h =>
    ⟨h.of_relative, h.ok_true_iff, h.of_ok_true, h.of_ok_false, h.io_iff, ?_, h.changed⟩⟩
  rintro artifact rfl
  exact h.of_refused

/-- A dex file is gone, and a directory has the name of its second artifact. -/
def leftovers : FileTree :=
  ⟨.ofList [(["d"], .dir), (["d", "oat"], .dir), (["d", "oat", "arm"], .dir),
    (["d", "oat", "arm", "a.art"], .file .empty), (["d", "oat", "arm", "a.odex"], .file .empty),
    (["d", "oat", "arm", "a.vdex"], .dir)]⟩

theorem leftovers_missing : leftovers.pathExists [] "/d/a.jar" = false := by
  rw [pathExists, lookup, locate_eq_map_walk (by decide) (by decide) (by decide)]
  decide +kernel

theorem fileAt?_leftovers :
    leftovers.fileAt? [] "/d/oat/arm/a.odex" = some ["d", "oat", "arm", "a.odex"] := by
  rw [fileAt?, locate_eq_map_walk (by decide) (by decide) (by decide)]
  decide +kernel

theorem cleanUp_leftovers :
    cleanUp leftovers "/d/a.jar" ["arm"] =
      (leftovers.without [] ["/d/oat/arm/a.odex"], .error .io) := by
  have hartifacts : Artifacts.paths "/d/a.jar" ["arm"] =
      ["/d/oat/arm/a.odex", "/d/oat/arm/a.vdex", "/d/oat/arm/a.art"] := by
    decide +kernel
  have hvdex : leftovers.locate [] "/d/oat/arm/a.vdex" =
      .ok ⟨["d", "oat", "arm", "a.vdex"], false⟩ := by
    rw [locate_eq_map_walk (by decide) (by decide) (by decide)]
    rfl
  have hrefused : (leftovers.without [] ["/d/oat/arm/a.odex"]).Refuses [] "/d/oat/arm/a.vdex" := by
    have hsame := sameDirs_without leftovers [] ["/d/oat/arm/a.odex"]
    apply refuses_of_dir
    exact lookup_eq_ok_iff.2
      ⟨_, hsame.locate_iff.1 hvdex, (hsame _).1 (by decide +kernel), fun _ => rfl⟩
  rw [cleanUp_of_missing (by decide) leftovers_missing, hartifacts,
    removeAll_cons (not_refuses_of_fileAt? fileAt?_leftovers), removeAll_of_refuses hrefused]
  rfl

/-- The directory ends the clean-up after the first artifact. -/
theorem stopped_atDirectory :
    ∃ left artifact, cleanUp leftovers "/d/a.jar" ["arm"] = (left, .error .io) ∧
      Ends leftovers "/d/a.jar" ["arm"] false (some artifact) left (.error .io) ∧
      ∃ before after, Artifacts.paths "/d/a.jar" ["arm"] = before ++ artifact :: after ∧
        left = leftovers.without [] before := by
  obtain ⟨⟨refused, hends⟩, -, hall⟩ := ends_exact leftovers "/d/a.jar" ["arm"]
  rw [leftovers_missing, cleanUp_leftovers] at hends
  obtain ⟨-, -, -, -, hio, hstopped, -⟩ := hall _ _ _ _ hends
  obtain ⟨artifact, rfl⟩ := Option.isSome_iff_exists.1 (hio.1 rfl)
  exact ⟨_, artifact, cleanUp_leftovers, hends, hstopped artifact rfl⟩

/-! ## A file that counts as missing -/

/-- The path of a dex file with slashes between its directory and its name. They lead nowhere
else, however many there are. -/
def spread (slashes : Nat) : String :=
  "/d/" ++ String.ofList (List.replicate slashes '/' ++ "a.jar".toList)

theorem splitAtSlashes_replicate (n : Nat) (cs : List Char) :
    splitAtSlashes (List.replicate n '/' ++ cs) = List.replicate n [] ++ splitAtSlashes cs := by
  induction n with
  | zero => rfl
  | succ n ih =>
    have hslash := splitAtSlashes_slash [] (List.replicate n '/' ++ cs)
    rw [List.nil_append] at hslash
    rw [List.replicate_succ, List.cons_append, hslash, ih]
    rfl

theorem resolve_spread (slashes : Nat) : Path.resolve (spread slashes) = ["d", "a.jar"] := by
  have hempty (here : Location) :
      (List.replicate slashes "").foldl Path.follow here = here := by
    induction slashes with
    | zero => rfl
    | succ n ih => exact ih
  have hpieces : Path.pieces (spread slashes) =
      ["", "d"] ++ List.replicate slashes "" ++ ["a.jar"] := by
    have htext : (spread slashes).toList =
        "/d".toList ++ '/' :: (List.replicate slashes '/' ++ "a.jar".toList) := by
      simp [spread]
    have hname : splitAtSlashes "a.jar".toList = ["a.jar".toList] := by decide
    rw [Path.pieces, htext, splitAtSlashes_slash, splitAtSlashes_replicate, hname, List.map_append,
      List.map_append, List.map_replicate]
    rfl
  rw [Path.resolve, hpieces, List.foldl_append, List.foldl_append, hempty]
  rfl

theorem utf8ByteSize_spread (slashes : Nat) : (spread slashes).utf8ByteSize = slashes + 8 := by
  have hslashes : (String.ofList (List.replicate slashes '/')).utf8ByteSize = slashes := by
    induction slashes with
    | zero => rfl
    | succ n ih =>
      rw [List.replicate_succ, String.ofList_cons, String.utf8ByteSize_append, ih]
      exact Nat.add_comm 1 n
  rw [spread, String.ofList_append, String.utf8ByteSize_append, String.utf8ByteSize_append,
    hslashes, String.ofList_toList]
  exact Nat.add_comm 3 (slashes + 5)

theorem isAbsolute_spread (slashes : Nat) : Path.isAbsolute (spread slashes) = true := by
  rw [Path.isAbsolute, spread, String.toList_append]
  rfl

/-- A look at a path of too many bytes fails, and without instruction sets nothing is removed. -/
theorem cleanUp_spread (t : FileTree) {slashes : Nat} (h : maxPathSize < slashes + 8) :
    cleanUp t (spread slashes) [] = (t, .ok false) := by
  have hunseen : t.pathExists [] (spread slashes) = false := by
    rw [← utf8ByteSize_spread] at h
    rw [pathExists, lookup, locate, if_pos (.inl h)]
    rfl
  have hnone : Artifacts.paths (spread slashes) [] = [] := by
    unfold Artifacts.paths
    split <;> rfl
  rw [cleanUp_of_missing (isAbsolute_spread slashes) hunseen, hnone]
  rfl

/-- A dex file that stands, and an artifact of it. -/
def standing : FileTree :=
  ⟨.ofList [(["d"], .dir), (["d", "a.jar"], .file .empty), (["d", "oat"], .dir),
    (["d", "oat", "arm"], .dir), (["d", "oat", "arm", "a.odex"], .file .empty)]⟩

/-- A dex file stands where its path leads, but a look fails, since the path has more bytes than
can be looked up, or since the device refuses it. The file is told to be missing, and in the second
case its artifact is taken. -/
theorem missing_of_spread :
    standing.get? ["d", "a.jar"] = some (.file .empty) ∧
    (Path.isAbsolute (spread 4096) = true ∧ Path.resolve (spread 4096) = ["d", "a.jar"] ∧
      cleanUp standing (spread 4096) [] = (standing, .ok false)) ∧
    standing.pathExists [] "/d/a.jar" = true ∧
      ∃ left, Ends standing "/d/a.jar" ["arm"] false none left (.ok false) ∧
        standing.get? ["d", "oat", "arm", "a.odex"] = some (.file .empty) ∧
        left.get? ["d", "oat", "arm", "a.odex"] = none := by
  have hartifacts : Artifacts.paths "/d/a.jar" ["arm"] =
      ["/d/oat/arm/a.odex", "/d/oat/arm/a.vdex", "/d/oat/arm/a.art"] := by
    decide +kernel
  let left := standing.erase ["d", "oat", "arm", "a.odex"]
  have hodex : standing.removeFile [] "/d/oat/arm/a.odex" = .ok left := by
    rw [removeFile, locate_unlinked, locate_eq_map_walk (by decide) (by decide) (by decide)]
    rfl
  have hvdex : left.removeFile [] "/d/oat/arm/a.vdex" = .error .notFound := by
    rw [removeFile, locate_unlinked, locate_eq_map_walk (by decide) (by decide) (by decide)]
    rfl
  have hart : left.removeFile [] "/d/oat/arm/a.art" = .error .notFound := by
    rw [removeFile, locate_unlinked, locate_eq_map_walk (by decide) (by decide) (by decide)]
    rfl
  have hremoved : Removing standing (Artifacts.paths "/d/a.jar" ["arm"]) left none := by
    rw [hartifacts]
    exact .removed hodex (.absent hvdex (.absent hart .done))
  refine ⟨by decide +kernel, ⟨isAbsolute_spread 4096, resolve_spread 4096,
    cleanUp_spread standing (by decide)⟩, ?_, left, .cleaned (by decide) hremoved,
    by decide +kernel, by decide +kernel⟩
  rw [pathExists, lookup, locate_eq_map_walk (by decide) (by decide) (by decide)]
  decide +kernel

end DexTrail.Artifacts
