-- SUMMARY: Which removed files lie next to their dex file, and how an instruction set leads elsewhere.
import DexTrail.Proofs.Disk.Resolution
import DexTrail.Proofs.Local.Cleanup
import DexTrail.Settings.Policy
import DexTrail.Usage.Document

/-!
# Where artifacts are removed

An instruction set is a text of a record, and it is joined to `oat` as it is. So a removed file
lies below `oat` exactly when the directory of its instruction set does
(`removed_below_oat_iff`). A name like `arm64` leads there, an absolute text leads anywhere.
-/

namespace DexTrail.Artifacts

open FileTree

variable {t left : FileTree} {here : Location} {dex artifact : String} {isas : List String}
  {answer : Except HelperError Bool}

/-- The name of an artifact. -/
def artifactName (stem : List Char) (extension : String) : String :=
  String.ofList stem ++ "." ++ extension

theorem mem_paths :
    artifact ∈ paths dex isas ↔
      ∃ dir stem, Path.parent? dex = some dir ∧ Path.fileStem? dex = some stem ∧
        ∃ isa ∈ isas, ∃ extension ∈ extensions,
          artifact =
            Path.join (Path.join (Path.join dir "oat") isa) (artifactName stem extension) := by
  unfold paths
  split
  · next dir stem hdir hstem =>
    simp only [List.mem_flatMap, List.mem_map]
    constructor
    · rintro ⟨isa, hisa, extension, hextension, rfl⟩
      exact ⟨dir, stem, hdir, hstem, isa, hisa, extension, hextension, rfl⟩
    · rintro ⟨dir', stem', hdir', hstem', isa, hisa, extension, hextension, rfl⟩
      rw [hdir] at hdir'
      rw [hstem] at hstem'
      cases hdir'
      cases hstem'
      exact ⟨isa, hisa, extension, hextension, rfl⟩
  · next hnone =>
    constructor
    · intro h
      cases h
    · rintro ⟨dir, stem, hdir, hstem, -⟩
      exact absurd hstem (hnone dir stem hdir)

/-- An artifact stands in the directory of its instruction set. -/
theorem resolve_artifact {stem : List Char} {extension : String} (base : String)
    (hstem : Path.fileStem? dex = some stem) (hextension : extension ∈ extensions) :
    Path.resolve (Path.join base (artifactName stem extension)) =
      Path.resolve base ++ [artifactName stem extension] := by
  have hslash : '/' ∉ extension.toList ∧ 2 < extension.toList.length := by
    revert extension
    decide
  have hname : (artifactName stem extension).toList = stem ++ '.' :: extension.toList := by
    simp [artifactName]
  apply Path.resolve_join_name
  · rw [hname, List.mem_append, List.mem_cons]
    rintro (hmem | hdot | hmem)
    · exact Path.slash_notMem_fileStem hstem hmem
    · cases hdot
    · exact hslash.1 hmem
  · rw [hname, List.length_append, List.length_cons]
    have hlong := hslash.2
    omega

/-- A removed file stood in the directory of an instruction set. It lay below `oat` exactly when
that directory does, and so it did if the instruction set is a path that stays. -/
theorem removed_below_oat_iff (h : cleanUp t dex isas = (left, answer))
    (hgone : left.get? here ≠ t.get? here) :
    ∃ dir stem, Path.parent? dex = some dir ∧ Path.fileStem? dex = some stem ∧
      ∃ isa ∈ isas, ∃ extension ∈ extensions,
        let oat := Path.join dir "oat"
        here = Path.resolve (Path.join oat isa) ++ [artifactName stem extension] ∧
        (Path.Below (Path.resolve oat) here ↔
          Path.resolve oat <+: Path.resolve (Path.join oat isa)) ∧
        (Path.Stays isa → Path.Below (Path.resolve oat) here) := by
  obtain hsame | ⟨-, hmem⟩ := changed_cleanUp h here
  · exact absurd hsame hgone
  obtain ⟨artifact, hartifact, hfile⟩ := mem_filesAt.1 hmem
  obtain ⟨dir, stem, hdir, hstem, isa, hisa, extension, hextension, rfl⟩ := mem_paths.1 hartifact
  obtain ⟨content, hlocate, -⟩ := fileAt?_eq_some_iff.1 hfile
  refine ⟨dir, stem, hdir, hstem, isa, hisa, extension, hextension, ?_⟩
  intro oat
  have hplace : here = Path.resolve (Path.join oat isa) ++ [artifactName stem extension] :=
    (location_eq_resolve hlocate).trans (resolve_artifact _ hstem hextension)
  have hbelow : Path.Below (Path.resolve oat) here ↔
      Path.resolve oat <+: Path.resolve (Path.join oat isa) := by
    rw [hplace]
    exact Path.below_concat_iff
  exact ⟨hplace, hbelow, fun hstays => hbelow.2 hstays.prefix_resolve_join⟩

/-- The artifact that is removed of the leftovers lay below `oat`. -/
theorem removed_below_oat_leftovers :
    ∃ left, cleanUp leftovers "/d/a.jar" ["arm"] = (left, .error .io) ∧
      left.get? ["d", "oat", "arm", "a.odex"] ≠ leftovers.get? ["d", "oat", "arm", "a.odex"] ∧
      Path.Below ["d", "oat"] ["d", "oat", "arm", "a.odex"] := by
  have hgone : (leftovers.without [] ["/d/oat/arm/a.odex"]).get? ["d", "oat", "arm", "a.odex"] ≠
      leftovers.get? ["d", "oat", "arm", "a.odex"] := by
    rw [get?_without, if_pos (mem_filesAt.2 ⟨_, List.mem_singleton_self _, fileAt?_leftovers⟩)]
    decide +kernel
  refine ⟨_, cleanUp_leftovers, hgone, ?_⟩
  obtain ⟨dir, stem, hdir, -, isa, hisa, -, -, -, -, hbelow⟩ :=
    removed_below_oat_iff cleanUp_leftovers hgone
  obtain rfl : dir = "/d" := by
    have hparent : Path.parent? "/d/a.jar" = some "/d" := by decide +kernel
    rw [hparent] at hdir
    cases hdir
    rfl
  obtain rfl : isa = "arm" := List.mem_singleton.1 hisa
  have hoat : Path.resolve (Path.join "/d" "oat") = ["d", "oat"] := by decide +kernel
  rw [hoat] at hbelow
  exact hbelow ⟨by decide, by decide⟩

/-- A file that is not next to the dex file `/app/a.jar`. -/
def elsewhere : FileTree := ⟨.ofList [(["other"], .dir), (["other", "a.odex"], .file .empty)]⟩

/-- A record that a ledger can carry takes a file elsewhere, since its instruction set is an
absolute path. -/
theorem removed_elsewhere :
    let record := UsageRecord.ofLoad 0 "/other" false false
    let left := elsewhere.erase ["other", "a.odex"]
    record.fault? "com.a" "/app/a.jar" = none ∧
      elsewhere.pathExists [] "/app/a.jar" = false ∧
      cleanUp elsewhere "/app/a.jar" record.isas.toList = (left, .ok false) ∧
      elsewhere.get? ["other", "a.odex"] = some (.file .empty) ∧
      left.get? ["other", "a.odex"] = none ∧
      Path.parent? "/app/a.jar" = some "/app" ∧
      ¬Path.Below (Path.resolve (Path.join "/app" "oat")) ["other", "a.odex"] := by
  intro record left
  have hmissing : elsewhere.pathExists [] "/app/a.jar" = false := by
    rw [pathExists, lookup, locate_eq_map_walk (by decide) (by decide) (by decide)]
    decide +kernel
  have hartifacts : Artifacts.paths "/app/a.jar" record.isas.toList =
      ["/other/a.odex", "/other/a.vdex", "/other/a.art"] := by
    decide +kernel
  have hodex : elsewhere.removeFile [] "/other/a.odex" = .ok left := by
    rw [removeFile, locate_unlinked, locate_eq_map_walk (by decide) (by decide) (by decide)]
    rfl
  have hvdex : left.removeFile [] "/other/a.vdex" = .error .notFound := by
    rw [removeFile, locate_unlinked, locate_eq_map_walk (by decide) (by decide) (by decide)]
    rfl
  have hart : left.removeFile [] "/other/a.art" = .error .notFound := by
    rw [removeFile, locate_unlinked, locate_eq_map_walk (by decide) (by decide) (by decide)]
    rfl
  have hremoved : cleanUp elsewhere "/app/a.jar" record.isas.toList = (left, .ok false) := by
    rw [cleanUp_of_missing (by decide) hmissing, hartifacts]
    simp only [removeAll, hodex, hvdex, hart]
    rfl
  have hbelow : ¬Path.resolve (Path.join "/app" "oat") <+: ["other", "a.odex"] := by
    decide +kernel
  refine ⟨by decide +kernel, hmissing, hremoved, by decide +kernel, by decide +kernel,
    by decide +kernel, fun h => hbelow h.1⟩

/-- The instruction sets that are supported unless the settings say otherwise are paths that
stay. -/
theorem stays_of_supports {isa : String} (h : (Policy.ofConfig .default).supports isa = true) :
    Path.Stays isa := by
  have hall : ∀ isa ∈ Config.default.supportedIsas,
      Path.isAbsolute isa = false ∧ Path.staysWithin 0 (Path.pieces isa) = true := by
    decide
  obtain ⟨hrelative, hwithin⟩ := hall isa (List.contains_iff_mem.1 h)
  exact ⟨hrelative, hwithin⟩

end DexTrail.Artifacts
