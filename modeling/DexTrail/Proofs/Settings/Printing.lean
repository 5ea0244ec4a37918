-- SUMMARY: A printed configuration is loaded back as it was.
import DexTrail.Command.Run
import DexTrail.Proofs.Settings.Precedence
import DexTrail.Proofs.Toml.Sections
import Mathlib.Data.List.Nodup

/-!
# Printing the configuration

A configuration is printed when its two numbers fit a document (`Config.isSome_print?_iff`). The
printed text has a section for each part of the configuration, whatever characters its strings
are made of, and is read as the document of these sections (`Config.read?_of_print?`). Since
each setting is found where it was printed, loading the text gives the configuration back
(`Config.reload_of_print?`).
-/

namespace DexTrail

open Toml (Value Section Says says_entry denotes_string denotes_strings denotes_writeNat)
open Toml.Printer (entry header string strings)

/-! ## Settings -/

namespace Setting

/-- Texts by name as the entries of a document. -/
def entriesOf (texts : List (String × String)) : Toml.Entries :=
  texts.map fun e => (e.1, .string e.2)

theorem mapM_some {α : Type} (as : List α) : as.mapM some = some as := by
  have h := List.mapM_pure (m := Option) (l := as) (f := id)
  rwa [List.map_id] at h

theorem texts_strings (ss : List String) : texts (.array (ss.map .string)) = some ss := by
  rw [texts, List.mapM_map]
  exact mapM_some ss

theorem count_toNat (n : UInt64) : count (.integer n.toNat) = some n := by
  have hsize : n.toNat < UInt64.size := n.toNat_lt
  rw [count, if_pos (Int.natCast_nonneg _), Int.toNat_natCast, Decimal.toUInt64?, if_pos hsize,
    UInt64.ofNat_toNat]

theorem textsByName_entriesOf (origin : Toml.Origin) (m : SortedMap String String) :
    textsByName (.table origin (entriesOf m.toList)) = some m := by
  have hentries : (entriesOf m.toList).mapM
      (fun (e : String × Value) => do pure (e.1, ← text e.2)) = some m.toList := by
    rw [entriesOf, List.mapM_map]
    exact mapM_some m.toList
  rw [textsByName, hentries, Option.map_some, SortedMap.ofList_toList]

end Setting

namespace Config

/-! ## The sections of a configuration -/

/-- A section of one setting. -/
def singleSection (name setting : String) (v : Value) : Section :=
  ⟨name, [], [(setting, v)], (by decide : 1 < Toml.Key.limit), List.nodup_singleton setting⟩

def trackingSection (c : Config) : Section where
  name := "tracking"
  below := []
  entries := [
    ("framework_roots", .array (c.frameworkRoots.map .string)),
    ("supported_isas", .array (c.supportedIsas.map .string))]
  short := by decide
  distinct := by simp

def filtersSection (c : Config) : Section where
  name := "compiler"
  below := ["filters"]
  entries := Setting.entriesOf c.filters.toList
  short := by decide
  distinct := by
    rw [Setting.entriesOf, List.map_map]
    exact c.filters.nodup_keys

/-- The sections of the document of a configuration. -/
def sections (c : Config) : List Section := [
  singleSection "storage" "ledger_path" (.string c.ledgerPath),
  singleSection "persist" "write_debounce_ms" (.integer c.writeDebounceMs.toNat),
  c.trackingSection,
  c.filtersSection,
  singleSection "optimizer" "command" (.array (c.optimizerCommand.map .string)),
  singleSection "maintenance" "interval_secs" (.integer c.maintenanceIntervalSecs.toNat),
  singleSection "packages" "database" (.string c.packageDatabase)]

theorem section?_of_lookup {doc entries : Toml.Entries} {name : String} {origin : Toml.Origin}
    (h : doc.lookup name = some (.table origin entries)) (settings : List String) : section? doc
      name settings = some (settings.map fun setting => entries.lookup setting) := by
  rw [section?, h]
  rfl

theorem single?_of_lookup {α : Type} {doc entries : Toml.Entries} {name setting : String}
    {origin : Toml.Origin} {v : Value} (h : doc.lookup name = some (.table origin entries))
    (hv : entries.lookup setting = some v) (absent : α) (read : Value → Option α) :
    single? doc name setting absent read = read v := by
  rw [single?, section?_of_lookup h, List.map_singleton, hv]
  rfl

theorem nodup_sections (c : Config) : (c.sections.map (·.name)).Nodup := by
  simp [sections, singleSection, trackingSection, filtersSection]

/-- The only setting of a section is found in it. -/
theorem single?_sections {α : Type} {c : Config} {name setting : String} {v : Value} {a : α}
    (read : Value → Option α) (h : singleSection name setting v ∈ c.sections)
    (hread : read v = some a) (absent : α) :
    single? (c.sections.map Section.table) name setting absent read = some a :=
  (single?_of_lookup (Toml.lookup_table c.nodup_sections h) List.lookup_cons_self absent read).trans
    hread

/-- Each setting is found in its section. -/
theorem ofEntries?_sections (c : Config) :
    ofEntries? (c.sections.map Section.table) = some c := by
  have hroots := Setting.texts_strings c.frameworkRoots
  have hisas := Setting.texts_strings c.supportedIsas
  have htracking : section? (c.sections.map Section.table) "tracking"
        ["framework_roots", "supported_isas"] =
      some [some (.array (c.frameworkRoots.map .string)),
        some (.array (c.supportedIsas.map .string))] := by
    have hlookup := Toml.lookup_table c.nodup_sections (s := c.trackingSection) (by simp [sections])
    exact (section?_of_lookup hlookup _).trans (by simp [trackingSection, List.lookup_cons])
  have hfilters : single? (c.sections.map Section.table) "compiler" "filters" default.filters
      Setting.textsByName = some c.filters := by
    have hlookup := Toml.lookup_table c.nodup_sections (s := c.filtersSection) (by simp [sections])
    exact (single?_of_lookup hlookup List.lookup_cons_self _ _).trans
      (Setting.textsByName_entriesOf _ _)
  have hstorage : singleSection "storage" "ledger_path" (.string c.ledgerPath) ∈ c.sections := by
    simp [sections]
  have hpersist : singleSection "persist" "write_debounce_ms"
      (.integer c.writeDebounceMs.toNat) ∈ c.sections := by
    simp [sections]
  have hoptimizer : singleSection "optimizer" "command"
      (.array (c.optimizerCommand.map .string)) ∈ c.sections := by
    simp [sections]
  have hmaintenance : singleSection "maintenance" "interval_secs"
      (.integer c.maintenanceIntervalSecs.toNat) ∈ c.sections := by
    simp [sections]
  have hpackages : singleSection "packages" "database"
      (.string c.packageDatabase) ∈ c.sections := by
    simp [sections]
  have hledgerPath := single?_sections Setting.text hstorage rfl
  have hwait := single?_sections Setting.count hpersist (Setting.count_toNat _)
  have hcommand := single?_sections Setting.texts hoptimizer (Setting.texts_strings _)
  have hinterval := single?_sections Setting.count hmaintenance (Setting.count_toNat _)
  have hdatabase := single?_sections Setting.text hpackages rfl
  simp only [ofEntries?, htracking, hledgerPath, hwait, Setting.orElse, hroots, hisas, hfilters,
    hcommand, hinterval, hdatabase, Option.bind_eq_bind, Option.bind_some, Option.pure_def]

/-! ## The printed text -/

theorem isPrinted_single (name setting : String) {cs : List Char} {v : Value}
    (h : Toml.Denotes cs v) :
    (singleSection name setting v).IsPrinted (header [name] ++ entry setting cs) :=
  ⟨entry setting cs, rfl, says_entry setting h⟩

theorem isPrinted_tracking (c : Config) :
    c.trackingSection.IsPrinted (header ["tracking"] ++
      entry "framework_roots" (strings c.frameworkRoots) ++
      entry "supported_isas" (strings c.supportedIsas)) :=
  ⟨_, List.append_assoc _ _ _, (says_entry "framework_roots" (denotes_strings _)).append
    (says_entry "supported_isas" (denotes_strings _))⟩

/-- Texts by name say their entries line by line. -/
theorem says_texts (texts : List (String × String)) :
    Says (texts.flatMap fun (name, text) => entry name (string text))
      ((Setting.entriesOf texts).map fun e => .entry [e.1] e.2) := by
  induction texts with
  | nil => exact Says.nil
  | cons e texts ih => exact (says_entry e.1 (denotes_string e.2)).append ih

theorem isPrinted_filters (c : Config) :
    c.filtersSection.IsPrinted (header ["compiler", "filters"] ++
      c.filters.toList.flatMap fun (reason, filter) => entry reason (string filter)) :=
  ⟨_, rfl, says_texts c.filters.toList⟩

/-- A document can hold the number. -/
def Fits (n : UInt64) : Prop := (n.toNat : Int) ≤ Int64.maxValue.toInt

instance (n : UInt64) : Decidable (Fits n) := inferInstanceAs (Decidable (_ ≤ _))

theorem printCount?_of_fits {n : UInt64} (h : Fits n) :
    printCount? n = some (Decimal.writeNat n.toNat) := if_pos h

theorem printCount?_eq_none {n : UInt64} (h : ¬Fits n) : printCount? n = none := if_neg h

/-- A configuration is printed exactly when a document can hold its numbers. -/
theorem isSome_print?_iff (c : Config) :
    c.print?.isSome ↔ Fits c.writeDebounceMs ∧ Fits c.maintenanceIntervalSecs := by
  unfold print?
  by_cases hwait : Fits c.writeDebounceMs
  · by_cases hinterval : Fits c.maintenanceIntervalSecs
    · simp [printCount?_of_fits hwait, printCount?_of_fits hinterval, hwait, hinterval]
    · simp [printCount?_eq_none hinterval, hinterval]
  · simp [printCount?_eq_none hwait, hwait]

/-- The printed text is the document of the sections. -/
theorem read?_of_print? {c : Config} {text : String} (h : c.print? = some text) :
    Toml.read? text = some (c.sections.map Section.table) := by
  obtain ⟨hwait, hinterval⟩ := (isSome_print?_iff c).1 (h ▸ rfl)
  rw [print?, printCount?_of_fits hwait, printCount?_of_fits hinterval] at h
  obtain rfl := Option.some.inj h
  refine Toml.read?_sections ?_ c.nodup_sections
  exact .cons (isPrinted_single _ _ (denotes_string _))
    (.cons (isPrinted_single _ _ (denotes_writeNat hwait))
    (.cons (isPrinted_tracking c)
    (.cons (isPrinted_filters c)
    (.cons (isPrinted_single _ _ (denotes_strings _))
    (.cons (isPrinted_single _ _ (denotes_writeNat hinterval))
    (.cons (isPrinted_single _ _ (denotes_string _)) .nil))))))

theorem parse?_of_print? {c : Config} {text : String} (h : c.print? = some text) :
    parse? text = some c := by
  rw [parse?, read?_of_print? h, Option.bind_some, ofEntries?_sections]

/-! ## Loading what was printed -/

/-- A configuration is printed exactly when a document can hold its two numbers. What is printed
of it is what the program shows of the configuration; and when it is written to a file, whatever
characters the settings hold, that file is loaded as the same configuration, by itself and as
the global document above a project without one. -/
theorem reload_of_print? (c : Config) :
    (c.print?.isSome ↔ Fits c.writeDebounceMs ∧ Fits c.maintenanceIntervalSecs) ∧
    ∀ text, c.print? = some text →
      (∀ (i : Invocation) (lines : Nat) (m : Machine) (loaded : Config),
        i.command = .showConfig →
        load m.files m.cwd m.home m.environment = .ok loaded →
        i.configure loaded = c →
        i.carryOut lines m = (m.print text, .ok ())) ∧
      ∀ (t t' : FileTree) (cwd : Location) (path : String),
        t.writeFile cwd path text.toUTF8 = .ok t' →
        ofFile t' cwd path = .ok (some c) ∧
        ∀ project, t'.pathExists cwd project = false →
          ofFiles t' cwd (some path) project = .ok c := by
  refine ⟨isSome_print?_iff c, fun text htext => ⟨?_, ?_⟩⟩
  · intro i lines m loaded hshow hload hconfigure
    unfold Invocation.carryOut
    rw [hload]
    dsimp only
    rw [hshow]
    dsimp only
    rw [hconfigure, htext]
  · intro t t' cwd path hwrite
    have hfile : ofFile t' cwd path = .ok (some c) :=
      ofFile_of_read (FileTree.read_of_writeFile hwrite) (parse?_of_print? htext)
    refine ⟨hfile, fun project hproject => ?_⟩
    have hnone : ofFile t' cwd project = .ok none := by
      rw [ofFile, hproject]
      rfl
    rw [ofFiles]
    dsimp only
    rw [hfile, hnone]
    rfl

/-- A configuration whose texts hold quotation marks and apostrophes, backslashes, a control
character and both kinds of line breaks, with filters whose names cannot be bare keys. -/
def manyMarks : Config :=
  { default with
    ledgerPath := "~/it's \"mine\"\\\n"
    writeDebounceMs := 9223372036854775807
    frameworkRoots := []
    filters := .ofList [("", "'''\"\"\""), ("a.b", "\r\n\x07"), ("in\"n'er", "speed")]
    optimizerCommand := ["sh", "-c", "printf \"%s\\n\"", "one\ntwo"] }

/-- A directory without files. -/
def emptyWork : FileTree := ⟨.ofList [(["work"], .dir)]⟩

open Toml.Printer (Style) in
/-- Its texts are printed in each of the four styles, and it is loaded back. -/
theorem reload_of_print?_manyMarks :
    ((manyMarks.ledgerPath :: manyMarks.optimizerCommand).map fun s => Style.of s.toList) =
      [.multiLiteral, .basic, .basic, .literal, .multiBasic] ∧
    ∃ text t, manyMarks.print? = some text ∧
      emptyWork.writeFile ["work"] "config.toml" text.toUTF8 = .ok t ∧
      ofFiles t ["work"] (some "config.toml") "project.toml" = .ok manyMarks := by
  have hlocate : emptyWork.locate ["work"] "config.toml" =
      .ok ⟨["work", "config.toml"], false⟩ := by
    rw [FileTree.locate, String.contains_char_eq, if_neg (by decide), if_neg (by decide)]
    exact eq_ok_of_toOption (by decide +kernel)
  have hlocate' : emptyWork.locate ["work"] "project.toml" =
      .ok ⟨["work", "project.toml"], false⟩ := by
    rw [FileTree.locate, String.contains_char_eq, if_neg (by decide), if_neg (by decide)]
    exact eq_ok_of_toOption (by decide +kernel)
  have hfree : emptyWork.get? ["work", "config.toml"] ≠ some .dir := by decide +kernel
  obtain ⟨hprinted, hreload⟩ := reload_of_print? manyMarks
  obtain ⟨text, htext⟩ := Option.isSome_iff_exists.1 (hprinted.2 ⟨by decide, by decide⟩)
  have hwrite := FileTree.writeFile_eq_ok_iff.2
    ⟨_, hlocate, hfree, (rfl : _ = emptyWork.set _ (.file text.toUTF8))⟩
  have hproject : (emptyWork.set ["work", "config.toml"] (.file text.toUTF8)).pathExists
      ["work"] "project.toml" = false := by
    have hnone : (emptyWork.set ["work", "config.toml"] (.file text.toUTF8)).get?
        ["work", "project.toml"] = none := by
      rw [FileTree.get?_set _ _ _ _ (List.cons_ne_nil _ _), if_neg (by decide)]
      decide +kernel
    rw [FileTree.pathExists, FileTree.lookup, (FileTree.keepsDirs_set hfree _).locate hlocate']
    simp only [bind, Except.bind, hnone]
    rfl
  exact ⟨by decide +kernel, text, _, htext, hwrite,
    ((hreload text htext).2 _ _ _ _ hwrite).2 _ hproject⟩

end Config

end DexTrail
