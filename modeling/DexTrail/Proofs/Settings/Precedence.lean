-- SUMMARY: Which source each setting of the configuration comes from.
import DexTrail.Proofs.Disk.Replacement
import DexTrail.Settings.Layers

/-!
# Precedence of the sources

A document sets some settings and leaves the others out. What it sets is a layer
(`Layer.ofEntries?`), and reading it as a configuration is that layer over the defaults. The
environment comes before the documents. The project document comes before the global one
wherever it says something else than the default, and the filters of the project are taken
one by one, while the filters of the global document take the place of the default ones as a
whole (`load_precedence`).
-/

namespace DexTrail

open Toml (Value)

/-! ## What a document sets -/

/-- The settings that a document gives. -/
structure Layer where
  ledgerPath : Option String
  writeDebounceMs : Option UInt64
  frameworkRoots : Option (List String)
  supportedIsas : Option (List String)
  filters : Option (SortedMap String String)
  optimizerCommand : Option (List String)
  maintenanceIntervalSecs : Option UInt64
  packageDatabase : Option String
  deriving DecidableEq

namespace Layer

/-- No setting. -/
def empty : Layer := ⟨none, none, none, none, none, none, none, none⟩

instance : Inhabited Layer := ⟨empty⟩

/-- A setting that may be missing. -/
def optional {α : Type} (read : Value → Option α) : Option Value → Option (Option α) :=
  Setting.orElse none fun v => (read v).map some

/-- The only setting of a table, which may be missing. -/
def single? {α : Type} (doc : Toml.Entries) (name setting : String) (read : Value → Option α) :
    Option (Option α) :=
  Config.single? doc name setting none fun v => (read v).map some

/-- The settings of a document. -/
def ofEntries? (doc : Toml.Entries) : Option Layer := do
  match ← Config.section? doc "tracking" ["framework_roots", "supported_isas"] with
  | [roots, isas] =>
    pure {
      ledgerPath := ← single? doc "storage" "ledger_path" Setting.text
      writeDebounceMs := ← single? doc "persist" "write_debounce_ms" Setting.count
      frameworkRoots := ← optional Setting.texts roots
      supportedIsas := ← optional Setting.texts isas
      filters := ← single? doc "compiler" "filters" Setting.textsByName
      optimizerCommand := ← single? doc "optimizer" "command" Setting.texts
      maintenanceIntervalSecs := ← single? doc "maintenance" "interval_secs" Setting.count
      packageDatabase := ← single? doc "packages" "database" Setting.text }
  | _ => none

/-- The configuration with the settings of the layer in place of its own. -/
def onto (c : Config) (l : Layer) : Config where
  ledgerPath := l.ledgerPath.getD c.ledgerPath
  writeDebounceMs := l.writeDebounceMs.getD c.writeDebounceMs
  frameworkRoots := l.frameworkRoots.getD c.frameworkRoots
  supportedIsas := l.supportedIsas.getD c.supportedIsas
  filters := l.filters.getD c.filters
  optimizerCommand := l.optimizerCommand.getD c.optimizerCommand
  maintenanceIntervalSecs := l.maintenanceIntervalSecs.getD c.maintenanceIntervalSecs
  packageDatabase := l.packageDatabase.getD c.packageDatabase

theorem orElse_eq {α : Type} (absent : α) (read : Value → Option α) (v : Option Value) :
    Setting.orElse absent read v = (optional read v).map fun given => given.getD absent := by
  cases v with
  | none => rfl
  | some v =>
    simp only [Setting.orElse, optional]
    cases read v <;> rfl

theorem single?_eq {α : Type} (doc : Toml.Entries) (name setting : String) (absent : α)
    (read : Value → Option α) :
    Config.single? doc name setting absent read =
      (single? doc name setting read).map fun given => given.getD absent := by
  simp only [single?, Config.single?]
  cases Config.section? doc name [setting] with
  | none => rfl
  | some settings =>
    rcases settings with _ | ⟨v, _ | ⟨_, _⟩⟩
    · rfl
    · exact orElse_eq absent read v
    · rfl

/-- Reading a document as a configuration puts its settings in place of the defaults. -/
theorem ofEntries?_eq (doc : Toml.Entries) :
    Config.ofEntries? doc = (ofEntries? doc).map (onto .default) := by
  simp only [Config.ofEntries?, ofEntries?]
  cases Config.section? doc "tracking" ["framework_roots", "supported_isas"] with
  | none => rfl
  | some settings =>
    rcases settings with _ | ⟨roots, _ | ⟨isas, _ | ⟨_, _⟩⟩⟩
    · rfl
    · rfl
    · simp only [single?_eq, orElse_eq, Option.bind_eq_bind, Option.bind_some, Option.bind_map,
        Option.map_bind, Option.pure_def, Option.map_some, Function.comp_def, onto]
    · rfl

/-- The settings of the text of a document. -/
def ofText? (text : String) : Option Layer := (Toml.read? text).bind ofEntries?

theorem parse?_eq (text : String) : Config.parse? text = (ofText? text).map (onto .default) := by
  rw [Config.parse?, ofText?, Option.map_bind]
  exact congrArg _ (funext ofEntries?_eq)

/-! ## Places of documents -/

/-- At the place there is no document, or a well-formed one that gives the settings `l`. -/
inductive IsAt (t : FileTree) (cwd : Location) : Option String → Layer → Prop where
  | nowhere : IsAt t cwd none .empty
  | absent {path : String} (missing : t.pathExists cwd path = false) :
    IsAt t cwd (some path) .empty
  | document {path text : String} {l : Layer} (content : t.read cwd path = .ok text.toUTF8)
    (settings : ofText? text = some l) : IsAt t cwd (some path) l

end Layer

namespace Config

/-- What is found at the place of a document, if there is a place for it. -/
def ofPlace (t : FileTree) (cwd : Location) (place : Option String) :
    Except ConfigError (Option Config) :=
  place.elim (.ok none) (ofFile t cwd)

/-- A well-formed document that can be read is found. -/
theorem ofFile_of_read {t : FileTree} {cwd : Location} {path text : String} {c : Config}
    (content : t.read cwd path = .ok text.toUTF8) (parsed : parse? text = some c) :
    ofFile t cwd path = .ok (some c) := by
  have there : t.pathExists cwd path = true := by
    unfold FileTree.read at content
    unfold FileTree.pathExists
    cases hl : t.lookup cwd path with
    | error e =>
      rw [hl] at content
      cases content
    | ok node => rfl
  have utf8 : String.fromUTF8? text.toUTF8 = some text := dif_pos text.isValidUTF8
  simp only [ofFile, there, if_true, content, utf8, parsed]

theorem ofPlace_of_isAt {t : FileTree} {cwd : Location} {place : Option String} {l : Layer}
    (h : Layer.IsAt t cwd place l) :
    ∃ found, ofPlace t cwd place = .ok found ∧ found.getD default = l.onto default := by
  cases h with
  | nowhere => exact ⟨none, rfl, rfl⟩
  | absent missing => exact ⟨none, by simp [ofPlace, ofFile, missing], rfl⟩
  | @document path text l content settings =>
    have parsed : parse? text = some (l.onto default) := by
      rw [Layer.parse?_eq, settings, Option.map_some]
    exact ⟨some (l.onto default), ofFile_of_read content parsed, rfl⟩

/-! ## Laying one source over another -/

/-- What is chosen for a setting: what the project gives, unless it is the default, or else
what the global document gives, or else the default. -/
def choice {α : Type} (same : α → α → Bool) (default : α) (project above : Option α) : α :=
  (project.filter fun v => !same v default).getD (above.getD default)

theorem unlessDefault_eq {α : Type} [BEq α] [ReflBEq α] (default : α) (project above : Option α) :
    unlessDefault default (project.getD default) (above.getD default) =
      choice (· == ·) default project above := by
  cases project with
  | none => simp [unlessDefault, choice]
  | some v => cases h : v == default <;> simp [unlessDefault, choice, h, Option.filter]

theorem pathUnlessDefault_eq (default : String) (project above : Option String) :
    pathUnlessDefault default (project.getD default) (above.getD default) =
      choice Path.same default project above := by
  cases project with
  | none => simp [pathUnlessDefault, choice, Path.same]
  | some v => cases h : Path.same v default <;> simp [pathUnlessDefault, choice, h, Option.filter]

/-- A project lays its filters over those of the configuration, without those that are the
default ones. -/
theorem filterFor?_overlay (c project : Config) (reason : String) :
    (c.overlay project).filterFor? reason =
      ((project.filterFor? reason).filter fun filter =>
        default.filterFor? reason != some filter).or (c.filterFor? reason) := by
  let others := SortedMap.filter (fun reason filter => default.filters.get? reason != some filter)
    project.filters
  have hothers : project.filters.toList.filter (fun e => default.filters.get? e.1 != some e.2) =
      others.toList :=
    (SortedMap.toList_filter project.filters fun reason filter =>
      default.filters.get? reason != some filter).symm
  calc
    (c.overlay project).filterFor? reason =
        (c.filters.insertMany others.toList).get? reason := by rw [← hothers]; rfl
    _ = (others.get? reason).or (c.filters.get? reason) :=
        SortedMap.get?_insertMany others.ascending c.filters reason
    _ = _ := by rw [SortedMap.get?_filter]; rfl

theorem overlay_default (c : Config) : c.overlay default = c := by
  simp only [overlay, unlessDefault, pathUnlessDefault, Path.same, beq_self_eq_true, if_true]
  -- what is left are the filters, and no default filter differs from the default
  rfl

/-! ## All sources together -/

/-- The wait that the environment gives, if it is a number. -/
def Environment.wait? (env : Environment) : Option UInt64 :=
  env.debounceMs.bind fun text => (Decimal.readLaxNat? text.toList).bind Decimal.toUInt64?

/-- A document that is not there is like one that sets nothing. -/
theorem ofFiles_eq (t : FileTree) (cwd : Location) (globalPlace : Option String)
    (projectPlace : String) :
    ofFiles t cwd globalPlace projectPlace = (do
      let above ← ofPlace t cwd globalPlace
      let project ← ofPlace t cwd (some projectPlace)
      pure ((above.getD default).overlay (project.getD default))) := by
  have hlaid (c : Config) (project : Option Config) :
      (pure (project.elim c c.overlay) : Except ConfigError Config) =
        pure (c.overlay (project.getD default)) := by
    cases project with
    | none => rw [Option.elim_none, Option.getD_none, overlay_default]
    | some project => rfl
  unfold ofFiles
  simp only [← hlaid, ofPlace, Option.elim_some]
  cases globalPlace with
  | none =>
    rcases ofFile t cwd projectPlace with _ | _ | _ <;> rfl
  | some path =>
    rcases ofFile t cwd path with _ | _ | _ <;>
      rcases ofFile t cwd projectPlace with _ | _ | _ <;> rfl

/-- The configuration loads when there are no documents or well-formed ones. -/
theorem load_of_isAt {t : FileTree} {cwd : Location} {home : Option String} {above project : Layer}
    (habove : Layer.IsAt t cwd (globalPath? home) above)
    (hproject : Layer.IsAt t cwd (some projectPath) project) (env : Environment) :
    load t cwd home env =
      .ok (((above.onto default).overlay (project.onto default)).withEnvironment env) := by
  obtain ⟨found, hfound, hlayer⟩ := ofPlace_of_isAt habove
  obtain ⟨found', hfound', hlayer'⟩ := ofPlace_of_isAt hproject
  rw [load, ofFiles_eq, hfound, hfound', ← hlayer, ← hlayer']
  rfl

/-- Where every setting comes from. The environment comes first. A setting of the project
comes next unless it is the default one, paths being compared by their components; then
comes the global document, and then the default. A filter of the project comes first unless
it is the default for its reason; then comes the table of filters of the global document,
which leaves the other reasons without one, or the default table when there is no such
table. -/
theorem load_precedence {t : FileTree} {cwd : Location} {home : Option String}
    {above project : Layer} (habove : Layer.IsAt t cwd (globalPath? home) above)
    (hproject : Layer.IsAt t cwd (some projectPath) project) (env : Environment) :
    ∃ c, load t cwd home env = .ok c ∧
      c.ledgerPath = env.ledger.getD
        (choice Path.same default.ledgerPath project.ledgerPath above.ledgerPath) ∧
      c.packageDatabase = env.packages.getD
        (choice Path.same default.packageDatabase project.packageDatabase above.packageDatabase) ∧
      c.writeDebounceMs = env.wait?.getD
        (choice (· == ·) default.writeDebounceMs project.writeDebounceMs above.writeDebounceMs) ∧
      c.frameworkRoots =
        choice (· == ·) default.frameworkRoots project.frameworkRoots above.frameworkRoots ∧
      c.supportedIsas =
        choice (· == ·) default.supportedIsas project.supportedIsas above.supportedIsas ∧
      c.optimizerCommand =
        choice (· == ·) default.optimizerCommand project.optimizerCommand above.optimizerCommand ∧
      c.maintenanceIntervalSecs =
        choice (· == ·) default.maintenanceIntervalSecs project.maintenanceIntervalSecs
          above.maintenanceIntervalSecs ∧
      ∀ reason, c.filterFor? reason =
        ((project.filters.bind fun filters => filters.get? reason).filter fun filter =>
          default.filterFor? reason != some filter).or
          ((above.filters.getD default.filters).get? reason) := by
  refine ⟨_, load_of_isAt habove hproject env, ?_⟩
  have hfilters (reason : String) :
      ((project.onto default).filterFor? reason).filter
          (fun filter => default.filterFor? reason != some filter) =
        (project.filters.bind fun filters => filters.get? reason).filter
          fun filter => default.filterFor? reason != some filter := by
    cases h : project.filters with
    | some filters => simp only [filterFor?, Layer.onto, h, Option.getD_some, Option.bind_some]
    | none =>
      simp only [filterFor?, Layer.onto, h, Option.getD_none, Option.bind_none, Option.filter_none]
      cases default.filters.get? reason <;> simp [Option.filter]
  refine ⟨?_, ?_, ?_, ?_, ?_, ?_, ?_, ?_⟩
  · exact congrArg env.ledger.getD (pathUnlessDefault_eq _ _ _)
  · exact congrArg env.packages.getD (pathUnlessDefault_eq _ _ _)
  · exact congrArg env.wait?.getD (unlessDefault_eq _ _ _)
  · exact unlessDefault_eq _ _ _
  · exact unlessDefault_eq _ _ _
  · exact unlessDefault_eq _ _ _
  · exact unlessDefault_eq _ _ _
  · intro reason
    rw [← hfilters]
    exact filterFor?_overlay _ _ reason

/-! ### Two documents -/

/-- A user's document: short waits and another filter for installs. -/
def ownText : String :=
  "[persist]\nwrite_debounce_ms = 5\n[compiler.filters]\ninstall = \"quicken\"\n"

/-- A project's document: the usual wait. -/
def usualText : String := "[persist]\nwrite_debounce_ms = 1000\n"

def bothTexts : FileTree :=
  ⟨.ofList [
    (["root"], .dir),
    (["root", ".dexuse"], .dir),
    (["root", ".dexuse", "config.toml"], .file ownText.toUTF8),
    (["work"], .dir),
    (["work", ".dexuse"], .dir),
    (["work", ".dexuse", "config.toml"], .file usualText.toUTF8)]⟩

def ownLayer : Layer :=
  { Layer.empty with
    writeDebounceMs := some 5
    filters := some (.ofList [("install", "quicken")]) }

def usualLayer : Layer := { Layer.empty with writeDebounceMs := some 1000 }

theorem eq_ok_of_toOption {ε α : Type} {e : Except ε α} {a : α} (h : e.toOption = some a) :
    e = .ok a := by
  cases e with
  | error e => cases h
  | ok b => exact congrArg Except.ok (Option.some.inj h)

theorem isAt_ownText : Layer.IsAt bothTexts ["work"] (globalPath? (some "/root")) ownLayer := by
  have hplace : globalPath? (some "/root") = some "/root/.dexuse/config.toml" := by decide +kernel
  rw [hplace]
  have hread : bothTexts.read ["work"] "/root/.dexuse/config.toml" = .ok ownText.toUTF8 := by
    refine FileTree.read_eq_ok_iff.2 ⟨["root", ".dexuse", "config.toml"], ?_, by decide +kernel⟩
    rw [FileTree.locate, String.contains_char_eq, if_neg (by decide), if_neg (by decide)]
    exact eq_ok_of_toOption (by decide +kernel)
  exact .document hread (by decide +kernel)

theorem isAt_usualText : Layer.IsAt bothTexts ["work"] (some projectPath) usualLayer := by
  have hread : bothTexts.read ["work"] projectPath = .ok usualText.toUTF8 := by
    refine FileTree.read_eq_ok_iff.2 ⟨["work", ".dexuse", "config.toml"], ?_, by decide +kernel⟩
    rw [FileTree.locate, String.contains_char_eq, if_neg (by decide), if_neg (by decide)]
    exact eq_ok_of_toOption (by decide +kernel)
  exact .document hread (by decide +kernel)

/-- The project sets the wait to 1000 and the user's 5 remains, since 1000 is the default;
and nobody sets a filter for boots and there is none, since the user's table has taken the
place of the default one. -/
theorem load_bothTexts :
    ∃ above project c,
      Layer.IsAt bothTexts ["work"] (globalPath? (some "/root")) above ∧
      Layer.IsAt bothTexts ["work"] (some projectPath) project ∧
      load bothTexts ["work"] (some "/root") ⟨none, none, none⟩ = .ok c ∧
      project.writeDebounceMs = some 1000 ∧ c.writeDebounceMs = 5 ∧
      (project.filters.bind fun filters => filters.get? "boot") = none ∧
      (above.filters.bind fun filters => filters.get? "boot") = none ∧
      default.filterFor? "boot" = some "verify" ∧ c.filterFor? "boot" = none :=
  ⟨ownLayer, usualLayer, _, isAt_ownText, isAt_usualText,
    load_of_isAt isAt_ownText isAt_usualText _, by decide +kernel⟩

/-- The environment comes before both documents. -/
theorem load_bothTexts_withWait :
    let env : Environment := ⟨none, some "/srv/packages.json", some "250"⟩
    ∃ c, load bothTexts ["work"] (some "/root") env = .ok c ∧
      c.packageDatabase = "/srv/packages.json" ∧ c.writeDebounceMs = 250 ∧
      c.filterFor? "install" = some "quicken" ∧ c.ledgerPath = default.ledgerPath := by
  intro env
  obtain ⟨c, hload, hledger, hpackages, hwait, -, -, -, -, hfilters⟩ :=
    load_precedence isAt_ownText isAt_usualText env
  refine ⟨c, hload, hpackages, ?_, ?_, ?_⟩
  · rw [hwait]
    decide +kernel
  · rw [hfilters]
    decide +kernel
  · rw [hledger]
    decide +kernel

end Config

end DexTrail
