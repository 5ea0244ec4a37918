-- SUMMARY: The program on a real machine: its files are read in, the command runs, changes are written out.
import DexTrail.Command.Run
import DexTrail.Local.StockPrograms

/-!
# The program

A command is a function of a machine. Here the part of the real machine that the
command can touch is read into a file tree, the command is run on it, and what it
changed is written out, while the lock of the ledger is held. A maintenance loop
is a session for each pass.
-/

namespace DexTrail.Host

/-! ## Reading in -/

/-- What stands at a path. What cannot be read as a file is taken for a directory. -/
def look (path : String) : IO (Option Node) := do
  try
    pure (some (.file (← IO.FS.readBinFile path)))
  catch
    | .noFileOrDirectory .. => pure none
    | _ => pure (some .dir)

/-- The texts of a path and of all paths above it, the shortest first. -/
def steps (path : String) : List String :=
  let pieces := (splitAtSlashes path.toList).filter fun piece => piece != []
  (List.range pieces.length).map fun n => "/" ++ String.ofList (joinPieces (pieces.take (n + 1)))

/-- Take what stands at an absolute path, and above it, into a tree. -/
def take (t : FileTree) (path : String) : IO FileTree :=
  (steps path).foldlM (fun t step => do
    match t.locate [] step with
    | .error _ => pure t
    | .ok target =>
      match ← look step with
      | none => pure t
      | some node => pure (t.set target.location node)) t

def takeAll (t : FileTree) (paths : List String) : IO FileTree := paths.foldlM take t

/-! ## Writing out -/

def pathOf (place : Location) : String := "/" ++ String.intercalate "/" place

/-- Replace a file as a whole. -/
def replaceFile (path : String) (content : ByteArray) : IO Unit := do
  let temporary := path ++ ".tmp"
  IO.FS.writeBinFile temporary content
  IO.FS.rename temporary path

/-- Write out what differs between two trees. -/
def writeChanges (before after : FileTree) : IO Unit := do
  for (place, node) in after.nodes.toList do
    if before.get? place != some node then
      match node with
      | .dir => IO.FS.createDirAll (pathOf place)
      | .file content => replaceFile (pathOf place) content
  for (place, node) in before.nodes.toList.reverse do
    if (after.get? place).isNone then
      match node with
      | .dir => IO.FS.removeDir (pathOf place)
      | .file _ => IO.FS.removeFile (pathOf place)

/-! ## Locking -/

/-- Try to lock a file until the tries are used up, ten a second. -/
def tryLock (handle : IO.FS.Handle) : Nat → IO Bool
  | 0 => handle.tryLock
  | tries + 1 => do
    if ← handle.tryLock then pure true
    else
      IO.sleep 100
      tryLock handle tries

/-- Lock the file at a path. The answer holds the lock while it is in use, and says
whether another process has it. A file that cannot be made is left to the command
to complain about. -/
def lock (path : String) (seconds : Nat) : IO (Option IO.FS.Handle × Bool) := do
  try
    if let some parent := Path.parent? path then IO.FS.createDirAll parent
    let handle ← IO.FS.Handle.mk path .write
    pure (some handle, !(← tryLock handle (10 * seconds)))
  catch _ => pure (none, false)

/-! ## Running -/

/-- The variables that the program and its commands look at. -/
def variableNames : List String :=
  ["HOME", "PATH", "DEXUSE_LEDGER", "DEXUSE_PACKAGES", "DEXUSE_WRITE_DEBOUNCE_MS",
    "DEXUSE_LOCK_TIMEOUT"]

/-- Their values in this process. -/
def readVariables : IO Variables :=
  variableNames.foldlM (fun vs name => do
    match ← IO.getEnv name with
    | some value => pure (vs.insert name value)
    | none => pure vs) .empty

/-- The files that a ledger and a command can lead to. -/
def filesOf (i : Invocation) (l : Ledger) : List String :=
  let recorded := l.packages.toList.flatMap fun (_, u) =>
    u.toList.flatMap fun (path, r) => path :: Artifacts.paths path r.isas.toList
  match i.command with
  | .register path _ _ _ => path :: recorded
  | _ => recorded

/-- Print what a command printed and how it failed; the answer is the exit code. -/
def finish (m : Machine) (outcome : Program.Outcome) : IO UInt32 := do
  IO.print m.output
  IO.eprint (m.complaints ++ outcome.complaint)
  pure outcome.code.toUInt32

/-- Run a session of an invocation once. -/
def runSession (args : List String) (i : Invocation) (c : Config) (m : Machine)
    (cwd : String) : IO UInt32 := do
  let ledgerPath := c.resolvedLedgerPath m.home
  let lockPath := Path.join cwd (Session.lockPath ledgerPath)
  let (handle, locked) ← lock lockPath (Session.lockTimeout m)
  let file : LedgerFile := ⟨ledgerPath, m.cwd⟩
  let files ← takeAll m.files ([ledgerPath, file.temporary, lockPath,
    c.resolvedPackageDatabase m.home].map (Path.join cwd))
  let ledger := Store.ledgerOf (file.read files)
  let files ← takeAll files ((filesOf i ledger).filter Path.isAbsolute)
  let locks := match files.locate [] lockPath with
    | .ok target => if locked then [target.location] else []
    | .error _ => []
  let (after, outcome) := Program.run args 1 { m with files, locks }
  writeChanges files after.files
  let code ← finish after outcome
  if let some handle := handle then handle.unlock
  pure code

/-- Run a session after each interval, for as long as the process lives. -/
partial def runForever (pass : IO UInt32) (seconds : Nat) : IO UInt32 := do
  let code ← pass
  if code != 0 then pure code
  else
    IO.sleep (UInt32.ofNat (min (1000 * seconds) (UInt32.size - 1)))
    runForever pass seconds

/-- Run the program. -/
def run (args : List String) : IO UInt32 := do
  let vars ← readVariables
  let cwd := (← IO.currentDir).toString
  let files ← takeAll .empty (cwd :: StockPrograms.directories.map pathOf)
  let place := match files.locate [] cwd with
    | .ok target => target.location
    | .error _ => []
  let m : Machine := {
    files, cwd := place, vars, locks := [], execute := StockPrograms.execute, output := ""
    complaints := "" }
  let documents := (Config.globalPath? m.home).toList ++ [Config.projectPath]
  let m := { m with files := ← takeAll m.files (documents.map (Path.join cwd)) }
  match Invocation.parse args vars, Config.load m.files m.cwd m.home m.environment with
  | .ok i, .ok c =>
    let c := i.configure c
    match i.command with
    | .showConfig | .showPaths =>
      let (m, outcome) := Program.run args 1 m
      finish m outcome
    | .maintain interval false =>
      let seconds := max 1 (interval.getD c.maintenanceIntervalSecs).toNat
      runForever (runSession args i c m cwd) seconds
    | _ => runSession args i c m cwd
  | _, _ =>
    let (m, outcome) := Program.run args 1 m
    finish m outcome

end DexTrail.Host

def main (args : List String) : IO UInt32 := DexTrail.Host.run args
