-- SUMMARY: Tools that make, copy, move, remove and list files.
import DexTrail.Process.State
import DexTrail.Tools.Operands

/-!
# File tools

Each tool goes through its operands one after another. What fails is complained
about, the rest is done all the same, and the status tells whether all went well.
-/

namespace DexTrail.Tools

open Process

variable {links : Bool}

def reason : DiskError → String
  | .notFound => "No such file or directory"
  | .notADirectory => "Not a directory"
  | .isADirectory => "Is a directory"
  | .alreadyExists => "File exists"
  | .badPath => "File name too long"
  | .tooManyLinks => "Too many levels of symbolic links"
  | .notPermitted => "Operation not permitted"

/-- What a tool was to do with an operand when it failed, with the operand. -/
def failing (tool operand : String) : String :=
  let quoted := "'" ++ operand ++ "'"
  match tool with
  | "mkdir" => "cannot create directory " ++ quoted
  | "touch" => "cannot touch " ++ quoted
  | "rm" => "cannot remove " ++ quoted
  | "rmdir" => "failed to remove " ++ quoted
  | "cp" | "mv" => "cannot stat " ++ quoted
  | "ln" => "failed to link " ++ quoted
  | "chmod" | "ls" => "cannot access " ++ quoted
  | _ => operand

/-- Complain about an operand. -/
def complainOf (tool operand : String) (e : DiskError) : StateM (Process links) Unit :=
  complain (tool ++ ": " ++ failing tool operand ++ ": " ++ reason e)

/-- Go through operands. The status is one if it is for any of them. -/
def forAll (operands : List String) (act : String → StateM (Process links) Nat) :
    StateM (Process links) Nat :=
  operands.foldlM (fun status operand => do pure (max status (← act operand))) 0

/-- Change the tree, or complain. -/
def change (tool operand : String) (f : Process links → Except DiskError (FileTree links)) :
    StateM (Process links) Nat := do
  match f (← get) with
  | .ok files => modify fun p => { p with files }; pure 0
  | .error e => complainOf tool operand e; pure 1

/-- Read the arguments of a tool and go on; arguments that cannot be read end it. -/
def withLine (tool : String) (flags valued : List Char) (args : List String)
    (act : Line → StateM (Process links) Nat) : StateM (Process links) Nat :=
  match Line.ofArgs? flags valued none args with
  | none => do complain (tool ++ ": invalid option"); pure 1
  | some l => act l

/-- As `withLine`, for a tool that needs at least so many operands. -/
def withOperands (tool : String) (flags valued : List Char) (least : Nat) (args : List String)
    (act : Line → StateM (Process links) Nat) : StateM (Process links) Nat :=
  withLine tool flags valued args fun l =>
    if l.operands.length < least then do complain (tool ++ ": missing operand"); pure 1
    else act l

/-! ## Making -/

def mkdir : Program links := fun args =>
  withOperands "mkdir" ['p', 'v'] ['m'] 1 args fun l => forAll l.operands fun path =>
    change "mkdir" path fun p =>
      if l.has 'p' then
        match p.files.makeDirs p.cwd path with
        | (files, .ok ()) => .ok files
        | (_, .error e) => .error e
      else p.files.makeDir p.cwd path

def touch : Program links := fun args =>
  withOperands "touch" ['a', 'c', 'm'] ['d', 't', 'r'] 1 args fun l => forAll l.operands fun path =>
    change "touch" path fun p =>
      match p.files.lookup p.cwd path with
      | .ok _ => .ok p.files
      | .error .notFound =>
        if l.has 'c' then .ok p.files else p.files.writeFile p.cwd path .empty
      | .error e => .error e

/-- Set the mode of files, which nobody looks at. -/
def chmod : Program links := fun args =>
  withOperands "chmod" ['R', 'f', 'v', 'w', 'x', 'r'] [] 1 args fun l =>
    forAll (l.operands.drop 1) fun path =>
      change "chmod" path fun p => (p.files.lookup p.cwd path).map fun _ => p.files

/-! ## Removing -/

def rm : Program links := fun args =>
  withLine "rm" ['f', 'r', 'R', 'v', 'd', 'i'] [] args fun l => do
    if l.operands.isEmpty && !l.has 'f' then
      complain "rm: missing operand"
      return 1
    forAll l.operands fun path => change "rm" path fun p =>
      match p.files.removeFile p.cwd path with
      | .ok files => .ok files
      | .error .isADirectory =>
        if l.has 'r' || l.has 'R' then .ok (p.files.removeTree p.cwd path).1
        else .error .isADirectory
      | .error e => if l.has 'f' && e != .badPath then .ok p.files else .error e

def rmdir : Program links := fun args =>
  withOperands "rmdir" ['p', 'v'] [] 1 args fun l => forAll l.operands fun path =>
    change "rmdir" path fun p => do
      let target ← p.files.locate p.cwd path false
      match p.files.get? target.location with
      | some .dir =>
        if (p.files.names target.location).isEmpty then .ok (p.files.erase target.location)
        else .error .alreadyExists
      | some _ => .error .notADirectory
      | none => .error .notFound

/-! ## Copying, moving and linking -/

/-- The last name of a path. -/
def lastName (path : String) : String :=
  let pieces := (splitAtSlashes path.toList).filter fun piece => !piece.isEmpty
  match pieces.getLast? with
  | some name => String.ofList name
  | none => if path.isEmpty then "" else "/"

/-- The path at which something with the name of a source is put: the destination, or
in it if it is a directory. -/
def pathIn (p : Process links) (source destination : String) : String :=
  if p.files.isDir p.cwd destination then Path.join destination (lastName source)
  else destination

/-- From where to where something goes when it is copied or moved. -/
def places (p : Process links) (source destination : String) (follow followTarget : Bool) :
    Except DiskError (Location × Location) := do
  let origin ← p.files.locate p.cwd source follow
  let target ← p.files.locate p.cwd (pathIn p source destination) followTarget
  if origin.location == target.location then throw .alreadyExists
  match p.files.get? origin.location, p.files.get? target.location with
  | none, _ => throw .notFound
  | some .dir, none | some .dir, some .dir => pure ()
  | some .dir, some _ => throw .notADirectory
  | some _, some .dir => throw .isADirectory
  | some _, _ => if origin.slashed || target.slashed then throw .notADirectory
  pure (origin.location, target.location)

/-- A tree to which what stands at one place, with everything below it, is added at
another. -/
def graft (add : FileTree links → Location → Node links → FileTree links) (t : FileTree links)
    (source destination : Location) : FileTree links :=
  t.nodes.toList.foldl (fun copy (place, node) =>
    match source.isPrefixOf? place with
    | some names => add copy (destination ++ names) node
    | none => copy) t

/-- Add a copy: a file with the same content, but another one. -/
def addCopy (t : FileTree links) (here : Location) (node : Node links) : FileTree links :=
  match node.content? with
  | some content => t.put here content
  | none => t.set here node

/-- Copy or move all operands but the last one to the last one. -/
def transfer (tool : String) (l : Line)
    (f : Process links → String → String → Except DiskError (FileTree links)) :
    StateM (Process links) Nat := do
  let destination := l.operands.getLastD ""
  let sources := l.operands.dropLast
  let p ← get
  if 1 < sources.length && !p.files.isDir p.cwd destination then
    complainOf tool destination .notADirectory
    return 1
  forAll sources fun source => change tool source fun p => f p source destination

def cp : Program links := fun args =>
  withOperands "cp" ['f', 'r', 'R', 'a', 'p', 'v', 'n', 'i', 'u'] [] 2 args fun l =>
    transfer "cp" l fun p source destination => do
      let whole := l.has 'r' || l.has 'R' || l.has 'a'
      let (origin, target) ← places p source destination (!whole) true
      if p.files.isDirAt origin && !whole then throw .isADirectory
      pure (graft addCopy p.files origin target)

def mv : Program links := fun args =>
  withOperands "mv" ['f', 'v', 'n', 'i', 'u'] [] 2 args fun l =>
    transfer "mv" l fun p source destination => do
      let (origin, target) ← places p source destination false false
      let moved := graft FileTree.set p.files origin target
      pure ⟨moved.nodes.filter fun place _ => !origin.isPrefixOf place⟩

/-- Give files other names, or make symbolic links that hold the operands. -/
def ln : Program links := fun args =>
  withOperands "ln" ['s', 'f', 'v'] [] 1 args fun l =>
    let l := if l.operands.length == 1 then { l with operands := l.operands ++ ["."] } else l
    transfer "ln" l fun p source destination =>
      let path := pathIn p source destination
      let files := if l.has 'f' then (p.files.removeFile p.cwd path).toOption.getD p.files
        else p.files
      if l.has 's' then files.makeLink p.cwd source path else files.addName p.cwd source path

/-! ## Listing -/

/-- The names that are listed of a directory. -/
def listed (p : Process links) (l : Line) (path : String) : List String :=
  match p.files.locate p.cwd path with
  | .error _ => []
  | .ok target =>
    let names := p.files.names target.location
    if l.has 'a' then "." :: ".." :: names
    else if l.has 'A' then names
    else names.filter fun name => name.toList.head? != some '.'

def ls : Program links := fun args =>
  withLine "ls" ['1', 'a', 'A', 'd'] [] args fun l => do
    let operands := if l.operands.isEmpty then ["."]
      else l.operands.mergeSort fun a b => compare a b != .gt
    let p ← get
    let stands (path : String) : Bool := l.has 'd' || !p.files.isDir p.cwd path
    let missing := operands.filter fun path => !p.files.pathExists p.cwd path
    missing.forM fun path => complainOf "ls" path .notFound
    let found := operands.filter fun path => p.files.pathExists p.cwd path
    let single := found.filter stands
    let blocks := (found.filter fun path => !stands path).map fun path =>
      let lines := listed p l path
      if 1 < operands.length then (path ++ ":") :: lines else lines
    let blocks := if single.isEmpty then blocks else single :: blocks
    (blocks.intersperse [""]).flatten.forM printLine
    pure (if missing.isEmpty then 0 else 2)

def pwd : Program links := fun args =>
  withLine "pwd" ['L', 'P'] [] args fun _ => do
    printLine ("/" ++ String.intercalate "/" (← get).cwd)
    pure 0

end DexTrail.Tools
