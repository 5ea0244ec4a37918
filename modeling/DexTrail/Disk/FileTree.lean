-- SUMMARY: A tree of files, directories and links, and the operations of a file system on it.
import DexTrail.Data.SortedMap
import DexTrail.Disk.Path

/-!
# File trees

A tree maps locations, the lists of names from the root down, to files and
directories. A path is walked piece by piece from the root or from the working
directory; every piece that is walked through must be a directory, and two dots
lead to the directory above. The operations fail as a file system fails, and an
operation that fails leaves the tree as it was.

Some file systems also know links. A symbolic link holds a path, which is put in
its place while a path is walked; making, removing and renaming concern the link
itself. A file may have several names, which are equal in rank. The trees come in
both kinds, and a tree without links is what is meant where nothing is said.
-/

namespace DexTrail

variable {links : Bool}

/-! ## Trees -/

/-- What stands at a location. -/
inductive Node (links : Bool := false) where
  | file (content : ByteArray)
  | dir
  /-- A symbolic link with the path that it holds. -/
  | link (allowed : links = true) (path : String)
  /-- One name of a file that has several: all of them have its number and its content. -/
  | shared (allowed : links = true) (number : Nat) (content : ByteArray)

namespace Node

instance : Inhabited (Node links) := ⟨.dir⟩

/-- Two contents are the same when their bytes are. -/
local instance : DecidableEq ByteArray := fun a b =>
  decidable_of_iff (a.data.toList = b.data.toList) (by
    rw [Array.toList_inj]
    exact ⟨fun h => ByteArray.ext h, congrArg ByteArray.data⟩)

deriving instance DecidableEq for Node

/-- The content of a file under any of its names. -/
def content? : Node links → Option ByteArray
  | .file content | .shared _ _ content => some content
  | .dir | .link _ _ => none

/-- The number of a file that has several names. -/
def number? : Node links → Option Nat
  | .shared _ number _ => some number
  | .file _ | .dir | .link _ _ => none

/-- The path that a symbolic link holds. -/
def path? : Node links → Option String
  | .link _ path => some path
  | .file _ | .dir | .shared _ _ _ => none

/-- Write a file with a number, if this is one of its names. -/
def rewrite (number : Nat) (content : ByteArray) : Node links → Node links
  | .shared allowed n old => .shared allowed n (if n = number then content else old)
  | node => node

end Node

/-- The names from the root down to a place in the tree. The root is the empty
list. -/
abbrev Location := List String

structure FileTree (links : Bool := false) where
  /-- Everything below the root; the root itself is always a directory. -/
  nodes : SortedMap Location (Node links)
  deriving DecidableEq

/-- Why an operation of the file system fails. -/
inductive DiskError where
  | notFound
  | notADirectory
  | isADirectory
  | alreadyExists
  /-- The text can be no path: a name is too long, or it contains a null character. -/
  | badPath
  /-- So many symbolic links are on the way that they may lead around in a circle. -/
  | tooManyLinks
  /-- The file system does not have what is asked for. -/
  | notPermitted
  deriving DecidableEq, Inhabited, Repr

namespace FileTree

/-- A root directory and nothing else. -/
def empty : FileTree links := ⟨.empty⟩

instance : Inhabited (FileTree links) := ⟨empty⟩

/-- What stands at a location. -/
def get? (t : FileTree links) (here : Location) : Option (Node links) :=
  if here = [] then some .dir else t.nodes.get? here

def isDirAt (t : FileTree links) (here : Location) : Bool := t.get? here == some .dir

/-- The content of the file at a location. -/
def contentAt? (t : FileTree links) (here : Location) : Option ByteArray :=
  (t.get? here).bind Node.content?

/-- The path that the symbolic link at a location holds, if there is one. -/
def linkAt? (t : FileTree links) (here : Location) : Option String :=
  (t.get? here).bind Node.path?

def set (t : FileTree links) (here : Location) (node : Node links) : FileTree links :=
  ⟨t.nodes.insert here node⟩

def erase (t : FileTree links) (here : Location) : FileTree links := ⟨t.nodes.erase here⟩

/-- The number of the file at a location, if it has several names. -/
def numberAt? (t : FileTree links) (here : Location) : Option Nat :=
  (t.get? here).bind Node.number?

/-- Whether the names at two locations are names of one file. -/
def isSameFile (t : FileTree links) (here there : Location) : Bool :=
  here = there ∨ ∃ number ∈ t.numberAt? here, t.numberAt? there = some number

/-- Write a file: in place of what stands at a location, or under all of its names if
it has several. -/
def put (t : FileTree links) (here : Location) (content : ByteArray) : FileTree links :=
  match t.numberAt? here with
  | some number => ⟨t.nodes.filterMap fun _ node => some (node.rewrite number content)⟩
  | none => t.set here (.file content)

@[simp] theorem get?_root (t : FileTree links) : t.get? [] = some .dir := rfl

theorem get?_set (t : FileTree links) (here there : Location) (node : Node links)
    (h : here ≠ []) :
    (t.set here node).get? there = if there = here then some node else t.get? there := by
  by_cases hr : there = []
  · simp [hr, h.symm]
  · simp [get?, set, hr, SortedMap.get?_insert]

theorem get?_erase (t : FileTree links) (here there : Location) (h : here ≠ []) :
    (t.erase here).get? there = if there = here then none else t.get? there := by
  by_cases hr : there = []
  · simp [hr, h.symm]
  · simp [get?, erase, hr, SortedMap.get?_erase]

/-! ## Walking paths -/

/-- The longest name of a file, in bytes. -/
def maxNameSize : Nat := 255

/-- The longest text of a path, in bytes. -/
def maxPathSize : Nat := 4095

/-- How many symbolic links may be on the way of a path. -/
def maxLinks : Nat := 40

/-- Walk one piece from a directory. The place that a name leads to need not exist. -/
def step (t : FileTree links) (here : Location) (piece : String) : Except DiskError Location :=
  match t.get? here with
  | none => .error .notFound
  | some .dir =>
    if piece = "" ∨ piece = "." then .ok here
    else if piece = ".." then .ok here.dropLast
    else if maxNameSize < piece.utf8ByteSize then .error .badPath
    else .ok (here ++ [piece])
  | some _ => .error .notADirectory

def walk (t : FileTree links) (here : Location) (pieces : List String) :
    Except DiskError Location :=
  pieces.foldlM t.step here

/-- The first symbolic link on the way along pieces: the directory in which it stands,
the path that it holds, and the pieces after it. -/
def firstLink? (t : FileTree links) (here : Location) :
    List String → Option (Location × String × List String)
  | [] => none
  | piece :: rest =>
    match t.step here piece with
    | .error _ => none
    | .ok there =>
      match t.linkAt? there with
      | some path => some (here, path, rest)
      | none => t.firstLink? there rest

/-- The directory from which a path is walked. -/
def startOf (cwd : Location) (path : String) : Location :=
  if Path.isAbsolute path then [] else cwd

/-- Put the paths of symbolic links in their place until none is on the way. A link at
the very end stays unless it is followed. The answer says from where to walk as well. -/
def straighten (t : FileTree links) (follow : Bool) (fuel : Nat) (here : Location)
    (pieces : List String) : Except DiskError (Location × List String) :=
  match t.firstLink? here pieces with
  | none => .ok (here, pieces)
  | some (dir, path, rest) =>
    if rest.isEmpty && !follow then .ok (here, pieces)
    else
      match fuel with
      | 0 => .error .tooManyLinks
      | fuel + 1 => t.straighten follow fuel (startOf dir path) (Path.pieces path ++ rest)

/-- Where a path leads. -/
structure Target where
  location : Location
  /-- Whether slashes stand at the end, so that only a directory will do. -/
  slashed : Bool
  deriving DecidableEq

/-- The location that a path leads to from a working directory. A symbolic link at its
end is followed unless it is itself meant. -/
def locate (t : FileTree links) (cwd : Location) (path : String) (follow : Bool := true) :
    Except DiskError Target :=
  if maxPathSize < path.utf8ByteSize ∨ path.contains '\x00' then .error .badPath
  else if path.isEmpty then .error .notFound
  else do
    let (start, way) ← t.straighten follow maxLinks (startOf cwd path) (Path.body path)
    let location ← t.walk start way
    pure { location, slashed := Path.isSlashed path }

/-- Where the name at a location leads, which may be one of a symbolic link. -/
def follow (t : FileTree links) (here : Location) : Location :=
  match t.straighten true maxLinks [] here with
  | .ok (start, way) => (t.walk start way).toOption.getD here
  | .error _ => here

/-! ## Looking -/

/-- What a path leads to: a file or a directory. -/
def lookup (t : FileTree links) (cwd : Location) (path : String) : Except DiskError Node := do
  let target ← t.locate cwd path
  match t.get? target.location with
  | none => .error .notFound
  | some .dir => .ok .dir
  | some (.file content) | some (.shared _ _ content) =>
    if target.slashed then .error .notADirectory else .ok (.file content)
  | some (.link _ _) => .error .tooManyLinks

/-- Whether a path leads to something. -/
def pathExists (t : FileTree links) (cwd : Location) (path : String) : Bool :=
  (t.lookup cwd path).isOk

/-- Whether a path leads to a directory. -/
def isDir (t : FileTree links) (cwd : Location) (path : String) : Bool :=
  match t.lookup cwd path with
  | .ok .dir => true
  | _ => false

/-- The content of a file. -/
def read (t : FileTree links) (cwd : Location) (path : String) : Except DiskError ByteArray := do
  match ← t.lookup cwd path with
  | .dir => .error .isADirectory
  | .file content => .ok content

/-! ## Changing -/

/-- Make one directory in a directory that exists. -/
def makeDir (t : FileTree links) (cwd : Location) (path : String) :
    Except DiskError (FileTree links) := do
  let target ← t.locate cwd path false
  match t.get? target.location with
  | some _ => .error .alreadyExists
  | none => .ok (t.set target.location .dir)

/-- Make a directory and those above it that are missing. A failure leaves the
directories that were made by then, which is why the tree is answered with it. -/
def makeDirs (t : FileTree links) (cwd : Location) (path : String) :
    FileTree links × Except DiskError Unit :=
  go path.utf8ByteSize path
where
  go : Nat → String → FileTree links × Except DiskError Unit
    | fuel, path =>
      if path.isEmpty then (t, .ok ())
      else
        match t.makeDir cwd path with
        | .ok t => (t, .ok ())
        | .error .notFound =>
          match fuel, Path.parent? path with
          | fuel + 1, some parent =>
            match go fuel parent with
            | (t, .error e) => (t, .error e)
            | (t, .ok ()) =>
              match t.makeDir cwd path with
              | .ok t => (t, .ok ())
              | .error e => if t.isDir cwd path then (t, .ok ()) else (t, .error e)
          | _, _ => (t, .error .notFound)
        | .error e => if t.isDir cwd path then (t, .ok ()) else (t, .error e)

/-- Make a file, or replace the content of the one that is there. -/
def writeFile (t : FileTree links) (cwd : Location) (path : String) (content : ByteArray) :
    Except DiskError (FileTree links) := do
  let target ← t.locate cwd path
  match t.get? target.location with
  | some .dir => .error .isADirectory
  | some (.file _) | some (.shared _ _ _) =>
    if target.slashed then .error .notADirectory else .ok (t.put target.location content)
  | some (.link _ _) => .error .tooManyLinks
  | none => if target.slashed then .error .isADirectory else .ok (t.put target.location content)

/-- Remove a file or a link. -/
def removeFile (t : FileTree links) (cwd : Location) (path : String) :
    Except DiskError (FileTree links) := do
  let target ← t.locate cwd path false
  match t.get? target.location with
  | none => .error .notFound
  | some .dir => .error .isADirectory
  | some _ => if target.slashed then .error .notADirectory else .ok (t.erase target.location)

/-- Give a file or a link the place of another path; what is there goes, unless it is
another name of the same file. -/
def renameFile (t : FileTree links) (cwd : Location) (source destination : String) :
    Except DiskError (FileTree links) := do
  let origin ← t.locate cwd source false
  let target ← t.locate cwd destination false
  if origin.slashed || target.slashed then .error .notADirectory
  else
    match t.get? origin.location, t.get? target.location with
    | none, _ => .error .notFound
    | some .dir, _ | some _, some .dir => .error .isADirectory
    | some node, _ =>
      if t.isSameFile origin.location target.location then .ok t
      else .ok ((t.set target.location node).erase origin.location)

/-- Remove whatever stands at a path, with everything below it. -/
def removeTree (t : FileTree links) (cwd : Location) (path : String) : FileTree links × Bool :=
  match t.locate cwd path false with
  | .error _ => (t, false)
  | .ok target =>
    let stands := match t.get? target.location with
      | none => false
      | some .dir => true
      | some _ => !target.slashed
    if stands then
      (⟨t.nodes.filter fun place _ => !target.location.isPrefixOf place⟩, true)
    else (t, false)

/-! ## Linking -/

/-- Put a node where nothing stands. -/
def place (t : FileTree links) (cwd : Location) (path : String) (node : Node links) :
    Except DiskError (FileTree links) := do
  let target ← t.locate cwd path false
  match t.get? target.location with
  | some _ => .error .alreadyExists
  | none => if target.slashed then .error .notFound else .ok (t.set target.location node)

/-- Make a symbolic link that holds a path. -/
def makeLink (t : FileTree links) (cwd : Location) (held path : String) :
    Except DiskError (FileTree links) :=
  if allowed : links = true then
    if held.isEmpty then .error .notFound else t.place cwd path (.link allowed held)
  else .error .notPermitted

/-- A number that no file has. -/
def freshNumber (t : FileTree links) : Nat :=
  t.nodes.values.foldl (fun n node => max n ((node.number?.map (· + 1)).getD 0)) 0

/-- Give a file, or a symbolic link, another name. -/
def addName (t : FileTree links) (cwd : Location) (source path : String) :
    Except DiskError (FileTree links) :=
  if allowed : links = true then do
    let origin ← t.locate cwd source false
    match t.get? origin.location with
    | none => .error .notFound
    | some .dir => .error .notPermitted
    | some (.file content) =>
      let node := .shared allowed t.freshNumber content
      let named ← t.place cwd path node
      if origin.slashed then .error .notADirectory else .ok (named.set origin.location node)
    | some node => if origin.slashed then .error .notADirectory else t.place cwd path node
  else .error .notPermitted

/-! ## Listing -/

/-- The names in a directory in their order. -/
def names (t : FileTree links) (here : Location) : List String :=
  t.nodes.toList.filterMap fun (place, _) =>
    match here.isPrefixOf? place with
    | some [name] => some name
    | _ => none

/-- Everything below a directory as relative paths, directories with a slash at
their end, in the order of the texts. -/
def listing (t : FileTree links) (here : Location) : List String :=
  let below := t.nodes.toList.filterMap fun (place, node) =>
    match here.isPrefixOf? place with
    | none | some [] => none
    | some names =>
      some (String.intercalate "/" names ++ match node with
        | .dir => "/"
        | _ => "")
  below.mergeSort fun a b => compare a b != .gt

end FileTree

end DexTrail
