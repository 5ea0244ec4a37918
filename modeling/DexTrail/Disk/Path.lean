-- SUMMARY: Paths as text: their pieces, parent, stem, joining, equality and the home directory.

/-!
# Paths

A path is text. Slashes divide it into pieces; a piece that is empty or a single
dot is trivial and names nothing, except that a dot at the very start of a
relative path counts as a component. All operations keep the text that they do
not concern: the parent of `a//b/` is `a`, and joining adds one slash and
normalises nothing.
-/

namespace DexTrail

/-- The pieces of a text between slashes; there is always at least one. -/
def splitAtSlashes (cs : List Char) : List (List Char) := cs.splitOn '/'

/-- Pieces put together again with slashes. -/
def joinPieces (pieces : List (List Char)) : List Char := List.intercalate ['/'] pieces

namespace Path

/-- Whether a piece names nothing. -/
def isTrivial (piece : List Char) : Bool := piece == [] || piece == ['.']

def isAbsolute (path : String) : Bool := path.toList.head? == some '/'

/-- The pieces of a path between its slashes. -/
def pieces (path : String) : List String := (splitAtSlashes path.toList).map String.ofList

/-- The pieces of a path without the empty ones at its end. -/
def body (path : String) : List String := ((pieces path).reverse.dropWhile (· == "")).reverse

/-- Whether slashes stand at the end of a path. -/
def isSlashed (path : String) : Bool := !((pieces path).reverse.takeWhile (· == "")).isEmpty

/-! ## Start and body -/

/-- What a path starts from. -/
inductive Start where
  /-- The slash of an absolute path. -/
  | root
  /-- The dot that a relative path starts with. -/
  | dot
  | plain
  deriving DecidableEq, Repr

/-- A path as its start and the pieces after it. -/
def parts (cs : List Char) : Start × List (List Char) :=
  match splitAtSlashes cs with
  | [] :: body => if cs.isEmpty then (.plain, []) else (.root, body)
  | ['.'] :: body => (.dot, body)
  | pieces => (.plain, pieces)

/-- The text of a start and the pieces after it. -/
def ofParts : Start → List (List Char) → List Char
  | .root, body => '/' :: joinPieces body
  | .dot, body => '.' :: body.flatMap ('/' :: ·)
  | .plain, body => joinPieces body

/-- Remove the trivial pieces at the end. -/
def dropTrivialAtEnd (pieces : List (List Char)) : List (List Char) :=
  (pieces.reverse.dropWhile isTrivial).reverse

/-! ## Parent, name and stem -/

/-- The path without its last component. The root and the empty path have none. -/
def parent? (path : String) : Option String :=
  let (start, body) := parts path.toList
  match (dropTrivialAtEnd body).reverse with
  | _ :: before => some (String.ofList (ofParts start (dropTrivialAtEnd before.reverse)))
  | [] => if start = .dot then some "" else none

/-- The last component, if it is a name: dots and the root are not. -/
def fileName? (path : String) : Option (List Char) :=
  let (_, body) := parts path.toList
  match (dropTrivialAtEnd body).reverse with
  | name :: _ => if name = ['.', '.'] then none else some name
  | [] => none

/-- The name up to its last dot. A dot at the start of the name divides nothing. -/
def fileStem? (path : String) : Option (List Char) :=
  (fileName? path).map fun name =>
    match (name.reverse.dropWhile (· != '.')).reverse with
    | [] | ['.'] => name
    | stem => stem.dropLast

/-! ## Joining -/

/-- `path` taken from `base`. An absolute path stands by itself. -/
def join (base path : String) : String :=
  if isAbsolute path then path
  else if base.isEmpty || base.toList.getLast? == some '/' then base ++ path
  else base ++ "/" ++ path

/-- The path with text added at its end. -/
def withSuffix (path suffix : String) : String := path ++ suffix

/-! ## Equality and the home directory -/

/-- The start and the names of a path, without its trivial pieces. -/
def components (path : String) : Start × List (List Char) :=
  let (start, body) := parts path.toList
  (start, body.filter fun piece => !isTrivial piece)

/-- Whether two texts have the same components. -/
def same (p q : String) : Bool := components p == components q

/-- Put the home directory in place of a first component `~`. Without a home
directory, and for any other path, nothing changes. -/
def expandHome (home : Option String) (path : String) : String :=
  match home, parts path.toList with
  | some home, (.plain, ['~'] :: rest) =>
    join home (String.ofList (joinPieces (dropTrivialAtEnd (rest.dropWhile isTrivial))))
  | _, _ => path

end Path

end DexTrail
