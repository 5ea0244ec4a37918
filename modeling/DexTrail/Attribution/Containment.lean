-- SUMMARY: When a path lies under a directory, decided on the text of both.

/-!
# Containment of paths

A path lies under a directory when the directory's text, without the slashes at
its end, starts the path and the match ends at a slash or at the end of the
path. `/data/app` holds `/data/app/x` and itself, and not `/data/apple`.
-/

namespace DexTrail

/-- Remove every slash at the end. -/
def dropSlashesAtEnd (cs : List Char) : List Char :=
  (cs.reverse.dropWhile (· == '/')).reverse

/-- Whether `path` lies under the directory `dir`. A directory of slashes only
holds nothing. -/
def isUnder (dir path : String) : Bool :=
  match dropSlashesAtEnd dir.toList with
  | [] => false
  | d :: ds =>
    match (d :: ds).isPrefixOf? path.toList with
    | none => false
    | some rest => rest.isEmpty || rest.head? == some '/'

/-- Whether the text of `path` starts with `start`, wherever that ends. -/
def startsWithText (start path : String) : Bool := start.toList.isPrefixOf path.toList

end DexTrail
