-- SUMMARY: Characters, blanks, comments and line ends of TOML.

/-!
# Lexical elements of TOML

A scanner takes the characters still to be read and gives what it found and the
characters after it, or nothing when it does not apply.
-/

namespace DexTrail.Toml

/-- What finds an `α` at the start of the characters still to be read. -/
abbrev Scanner (α : Type) := List Char → Option (α × List Char)

/-- A character that may stand in a comment or a string by itself: no control
character except the tabulator. -/
def isPlain (c : Char) : Bool :=
  c == '\t' || (' ' ≤ c && c ≤ '~') || '\x80' ≤ c

/-- The blanks within a line. -/
def isBlank (c : Char) : Bool := c == ' ' || c == '\t'

def skipBlanks (cs : List Char) : List Char := cs.dropWhile isBlank

/-- What follows a line break, if there is one here. -/
def newline? : List Char → Option (List Char)
  | '\n' :: rest => some rest
  | '\r' :: '\n' :: rest => some rest
  | _ => none

/-- What follows a comment, if there is one here. -/
def skipComment : List Char → List Char
  | '#' :: rest => rest.dropWhile isPlain
  | cs => cs

/-- What follows the end of a line, after blanks and a comment. The document may
end here. -/
def lineEnd? (cs : List Char) : Option (List Char) :=
  match skipComment (skipBlanks cs) with
  | [] => some []
  | rest => newline? rest

/-- Skip blanks, line breaks and the comments that end in one. -/
def skipLines (cs : List Char) : List Char :=
  match newline? (skipComment (skipBlanks cs)) with
  | some rest => if rest.length < cs.length then skipLines rest else skipBlanks cs
  | none => skipBlanks cs
termination_by cs.length

end DexTrail.Toml
