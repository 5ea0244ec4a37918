-- SUMMARY: Dividing what words expand to into fields.
import DexTrail.Shell.Pattern

/-!
# Fields

A word expands to pieces. Quoted pieces and plain text belong to a field as they
are; the values of parameters are divided where separators stand in them. Blanks
among the separators count as one, and any other separator ends a field even if
it is empty.
-/

namespace DexTrail.Shell

/-- What a part of a word expands to. -/
inductive Piece where
  /-- Text, and whether separators divide it. Quoted text makes a field even if it is
  empty. -/
  | text (quoted divided : Bool) (chars : List Char)
  /-- The end of a field. -/
  | fieldEnd
  deriving DecidableEq, Inhabited

namespace Piece

def marks (quoted : Bool) (cs : List Char) : List Mark := cs.map fun c => ⟨c, quoted⟩

/-- The characters of pieces that make one field, with a blank for the end of a
field. -/
def joined (pieces : List Piece) : List Mark :=
  pieces.flatMap fun
    | .text quoted _ cs => marks quoted cs
    | .fieldEnd => [⟨' ', true⟩]

/-- The pieces of a word that stands for a value. Quoted, they make a field even if
there are none; otherwise separators divide what is not quoted in itself. -/
def within (quoted : Bool) (pieces : List Piece) : List Piece :=
  if quoted then
    if pieces.isEmpty then [.text true false []] else pieces
  else
    pieces.map fun
      | .text false _ cs => .text false true cs
      | piece => piece

end Piece

/-- Fields on the way. -/
structure Division where
  /-- The fields that have ended, the last one first. -/
  ended : List (List Mark)
  /-- The field that goes on. -/
  current : Option (List Mark)
  /-- Whether a blank ended the last field, so that a separator after it ends no
  other. -/
  afterBlank : Bool

namespace Division

def finish (d : Division) : Division :=
  match d.current with
  | some field => { d with ended := field :: d.ended, current := none }
  | none => d

def extend (d : Division) (ms : List Mark) : Division :=
  { d with current := some (d.current.getD [] ++ ms), afterBlank := false }

/-- Take a character that may be a separator. -/
def take (separators : List Char) (d : Division) (c : Char) : Division :=
  if !separators.contains c then d.extend [⟨c, false⟩]
  else if c == ' ' || c == '\t' || c == '\n' then
    if d.current.isSome then { d.finish with afterBlank := true } else d
  else if d.current.isSome then { d.finish with afterBlank := false }
  else if d.afterBlank then { d with afterBlank := false }
  else { d with ended := [] :: d.ended }

def add (separators : List Char) (d : Division) : Piece → Division
  | .fieldEnd => d.finish
  | .text false true cs => cs.foldl (take separators) d
  | .text quoted _ cs => if cs.isEmpty && !quoted then d else d.extend (Piece.marks quoted cs)

end Division

/-- The fields that pieces make. -/
def fieldsOf (separators : List Char) (pieces : List Piece) : List (List Mark) :=
  (pieces.foldl (Division.add separators) ⟨[], none, false⟩).finish.ended.reverse

end DexTrail.Shell
