-- SUMMARY: Regular expressions: reading them, and which texts they are found in.
import DexTrail.Shell.Pattern

/-!
# Regular expressions

In a basic expression a dot stands for any character, brackets for one of a set,
and a star for any number of what is before it; groups and alternatives are
written with backslashes. In an extended expression these are written without,
and a plus sign and a question mark repeat too.
-/

namespace DexTrail

inductive Regex where
  | empty
  | char (c : Char)
  | anyChar
  | set (item : Shell.Pattern.Item)
  | lineStart
  | lineEnd
  | seq (first second : Regex)
  | alt (first second : Regex)
  | star (r : Regex)
  deriving Inhabited

namespace Regex

/-! ## Matching -/

/-- What is left after a step is taken any number of times. Every step that counts
leaves less, so as many steps as there are characters suffice. -/
def closure (step : List Char → List (List Char)) : Nat → List Char → List (List Char)
  | 0, cs => [cs]
  | n + 1, cs =>
    cs :: ((step cs).filter fun rest => rest.length < cs.length).flatMap (closure step n)

/-- What is left of the text after what an expression matches at its start. `size` is
the length of the whole line. -/
def rests (size : Nat) : Regex → List Char → List (List Char)
  | .empty, cs => [cs]
  | .char d, c :: cs => if c == d then [cs] else []
  | .anyChar, _ :: cs => [cs]
  | .set item, c :: cs => if Shell.Pattern.holds [item] [c] then [cs] else []
  | .lineStart, cs => if cs.length == size then [cs] else []
  | .lineEnd, cs => if cs.isEmpty then [cs] else []
  | .seq first second, cs => (rests size first cs).flatMap (rests size second)
  | .alt first second, cs => rests size first cs ++ rests size second cs
  | .star r, cs => closure (rests size r) cs.length cs
  | .char _, [] | .anyChar, [] | .set _, [] => []

/-- Whether an expression is found in a line, or matches it as a whole. -/
def isIn (r : Regex) (whole : Bool) (line : List Char) : Bool :=
  if whole then (rests line.length r line).any (·.isEmpty)
  else (List.range (line.length + 1)).any fun n => !(rests line.length r (line.drop n)).isEmpty

/-! ## Reading -/

/-- What finds an expression at the start of the characters still to be read. -/
abbrev Reader := List Char → Option (Regex × List Char)

/-- The operator that stands here: a character that is one by itself, or after a
backslash. -/
def operator? (extended : Bool) : List Char → Option (Char × List Char)
  | '\\' :: c :: rest =>
    if !extended && "()|+?".toList.contains c then some (c, rest) else none
  | c :: rest =>
    if c == '*' || (extended && "()|+?".toList.contains c) then some (c, rest) else none
  | [] => none

/-- One expression without operators after it. -/
def atom? (extended : Bool) (whole : Reader) : Reader := fun cs =>
  match operator? extended cs with
  | some ('(', rest) => do
    let (r, rest) ← whole rest
    match operator? extended rest with
    | some (')', rest) => pure (r, rest)
    | _ => none
  | some ('*', rest) => some (.char '*', rest)
  | some _ => none
  | none =>
    match cs with
    | '.' :: rest => some (.anyChar, rest)
    | '^' :: rest => some (.lineStart, rest)
    | '$' :: rest => some (if rest.isEmpty || extended then .lineEnd else .char '$', rest)
    | '[' :: rest => do
      let marks := rest.map fun c => (⟨c, false⟩ : Shell.Mark)
      let (item, left) ← Shell.Pattern.set? marks
      pure (.set item, left.map (·.char))
    | '\\' :: c :: rest => some (.char c, rest)
    | c :: rest => some (.char c, rest)
    | [] => none

/-- An expression with the repetitions after it. -/
def repeated (extended : Bool) (r : Regex) (cs : List Char) : Regex × List Char :=
  match operator? extended cs with
  | some (c, rest) =>
    let next? := match c with
      | '*' => some (Regex.star r)
      | '+' => some (.seq r (.star r))
      | '?' => some (.alt r .empty)
      | _ => none
    match next? with
    | some next => if rest.length < cs.length then repeated extended next rest else (next, rest)
    | none => (r, cs)
  | none => (r, cs)
termination_by cs.length

/-- Expressions one after another, up to an alternative or the end of a group. -/
def sequence? (extended : Bool) (whole : Reader) (cs : List Char) :
    Option (Regex × List Char) :=
  let ends := match operator? extended cs with
    | some ('|', _) | some (')', _) => true
    | _ => cs.isEmpty
  if ends then some (.empty, cs)
  else
    match atom? extended whole cs with
    | none => none
    | some (r, rest) =>
      let (r, rest) := repeated extended r rest
      if rest.length < cs.length then
        (sequence? extended whole rest).map fun (more, rest) => (.seq r more, rest)
      else none
termination_by cs.length

/-- Alternatives, up to the end of a group. -/
def alternatives? (extended : Bool) (whole : Reader) (cs : List Char) :
    Option (Regex × List Char) :=
  match sequence? extended whole cs with
  | none => none
  | some (r, rest) =>
    match operator? extended rest with
    | some ('|', rest) =>
      if rest.length < cs.length then
        (alternatives? extended whole rest).map fun (more, rest) => (.alt r more, rest)
      else none
    | _ => some (r, rest)
termination_by cs.length

/-- Any expression with groups up to a depth. -/
def whole? (extended : Bool) : Nat → Reader
  | 0 => fun _ => none
  | depth + 1 => alternatives? extended (whole? extended depth)

/-- Read an expression. -/
def read? (extended : Bool) (cs : List Char) : Option Regex :=
  match whole? extended (cs.length + 1) cs with
  | some (r, []) => some r
  | _ => none

/-- The expression that matches a text and nothing else. -/
def ofText (cs : List Char) : Regex := cs.foldr (fun c r => .seq (.char c) r) .empty

end Regex

end DexTrail
