-- SUMMARY: The syntax of scripts: words, redirections and commands.

/-!
# Scripts

A script is made of commands, and commands are made of words. A word is a list of
parts that follow one another without a blank; a part that was quoted is neither
divided into fields nor taken for a pattern.
-/

namespace DexTrail.Shell

/-- What the word of a parameter is for. -/
inductive Fallback where
  /-- Taken instead of a missing value. -/
  | default
  /-- As `default`, and assigned. -/
  | assign
  /-- Told as the reason of a failure. -/
  | complain
  /-- Taken instead of a value that is there. -/
  | alternative
  deriving DecidableEq, Inhabited, Repr

/-- How a redirection opens its file. -/
inductive Opening where
  | read
  | write
  | append
  | both
  deriving DecidableEq, Inhabited, Repr

mutual

/-- A part of a word. -/
inductive Part where
  | text (quoted : Bool) (text : String)
  | parameter (quoted : Bool) (name : String) (use : Use)
  | arithmetic (quoted : Bool) (expression : List Part)
  /-- What commands print. -/
  | output (quoted : Bool) (commands : List Command)

/-- What is made of the value of a parameter. -/
inductive Use where
  | value
  | length
  /-- `orEmpty` says that an empty value counts as missing. -/
  | fallback (kind : Fallback) (orEmpty : Bool) (word : List Part)
  /-- Without what a pattern matches at the start or the end. -/
  | trim (atEnd longest : Bool) (pattern : List Part)

inductive Redirection where
  | path (descriptor : Nat) (opening : Opening) (target : List Part)
  /-- The stream of another descriptor, or none for a dash. -/
  | share (descriptor : Nat) (source : List Part)
  /-- Text that is read. -/
  | document (descriptor : Nat) (text : List Part)

inductive Command where
  | simple (assignments : List (String × List Part)) (words : List (List Part))
      (redirections : List Redirection)
  /-- Each command reads what the one before it prints. -/
  | pipeline (commands : List Command)
  | not (command : Command)
  | and (first second : Command)
  | or (first second : Command)
  | background (command : Command)
  | group (commands : List Command)
  | subshell (commands : List Command)
  | branch (condition yes no : List Command)
  /-- Repeats a body while a condition holds, or while it does not if it is denied. -/
  | loop (denied : Bool) (condition body : List Command)
  /-- Repeats a body for each word, or for each argument. -/
  | each (name : String) (words : Option (List (List Part))) (body : List Command)
  | choice (subject : List Part) (cases : List (List (List Part) × List Command))
  | define (name : String) (body : Command)
  | redirected (command : Command) (redirections : List Redirection)

end

abbrev Word := List Part

instance : Inhabited Command := ⟨.group []⟩

namespace Word

/-- The text of a word without quotes and without anything to expand. -/
def literal? : Word → Option String
  | [] => some ""
  | .text false s :: rest => (literal? rest).map (s ++ ·)
  | _ => none

end Word

/-- A character that the name of a variable may start with. -/
def isNameStart (c : Char) : Bool := c.isAlpha || c == '_'

/-- A character that the name of a variable may go on with. -/
def isNamePart (c : Char) : Bool := c.isAlphanum || c == '_'

def isName (cs : List Char) : Bool :=
  match cs with
  | [] => false
  | c :: rest => isNameStart c && rest.all isNamePart

end DexTrail.Shell
