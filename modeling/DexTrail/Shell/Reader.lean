-- SUMMARY: Reading the words of a script.
import DexTrail.Shell.Syntax

/-!
# Reading words

A reader takes the characters still to be read and gives what it found and the
characters after it, or nothing when the script is malformed there. What may
contain commands or words again is read by the readers of one level deeper, so
that nesting is limited by the number of levels and all else by the length of the
script.
-/

namespace DexTrail.Shell

/-- What finds an `α` at the start of the characters still to be read. -/
abbrev Reader (α : Type) := List Char → Option (α × List Char)

namespace Reader

/-! ## Characters -/

def isBlank (c : Char) : Bool := c == ' ' || c == '\t'

/-- A character that ends a word. -/
def isMeta (c : Char) : Bool := isBlank c || "\n;&|<>()".toList.contains c

/-- A character with which something other than plain text starts. -/
def isSpecial (c : Char) : Bool := "'\"\\$`".toList.contains c

/-- Skip blanks, continued lines and a comment. -/
def skipBlanks : List Char → List Char
  | '\\' :: '\n' :: rest => skipBlanks rest
  | '#' :: rest => rest.dropWhile (· != '\n')
  | c :: rest => if isBlank c then skipBlanks rest else c :: rest
  | [] => []

/-- Skip blanks, comments and ends of lines. -/
def skipLines (cs : List Char) : List Char :=
  match skipBlanks cs with
  | '\n' :: rest => if rest.length < cs.length then skipLines rest else rest
  | rest => rest
termination_by cs.length

/-! ## Levels -/

/-- What surrounds a word that is not a word of a command. -/
inductive Ending where
  /-- The closing brace of a parameter. -/
  | brace (quoted : Bool)
  /-- The end of the text. -/
  | text

/-- The readers of what is nested one level deeper. -/
structure Deeper where
  commands : Reader (List Command)
  word : Ending → Reader Word

/-- Read parts until `finish` says that the word ends, and with what follows it. -/
def partsUntil (finish : List Char → Option (List Char)) (step : Reader Word) (cs : List Char) :
    Option (Word × List Char) :=
  match finish cs with
  | some rest => some ([], rest)
  | none =>
    match step cs with
    | none => none
    | some (parts, rest) =>
      if rest.length < cs.length then
        (partsUntil finish step rest).map fun (more, rest) => (parts ++ more, rest)
      else none
termination_by cs.length

/-! ## Expansions -/

/-- Put a character before the text that was read. -/
def keep (c : Char) : Option (List Char × List Char) → Option (List Char × List Char)
  | some (text, rest) => some (c :: text, rest)
  | none => none

/-- Text up to a backquote, without the backslashes that protect characters in it. -/
def backquoted : Reader (List Char)
  | [] => none
  | '`' :: rest => some ([], rest)
  | '\\' :: c :: rest =>
    if c == '`' || c == '\\' || c == '$' then keep c (backquoted rest)
    else keep '\\' (keep c (backquoted rest))
  | c :: rest => keep c (backquoted rest)

/-- Text up to two parentheses that close none of its own. -/
def arithmeticText : Nat → Reader (List Char)
  | _, [] => none
  | 0, ')' :: rest =>
    match rest with
    | ')' :: rest => some ([], rest)
    | _ => none
  | depth + 1, ')' :: rest => keep ')' (arithmeticText depth rest)
  | depth, '(' :: rest => keep '(' (arithmeticText (depth + 1) rest)
  | depth, c :: rest => keep c (arithmeticText depth rest)

/-- A single character that is the name of a parameter. -/
def isSpecialName (c : Char) : Bool := c.isDigit || "@*#?-$!".toList.contains c

/-- The name of a parameter in braces. -/
def name? : Reader String
  | [] => none
  | c :: rest =>
    let run (p : Char → Bool) : String × List Char :=
      (String.ofList (c :: rest.takeWhile p), rest.dropWhile p)
    if isNameStart c then some (run isNamePart)
    else if c.isDigit then some (run Char.isDigit)
    else if isSpecialName c then some (c.toString, rest)
    else none

/-- What follows the name of a parameter in braces. -/
def use? (d : Deeper) (quoted : Bool) : Reader Use := fun cs =>
  let fallback (orEmpty : Bool) : Reader Use
    | c :: rest => do
      let kind : Fallback ← match c with
        | '-' => some .default
        | '=' => some .assign
        | '?' => some .complain
        | '+' => some .alternative
        | _ => none
      let (word, rest) ← d.word (.brace quoted) rest
      pure (.fallback kind orEmpty word, rest)
    | [] => none
  let trim (atEnd longest : Bool) (rest : List Char) : Option (Use × List Char) := do
    let (word, rest) ← d.word (.brace false) rest
    pure (.trim atEnd longest word, rest)
  match cs with
  | '\x7d' :: rest => some (.value, rest)
  | ':' :: rest => fallback true rest
  | '%' :: '%' :: rest => trim true true rest
  | '%' :: rest => trim true false rest
  | '#' :: '#' :: rest => trim false true rest
  | '#' :: rest => trim false false rest
  | cs => fallback false cs

/-- A parameter after its opening brace. -/
def braced? (d : Deeper) (quoted : Bool) (cs : List Char) : Option (Part × List Char) :=
  let plain : Option (Part × List Char) := do
    let (name, rest) ← name? cs
    let (use, rest) ← use? d quoted rest
    pure (.parameter quoted name use, rest)
  match cs with
  | '#' :: rest =>
    match name? rest with
    | some (name, '\x7d' :: rest) => some (.parameter quoted name .length, rest)
    | _ => plain
  | _ => plain

/-- The commands of a text that has nothing else. -/
def allCommands? (d : Deeper) (cs : List Char) : Option (List Command) :=
  match d.commands cs with
  | some (commands, []) => some commands
  | _ => none

/-- What follows a dollar sign. The sign stands for itself before anything else. -/
def dollar (d : Deeper) (quoted : Bool) : Reader Part
  | '(' :: '(' :: rest => do
    let (text, rest) ← arithmeticText 0 rest
    let (expression, _) ← d.word .text text
    pure (.arithmetic quoted expression, rest)
  | '(' :: rest => do
    match ← d.commands rest with
    | (commands, ')' :: rest) => pure (.output quoted commands, rest)
    | _ => none
  | '\x7b' :: rest => braced? d quoted rest
  | c :: rest =>
    if isSpecialName c then some (.parameter quoted c.toString .value, rest)
    else if isNameStart c then
      (name? (c :: rest)).map fun (name, rest) => (.parameter quoted name .value, rest)
    else some (.text quoted "$", c :: rest)
  | [] => some (.text quoted "$", [])

/-- The output of commands in backquotes, after the first one. -/
def backquotes (d : Deeper) (quoted : Bool) : Reader Part := fun cs => do
  let (text, rest) ← backquoted cs
  pure (.output quoted (← allCommands? d text), rest)

/-! ## Words -/

/-- A part of a text in double quotes. -/
def quotedStep (d : Deeper) : Reader Word
  | '\\' :: '\n' :: rest => some ([], rest)
  | '\\' :: c :: rest =>
    if c == '$' || c == '`' || c == '"' || c == '\\' then
      some ([.text true c.toString], rest)
    else some ([.text true "\\"], c :: rest)
  | '$' :: rest => (dollar d true rest).map fun (part, rest) => ([part], rest)
  | '`' :: rest => (backquotes d true rest).map fun (part, rest) => ([part], rest)
  | c :: rest =>
    let isText (c : Char) : Bool := !isSpecial c && c != '\x7d' || c == '\''
    some ([.text true (String.ofList (c :: rest.takeWhile isText))], rest.dropWhile isText)
  | [] => none

/-- A text in double quotes, after the first one. -/
def doubleQuoted (d : Deeper) (cs : List Char) : Option (Word × List Char) := do
  let (parts, rest) ← partsUntil
    (fun
      | '"' :: rest => some rest
      | _ => none)
    (quotedStep d) cs
  pure (if parts.isEmpty then [.text true ""] else parts, rest)

/-- A part of a word. -/
def bareStep (d : Deeper) : Reader Word
  | '\'' :: rest =>
    match rest.dropWhile (· != '\'') with
    | _ :: after => some ([.text true (String.ofList (rest.takeWhile (· != '\'')))], after)
    | [] => none
  | '"' :: rest => doubleQuoted d rest
  | '\\' :: '\n' :: rest => some ([], rest)
  | '\\' :: c :: rest => some ([.text true c.toString], rest)
  | '$' :: rest => (dollar d false rest).map fun (part, rest) => ([part], rest)
  | '`' :: rest => (backquotes d false rest).map fun (part, rest) => ([part], rest)
  | c :: rest =>
    let isText (c : Char) : Bool := !isSpecial c && !isMeta c && c != '\x7d'
    some ([.text false (String.ofList (c :: rest.takeWhile isText))], rest.dropWhile isText)
  | [] => none

/-- A word that something surrounds. -/
def surrounded (d : Deeper) : Ending → Reader Word
  | .brace quoted =>
    let step : Reader Word
      | '"' :: rest => doubleQuoted d rest
      | '\\' :: '\x7d' :: rest => some ([.text true "\x7d"], rest)
      | cs => if quoted then quotedStep d cs else bareStep d cs
    partsUntil
      (fun
        | '\x7d' :: rest => some rest
        | _ => none)
      step
  | .text =>
    partsUntil
      (fun
        | [] => some []
        | _ => none)
      (quotedStep d)

/-- A word of a command, after blanks. -/
def word? (d : Deeper) (cs : List Char) : Option (Word × List Char) :=
  match skipBlanks cs with
  | [] => none
  | c :: rest =>
    if isMeta c then none
    else
      partsUntil
        (fun
          | [] => some []
          | c :: rest => if isMeta c then some (c :: rest) else none)
        (bareStep d) (c :: rest)

end Reader

end DexTrail.Shell
