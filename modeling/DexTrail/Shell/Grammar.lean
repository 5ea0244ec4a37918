-- SUMMARY: Reading the commands of a script.
import DexTrail.Shell.Reader
import DexTrail.Text.Decimal

/-!
# Reading commands

Commands are separated by semicolons, ampersands and ends of lines. A list of
commands ends before the word or character that closes what it stands in. A
script is read line by line, so that the lines before a malformed one are
commands all the same.
-/

namespace DexTrail.Shell.Reader

/-! ## Reserved words -/

/-- The words that end a list of commands. -/
def closers : List String := ["then", "else", "elif", "fi", "do", "done", "esac", "\x7d"]

/-- The words that are no names of commands. -/
def reserved : List String :=
  closers ++ ["if", "case", "for", "while", "until", "\x7b", "!", "in"]

/-- The reserved word that stands here. -/
def keyword? (d : Deeper) (cs : List Char) : Option (String × List Char) :=
  match word? d cs with
  | some (word, rest) =>
    match word.literal? with
    | some s => if reserved.contains s then some (s, rest) else none
    | none => none
  | none => none

/-- What follows a reserved word that has to stand here. -/
def expect (d : Deeper) (name : String) (cs : List Char) : Option (List Char) :=
  match keyword? d cs with
  | some (s, rest) => if s == name then some rest else none
  | none => none

/-- Whether a list of commands ends here. -/
def atEnd (d : Deeper) (cs : List Char) : Bool :=
  match skipBlanks cs with
  | [] => true
  | ')' :: _ => true
  | ';' :: ';' :: _ => true
  | cs =>
    match keyword? d cs with
    | some (s, _) => closers.contains s
    | none => false

/-! ## Redirections -/

/-- The lines of a document up to its last line, and what follows them. -/
def documentLines (dropTabs : Bool) (last : List Char) (cs : List Char) : List Char × List Char :=
  let line := cs.takeWhile (· != '\n')
  let text := if dropTabs then line.dropWhile (· == '\t') else line
  match cs.drop line.length with
  | [] => if text == last then ([], []) else (text, [])
  | _ :: rest =>
    if text == last then ([], rest)
    else if rest.length < cs.length then
      let (more, rest) := documentLines dropTabs last rest
      (text ++ '\n' :: more, rest)
    else (text, rest)
termination_by cs.length

/-- The text of a word whose parts are all text, and whether any was quoted. -/
def mark? : Word → Option (List Char × Bool)
  | [] => some ([], false)
  | .text quoted s :: rest =>
    (mark? rest).map fun (text, more) => (s.toList ++ text, quoted || more)
  | _ => none

/-- A document that starts on the next line. It is taken out of what is still to be
read. -/
def document? (d : Deeper) (descriptor : Nat) (dropTabs : Bool) : Reader Redirection := fun cs => do
  let (word, rest) ← word? d cs
  let (last, quoted) ← mark? word
  let line := rest.takeWhile (· != '\n')
  let (text, after) := documentLines dropTabs last ((rest.drop line.length).drop 1)
  let parts ← if quoted then some [.text true (String.ofList text)]
    else (d.word .text text).map (·.1)
  pure (.document descriptor parts, line ++ '\n' :: after)

/-- A redirection, after blanks. -/
def redirection? (d : Deeper) (cs : List Char) : Option (Redirection × List Char) :=
  let cs := skipBlanks cs
  let digits := cs.takeWhile Char.isDigit
  let number := Decimal.digits? digits
  let path (descriptor : Nat) (opening : Opening) (rest : List Char) :
      Option (Redirection × List Char) :=
    (word? d rest).map fun (word, rest) =>
      (.path (number.getD descriptor) opening word, rest)
  let share (descriptor : Nat) (rest : List Char) : Option (Redirection × List Char) :=
    (word? d rest).map fun (word, rest) => (.share (number.getD descriptor) word, rest)
  match cs.drop digits.length with
  | '<' :: '<' :: '-' :: rest => document? d (number.getD 0) true rest
  | '<' :: '<' :: rest => document? d (number.getD 0) false rest
  | '<' :: '&' :: rest => share 0 rest
  | '<' :: '>' :: rest => path 0 .both rest
  | '<' :: rest => path 0 .read rest
  | '>' :: '>' :: rest => path 1 .append rest
  | '>' :: '&' :: rest => share 1 rest
  | '>' :: '|' :: rest => path 1 .write rest
  | '>' :: rest => path 1 .write rest
  | _ => none

/-- All redirections that follow. -/
def redirections (d : Deeper) (cs : List Char) : List Redirection × List Char :=
  match redirection? d cs with
  | none => ([], cs)
  | some (r, rest) =>
    if rest.length < cs.length then
      let (more, rest) := redirections d rest
      (r :: more, rest)
    else ([r], rest)
termination_by cs.length

/-! ## Simple commands -/

/-- The name and the value of a word that is an assignment. -/
def assignment? : Word → Option (String × Word)
  | .text false s :: rest =>
    let name := s.toList.takeWhile (· != '=')
    match s.toList.drop name.length with
    | _ :: value =>
      if isName name then
        let parts := if value.isEmpty then rest else .text false (String.ofList value) :: rest
        some (String.ofList name, parts)
      else none
    | [] => none
  | _ => none

/-- The assignments, words and redirections of a simple command. Assignments come
before the first word. -/
def items (d : Deeper) (named : Bool) (cs : List Char) :
    (List (String × Word) × List Word × List Redirection) × List Char :=
  match redirection? d cs with
  | some (r, rest) =>
    if rest.length < cs.length then
      let ((assignments, words, more), rest) := items d named rest
      ((assignments, words, r :: more), rest)
    else (([], [], [r]), rest)
  | none =>
    match word? d cs with
    | none => (([], [], []), cs)
    | some (word, rest) =>
      if rest.length < cs.length then
        match if named then none else assignment? word with
        | some assignment =>
          let ((assignments, words, redirections), rest) := items d false rest
          ((assignment :: assignments, words, redirections), rest)
        | none =>
          let ((assignments, words, redirections), rest) := items d true rest
          ((assignments, word :: words, redirections), rest)
      else (([], [word], []), rest)
termination_by cs.length

/-! ## Compound commands -/

/-- What follows the commands of a branch. -/
def otherwise? (d : Deeper) (cs : List Char) : Option (List Command × List Char) :=
  match keyword? d cs with
  | some ("fi", rest) => some ([], rest)
  | some ("else", rest) => do
    let (commands, rest) ← d.commands rest
    pure (commands, ← expect d "fi" rest)
  | some ("elif", rest) => do
    let (condition, rest) ← d.commands rest
    let (yes, rest) ← d.commands (← expect d "then" rest)
    if rest.length < cs.length then
      let (no, rest) ← otherwise? d rest
      pure ([.branch condition yes no], rest)
    else none
  | _ => none
termination_by cs.length

/-- The patterns of a case, divided by bars, up to the closing parenthesis. -/
def patterns? (d : Deeper) (cs : List Char) : Option (List Word × List Char) := do
  let (word, rest) ← word? d cs
  match skipBlanks rest with
  | ')' :: rest => pure ([word], rest)
  | '|' :: rest =>
    if rest.length < cs.length then
      let (more, rest) ← patterns? d rest
      pure (word :: more, rest)
    else none
  | _ => none
termination_by cs.length

/-- The cases of a choice up to its end. -/
def cases? (d : Deeper) (cs : List Char) :
    Option (List (List Word × List Command) × List Char) :=
  let start := skipLines cs
  match keyword? d start with
  | some ("esac", rest) => some ([], rest)
  | _ => do
    let start := match start with
      | '(' :: rest => rest
      | start => start
    let (patterns, rest) ← patterns? d start
    let (commands, rest) ← d.commands rest
    match skipLines rest with
    | ';' :: ';' :: rest =>
      if rest.length < cs.length then
        let (more, rest) ← cases? d rest
        pure ((patterns, commands) :: more, rest)
      else none
    | rest => pure ([(patterns, commands)], ← expect d "esac" rest)
termination_by cs.length

/-- Words up to the end of a line or a semicolon. -/
def wordsOf (d : Deeper) (cs : List Char) : List Word × List Char :=
  match word? d cs with
  | none => ([], cs)
  | some (word, rest) =>
    if rest.length < cs.length then
      let (more, rest) := wordsOf d rest
      (word :: more, rest)
    else ([word], rest)
termination_by cs.length

/-- Commands between two reserved words; there has to be one. -/
def body? (d : Deeper) (first last : String) (cs : List Char) :
    Option (List Command × List Char) := do
  let (commands, rest) ← d.commands (← expect d first cs)
  if commands.isEmpty then none
  pure (commands, ← expect d last rest)

/-- A compound command. -/
def compound? (d : Deeper) (cs : List Char) : Option (Command × List Char) :=
  match skipBlanks cs with
  | '(' :: rest => do
    match ← d.commands rest with
    | ([], _) => none
    | (commands, ')' :: rest) => pure (.subshell commands, rest)
    | _ => none
  | start =>
    match keyword? d start with
    | some ("\x7b", _) => (body? d "\x7b" "\x7d" start).map fun (commands, rest) =>
        (.group commands, rest)
    | some ("if", rest) => do
      let (condition, rest) ← d.commands rest
      let (yes, rest) ← d.commands (← expect d "then" rest)
      if condition.isEmpty || yes.isEmpty then none
      let (no, rest) ← otherwise? d rest
      pure (.branch condition yes no, rest)
    | some ("while", rest) => do
      let (condition, rest) ← d.commands rest
      let (body, rest) ← body? d "do" "done" rest
      pure (.loop false condition body, rest)
    | some ("until", rest) => do
      let (condition, rest) ← d.commands rest
      let (body, rest) ← body? d "do" "done" rest
      pure (.loop true condition body, rest)
    | some ("for", rest) => do
      let (word, rest) ← word? d rest
      let name ← word.literal?
      if !isName name.toList then none
      let (words, rest) := match keyword? d (skipLines rest) with
        | some ("in", rest) =>
          let (words, rest) := wordsOf d rest
          (some words, rest)
        | _ => (none, rest)
      let rest := match skipBlanks rest with
        | ';' :: rest => rest
        | rest => rest
      let (body, rest) ← body? d "do" "done" (skipLines rest)
      pure (.each name words body, rest)
    | some ("case", rest) => do
      let (subject, rest) ← word? d rest
      let (cases, rest) ← cases? d (← expect d "in" (skipLines rest))
      pure (.choice subject cases, rest)
    | _ => none

/-- The definition of a function. -/
def definition? (d : Deeper) (cs : List Char) : Option (Command × List Char) := do
  let (word, rest) ← word? d cs
  let name ← word.literal?
  match skipBlanks rest with
  | '(' :: rest =>
    match skipBlanks rest with
    | ')' :: rest => do
      let (body, rest) ← compound? d (skipLines rest)
      pure (.define name body, rest)
    | _ => none
  | _ => none

/-! ## Lists -/

/-- Any command. -/
def command? (d : Deeper) (cs : List Char) : Option (Command × List Char) :=
  match compound? d cs with
  | some (command, rest) =>
    match redirections d rest with
    | ([], rest) => some (command, rest)
    | (redirections, rest) => some (.redirected command redirections, rest)
  | none =>
    if (keyword? d cs).isSome then none
    else
      match definition? d cs with
      | some (command, rest) => some (command, rest)
      | none =>
        match items d false cs with
        | (([], [], []), _) => none
        | ((assignments, words, redirections), rest) =>
          match skipBlanks rest with
          | '(' :: _ => none
          | _ => some (.simple assignments words redirections, rest)

/-- Commands divided by bars. -/
def stages? (d : Deeper) (cs : List Char) : Option (List Command × List Char) := do
  let (command, rest) ← command? d cs
  match skipBlanks rest with
  | '|' :: '|' :: _ => pure ([command], rest)
  | '|' :: rest =>
    let next := skipLines rest
    if next.length < cs.length then
      let (more, rest) ← stages? d next
      pure (command :: more, rest)
    else none
  | _ => pure ([command], rest)
termination_by cs.length

/-- A pipeline, which may be denied. -/
def pipeline? (d : Deeper) (cs : List Char) : Option (Command × List Char) :=
  match keyword? d cs with
  | some ("!", rest) =>
    if rest.length < cs.length then
      (pipeline? d rest).map fun (command, rest) => (.not command, rest)
    else none
  | _ =>
    (stages? d cs).map fun
      | ([command], rest) => (command, rest)
      | (commands, rest) => (.pipeline commands, rest)
termination_by cs.length

/-- What is joined to a command that was read. -/
def joined? (d : Deeper) (before : Command) (cs : List Char) : Option (Command × List Char) :=
  let next (join : Command → Command → Command) (rest : List Char) :
      Option (Command × List Char) :=
    (pipeline? d (skipLines rest)).map fun (command, rest) => (join before command, rest)
  let joined := match skipBlanks cs with
    | '&' :: '&' :: rest => some (next .and rest)
    | '|' :: '|' :: rest => some (next .or rest)
    | _ => none
  match joined with
  | none => some (before, cs)
  | some none => none
  | some (some (command, rest)) =>
    if rest.length < cs.length then joined? d command rest else none
termination_by cs.length

/-- Pipelines joined by what happens on success and failure. -/
def joinedPipelines? (d : Deeper) (cs : List Char) : Option (Command × List Char) := do
  let (command, rest) ← pipeline? d cs
  joined? d command rest

/-- Commands up to what closes them, or to the end of the line. -/
def list? (d : Deeper) (oneLine : Bool) (cs : List Char) : Option (List Command × List Char) :=
  let start := if oneLine then skipBlanks cs else skipLines cs
  if atEnd d start || start.head? == some '\n' then some ([], start)
  else
    match joinedPipelines? d start with
    | none => none
    | some (command, rest) =>
      let go (command : Command) (rest : List Char) : Option (List Command × List Char) :=
        if rest.length < cs.length then
          (list? d oneLine rest).map fun (more, rest) => (command :: more, rest)
        else none
      match skipBlanks rest with
      | ';' :: ';' :: _ => some ([command], rest)
      | ';' :: rest => go command rest
      | '&' :: rest => go (.background command) rest
      | '\n' :: rest => if oneLine then some ([command], '\n' :: rest) else go command rest
      | rest => some ([command], rest)
termination_by cs.length

/-! ## Levels -/

/-- How deep commands and words may be nested. -/
def maxDepth : Nat := 64

/-- The readers of a number of levels. -/
def levels : Nat → Deeper
  | 0 => ⟨fun _ => none, fun _ _ => none⟩
  | n + 1 =>
    let d := levels n
    ⟨list? d false, surrounded d⟩

end Reader

/-- The lines of a script as commands. -/
structure Script where
  lines : List (List Command)
  /-- Whether all lines are well formed. -/
  whole : Bool

/-- Read the lines of a script up to the first malformed one. -/
def Script.ofChars (cs : List Char) : Script :=
  match Reader.skipLines cs with
  | [] => ⟨[], true⟩
  | start =>
    match Reader.list? (Reader.levels Reader.maxDepth) true start with
    | some (commands, []) => ⟨[commands], true⟩
    | some (commands, '\n' :: rest) =>
      if rest.length < cs.length then
        let script := Script.ofChars rest
        { script with lines := commands :: script.lines }
      else ⟨[commands], false⟩
    | _ => ⟨[], false⟩
termination_by cs.length

/-- Read a script. -/
def Script.read (text : String) : Script := Script.ofChars text.toList

end DexTrail.Shell
