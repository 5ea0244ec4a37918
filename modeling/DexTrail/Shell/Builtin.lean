-- SUMMARY: The commands that a shell carries out itself.
import DexTrail.Shell.Field
import DexTrail.Shell.Grammar
import DexTrail.Shell.State
import DexTrail.Tools.Texts

/-!
# Builtin commands

A builtin command changes the shell itself: its variables, arguments, options and
working directory, or the way in which the script goes on. The answer is the
status. A mistake in a special one ends the script.
-/

namespace DexTrail.Shell

variable {links : Bool}

/-- The builtin commands after whose mistakes a script does not go on, and before
which assignments last. -/
def specialNames : List String :=
  [":", ".", "break", "continue", "eval", "exec", "exit", "export", "readonly", "return", "set",
    "shift", "times", "trap", "unset"]

/-- A number that an argument states, or the end of the script. -/
def numberOf (name arg : String) : Act links Nat :=
  match Decimal.digits? arg.toList with
  | some n => pure n
  | none => abort (name ++ ": Illegal number: " ++ arg)

/-! ## Going on elsewhere -/

/-- Set the status that an argument states, if there is one. -/
def statusFrom (name : String) : List String → Act links Unit
  | [] => pure ()
  | arg :: _ => do setStatus (← numberOf name arg)

/-- Leave loops or go on with them. -/
def leaveLoops (name : String) (stop : Nat → Stop) (args : List String) : Act links Nat := do
  let n ← match args with
    | [] => pure 1
    | arg :: _ => numberOf name arg
  if n == 0 then abort (name ++ ": Illegal number: 0")
  let loops := (← get).loops
  if loops == 0 then pure 0
  else do
    setStatus 0
    throw (stop (min n loops))

/-! ## Arguments and options -/

def shift (args : List String) : Act links Nat := do
  let n ← match args with
    | [] => pure 1
    | arg :: _ => numberOf "shift" arg
  if (← get).args.length < n then abort "shift: can't shift that many"
  modify fun s => { s with args := s.args.drop n }
  pure 0

/-- The letters of the options that have names. -/
def optionNames : List (String × Char) :=
  [("errexit", 'e'), ("nounset", 'u'), ("noglob", 'f'), ("allexport", 'a'), ("xtrace", 'x'),
    ("noclobber", 'C'), ("verbose", 'v'), ("noexec", 'n'), ("monitor", 'm')]

/-- The letters that are options. -/
def optionLetters : List Char := "aefnuvxCmbIiEVh".toList

def switch (on : Bool) (letter : Char) : Act links Unit := modify fun s =>
  let others := s.options.filter (· != letter)
  { s with options := if on then letter :: others else others }

/-- Set options and arguments. -/
def setOptions : List String → Act links Nat
  | [] => pure 0
  | arg :: rest => do
    let replace (args : List String) : Act links Nat := do
      modify fun s => { s with args }
      pure 0
    match arg.toList, rest with
    | ['-', '-'], rest => replace rest
    | ['-'], rest => if rest.isEmpty then pure 0 else replace rest
    | [sign, 'o'], name :: rest =>
      match optionNames.lookup name with
      | some letter =>
        if sign == '-' || sign == '+' then
          switch (sign == '-') letter
          setOptions rest
        else replace (arg :: name :: rest)
      | none => abort ("set: Illegal option -o " ++ name)
    | sign :: letters, rest =>
      if sign == '-' || sign == '+' then
        for letter in letters do
          if !optionLetters.contains letter then
            abort ("set: Illegal option -" ++ letter.toString)
          switch (sign == '-') letter
        setOptions rest
      else replace (arg :: rest)
    | [], rest => replace (arg :: rest)

/-! ## Variables -/

/-- The name and the value of an argument with an equals sign. -/
def splitAssignment (arg : String) : String × Option String :=
  let name := arg.toList.takeWhile (· != '=')
  match arg.toList.drop name.length with
  | _ :: value => (String.ofList name, some (String.ofList value))
  | [] => (arg, none)

/-- Let programs see variables. -/
def exportNames : List String → Act links Nat
  | [] => pure 0
  | arg :: rest => do
    let (name, value) := splitAssignment arg
    if arg == "-p" || arg == "--" then return ← exportNames rest
    if !isName name.toList then abort ("export: " ++ name ++ ": bad variable name")
    if let some value := value then assign name value
    modify fun s =>
      { s with bindings := s.bindings.alter name fun old => old.map fun (value, _) => (value, true) }
    exportNames rest

/-- Give variables values. Nothing guards them against other values later. -/
def fixNames : List String → Act links Nat
  | [] => pure 0
  | arg :: rest => do
    let (name, value) := splitAssignment arg
    if let some value := value then assign name value
    fixNames rest

/-- Make variables those of the function that runs. -/
def makeLocal : List String → Act links Nat
  | [] => pure 0
  | arg :: rest => do
    let (name, value) := splitAssignment arg
    modify fun s => { s with locals := (name, s.bindings.get? name) :: s.locals }
    if let some value := value then assign name value
    makeLocal rest

def unset (functions : Bool) : List String → Act links Nat
  | [] => pure 0
  | "-f" :: rest => unset true rest
  | "-v" :: rest => unset false rest
  | name :: rest => do
    modify fun s =>
      if functions then { s with functions := s.functions.erase name }
      else { s with bindings := s.bindings.erase name }
    unset functions rest

/-! ## Reading -/

/-- The characters of a line. A backslash quotes the character after it. -/
def unquoted : List Char → List Mark
  | '\\' :: c :: rest => ⟨c, true⟩ :: unquoted rest
  | ['\\'] => []
  | c :: rest => ⟨c, false⟩ :: unquoted rest
  | [] => []

/-- Give variables the fields of a line; the last one gets what is left of it. -/
def assignFields (isSeparator : Mark → Bool) : List String → List Mark → Act links Unit
  | [], _ => pure ()
  | [name], ms =>
    let ms := (ms.reverse.dropWhile isSeparator).reverse
    assign name (String.ofList (ms.map (·.char)))
  | name :: names, ms => do
    let field := ms.takeWhile fun m => !isSeparator m
    assign name (String.ofList (field.map (·.char)))
    assignFields isSeparator names ((ms.drop field.length).dropWhile isSeparator)

/-- Read a line into variables. At the end there is none. -/
def readVariables (args : List String) : Act links Nat := do
  let names := args.filter (· != "-r")
  let line ← onProcess (Process.readLine 0)
  let separators := (← get).separators
  let isSeparator (m : Mark) : Bool := !m.quoted && separators.contains m.char
  let text := line.toList.takeWhile (· != '\n')
  let ms := if args.contains "-r" then Piece.marks false text else unquoted text
  assignFields isSeparator names (ms.dropWhile isSeparator)
  pure (if line.toList.getLast? == some '\n' then 0 else 1)

/-! ## Directories -/

/-- Go to another directory. -/
def changeDirectory (args : List String) : Act links Nat := do
  let s ← get
  let operands := args.filter fun arg => arg != "-L" && arg != "-P" && arg != "--"
  let path := match operands with
    | [] => (s.valueOf? "HOME").getD ""
    | "-" :: _ => (s.valueOf? "OLDPWD").getD ""
    | path :: _ => path
  if path.isEmpty then return 0
  match s.files.locate s.cwd path, s.files.isDir s.cwd path with
  | .ok target, true =>
    assign "OLDPWD" (textOfDir s.cwd)
    assign "PWD" (textOfDir target.location)
    modify fun s => { s with cwd := target.location }
    if operands.head? == some "-" then
      onProcess (Process.printLine (textOfDir target.location))
    pure 0
  | _, _ =>
    complain ("cd: can't cd to " ++ path)
    pure 2

/-! ## Signals -/

/-- Signals by name and number. Zero is no signal, and stands for the end of the
shell. -/
def signals : List (String × Nat) :=
  [("EXIT", 0), ("HUP", 1), ("INT", 2), ("QUIT", 3), ("ABRT", 6), ("KILL", 9), ("USR1", 10),
    ("SEGV", 11), ("USR2", 12), ("PIPE", 13), ("ALRM", 14), ("TERM", 15), ("CHLD", 17),
    ("CONT", 18), ("URG", 23), ("WINCH", 28)]

/-- The signals that end no process. -/
def harmless : List Nat := [0, 17, 18, 23, 28]

/-- The number of a signal by its name or number. -/
def signal? (text : String) : Option Nat :=
  match Decimal.digits? text.toList with
  | some n => if n < 65 then some n else none
  | none =>
    signals.lookup (String.ofList (text.toList.map Char.toUpper))

/-- The signal and the targets that arguments state. -/
def signalAndTargets : List String → String × List String
  | "-s" :: name :: rest => (name, rest)
  | arg :: rest =>
    match arg.toList with
    | '-' :: name => if name == ['-'] then ("TERM", rest) else (String.ofList name, rest)
    | _ => ("TERM", arg :: rest)
  | [] => ("TERM", [])

/-- Set what to do on signals. A dash undoes it. -/
def setTraps : List String → Act links Nat
  | [] => pure 0
  | action :: names => do
    if action == "--" then return ← setTraps names
    for name in names do
      match signal? name with
      | none => abort ("trap: " ++ name ++ ": bad trap")
      | some n =>
        modify fun s =>
          let others := s.traps.filter fun (m, _) => m != n
          { s with traps := if action == "-" then others else (n, action) :: others }
    pure 0

/-! ## The table -/

/-- Builtin commands that work on the process as programs do. -/
def plainBuiltin? : String → Option (Program links)
  | ":" | "true" | "times" | "umask" | "wait" | "ulimit" | "hash" | "alias" | "unalias"
  | "jobs" => some fun _ => pure 0
  | "false" => some fun _ => pure 1
  | "echo" => some Tools.plainEcho
  | "printf" => some Tools.printf
  | "test" => some Tools.test
  | "[" => some Tools.bracket
  | "pwd" => some Tools.pwd
  | _ => none

/-- Builtin commands that run no other commands. -/
def builtin? (name : String) : Option (List String → Act links Nat) :=
  match name with
  | "exit" => some fun args => do
    statusFrom "exit" args
    throw .exit
  | "return" => some fun args => do
    statusFrom "return" args
    throw .ret
  | "break" => some (leaveLoops "break" .leave)
  | "continue" => some (leaveLoops "continue" .next)
  | "shift" => some shift
  | "set" => some setOptions
  | "export" => some exportNames
  | "readonly" => some fixNames
  | "local" => some makeLocal
  | "unset" => some (unset false)
  | "read" => some readVariables
  | "cd" | "chdir" => some changeDirectory
  | "trap" => some setTraps
  | name => (plainBuiltin? name).map fun program args => onProcess (program args)

end DexTrail.Shell
