-- SUMMARY: Carrying out the commands of a script.
import DexTrail.Shell.Builtin
import DexTrail.Shell.Redirection

/-!
# Evaluation

`step` carries out one command and leaves the commands within it to `again`;
`evaluate` ties the knot as often as commands and functions may be nested. Where
the status of a command is asked for by another one, the command is `tested`, and
its failure ends no script.
-/

namespace DexTrail.Shell

variable {links : Bool}

/-- What the name of a program leads to. -/
inductive Found (links : Bool := false) where
  | program (run : Program links)
  | missing
  /-- What stands there is no program. -/
  | denied

/-- Finds programs by their names or paths. -/
abbrev Finder (links : Bool := false) := Process links → String → Found links

/-- Carries out a command, which may be tested. -/
abbrev Evaluator (links : Bool := false) := Bool → Command → Act links Unit

/-! ## Lists -/

/-- Carry out commands one after another. -/
def runAll (again : Evaluator links) (tested : Bool) : List Command → Act links Unit
  | [] => pure ()
  | [command] => again tested command
  | command :: rest => do
    again tested command
    runAll again tested rest

/-- Commands of which there may be none. Without any the status is zero. -/
def runBody (again : Evaluator links) (tested : Bool) (commands : List Command) :
    Act links Unit := do
  if commands.isEmpty then setStatus 0
  runAll again tested commands

/-- Exit if the command that ran failed without being tested and the shell was told
to. -/
def exitOnFailure (tested : Bool) : Act links Unit := do
  let s ← get
  if s.hasOption 'e' && !tested && s.status != 0 then throw .exit

/-- What commands print, run in a shell of their own. -/
def capture (again : Evaluator links) : Runner links := fun commands => do
  let before := (← get).status
  let position ← keepingDescriptors do
    let position ← bindStream 1 (.buffer .empty)
    inSubshell (runBody again false commands)
    pure position
  modify fun s => { s with outputStatus := s.status, status := before }
  pure (Process.textOf ((← get).bufferAt position))

/-- Carry out the lines of a script. -/
def runScript (again : Evaluator links) (script : Script) : Act links Unit := do
  for line in script.lines do
    runAll again false line
  if !script.whole then abort "Syntax error"

/-! ## Loops -/

/-- Run the body of a loop. The answer is whether the loop goes on. -/
def runRound (body : Act links Unit) : Act links Bool := do
  match ← observe body with
  | .ok () => pure true
  | .error (.leave (n + 2)) => throw (.leave (n + 1))
  | .error (.leave _) => pure false
  | .error (.next (n + 2)) => throw (.next (n + 1))
  | .error (.next _) => pure true
  | .error stop => throw stop

/-- Count a loop around what is done. -/
def inLoop (act : Act links Unit) : Act links Unit := do
  let loops := (← get).loops
  modify fun s => { s with loops := loops + 1 }
  let result ← observe act
  modify fun s => { s with loops }
  if let .error stop := result then throw stop

/-- How often a loop may go round. -/
def maxRounds : Nat := 10000

/-- Repeat a body by a condition. -/
def rounds (condition body : Act links Unit) (denied : Bool) : Nat → Act links Unit
  | 0 => throw (.killed 9)
  | n + 1 => do
    let before := (← get).status
    let goesOn ← runRound condition
    if !goesOn then pure ()
    else if ((← get).status == 0) == denied then setStatus before
    else if ← runRound body then rounds condition body denied n

/-- Repeat a body for each value of a variable. -/
def roundsFor (name : String) (body : Act links Unit) : List String → Act links Unit
  | [] => pure ()
  | value :: rest => do
    assign name value
    if ← runRound body then roundsFor name body rest

/-! ## Pipelines -/

/-- Run the commands of a pipeline, each on what the one before it printed. -/
def runStages (again : Evaluator links) (tested : Bool) (source : Option Nat) :
    List Command → Act links Unit
  | [] => pure ()
  | command :: rest => do
    let sink ← keepingDescriptors do
      if let some position := source then onProcess (modify fun p => p.bind 0 position)
      let sink ← if rest.isEmpty then pure none
        else some <$> bindStream 1 (.buffer .empty)
      inSubshell (again tested command)
      pure sink
    runStages again tested sink rest

/-! ## Simple commands -/

/-- Send a signal. Only the shell itself can be reached; what it is to do on the
signal may save it. -/
def kill (again : Evaluator links) (args : List String) : Act links Unit := do
  let (name, targets) := signalAndTargets args
  match signal? name with
  | none => complain ("kill: Illegal option -" ++ name); setStatus 2
  | some n =>
    if targets.isEmpty then
      complain "kill: Usage: kill [-s sigspec | -signum | -sigspec] [pid | job]..."
      setStatus 2
    else if !targets.contains processNumber then
      complain "kill: No such process"
      setStatus 1
    else
      setStatus 0
      let traps := (← get).traps
      match if n == 9 then none else traps.lookup n with
      | some action => if n != 0 then runScript again (Script.read action)
      | none => if !harmless.contains n then throw (.killed n)

/-- Run a function with arguments. -/
def callFunction (again : Evaluator links) (tested : Bool) (body : Command) (args : List String) :
    Act links Unit := do
  let s ← get
  set { s with args, loops := 0, locals := [] }
  let result ← observe (again tested body)
  modify fun after =>
    let bindings := after.locals.foldl (fun vs (name, value) => vs.alter name fun _ => value)
      after.bindings
    { after with bindings, args := s.args, loops := s.loops, locals := s.locals }
  match result with
  | .ok () | .error .ret => pure ()
  | .error stop => throw stop

/-- Run a program with arguments. -/
def runProgram (find : Finder links) (name : String) (args : List String) : Act links Unit := do
  let s ← get
  match find s.process name with
  | .program run =>
    let (status, p) := (run args).run s.process
    set { s with files := p.files, streams := p.streams, status }
  | .missing =>
    complain (name ++ ": not found")
    setStatus 127
  | .denied =>
    complain (name ++ ": Permission denied")
    setStatus 126

/-- What a name stands for, if anything. -/
def meaning? (find : Finder links) (s : Shell links) (name : String) : Option String :=
  if (s.functions.get? name).isSome || (@builtin? links name).isSome ||
      specialNames.contains name then
    some name
  else
    match find s.process name with
    | .program _ => some (if name.contains '/' then name else "/usr/bin/" ++ name)
    | _ => none

/-- Carry out a command by its name, passing over functions if `plain`. -/
def runNamed (again : Evaluator links) (find : Finder links) (tested plain : Bool) :
    List String → Act links Unit
  | [] => pure ()
  | name :: args => do
    match (← get).functions.get? name with
    | some body =>
      if plain then other name args else callFunction again tested body args
    | none => other name args
where
  other (name : String) (args : List String) : Act links Unit := do
    match name, args with
    | "eval", args => runScript again (Script.read (String.intercalate " " args))
    | ".", path :: _ =>
      match ← onProcess (Process.input path) with
      | .ok bytes => runScript again (Script.read (Process.textOf bytes))
      | .error _ => abort (".: cannot open " ++ path ++ ": No such file")
    | "kill", args => kill again args
    | "exec", [] => setStatus 0
    | "exec", name :: args => do
      runProgram find name args
      modify fun s => { s with traps := [] }
      throw .exit
    | "command", "-v" :: name :: _ => do
      match meaning? find (← get) name with
      | some text => onProcess (Process.printLine text); setStatus 0
      | none => setStatus 127
    | "command", args =>
      match args.filter (· != "-p") with
      | [] => setStatus 0
      | name :: args =>
        match builtin? name with
        | some act => setStatus (← act args)
        | none => runProgram find name args
    | "type", names => do
      for name in names do
        let s ← get
        match meaning? find s name with
        | some text => onProcess (Process.printLine (name ++ " is " ++ text)); setStatus 0
        | none => onProcess (Process.printLine (name ++ ": not found")); setStatus 127
    | name, args =>
      match builtin? name with
      | some act => setStatus (← act args)
      | none => runProgram find name args

/-- Give variables the values of words. -/
def assignAll (output : Runner links) : List (String × Word) → Act links Unit
  | [] => pure ()
  | (name, word) :: rest => do
    assign name (← expandText output word)
    assignAll output rest

/-- Give variables the values of words and let programs see them. -/
def assignShown (output : Runner links) : List (String × Word) → Act links Unit
  | [] => pure ()
  | (name, word) :: rest => do
    let value ← expandText output word
    modify fun s => { s with bindings := s.bindings.insert name (value, true) }
    assignShown output rest

/-- Carry out a simple command. -/
def runSimple (again : Evaluator links) (find : Finder links) (tested : Bool)
    (assignments : List (String × Word)) (words : List Word) (redirections : List Redirection) :
    Act links Unit := do
  let output := capture again
  modify fun s => { s with outputStatus := 0 }
  let args ← expandAll output words
  let functions := (← get).functions
  let special := match args with
    | [] => false
    | name :: _ => specialNames.contains name && (functions.get? name).isNone
  let act : Act links Unit := do
    if !(← redirectAll output redirections) then
      setStatus 2
      if special then throw .exit
    else if args.isEmpty then
      assignAll output assignments
      setStatus (← get).outputStatus
    else if special then
      assignAll output assignments
      runNamed again find tested false args
    else
      let before := (← get).bindings
      assignShown output assignments
      let result ← observe (runNamed again find tested false args)
      if !assignments.isEmpty then
        modify fun s =>
          let restored := assignments.foldl (fun vs (name, _) =>
            vs.alter name fun _ => before.get? name) s.bindings
          { s with bindings := restored }
      if let .error stop := result then throw stop
  if args == ["exec"] then act else keepingDescriptors act
  exitOnFailure tested

/-! ## Commands -/

/-- Carry out the commands of the first case that a text matches. -/
def runCases (again : Evaluator links) (tested : Bool) (text : List Char) :
    List (List Word × List Command) → Act links Unit
  | [] => setStatus 0
  | (patterns, commands) :: rest => do
    if ← isAny patterns then runBody again tested commands
    else runCases again tested text rest
where
  isAny : List Word → Act links Bool
    | [] => pure false
    | pattern :: rest => do
      let marks ← expandMarks (capture again) pattern
      if Pattern.isMatch marks text then pure true else isAny rest

/-- Carry out a command. -/
def step (again : Evaluator links) (find : Finder links) (tested : Bool) : Command → Act links Unit
  | .simple assignments words redirections =>
    runSimple again find tested assignments words redirections
  | .pipeline commands => do
    runStages again tested none commands
    exitOnFailure tested
  | .not command => do
    again true command
    setStatus (if (← get).status == 0 then 1 else 0)
  | .and first second => do
    again true first
    if (← get).status == 0 then again tested second
  | .or first second => do
    again true first
    if (← get).status != 0 then again tested second
  | .background command => do
    keepingDescriptors do
      let _ ← bindStream 0 .null
      inSubshell (again false command)
    setStatus 0
  | .group commands => runAll again tested commands
  | .subshell commands => do
    inSubshell (runAll again tested commands)
    exitOnFailure tested
  | .branch condition yes no => do
    runAll again true condition
    if (← get).status == 0 then runBody again tested yes else runBody again tested no
  | .loop denied condition body => do
    setStatus 0
    inLoop (rounds (runAll again true condition) (runAll again tested body) denied maxRounds)
  | .each name words body => do
    let values ← match words with
      | some words => expandAll (capture again) words
      | none => do pure (← get).args
    setStatus 0
    inLoop (roundsFor name (runAll again tested body) values)
  | .choice subject cases => do
    let text := (← expandText (capture again) subject).toList
    runCases again tested text cases
  | .define name body => do
    modify fun s => { s with functions := s.functions.insert name body }
    setStatus 0
  | .redirected command redirections => keepingDescriptors do
    if ← redirectAll (capture again) redirections then again tested command
    else
      setStatus 2
      exitOnFailure tested

/-- Carry out a command whose nesting, functions included, has a limit. -/
def evaluate (find : Finder links) : Nat → Evaluator links
  | 0 => fun _ _ => throw (.killed 9)
  | depth + 1 => step (evaluate find depth) find

/-- How deep commands and functions may be nested. -/
def maxNesting : Nat := 1000

/-- Run a script and what is to be done at its end. -/
def runToEnd (again : Evaluator links) (script : Script) : Act links Unit := do
  let result ← observe (runScript again script)
  if let .error (.killed signal) := result then throw (.killed signal)
  let s ← get
  if let some action := s.traps.lookup 0 then
    runScript again (Script.read action)
    setStatus s.status

/-- Run a script. The answer is its status. -/
def run (find : Finder links) (script : Script) (s : Shell links) : Process links × Nat :=
  let (result, s) := (runToEnd (evaluate find maxNesting) script).run s
  match result with
  | .error (.killed signal) => (s.toProcess, 128 + signal)
  | _ => (s.toProcess, s.status % 256)

end DexTrail.Shell
