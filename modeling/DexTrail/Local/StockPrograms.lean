-- SUMMARY: The programs that every system has, and how they are found.
import DexTrail.Local.Compiler
import DexTrail.Shell.Evaluation
import DexTrail.Tools.Grep

/-!
# Stock programs

The program runs nothing outside itself. As optimizer commands it knows the small
programs that every system has, the shell among them. They stand in two
directories; a name without a slash is looked for in the directories that the
variable `PATH` lists. Any other command fails like one that is not installed.

They are one `Executor` among others: a machine holds the one that it runs commands
by, and what is proved of sessions is proved for any.
-/

namespace DexTrail.StockPrograms

variable {links : Bool}

open Shell Process

/-- The directories in which the programs stand. -/
def directories : List Location := [["bin"], ["usr", "bin"]]

/-- Where programs are looked for when no variable says it. -/
def defaultPath : String := "/usr/local/sbin:/usr/local/bin:/usr/sbin:/usr/bin:/sbin:/bin"

/-- The programs that run no others. -/
def plain? : String → Option (Program links)
  | "true" => some fun _ => pure 0
  | "false" => some fun _ => pure 1
  | "echo" => some (Tools.echo false false)
  | "printf" => some Tools.printf
  | "test" => some Tools.test
  | "[" => some Tools.bracket
  | "cat" => some Tools.cat
  | "head" => some Tools.head
  | "tail" => some Tools.tail
  | "wc" => some Tools.wc
  | "tee" => some Tools.tee
  | "sort" => some Tools.sort
  | "seq" => some Tools.seq
  | "basename" => some Tools.basename
  | "dirname" => some Tools.dirname
  | "ls" => some Tools.ls
  | "pwd" => some Tools.pwd
  | "mkdir" => some Tools.mkdir
  | "rmdir" => some Tools.rmdir
  | "touch" => some Tools.touch
  | "rm" => some Tools.rm
  | "cp" => some Tools.cp
  | "mv" => some Tools.mv
  | "ln" => some Tools.ln
  | "chmod" => some Tools.chmod
  | "grep" => some Tools.grep
  | "sleep" => some Tools.sleep
  | "printenv" => some Tools.printenv
  | _ => none

/-! ## Programs that run others -/

/-- Run a program that `find` finds. -/
def start (find : Finder links) : Program links
  | [] => pure 0
  | name :: args => do
    match find (← get) name with
    | .program run => run args
    | .missing => complain (name ++ ": No such file or directory"); pure 127
    | .denied => complain (name ++ ": Permission denied"); pure 126

/-- Run a program with other variables; without one, print them. -/
def env (find : Finder links) : Program links
  | [] => Tools.printenv []
  | arg :: rest => do
    match arg, rest with
    | "-i", rest | "-", rest =>
      modify fun p => { p with vars := .empty }
      env find rest
    | "-u", name :: rest =>
      modify fun p => { p with vars := p.vars.erase name }
      env find rest
    | "--", rest => if rest.isEmpty then Tools.printenv [] else start find rest
    | arg, rest =>
      match splitAssignment arg with
      | (name, some value) =>
        modify fun p => { p with vars := p.vars.insert name value }
        env find rest
      | (_, none) =>
        if arg.toList.head? == some '-' then
          complain "env: invalid option"
          pure 125
        else start find (arg :: rest)

/-- The options of a shell and the arguments after them. The letters tell which
options are on. -/
def shellOptions? (on : List Char) : List String → Option (List Char × List String)
  | [] => some (on, [])
  | arg :: rest =>
    match arg.toList, rest with
    | ['-'], rest | ['-', '-'], rest => some (on, rest)
    | ['-', 'o'], name :: rest =>
      (optionNames.lookup name).bind fun letter => shellOptions? (letter :: on) rest
    | '-' :: letters, rest =>
      if letters.all fun c => c == 'c' || c == 's' || optionLetters.contains c then
        shellOptions? (letters ++ on) rest
      else none
    | '+' :: letters, rest => shellOptions? (on.filter fun c => !letters.contains c) rest
    | _, rest => some (on, arg :: rest)

/-- The shell: it runs a script from its arguments, from a file or from descriptor
0. -/
def shell (find : Finder links) (called : String) : Program links := fun args => do
  match shellOptions? [] args with
  | none => complain (called ++ ": 0: Illegal option"); pure 2
  | some (on, args) =>
    let options := on.filter fun c => c != 'c' && c != 's'
    let runText (text name : String) (args : List String) : StateM (Process links) Nat := do
      let p ← get
      let shell := { Shell.ofProcess p name args with options }
      let (after, status) := Shell.run find (Script.read text) shell
      set after
      pure status
    if on.contains 'c' then
      match args with
      | [] => complain (called ++ ": 0: -c requires an argument"); pure 2
      | script :: args => runText script (args.headD called) (args.drop 1)
    else
      match args with
      | [] => runText (textOf (← readAll 0)) called []
      | path :: args =>
        if on.contains 's' then runText (textOf (← readAll 0)) called (path :: args)
        else
          match ← input path with
          | .ok bytes => runText (textOf bytes) path args
          | .error _ => complain (called ++ ": 0: cannot open " ++ path); pure 2

/-- The programs that run others. -/
def running? (find : Finder links) : String → Option (Program links)
  | "sh" => some (shell find "sh")
  | "dash" => some (shell find "dash")
  | "bash" => some (shell find "bash")
  | "env" => some (env find)
  | "nohup" => some (start find)
  | "nice" => some fun
    | "-n" :: _ :: args => start find args
    | args => start find args
  | "timeout" => some fun args => start find (args.drop 1)
  | _ => none

/-! ## Finding -/

/-- What stands at a path, when `program?` tells the programs by their names. -/
def atPath (program? : String → Option (Program links)) (p : Process links) (path : String) :
    Found links :=
  match p.files.locate p.cwd path with
  | .error _ => .missing
  | .ok target =>
    let known := if directories.contains target.location.dropLast && !target.slashed then
      target.location.getLast?.bind program? else none
    match known with
    | some program => .program program
    | none => if p.files.pathExists p.cwd path then .denied else .missing

/-- The first program of a name in some directories. -/
def inDirectories (program? : String → Option (Program links)) (p : Process links) (name : String) :
    List String → Found links
  | [] => .missing
  | directory :: rest =>
    let path := if directory.isEmpty then name else Path.join directory name
    match atPath program? p path, inDirectories program? p name rest with
    | .program run, _ => .program run
    | .denied, .missing => .denied
    | _, found => found

/-- Find a program that may run others up to a depth. -/
def find : Nat → Finder links
  | 0 => fun _ _ => .missing
  | depth + 1 => fun p name =>
    let program? (name : String) : Option (Program links) :=
      (plain? name).orElse fun _ => running? (find depth) name
    if name.contains '/' then atPath program? p name
    else if name.isEmpty then .missing
    else
      let path := (p.vars.get? "PATH").getD defaultPath
      inDirectories program? p name ((path.toList.splitOn ':').map String.ofList)

/-- How deep programs may run one another. -/
def maxDepth : Nat := 50

/-- Run a program with its arguments. No program can be given an argument with a null
character. -/
def execute : Executor links := fun files cwd vars words =>
  let failure : Execution links := ⟨files, "", "", false⟩
  if words.any (·.contains '\x00') then failure
  else
    match words with
    | [] => failure
    | name :: args =>
      let p := Process.start files cwd vars
      match find maxDepth p name with
      | .program run =>
        let (status, p) := (run args).run p
        ⟨p.files, textOf (p.bufferAt 1), textOf (p.bufferAt 2), status == 0⟩
      | _ => failure

end DexTrail.StockPrograms
