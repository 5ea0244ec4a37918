-- SUMMARY: What a shell knows while it runs a script, and how a run can stop.
import DexTrail.Process.State
import DexTrail.Shell.Syntax
import DexTrail.Text.Decimal

/-!
# Shells

A shell is a process with variables of its own, functions and arguments. What it
does, an `Act`, changes the shell and may stop before its end.
-/

namespace DexTrail

variable {links : Bool}

structure Shell (links : Bool := false) extends Process links where
  /-- The value of a variable and whether programs see it. -/
  bindings : SortedMap String (String × Bool)
  functions : SortedMap String Shell.Command
  /-- What the shell calls itself. -/
  name : String
  /-- The arguments of the script or of the function that runs. -/
  args : List String
  /-- The status of the last command. -/
  status : Nat
  /-- The status of what was run for its output since the command began. -/
  outputStatus : Nat
  /-- The letters of the options that are on. -/
  options : List Char
  /-- How many loops surround the command that runs. -/
  loops : Nat
  /-- What to do on signals, by their numbers; zero stands for the end of the shell. -/
  traps : List (Nat × String)
  /-- The variables to restore when the function that runs ends. -/
  locals : List (String × Option (String × Bool))
  deriving Inhabited

namespace Shell

/-- Why a run stops before its end. -/
inductive Stop where
  /-- The shell exits. -/
  | exit
  /-- The innermost loops are left, so many of them. -/
  | leave (loops : Nat)
  /-- A loop goes on with its next round, after so many inner loops are left. -/
  | next (loops : Nat)
  /-- The function ends. -/
  | ret
  /-- A signal ends the shell and all that it is part of. -/
  | killed (signal : Nat)
  deriving DecidableEq, Inhabited

abbrev Act (links : Bool := false) := ExceptT Stop (StateM (Shell links))

/-- The text of a directory's location. -/
def textOfDir (place : Location) : String := "/" ++ String.intercalate "/" place

/-- A shell that runs in a process. -/
def ofProcess (p : Process links) (name : String) (args : List String) : Shell links where
  toProcess := p
  bindings :=
    (p.vars.filterMap fun _ value => some (value, true)).insert "PWD" (textOfDir p.cwd, true)
  functions := .empty
  name
  args
  status := 0
  outputStatus := 0
  options := []
  loops := 0
  traps := []
  locals := []

/-- The process that the shell is, with the variables that programs see. -/
def process (s : Shell links) : Process links :=
  { s.toProcess with
    vars := s.bindings.filterMap fun _ (value, shown) => if shown then some value else none }

/-- Let the process that the shell is do something. -/
def onProcess {α : Type} (act : StateM (Process links) α) : Act links α := do
  let s ← get
  let (a, p) := act.run s.toProcess
  set { s with toProcess := p }
  pure a

def setStatus (status : Nat) : Act links Unit := modify fun s => { s with status }

/-- Complain in the name of the shell. -/
def complain (message : String) : Act links Unit := do
  onProcess (Process.complain ((← get).name ++ ": 1: " ++ message))

/-- Complain and exit. -/
def abort {α : Type} (message : String) : Act links α := do
  complain message
  setStatus 2
  throw .exit

/-! ## Scopes -/

/-- Do something and see how it stopped, if it did. -/
def observe {α : Type} (act : Act links α) : Act links (Except Stop α) := ExceptT.mk do
  pure (.ok (← act.run))

/-- Do something and put the descriptors back as they were, however it ends. -/
def keepingDescriptors {α : Type} (act : Act links α) : Act links α := do
  let descriptors := (← get).descriptors
  let result ← observe act
  modify fun s => { s with descriptors }
  match result with
  | .ok a => pure a
  | .error stop => throw stop

/-- Do something in a shell of its own: only files, streams and the status outlive
it. -/
def inSubshell (act : Act links Unit) : Act links Unit := do
  let s ← get
  set { s with traps := s.traps.filter fun (_, action) => action.isEmpty }
  let result ← observe act
  modify fun after =>
    { s with files := after.files, streams := after.streams, status := after.status }
  if let .error (.killed signal) := result then throw (.killed signal)

/-! ## Variables -/

def valueOf? (s : Shell links) (name : String) : Option String := (s.bindings.get? name).map (·.1)

def hasOption (s : Shell links) (letter : Char) : Bool := s.options.contains letter

/-- Give a variable a value. Programs go on to see it if they did. -/
def assign (name value : String) : Act links Unit := modify fun s =>
  let shown := match s.bindings.get? name with
    | some (_, shown) => shown
    | none => s.hasOption 'a'
  { s with bindings := s.bindings.insert name (value, shown) }

/-- The characters that divide fields. -/
def separators (s : Shell links) : List Char := ((s.valueOf? "IFS").getD " \t\n").toList

/-- The number of the process that the shell is. -/
def processNumber : String := "4242"

/-- The value of a parameter. The arguments as a whole are none. -/
def parameter? (s : Shell links) (name : String) : Option String :=
  match name with
  | "#" => some (Decimal.text s.args.length)
  | "?" => some (Decimal.text s.status)
  | "$" => some processNumber
  | "-" => some (String.ofList s.options)
  | "!" => none
  | name =>
    match Decimal.digits? name.toList with
    | some 0 => some s.name
    | some (n + 1) => s.args[n]?
    | none => s.valueOf? name

end Shell

end DexTrail
