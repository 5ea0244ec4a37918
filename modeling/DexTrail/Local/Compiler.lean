-- SUMMARY: The optimizer that runs a configured command.
import DexTrail.Manager.Services
import DexTrail.Process.State

/-!
# The compiler command

A request is passed to the configured command as arguments. Without a command
nothing is compiled and nothing fails.
-/

namespace DexTrail

variable {links : Bool}

/-- What running a program comes to. -/
structure Execution (links : Bool := false) where
  /-- The files after it. -/
  files : FileTree links
  stdout : String
  stderr : String
  success : Bool
  deriving DecidableEq, Inhabited

/-- Runs a program with its arguments on files, from a working directory and with
environment variables. -/
abbrev Executor (links : Bool := false) :=
  FileTree links → Location → Variables → List String → Execution links

namespace Optimization

/-- The arguments that state a request. -/
def arguments (request : Optimization) : List String :=
  ["--dex-file", request.path] ++
    (request.isas.toList.flatMap fun isa => ["--isa", isa]) ++
    ["--compiler-filter", request.filter] ++
    (if request.shared then ["--shared"] else []) ++
    (if request.force then ["--force"] else [])

/-- Program and arguments for a request, when a command is configured. -/
def commandLine? (command : List String) (request : Optimization) : Option (List String) :=
  if command.isEmpty then none else some (command ++ request.arguments)

/-- Carry out a request. Without a command it is skipped, and the files stay as they
are. -/
def carryOut (execute : List String → Execution links) (files : FileTree links)
    (command : List String) (request : Optimization) : Execution links × OptimizeResult :=
  match request.commandLine? command with
  | none => (⟨files, "", "", true⟩, .skipped)
  | some words =>
    let execution := execute words
    (execution, if execution.success then .performed else .failed)

end Optimization

end DexTrail
