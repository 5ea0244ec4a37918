-- SUMMARY: The commands of the program and how a line of arguments states one.
import DexTrail.Command.Options
import DexTrail.Package.Info
import DexTrail.Process.State
import DexTrail.Settings.Reason
import DexTrail.Text.Decimal

/-!
# Invocations

A line of arguments names a command and, on any of its levels, the ledger and the
package database to work on. The environment gives these two where the line does
not.
-/

namespace DexTrail

/-! ## Commands -/

inductive Command where
  | show (package : Option String) (json : Bool)
  | packages
  | load (paths : List String) (loader isa : String) (user : UserId)
  | register (path package : String) (user : UserId) (shared : Bool)
  | reconcile (package : String)
  | optimize (package : String) (target : CompilerTarget) (force onlyShared : Bool)
  | forget (package : String) (user : UserId)
  | maintain (interval : Option UInt64) (once : Bool)
  | showConfig
  | showPaths
  deriving DecidableEq, Inhabited

structure Invocation where
  ledger : Option String
  packages : Option String
  verbosity : Nat
  command : Command
  deriving DecidableEq, Inhabited

namespace Invocation

open Options

/-! ## Levels -/

def anyText (_ : String) : Bool := true

def user? (s : String) : Option UserId := (Decimal.readLax? s.toList).bind Decimal.toInt32?

def seconds? (s : String) : Option UInt64 := (Decimal.readLaxNat? s.toList).bind Decimal.toUInt64?

def valueSpec (name : String) (accepts : String → Bool) : Spec := ⟨name, none, .value, accepts⟩

def flagSpec (name : String) : Spec := ⟨name, none, .flag, anyText⟩

/-- The options that every level has. -/
def commonOptions : List Spec :=
  [valueSpec "ledger" (!·.isEmpty), valueSpec "packages" (!·.isEmpty),
    ⟨"verbose", some 'v', .count, anyText⟩, ⟨"help", some 'h', .help, anyText⟩]

def userSpec : Spec := valueSpec "user" fun s => (user? s).isSome

def commandNames : List String :=
  ["show", "packages", "load", "register", "reconcile", "optimize", "forget", "maintain", "config"]

def topLevel : Level :=
  ⟨commonOptions ++ [⟨"version", some 'V', .version, anyText⟩], some 0, commandNames ++ ["help"]⟩

def configLevel : Level := ⟨commonOptions, some 0, ["show", "path", "help"]⟩

/-- The level of a command without subcommands. -/
def leafLevel (options : List Spec) (positionals : Option Nat) : Level :=
  ⟨commonOptions ++ options, positionals, []⟩

/-! ## Commands from what is given -/

/-- Something that must be given. -/
def must {α : Type} : Option α → Except Stop α
  | some a => .ok a
  | none => .error .mistake

/-- The level of a command and what it makes of what is given there. -/
def leaf? : String → Option (Level × (Given → Except Stop Command))
  | "show" =>
    some (leafLevel [flagSpec "json"] (some 1), fun g =>
      .ok (.show g.positionals.head? (g.has "json")))
  | "packages" => some (leafLevel [] (some 0), fun _ => .ok .packages)
  | "load" =>
    some (leafLevel [valueSpec "loader" anyText, valueSpec "isa" anyText, userSpec] none, fun g => do
      if g.positionals.isEmpty then .error .mistake
      else
        .ok (.load g.positionals (← must (g.value? "loader")) (← must (g.value? "isa"))
          (((g.value? "user").bind user?).getD 0)))
  | "register" =>
    some (leafLevel [valueSpec "package" anyText, userSpec, flagSpec "shared"] (some 1), fun g => do
      .ok (.register (← must g.positionals.head?) (← must (g.value? "package"))
        (((g.value? "user").bind user?).getD 0) (g.has "shared")))
  | "reconcile" =>
    some (leafLevel [] (some 1), fun g => do .ok (.reconcile (← must g.positionals.head?)))
  | "optimize" =>
    some (leafLevel [valueSpec "reason" fun s => (CompileReason.ofName? s).isSome,
        valueSpec "filter" anyText, flagSpec "force", flagSpec "shared-only"] (some 1), fun g => do
      let package ← must g.positionals.head?
      let reason := (g.value? "reason").bind CompileReason.ofName?
      let target ← match reason, g.value? "filter" with
        | some _, some _ => .error .mistake
        | some r, none => .ok (.reason r)
        | none, some f => .ok (.filter f)
        | none, none => .ok (.reason .backgroundDexopt)
      .ok (.optimize package target (g.has "force") (g.has "shared-only")))
  | "forget" =>
    some (leafLevel [userSpec] (some 1), fun g => do
      .ok (.forget (← must g.positionals.head?) (((g.value? "user").bind user?).getD .all)))
  | "maintain" =>
    some (leafLevel [valueSpec "interval" fun s => (seconds? s).isSome, flagSpec "once"] (some 0),
      fun g => .ok (.maintain ((g.value? "interval").bind seconds?) (g.has "once")))
  | _ => none

/-- The level of a command that shows the configuration. -/
def configLeaf? : String → Option (Level × (Given → Except Stop Command))
  | "show" => some (leafLevel [] (some 0), fun _ => .ok .showConfig)
  | "path" => some (leafLevel [] (some 0), fun _ => .ok .showPaths)
  | _ => none

/-- Whether help is to be had on the commands named. -/
def helpTopic : List String → Bool
  | [] => true
  | "help" :: topic => helpTopic topic
  | ["config"] => true
  | ["config", name] => configLevel.subcommands.contains name
  | [name] => commandNames.contains name
  | _ => false

/-! ## Lines -/

/-- What a level answers when help is asked for by name. -/
def helpStop (topic : List String) : Stop := if helpTopic topic then .help else .mistake

/-- Scan the levels of a line, the outermost first, up to a command. -/
def scanLevels (args : List String) : Except Stop (List Given × Command) := do
  let top ← scanLine topLevel args
  match top.rest with
  | none => .error .mistake
  | some ("help", topic) => .error (helpStop topic)
  | some ("config", args) =>
    let middle ← scanLine configLevel args
    match middle.rest with
    | none => .error .mistake
    | some ("help", topic) => .error (helpStop ("config" :: topic))
    | some (name, args) =>
      let (level, command) ← must (configLeaf? name)
      let last ← scanLine level args
      .ok ([top.given, middle.given, last.given], ← command last.given)
  | some (name, args) =>
    let (level, command) ← must (leaf? name)
    let last ← scanLine level args
    .ok ([top.given, last.given], ← command last.given)

/-- A setting that any level may give: the innermost level that gives it counts,
and then the environment. A level that does not give it takes the environment's
value, which must then not be empty. -/
def common (levels : List Given) (name : String) (fromEnvironment : Option String) :
    Except Stop (Option String) :=
  if fromEnvironment == some "" && levels.any fun g => (g.value? name).isNone then .error .mistake
  else .ok (((levels.reverse.findSome? fun g => g.value? name)).or fromEnvironment)

/-- The invocation that a line of arguments states. -/
def parse (args : List String) (env : Variables) : Except Stop Invocation := do
  let (levels, command) ← scanLevels args
  .ok {
    ledger := ← common levels "ledger" (env.get? "DEXUSE_LEDGER")
    packages := ← common levels "packages" (env.get? "DEXUSE_PACKAGES")
    verbosity := ((levels.reverse.map (·.count "verbose")).find? (· != 0)).getD 0
    command }

end Invocation

end DexTrail
