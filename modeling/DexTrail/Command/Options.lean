-- SUMMARY: Scanning arguments for options, positional arguments and a subcommand.

/-!
# Options

A level of a command line has options, positional arguments and perhaps the names
of subcommands, whose own level takes over the rest of the line. Arguments are
taken from left to right, and the first one that decides the outcome does so: a
mistake, or a wish for help or for the version.

The value of an option follows an equals sign or is the next argument, which may
then not look like an option itself. After two dashes everything is positional.
-/

namespace DexTrail.Options

inductive Kind where
  /-- Takes a value; given at most once. -/
  | value
  /-- Given or not; given at most once. -/
  | flag
  /-- Counts how often it is given. -/
  | count
  | help
  | version
  deriving DecidableEq

structure Spec where
  name : String
  short : Option Char
  kind : Kind
  /-- Which values the option takes. -/
  accepts : String → Bool

structure Level where
  options : List Spec
  /-- How many positional arguments there may be, when that is limited. -/
  positionals : Option Nat
  subcommands : List String

/-- Why a line is not carried out. -/
inductive Stop where
  | mistake
  | help
  | version
  deriving DecidableEq, Inhabited, Repr

/-- What has been given on a level. -/
structure Given where
  values : List (String × String)
  flags : List String
  positionals : List String
  deriving DecidableEq, Inhabited

namespace Given

def empty : Given := ⟨[], [], []⟩

def value? (g : Given) (name : String) : Option String := g.values.lookup name

def has (g : Given) (name : String) : Bool := g.flags.contains name

def count (g : Given) (name : String) : Nat := g.flags.count name

/-- Take the value of an option. -/
def addValue (g : Given) (spec : Spec) (value : String) : Except Stop Given :=
  if (g.value? spec.name).isSome || !spec.accepts value then .error .mistake
  else .ok { g with values := g.values ++ [(spec.name, value)] }

/-- Take an option without a value. -/
def addFlag (g : Given) (spec : Spec) : Except Stop Given :=
  match spec.kind with
  | .value => .error .mistake
  | .flag => if g.has spec.name then .error .mistake else .ok { g with flags := spec.name :: g.flags }
  | .count => .ok { g with flags := spec.name :: g.flags }
  | .help => .error .help
  | .version => .error .version

/-- Take a positional argument. -/
def addPositional (g : Given) (level : Level) (arg : String) : Except Stop Given :=
  if level.positionals.any (· ≤ g.positionals.length) then .error .mistake
  else .ok { g with positionals := g.positionals ++ [arg] }

end Given

/-! ## Single arguments -/

/-- What an argument looks like. -/
inductive Shape where
  /-- Two dashes alone. -/
  | dashes
  | long (name : String) (value : Option String)
  /-- One dash and letters. -/
  | short (letters : List Char)
  | plain
  deriving DecidableEq

/-- A text before and after its first equals sign. -/
def splitAtEquals (cs : List Char) : String × Option String :=
  match cs.dropWhile (· != '=') with
  | [] => (String.ofList cs, none)
  | _ :: value => (String.ofList (cs.takeWhile (· != '=')), some (String.ofList value))

def Shape.of (arg : String) : Shape :=
  match arg.toList with
  | ['-', '-'] => .dashes
  | '-' :: '-' :: cs =>
    let (name, value) := splitAtEquals cs
    .long name value
  | ['-'] => .plain
  | '-' :: letters => .short letters
  | _ => .plain

/-- Take options of one letter. The value of one that takes a value is the rest of
the letters, without an equals sign; the answer names an option whose value is
still to come. -/
def addLetters (level : Level) (g : Given) : List Char → Except Stop (Given × Option Spec)
  | [] => .ok (g, none)
  | c :: cs =>
    match level.options.find? (·.short == some c) with
    | none => .error .mistake
    | some spec =>
      if spec.kind = .value then
        match cs with
        | [] => .ok (g, some spec)
        | '=' :: value => (g.addValue spec (String.ofList value)).map fun g => (g, none)
        | value => (g.addValue spec (String.ofList value)).map fun g => (g, none)
      else
        match g.addFlag spec with
        | .error stop => .error stop
        | .ok g => addLetters level g cs

/-- Take an option by its name. -/
def addLong (level : Level) (g : Given) (name : String) (value : Option String) :
    Except Stop (Given × Option Spec) :=
  match level.options.find? (·.name == name) with
  | none => .error .mistake
  | some spec =>
    match spec.kind, value with
    | .value, none => .ok (g, some spec)
    | .value, some v => (g.addValue spec v).map fun g => (g, none)
    | _, none => (g.addFlag spec).map fun g => (g, none)
    | _, some _ => .error .mistake

/-! ## Lines -/

/-- What a level makes of a line. -/
structure Scan where
  given : Given
  /-- The subcommand and the arguments after it. -/
  rest : Option (String × List String)
  deriving DecidableEq

/-- Scan arguments. `pending` is an option whose value must come next, and
`escaped` says that two dashes went before. -/
def scan (level : Level) (g : Given) (pending : Option Spec) (escaped : Bool) :
    List String → Except Stop Scan
  | [] => if pending.isSome then .error .mistake else .ok ⟨g, none⟩
  | arg :: args =>
    match pending, Shape.of arg with
    | some spec, .plain =>
      if escaped then .error .mistake
      else
        match g.addValue spec arg with
        | .error stop => .error stop
        | .ok g => scan level g none false args
    | some _, _ => .error .mistake
    | none, shape =>
      if escaped then
        match g.addPositional level arg with
        | .error stop => .error stop
        | .ok g => scan level g none true args
      else if level.subcommands.contains arg then .ok ⟨g, some (arg, args)⟩
      else
        match shape with
        | .dashes => scan level g none true args
        | .long name value =>
          match addLong level g name value with
          | .error stop => .error stop
          | .ok (g, pending) => scan level g pending false args
        | .short letters =>
          match addLetters level g letters with
          | .error stop => .error stop
          | .ok (g, pending) => scan level g pending false args
        | .plain =>
          match g.addPositional level arg with
          | .error stop => .error stop
          | .ok g => scan level g none false args

def scanLine (level : Level) (args : List String) : Except Stop Scan :=
  scan level .empty none false args

end DexTrail.Options
