-- SUMMARY: Dividing the arguments of small tools into options and operands.

/-!
# Options and operands

Options are letters after a dash, several of which may stand in one argument. The
value of an option is the rest of its argument or the next one. Operands may stand
among the options; after two dashes there are only operands.
-/

namespace DexTrail.Tools

/-- The arguments of a tool. Options without a value have an empty one. -/
structure Line where
  options : List (Char × String)
  operands : List String
  deriving DecidableEq, Inhabited

namespace Line

def has (l : Line) (letter : Char) : Bool := l.options.any fun (c, _) => c == letter

/-- The value that was given last to an option. -/
def value? (l : Line) (letter : Char) : Option String := l.options.reverse.lookup letter

/-- The letters of an argument with their values; the last one may still wait for its
value. -/
def letters? (flags valued : List Char) : List Char → Option (List (Char × String) × Option Char)
  | [] => some ([], none)
  | c :: rest =>
    if flags.contains c then
      (letters? flags valued rest).map fun (options, waiting) => ((c, "") :: options, waiting)
    else if !valued.contains c then none
    else if rest.isEmpty then some ([], some c)
    else some ([(c, String.ofList rest)], none)

/-- Divide arguments. `waiting` is an option whose value comes next. A letter that is
not known spoils the line. -/
def ofArgs? (flags valued : List Char) (waiting : Option Char) : List String → Option Line
  | [] => if waiting.isSome then none else some ⟨[], []⟩
  | arg :: rest =>
    match waiting with
    | some c =>
      (ofArgs? flags valued none rest).map fun l => { l with options := (c, arg) :: l.options }
    | none =>
      if arg == "--" then some ⟨[], rest⟩
      else
        match arg.toList with
        | '-' :: c :: cs => do
          let (options, waiting) ← letters? flags valued (c :: cs)
          let l ← ofArgs? flags valued waiting rest
          pure { l with options := options ++ l.options }
        | _ => (ofArgs? flags valued none rest).map fun l => { l with operands := arg :: l.operands }

end Line

end DexTrail.Tools
