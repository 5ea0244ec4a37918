-- SUMMARY: Conditions on words, numbers and files, as stated in the arguments of `test`.
import DexTrail.Process.State
import DexTrail.Text.Decimal

/-!
# Conditions

A condition is stated by words: a word holds if it is not empty, `-f` with a path
holds if a file is there, `=` between two words if they are the same. Conditions
are joined by `-a` and `-o`, denied by `!` and grouped by parentheses. A word
that could be an operator is an operand where its neighbours leave no other
reading.
-/

namespace DexTrail.Condition

variable {links : Bool}

/-- What takes words from the start of a condition and says whether they hold. -/
abbrev Reader := List String → Option (Bool × List String)

/-- The operators before a word. -/
def unary : List String :=
  ["-e", "-f", "-d", "-s", "-r", "-w", "-x", "-h", "-L", "-p", "-b", "-c", "-S", "-t", "-u", "-g",
    "-k", "-O", "-G", "-n", "-z"]

/-- The operators between two words. -/
def binary : List String :=
  ["=", "!=", "<", ">", "-eq", "-ne", "-gt", "-ge", "-lt", "-le", "-nt", "-ot", "-ef"]

/-- The number that a word states, with blanks around it. -/
def number? (word : String) : Option Int :=
  let isBlank (c : Char) : Bool := c == ' ' || c == '\t' || c == '\n'
  let cs := (word.toList.dropWhile isBlank).reverse.dropWhile isBlank
  Decimal.readLax? cs.reverse

/-- Whether a path leads to something of which `wanted` holds. -/
def ofFile (p : Process links) (path : String) (wanted : Node → Bool) : Bool :=
  match p.files.lookup p.cwd path with
  | .ok node => wanted node
  | .error _ => false

/-- Whether a path leads to a symbolic link itself. -/
def isLink (p : Process links) (path : String) : Bool :=
  match p.files.locate p.cwd path false with
  | .ok ⟨here, false⟩ => (p.files.linkAt? here).isSome
  | _ => false

def isFile : Node → Bool
  | .file _ => true
  | .dir => false

def isFull : Node → Bool
  | .file content => 0 < content.size
  | .dir => true

/-- Whether what an operator says of a word holds. -/
def holdsOf (p : Process links) (operator word : String) : Bool :=
  match operator with
  | "-n" => !word.isEmpty
  | "-z" => word.isEmpty
  | "-e" | "-O" | "-G" => word == "/dev/null" || ofFile p word fun _ => true
  | "-r" | "-w" => word == "/dev/null" || ofFile p word fun _ => true
  | "-c" => word == "/dev/null"
  | "-f" => ofFile p word isFile
  | "-d" | "-x" => ofFile p word fun node => !isFile node
  | "-s" => ofFile p word isFull
  | "-h" | "-L" => isLink p word
  | _ => false

/-- Whether what an operator says of two words holds, if it can be said. -/
def holdsBetween? (p : Process links) (left operator right : String) : Option Bool :=
  let numbers (compare : Int → Int → Bool) : Option Bool := do
    pure (compare (← number? left) (← number? right))
  match operator with
  | "=" => some (left == right)
  | "!=" => some (left != right)
  | "<" => some (left < right)
  | ">" => some (right < left)
  | "-eq" => numbers (· == ·)
  | "-ne" => numbers (· != ·)
  | "-gt" => numbers (· > ·)
  | "-ge" => numbers (· ≥ ·)
  | "-lt" => numbers (· < ·)
  | "-le" => numbers (· ≤ ·)
  | "-ef" =>
    match p.files.locate p.cwd left, p.files.locate p.cwd right with
    | .ok a, .ok b =>
      some ((p.files.get? a.location).isSome && p.files.isSameFile a.location b.location)
    | _, _ => some false
  | _ => some false

/-- Whether an operator before a word is an operand, by what follows it. -/
def isOperand : List String → Bool
  | [] => true
  | [_] => false
  | next :: _ => binary.contains next

/-! ## Reading -/

/-- One condition on words, or a group that `whole` reads. -/
def primary (p : Process links) (whole : Reader) : Reader
  | [] => some (false, [])
  | "(" :: next :: rest => do
    let (value, after) ← whole (next :: rest)
    match after with
    | ")" :: rest => some (value, rest)
    | _ => none
  | word :: rest =>
    if unary.contains word && !isOperand rest then
      match rest with
      | operand :: rest => some (holdsOf p word operand, rest)
      | [] => none
    else
      match rest with
      | operator :: after =>
        if binary.contains operator then
          match after with
          | right :: rest => (holdsBetween? p word operator right).map fun value => (value, rest)
          | [] => none
        else some (!word.isEmpty, rest)
      | [] => some (!word.isEmpty, [])

/-- A condition that may be denied. -/
def negation (p : Process links) (whole : Reader) : Reader
  | "!" :: rest => (negation p whole rest).map fun (value, rest) => (!value, rest)
  | words => primary p whole words

/-- Conditions joined by an operator. -/
def joined (operator : String) (join : Bool → Bool → Bool) (item : Reader) (words : List String) :
    Option (Bool × List String) := do
  let (value, rest) ← item words
  match rest with
  | word :: rest =>
    if word != operator then pure (value, word :: rest)
    else if rest.length < words.length then
      let (next, rest) ← joined operator join item rest
      pure (join value next, rest)
    else none
  | [] => pure (value, [])
termination_by words.length

/-- Any condition with groups up to a depth. -/
def whole (p : Process links) : Nat → Reader
  | 0, _ => none
  | depth + 1, words =>
    joined "-o" (· || ·) (joined "-a" (· && ·) (negation p (whole p depth))) words

/-- Whether a condition holds, if the words state one. -/
def holds? (p : Process links) (words : List String) : Option Bool :=
  let stated : Option (Bool × List String) :=
    match words with
    | [] => some (false, [])
    | [left, operator, right] =>
      if binary.contains operator then
        (holdsBetween? p left operator right).map fun value => (value, [])
      else if left == "(" && right == ")" then whole p 1 [operator]
      else whole p words.length words
    | words => whole p words.length words
  match stated with
  | some (value, []) => some value
  | _ => none

/-- The status of a condition. -/
def status (p : Process links) (words : List String) : Nat :=
  match holds? p words with
  | some true => 0
  | some false => 1
  | none => 2

end DexTrail.Condition
