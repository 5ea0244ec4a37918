-- SUMMARY: Finding the lines of files that match an expression.
import DexTrail.Tools.Regex
import DexTrail.Tools.Texts

/-!
# Finding lines

`grep` prints the lines in which an expression is found. The status is zero if
there are any, one if there are none, and two if something failed.
-/

namespace DexTrail.Tools

open Process

variable {links : Bool}

/-- The expression that the arguments state. -/
def expressionOf? (l : Line) (text : String) : Option Regex :=
  let cs := if l.has 'i' then text.toList.map Char.toLower else text.toList
  if l.has 'F' then some (.ofText cs) else Regex.read? (l.has 'E') cs

/-- Whether a line is one of those that are asked for. -/
def isFound (l : Line) (r : Regex) (line : String) : Bool :=
  let cs := line.toList.takeWhile (· != '\n')
  let cs := if l.has 'i' then cs.map Char.toLower else cs
  r.isIn (l.has 'x') cs != l.has 'v'

/-- Print what is asked for about a file. The answer is whether lines were found. -/
def report (l : Line) (r : Regex) (several : Bool) (path : String) (bytes : ByteArray) :
    StateM (Process links) Bool := do
  let head := if several && !l.has 'h' || l.has 'H' then path ++ ":" else ""
  let lines := linesOf (textOf bytes)
  let found := (List.range lines.length).zip lines |>.filter fun (_, line) => isFound l r line
  if l.has 'q' then pure ()
  else if l.has 'c' then printLine (head ++ Decimal.text found.length)
  else if l.has 'l' then
    if !found.isEmpty then printLine path
  else
    for (n, line) in found do
      let number := if l.has 'n' then Decimal.text (n + 1 : Nat) ++ ":" else ""
      printLine (head ++ number ++ String.ofList (line.toList.takeWhile (· != '\n')))
  pure !found.isEmpty

def grep : Program links := fun args => do
  let flags := ['q', 'v', 'i', 'c', 'n', 'l', 'x', 'E', 'F', 'G', 's', 'h', 'H', 'a']
  match Line.ofArgs? flags ['e'] none args with
  | none => complain "grep: invalid option"; pure 2
  | some l =>
    let stated : Option (String × List String) := match l.value? 'e', l.operands with
      | some text, paths => some (text, paths)
      | none, text :: paths => some (text, paths)
      | none, [] => none
    match stated.bind fun (text, paths) => (expressionOf? l text).map fun r => (r, paths) with
    | none => complain "grep: invalid expression"; pure 2
    | some (r, paths) =>
      let mut found := false
      let mut failed := false
      for path in if paths.isEmpty then ["-"] else paths do
        match ← input path with
        | .ok bytes => if ← report l r (1 < paths.length) path bytes then found := true
        | .error e =>
          if !l.has 's' then complainOf "grep" path e
          failed := true
      pure (if found && (l.has 'q' || !failed) then 0 else if failed then 2 else 1)

end DexTrail.Tools
