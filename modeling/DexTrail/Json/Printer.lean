-- SUMMARY: Printing JSON values with indentation.
import DexTrail.Json.Literal
import DexTrail.Text.Decimal

/-!
# Printing JSON

A container that holds something is printed over several lines, indented by two
blanks for each level; an empty one is printed as its brackets alone. A colon is
followed by a blank. Nothing follows the last bracket.
-/

namespace DexTrail.Json

namespace Value

def ofString (s : String) : Value := .string (Literal.encode s)

def ofInt (n : Int) : Value := .number (Decimal.write n)

def ofStrings (ss : List String) : Value := .array (ss.map ofString)

/-- An object of members whose names are text. -/
def ofMembers (members : List (String × Value)) : Value :=
  .object (members.map fun (name, v) => (Literal.encode name, v))

end Value

namespace Printer

/-- A new line at a level of indentation. -/
def newLine (level : Nat) : List Char := '\n' :: List.replicate (2 * level) ' '

def literal (lit : Literal) : List Char := '"' :: lit.reduceOption ++ ['"']

mutual

def value (level : Nat) : Value → List Char
  | .null => ['n', 'u', 'l', 'l']
  | .bool true => ['t', 'r', 'u', 'e']
  | .bool false => ['f', 'a', 'l', 's', 'e']
  | .number spelling => spelling
  | .string lit => literal lit
  | .array [] => ['[', ']']
  | .array (v :: vs) =>
    '[' :: newLine (level + 1) ++ value (level + 1) v ++ moreItems (level + 1) vs ++
      newLine level ++ [']']
  | .object [] => ['\x7b', '\x7d']
  | .object (m :: ms) =>
    '\x7b' :: newLine (level + 1) ++ member (level + 1) m ++ moreMembers (level + 1) ms ++
      newLine level ++ ['\x7d']

def moreItems (level : Nat) : List Value → List Char
  | [] => []
  | v :: vs => ',' :: newLine level ++ value level v ++ moreItems level vs

def member (level : Nat) : Literal × Value → List Char
  | (name, v) => literal name ++ [':', ' '] ++ value level v

def moreMembers (level : Nat) : List (Literal × Value) → List Char
  | [] => []
  | m :: ms => ',' :: newLine level ++ member level m ++ moreMembers level ms

end

end Printer

/-- The text of a value. -/
def Value.print (v : Value) : String := String.ofList (Printer.value 0 v)

end DexTrail.Json
