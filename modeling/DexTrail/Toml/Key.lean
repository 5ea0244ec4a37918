-- SUMMARY: Keys of TOML: bare, quoted and dotted.
import DexTrail.Toml.Quoted

/-!
# Keys

A key is bare or quoted on one line. Keys joined by dots, with blanks around them,
name an entry of a table within tables.
-/

namespace DexTrail.Toml.Key

def isBare (c : Char) : Bool := c.isAlphanum || c == '_' || c == '-'

/-- One key. -/
def simple? : Scanner String
  | '"' :: rest => (Quoted.basic rest).map fun (cs, rest) => (String.ofList cs, rest)
  | '\'' :: rest => (Quoted.literal rest).map fun (cs, rest) => (String.ofList cs, rest)
  | cs =>
    match cs.takeWhile isBare with
    | [] => none
    | bare => some (String.ofList bare, cs.dropWhile isBare)

/-- Keys joined by dots, with the blanks around them. -/
def dotted? (cs : List Char) : Option (List String × List Char) :=
  match simple? (skipBlanks cs) with
  | none => none
  | some (key, rest) =>
    match skipBlanks rest with
    | '.' :: after =>
      if after.length < cs.length then
        (dotted? after).map fun (keys, rest) => (key :: keys, rest)
      else none
    | rest => some ([key], rest)
termination_by cs.length

/-- The least number of keys that are too many to be joined. -/
def limit : Nat := 80

/-- Keys joined by dots, fewer than the limit. -/
def path? : Scanner (List String) := fun cs =>
  (dotted? cs).filter fun (keys, _) => keys.length < limit

end DexTrail.Toml.Key
