-- SUMMARY: Writing strings, keys and arrays of TOML.
import DexTrail.Toml.Key
import DexTrail.Text.Decimal

/-!
# Writing TOML

A string is written without escapes where one of the four kinds of strings can
hold it so, and else as a basic string with escapes. A tabulator in a basic string
is always escaped. An array of two items or more takes a line for each item.
-/

namespace DexTrail.Toml.Printer

/-! ## What a string holds -/

/-- A character that only an escape can write. -/
def needsEscape (c : Char) : Bool := !isPlain c && c != '\n'

/-- The longest run of a character. -/
def longestRun (mark : Char) (cs : List Char) : Nat :=
  (cs.foldl (fun (longest, run) c =>
    if c == mark then (max longest (run + 1), run + 1) else (longest, 0)) (0, 0)).1

/-- The kinds of strings, on one line or over several. -/
inductive Style where
  | basic
  | literal
  | multiBasic
  | multiLiteral
  deriving DecidableEq, Repr

/-- The style in which a string is written: the first that needs no escapes, and
else a basic one. -/
def Style.of (cs : List Char) : Style :=
  let unwritable := cs.any needsEscape
  let newline := cs.contains '\n'
  let backslash := cs.contains '\\'
  let quotes := longestRun '"' cs
  let apostrophes := longestRun '\'' cs
  if !unwritable && !backslash && quotes == 0 && !newline then .basic
  else if !unwritable && apostrophes == 0 && !newline then .literal
  else if !unwritable && !backslash && quotes ≤ 2 then .multiBasic
  else if !unwritable && apostrophes ≤ 2 then .multiLiteral
  else if newline then .multiBasic
  else .basic

/-! ## Escapes -/

/-- A hexadecimal digit in upper case. -/
def hexDigit (n : Nat) : Char := (Nat.digitChar n).toUpper

/-- A character in a basic string. -/
def escape (c : Char) : List Char :=
  match c with
  | '\x08' => ['\\', 'b']
  | '\t' => ['\\', 't']
  | '\n' => ['\\', 'n']
  | '\x0c' => ['\\', 'f']
  | '\r' => ['\\', 'r']
  | '"' => ['\\', '"']
  | '\\' => ['\\', '\\']
  | c =>
    if isPlain c then [c]
    else ['\\', 'u', '0', '0', hexDigit (c.toNat / 16), hexDigit (c.toNat % 16)]

/-- Characters of a basic string over several lines: line breaks stand for
themselves, and so do up to two quotation marks in a row. `run` counts the marks
just before. -/
def escapeLines (run : Nat) : List Char → List Char
  | [] => []
  | '\n' :: cs => '\n' :: escapeLines 0 cs
  | '"' :: cs =>
    if run < 2 then '"' :: escapeLines (run + 1) cs else '\\' :: '"' :: escapeLines 0 cs
  | c :: cs => escape c ++ escapeLines 0 cs

/-! ## Strings, keys, arrays -/

/-- The line break after the opening marks of a string over several lines. -/
def opening (cs : List Char) : List Char := if cs.contains '\n' then ['\n'] else []

def string (s : String) : List Char :=
  let cs := s.toList
  let quotes := ['"', '"', '"']
  let apostrophes := ['\'', '\'', '\'']
  match Style.of cs with
  | .basic => '"' :: cs.flatMap escape ++ ['"']
  | .literal => '\'' :: cs ++ ['\'']
  | .multiBasic => quotes ++ opening cs ++ escapeLines 0 cs ++ quotes
  | .multiLiteral => apostrophes ++ opening cs ++ cs ++ apostrophes

/-- Keys are bare where they can be, and else stand on one line. -/
def key (s : String) : List Char :=
  let cs := s.toList
  let unwritable := cs.any needsEscape || cs.contains '\n'
  let basic := !unwritable && !cs.contains '\\' && !cs.contains '"'
  let literal := !unwritable && !cs.contains '\''
  if !cs.isEmpty && cs.all Key.isBare then cs
  else if literal && !basic then '\'' :: cs ++ ['\'']
  else '"' :: cs.flatMap escape ++ ['"']

/-- An array of strings. -/
def strings : List String → List Char
  | [] => ['[', ']']
  | [s] => '[' :: string s ++ [']']
  | ss =>
    '[' :: '\n' :: (ss.flatMap fun s => [' ', ' ', ' ', ' '] ++ string s ++ [',', '\n']) ++ [']']

/-! ## Lines -/

/-- The line that sets a key. -/
def entry (name : String) (value : List Char) : List Char :=
  key name ++ [' ', '=', ' '] ++ value ++ ['\n']

/-- The header of a table. -/
def header (path : List String) : List Char :=
  '[' :: List.intercalate ['.'] (path.map key) ++ [']', '\n']

end DexTrail.Toml.Printer
