-- SUMMARY: The four kinds of quoted strings of TOML.
import DexTrail.Text.Hexadecimal
import DexTrail.Toml.Lexical

/-!
# Quoted strings

Basic strings stand in quotation marks and have escapes; literal strings stand in
apostrophes and have none. Both kinds may go over several lines when three marks
open and close them. Each scanner here starts after the opening marks.
-/

namespace DexTrail.Toml.Quoted

/-- What a one-letter escape denotes. -/
def simpleEscape? : Char → Option Char
  | 'b' => some '\x08'
  | 't' => some '\t'
  | 'n' => some '\n'
  | 'f' => some '\x0c'
  | 'r' => some '\r'
  | '"' => some '"'
  | '\\' => some '\\'
  | _ => none

/-- The character that hexadecimal digits denote. Surrogates are no characters. -/
def hexChar? (digits : List Char) : Option Char :=
  (hexNumber? digits).bind fun n => if n.isValidChar then some (Char.ofNat n) else none

/-- Put a character in front of what was found. -/
def consTo (c : Option Char) (found : Option (List Char × List Char)) :
    Option (List Char × List Char) :=
  match c, found with
  | some c, some (cs, rest) => some (c :: cs, rest)
  | _, _ => none

/-- A basic string on one line. -/
def basic : Scanner (List Char)
  | [] => none
  | '"' :: rest => some ([], rest)
  | '\\' :: 'u' :: a :: b :: c :: d :: rest => consTo (hexChar? [a, b, c, d]) (basic rest)
  | '\\' :: 'U' :: a :: b :: c :: d :: e :: f :: g :: h :: rest =>
    consTo (hexChar? [a, b, c, d, e, f, g, h]) (basic rest)
  | '\\' :: e :: rest => consTo (simpleEscape? e) (basic rest)
  | c :: rest => if isPlain c && c != '\\' then consTo c (basic rest) else none

/-- A literal string on one line. -/
def literal : Scanner (List Char)
  | [] => none
  | '\'' :: rest => some ([], rest)
  | c :: rest => if isPlain c then consTo c (literal rest) else none

/-- Whether a backslash before these characters ends the line. -/
def endsLine (cs : List Char) : Bool := (newline? (skipBlanks cs)).isSome

/-- A basic string over several lines. While `skipping`, after a backslash at the
end of a line, blanks and line breaks are passed over. One or two marks before the
closing ones belong to the string. -/
def multiBasic (skipping : Bool) : Scanner (List Char)
  | [] => none
  | '"' :: '"' :: '"' :: '"' :: '"' :: rest => some (['"', '"'], rest)
  | '"' :: '"' :: '"' :: '"' :: rest => some (['"'], rest)
  | '"' :: '"' :: '"' :: rest => some ([], rest)
  | '"' :: rest => consTo '"' (multiBasic false rest)
  | '\\' :: 'u' :: a :: b :: c :: d :: rest =>
    consTo (hexChar? [a, b, c, d]) (multiBasic false rest)
  | '\\' :: 'U' :: a :: b :: c :: d :: e :: f :: g :: h :: rest =>
    consTo (hexChar? [a, b, c, d, e, f, g, h]) (multiBasic false rest)
  | '\\' :: e :: rest =>
    if endsLine (e :: rest) then multiBasic true (e :: rest)
    else consTo (simpleEscape? e) (multiBasic false rest)
  | '\n' :: rest => if skipping then multiBasic true rest else consTo '\n' (multiBasic false rest)
  | '\r' :: '\n' :: rest =>
    if skipping then multiBasic true rest else consTo '\n' (multiBasic false rest)
  | c :: rest =>
    if skipping && isBlank c then multiBasic true rest
    else if isPlain c && c != '\\' then consTo c (multiBasic false rest)
    else none

/-- A literal string over several lines. -/
def multiLiteral : Scanner (List Char)
  | [] => none
  | '\'' :: '\'' :: '\'' :: '\'' :: '\'' :: rest => some (['\'', '\''], rest)
  | '\'' :: '\'' :: '\'' :: '\'' :: rest => some (['\''], rest)
  | '\'' :: '\'' :: '\'' :: rest => some ([], rest)
  | '\n' :: rest => consTo '\n' (multiLiteral rest)
  | '\r' :: '\n' :: rest => consTo '\n' (multiLiteral rest)
  | c :: rest => if isPlain c then consTo c (multiLiteral rest) else none

/-- Drop a line break right after the opening marks. -/
def dropFirstNewline (cs : List Char) : List Char := (newline? cs).getD cs

/-- A string of any kind, from its opening marks on. -/
def any : Scanner (List Char)
  | '"' :: '"' :: '"' :: rest => multiBasic false (dropFirstNewline rest)
  | '"' :: rest => basic rest
  | '\'' :: '\'' :: '\'' :: rest => multiLiteral (dropFirstNewline rest)
  | '\'' :: rest => literal rest
  | _ => none

end DexTrail.Toml.Quoted
