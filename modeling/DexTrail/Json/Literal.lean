-- SUMMARY: String literals of JSON: finding their end, what they denote, and how text is written as one.
import DexTrail.Json.Value
import DexTrail.Text.Hexadecimal

/-!
# String literals

`Literal.scan` finds the end of a literal and refuses malformed escapes and
control characters. `Literal.decode?` says which text a literal denotes: none
does that holds an ill-formed byte or half of a surrogate pair. `Literal.encode`
writes text with as few escapes as possible.
-/

namespace DexTrail.Json

/-- The value of four hexadecimal digits. -/
def hexUnit? (a b c d : Symbol) : Option Nat := do hexNumber? [← a, ← b, ← c, ← d]

/-- What a one-letter escape denotes. -/
def simpleEscape? : Char → Option Char
  | '"' => some '"'
  | '\\' => some '\\'
  | '/' => some '/'
  | 'b' => some '\x08'
  | 'f' => some '\x0c'
  | 'n' => some '\n'
  | 'r' => some '\r'
  | 't' => some '\t'
  | _ => none

namespace Literal

/-! ## Scanning -/

/-- The literal up to its closing quote, and what follows the quote. -/
def scan : List Symbol → Option (Literal × List Symbol)
  | [] => none
  | some '"' :: rest => some ([], rest)
  | some '\\' :: some 'u' :: a :: b :: c :: d :: rest =>
    match hexUnit? a b c d with
    | none => none
    | some _ =>
      (scan rest).map fun (lit, rest) => (some '\\' :: some 'u' :: a :: b :: c :: d :: lit, rest)
  | some '\\' :: some e :: rest =>
    match simpleEscape? e with
    | none => none
    | some _ => (scan rest).map fun (lit, rest) => (some '\\' :: some e :: lit, rest)
  | some '\\' :: _ => none
  | s :: rest =>
    if s.any (· < ' ') then none else (scan rest).map fun (lit, rest) => (s :: lit, rest)

/-! ## Meaning -/

def isHighSurrogate (n : Nat) : Bool := 0xD800 ≤ n && n ≤ 0xDBFF

def isLowSurrogate (n : Nat) : Bool := 0xDC00 ≤ n && n ≤ 0xDFFF

/-- The character that two halves of a surrogate pair denote. -/
def pairChar (high low : Nat) : Char :=
  Char.ofNat (0x10000 + (high - 0xD800) * 0x400 + (low - 0xDC00))

/-- The characters that a literal denotes. -/
def decode? : Literal → Option (List Char)
  | [] => some []
  | some '\\' :: some 'u' :: a :: b :: c :: d :: rest =>
    match hexUnit? a b c d with
    | none => none
    | some n =>
      if isHighSurrogate n then
        match rest with
        | some '\\' :: some 'u' :: a :: b :: c :: d :: rest =>
          match hexUnit? a b c d with
          | none => none
          | some m =>
            if isLowSurrogate m then (decode? rest).map (pairChar n m :: ·) else none
        | _ => none
      else if isLowSurrogate n then none
      else (decode? rest).map (Char.ofNat n :: ·)
  | some '\\' :: some e :: rest =>
    match simpleEscape? e with
    | none => none
    | some c => (decode? rest).map (c :: ·)
  | some '\\' :: _ => none
  | none :: _ => none
  | some c :: rest => (decode? rest).map (c :: ·)

/-- The text that a literal denotes. -/
def text? (lit : Literal) : Option String := (decode? lit).map String.ofList

/-! ## Writing -/

/-- How a character is written in a literal: quotes, backslashes and control
characters are escaped. -/
def encodeChar (c : Char) : List Char :=
  match c with
  | '"' => ['\\', '"']
  | '\\' => ['\\', '\\']
  | '\x08' => ['\\', 'b']
  | '\x0c' => ['\\', 'f']
  | '\n' => ['\\', 'n']
  | '\r' => ['\\', 'r']
  | '\t' => ['\\', 't']
  | c =>
    if c < ' ' then
      ['\\', 'u', '0', '0', Nat.digitChar (c.toNat / 16), Nat.digitChar (c.toNat % 16)]
    else [c]

def encode (text : String) : Literal := (text.toList.flatMap encodeChar).map some

end Literal

end DexTrail.Json
