-- SUMMARY: Characters that are written with a backslash in the arguments of printing programs.

/-!
# Escapes

A backslash and what follows it stand for one character: a letter for a control
character, or the number of the character in octal or hexadecimal digits. A `c`
after the backslash ends the output. Any other backslash stands for itself.
-/

namespace DexTrail.Escapes

/-- Which numbers are read after a backslash. -/
structure Style where
  /-- Whether a zero may stand before the three octal digits. -/
  zeroFirst : Bool
  /-- Whether hexadecimal digits are read after an `x`. -/
  hexadecimal : Bool

/-- The character that a letter after a backslash stands for. -/
def letter? : Char → Option Char
  | '\\' => some '\\'
  | 'a' => some '\x07'
  | 'b' => some '\x08'
  | 'e' => some '\x1b'
  | 'f' => some '\x0c'
  | 'n' => some '\n'
  | 'r' => some '\r'
  | 't' => some '\t'
  | 'v' => some '\x0b'
  | _ => none

def isOctal (c : Char) : Bool := '0' ≤ c && c ≤ '7'

def isHexadecimal (c : Char) : Bool :=
  c.isDigit || ('a' ≤ c && c ≤ 'f') || ('A' ≤ c && c ≤ 'F')

/-- The value of a digit. -/
def digit (c : Char) : Nat :=
  if c.isDigit then c.toNat - '0'.toNat else 10 + (c.toLower.toNat - 'a'.toNat)

def number (base : Nat) (digits : List Char) : Nat :=
  digits.foldl (fun n c => base * n + digit c) 0

/-- The character of a byte. A byte that is no character by itself is replaced. -/
def ofByte (n : Nat) : Char := if n % 256 < 128 then Char.ofNat (n % 256) else '\ufffd'

/-- What the characters after a backslash stand for, and how many of them. -/
def escaped? (s : Style) (cs : List Char) : Option (Char × Nat) :=
  let octal (cs : List Char) := (cs.take 3).takeWhile isOctal
  match cs with
  | [] => none
  | c :: rest =>
    match letter? c with
    | some d => some (d, 1)
    | none =>
      if c == '0' && s.zeroFirst then some (ofByte (number 8 (octal rest)), 1 + (octal rest).length)
      else if isOctal c then some (ofByte (number 8 (octal cs)), (octal cs).length)
      else if c == 'x' && s.hexadecimal then
        match (rest.take 2).takeWhile isHexadecimal with
        | [] => none
        | digits => some (ofByte (number 16 digits), 1 + digits.length)
      else none

/-- Replace all escapes. The answer says also whether the output ends here. -/
def unescape (s : Style) : List Char → List Char × Bool
  | [] => ([], false)
  | '\\' :: 'c' :: _ => ([], true)
  | '\\' :: rest =>
    match escaped? s rest with
    | some (d, n) =>
      let (text, ended) := unescape s (rest.drop n)
      (d :: text, ended)
    | none =>
      let (text, ended) := unescape s rest
      ('\\' :: text, ended)
  | c :: rest =>
    let (text, ended) := unescape s rest
    (c :: text, ended)
termination_by cs => cs.length

end DexTrail.Escapes
