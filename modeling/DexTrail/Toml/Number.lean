-- SUMMARY: Integers and floats of TOML.
import DexTrail.Text.Decimal
import DexTrail.Text.Hexadecimal
import DexTrail.Toml.Lexical

/-!
# Numbers

An underscore may stand between two digits. Decimal numbers have no leading
zeros; the other bases have no sign. An integer must fit 64 bits with a sign, and
a float must not round to positive infinity.
-/

namespace DexTrail.Toml.Number

/-- Digits with single underscores between them, without the underscores, and what
follows. There may be none. -/
def digitRun (isDigit : Char → Bool) : List Char → List Char × List Char
  | c :: '_' :: rest =>
    if isDigit c then
      if rest.head?.any isDigit then
        let (digits, rest) := digitRun isDigit rest
        (c :: digits, rest)
      else ([c], '_' :: rest)
    else ([], c :: '_' :: rest)
  | c :: rest =>
    if isDigit c then
      let (digits, rest) := digitRun isDigit rest
      (c :: digits, rest)
    else ([], c :: rest)
  | [] => ([], [])

/-- Digits, at least one. -/
def digits? (isDigit : Char → Bool) : Scanner (List Char) := fun cs =>
  match digitRun isDigit cs with
  | ([], _) => none
  | found => some found

/-! ## Decimal integers -/

/-- A whole number by its sign and digits. -/
structure Whole where
  negative : Bool
  digits : List Char

def Whole.value (w : Whole) : Int :=
  let n : Int := Nat.ofDigitChars 10 w.digits 0
  if w.negative then -n else n

/-- Whether a minus sign stands here, and what follows the sign. -/
def sign : List Char → Bool × List Char
  | '-' :: rest => (true, rest)
  | '+' :: rest => (false, rest)
  | cs => (false, cs)

/-- A decimal integer. A zero at the start stands alone. -/
def whole? : Scanner Whole := fun cs =>
  let (negative, unsigned) := sign cs
  match unsigned with
  | '0' :: rest => some (⟨negative, ['0']⟩, rest)
  | unsigned =>
    (digits? Char.isDigit unsigned).map fun (digits, rest) => (⟨negative, digits⟩, rest)

/-! ## Integers -/

/-- The smallest and the largest integer of a document. -/
def inRange (n : Int) : Bool :=
  decide (Int64.minValue.toInt ≤ n) && decide (n ≤ Int64.maxValue.toInt)

def isBinaryDigit (c : Char) : Bool := c == '0' || c == '1'

def isOctalDigit (c : Char) : Bool := '0' ≤ c && c ≤ '7'

def isHexDigit (c : Char) : Bool := (hexDigit? c).isSome

/-- The value of digits in a base. -/
def inBase (base : Nat) (digits : List Char) : Int :=
  digits.foldl (fun n c => n * base + (hexDigit? c).getD 0) 0

/-- An integer in a base whose digits follow here. -/
def based? (base : Nat) (isDigit : Char → Bool) : Scanner Int := fun cs =>
  match digits? isDigit cs with
  | none => none
  | some (digits, rest) =>
    let n := inBase base digits
    if inRange n then some (n, rest) else none

def integer? : Scanner Int
  | '0' :: 'x' :: rest => based? 16 isHexDigit rest
  | '0' :: 'o' :: rest => based? 8 isOctalDigit rest
  | '0' :: 'b' :: rest => based? 2 isBinaryDigit rest
  | cs =>
    match whole? cs with
    | none => none
    | some (w, rest) => if inRange w.value then some (w.value, rest) else none

/-! ## Floats -/

/-- The least number that rounds to infinity in double precision. -/
def overflowBound : Nat := Nat.pow 2 1024 - Nat.pow 2 970

/-- Whether `m` times ten to the power `e` rounds to infinity. Far from the bound
the number of digits decides. -/
def overflows (m : Nat) (e : Int) : Bool :=
  let size : Int := (Nat.toDigits 10 m).length
  if m = 0 then false
  else if size + e < 300 then false
  else if 320 < size + e then true
  else
    match e with
    | .ofNat e => overflowBound ≤ m * Nat.pow 10 e
    | .negSucc e => overflowBound * Nat.pow 10 (e + 1) ≤ m

/-- A fraction, or nothing. -/
def fraction? : Scanner (List Char)
  | '.' :: rest => digits? Char.isDigit rest
  | cs => some ([], cs)

/-- An exponent, or nothing. -/
def exponent? : Scanner Int
  | [] => some (0, [])
  | c :: rest =>
    if c == 'e' || c == 'E' then
      let (negative, rest) := sign rest
      (digits? Char.isDigit rest).map fun (digits, rest) =>
        ((⟨negative, digits⟩ : Whole).value, rest)
    else some (0, c :: rest)

/-- The words for infinity and for no number. -/
def special? (cs : List Char) : Option (List Char) :=
  match (sign cs).2 with
  | 'i' :: 'n' :: 'f' :: rest => some rest
  | 'n' :: 'a' :: 'n' :: rest => some rest
  | _ => none

/-- What follows a float. -/
def float? (cs : List Char) : Option (List Char) :=
  match whole? cs with
  | none => special? cs
  | some (w, afterWhole) => do
    let (fraction, afterFraction) ← fraction? afterWhole
    let (exponent, rest) ← exponent? afterFraction
    if rest.length == afterWhole.length then none
    else
      let m := Nat.ofDigitChars 10 (w.digits ++ fraction) 0
      if !w.negative && overflows m (exponent - fraction.length) then none else some rest

end DexTrail.Toml.Number
