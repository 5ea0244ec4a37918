-- SUMMARY: Dates and times of TOML and their normal form.
import DexTrail.Toml.Lexical

/-!
# Dates and times

A document may hold a date, a time, or a date with a time and perhaps an offset.
The normal form has a `T` between date and time, an upper-case `Z`, and no zeros
at the end of the fraction of a second.
-/

namespace DexTrail.Toml.DateTime

/-- The value of exactly `n` digits. -/
def digits? (n : Nat) : Scanner Nat := fun cs =>
  let digits := cs.take n
  if digits.length == n && digits.all Char.isDigit then
    some (Nat.ofDigitChars 10 digits 0, cs.drop n)
  else none

/-- The value of two digits within bounds. -/
def within? (low high : Nat) : Scanner Nat := fun cs =>
  (digits? 2 cs).filter fun (n, _) => low ≤ n && n ≤ high

/-- A character that must stand here. -/
def mark? (c : Char) : List Char → Option (List Char)
  | d :: rest => if d = c then some rest else none
  | [] => none

def isLeapYear (y : Nat) : Bool := y % 4 == 0 && (y % 100 != 0 || y % 400 == 0)

def daysInMonth (y m : Nat) : Nat :=
  match m with
  | 2 => if isLeapYear y then 29 else 28
  | 4 | 6 | 9 | 11 => 30
  | _ => 31

/-- A number with at least `width` digits. -/
def padded (width n : Nat) : List Char :=
  let digits := Nat.toDigits 10 n
  List.replicate (width - digits.length) '0' ++ digits

/-- A date in its normal form. -/
def date? : Scanner (List Char) := fun cs => do
  let (y, cs) ← digits? 4 cs
  let cs ← mark? '-' cs
  let (m, cs) ← within? 1 12 cs
  let cs ← mark? '-' cs
  let (d, cs) ← within? 1 31 cs
  if daysInMonth y m < d then none
  else pure (padded 4 y ++ '-' :: padded 2 m ++ '-' :: padded 2 d, cs)

/-- A fraction of a second in its normal form, to the billionth, or nothing. -/
def fraction : List Char → List Char × List Char
  | '.' :: cs =>
    match cs.takeWhile Char.isDigit with
    | [] => ([], '.' :: cs)
    | digits =>
      match ((digits.take 9).reverse.dropWhile (· == '0')).reverse with
      | [] => ([], cs.dropWhile Char.isDigit)
      | kept => ('.' :: kept, cs.dropWhile Char.isDigit)
  | cs => ([], cs)

/-- A time in its normal form. -/
def time? : Scanner (List Char) := fun cs => do
  let (h, cs) ← within? 0 23 cs
  let cs ← mark? ':' cs
  let (m, cs) ← within? 0 59 cs
  let cs ← mark? ':' cs
  let (s, cs) ← within? 0 60 cs
  let (f, cs) := fraction cs
  pure (padded 2 h ++ ':' :: padded 2 m ++ ':' :: padded 2 s ++ f, cs)

/-- An offset in its normal form. -/
def offset? : Scanner (List Char)
  | 'Z' :: cs => some (['Z'], cs)
  | 'z' :: cs => some (['Z'], cs)
  | c :: cs => do
    guard (c == '+' || c == '-')
    let (h, cs) ← within? 0 23 cs
    let cs ← mark? ':' cs
    let (m, cs) ← within? 0 59 cs
    let sign := if h == 0 && m == 0 then '+' else c
    pure (sign :: padded 2 h ++ ':' :: padded 2 m, cs)
  | [] => none

/-- The time after a date, when a divider and a time stand here. -/
def timeAfterDate? : Scanner (List Char)
  | c :: cs => do
    guard (c == 'T' || c == 't' || c == ' ')
    let (time, cs) ← time? cs
    match offset? cs with
    | some (offset, cs) => pure (time ++ offset, cs)
    | none => pure (time, cs)
  | [] => none

/-- A date, a time, or both, in the normal form. -/
def any? : Scanner String := fun cs =>
  match date? cs with
  | some (date, rest) =>
    match timeAfterDate? rest with
    | some (time, rest) => some (String.ofList (date ++ 'T' :: time), rest)
    | none => some (String.ofList date, rest)
  | none => (time? cs).map fun (time, rest) => (String.ofList time, rest)

end DexTrail.Toml.DateTime
