-- SUMMARY: Arguments laid out by a format, as `printf` does it.
import DexTrail.Text.Decimal
import DexTrail.Tools.Escapes

/-!
# Formats

A format is text in which directives, which a percent sign starts, stand for
arguments. While arguments are left the format is used again; what is missing is
taken as empty, or as zero.
-/

namespace DexTrail.Format

/-- How an argument is laid out. -/
structure Directive where
  flags : List Char
  width : Nat
  precision : Option Nat
  conversion : Char

/-- What has been laid out so far. -/
structure Draft where
  /-- The output, last character first. -/
  out : List Char
  args : List String
  /-- Whether no more output is wanted. -/
  ended : Bool
  /-- Whether an argument did not suit its directive. -/
  failed : Bool

def Draft.add (d : Draft) (cs : List Char) : Draft := { d with out := cs.reverse ++ d.out }

/-- The next argument, which may be missing. -/
def Draft.next (d : Draft) : Draft × Option String :=
  match d.args with
  | [] => (d, none)
  | arg :: args => ({ d with args }, some arg)

/-! ## Numbers -/

/-- The value of digits of a base, and whether there was nothing else. -/
def valueOf (base : Nat) (isDigit : Char → Bool) (cs : List Char) : Nat × Bool :=
  let digits := cs.takeWhile isDigit
  (Escapes.number base digits, !digits.isEmpty && digits.length == cs.length)

/-- The value of an unsigned numeral: hexadecimal after `0x`, octal after a zero. -/
def unsigned : List Char → Nat × Bool
  | '0' :: 'x' :: cs | '0' :: 'X' :: cs => valueOf 16 Escapes.isHexadecimal cs
  | '0' :: cs => valueOf 8 Escapes.isOctal ('0' :: cs)
  | cs => valueOf 10 Char.isDigit cs

/-- The number that an argument states, and whether it states nothing else. A
quotation mark makes the number of the character after it. -/
def number (arg : String) : Int × Bool :=
  match arg.toList.dropWhile (· == ' ') with
  | '\'' :: c :: rest | '"' :: c :: rest => (c.toNat, rest.isEmpty)
  | '-' :: cs =>
    let (n, whole) := unsigned cs
    (-(n : Int), whole)
  | '+' :: cs =>
    let (n, whole) := unsigned cs
    (n, whole)
  | cs =>
    let (n, whole) := unsigned cs
    (n, whole)

/-- How many values a machine word has. -/
def wordSize : Int := UInt64.size

/-! ## Directives -/

/-- Fill text up to the width of its directive. -/
def fill (d : Directive) (cs : List Char) : List Char :=
  let gap := d.width - cs.length
  if d.flags.contains '-' then cs ++ List.replicate gap ' ' else List.replicate gap ' ' ++ cs

/-- Lay out a sign and digits. -/
def layOut (d : Directive) (sign digits : List Char) : List Char :=
  let zeros (n : Nat) := List.replicate (n - digits.length) '0' ++ digits
  match d.precision with
  | some n => fill d (sign ++ zeros n)
  | none =>
    if d.flags.contains '0' && !d.flags.contains '-' then sign ++ zeros (d.width - sign.length)
    else fill d (sign ++ digits)

def signOf (d : Directive) (n : Int) : List Char :=
  if n < 0 then ['-']
  else if d.flags.contains '+' then ['+']
  else if d.flags.contains ' ' then [' ']
  else []

/-- Lay out a number by its conversion. -/
def ofNumber (d : Directive) (n : Int) : List Char :=
  let word := (n % wordSize).toNat
  let mark (cs : List Char) := if d.flags.contains '#' then cs else []
  match d.conversion with
  | 'u' => layOut d [] (Decimal.writeNat word)
  | 'o' => layOut d (mark ['0']) (Nat.toDigits 8 word)
  | 'x' => layOut d (mark ['0', 'x']) (Nat.toDigits 16 word)
  | 'X' => layOut d (mark ['0', 'X']) ((Nat.toDigits 16 word).map Char.toUpper)
  | _ => layOut d (signOf d n) (Decimal.writeNat n.natAbs)

def cut (precision : Option Nat) (cs : List Char) : List Char :=
  match precision with
  | some n => cs.take n
  | none => cs

/-- Carry out a directive on the next argument. -/
def Draft.convert (draft : Draft) (d : Directive) : Draft :=
  if d.conversion == '%' then draft.add ['%']
  else
    let (draft, arg) := draft.next
    let text := (arg.getD "").toList
    match d.conversion with
    | 's' => draft.add (fill d (cut d.precision text))
    | 'c' => draft.add (fill d (text.take 1))
    | 'b' =>
      let (text, ended) := Escapes.unescape ⟨true, false⟩ text
      { draft with ended }.add (fill d (cut d.precision text))
    | c =>
      if "diuoxX".toList.contains c then
        match arg with
        | none => draft.add (ofNumber d 0)
        | some arg =>
          let (n, whole) := number arg
          { draft with failed := draft.failed || !whole }.add (ofNumber d n)
      else { draft with ended := true, failed := true }

/-- The number at the start of a text; a star takes it from the arguments. -/
def size (draft : Draft) (cs : List Char) : Draft × Option Int × List Char :=
  match cs with
  | '*' :: rest =>
    let (draft, arg) := draft.next
    (draft, some (number (arg.getD "0")).1, rest)
  | cs =>
    let digits := cs.takeWhile Char.isDigit
    (draft, Decimal.digits? digits, cs.drop digits.length)

/-- Read a directive after its percent sign and carry it out. -/
def Draft.direct (draft : Draft) (cs : List Char) : Draft × List Char :=
  let flags := cs.takeWhile fun c => "-+ #0".toList.contains c
  let (draft, width, cs) := size draft (cs.drop flags.length)
  let flags := if width.any (· < 0) then '-' :: flags else flags
  let (draft, precision, cs) :=
    match cs with
    | '.' :: cs =>
      let (draft, precision, cs) := size draft cs
      (draft, some (precision.getD 0).toNat, cs)
    | cs => (draft, none, cs)
  match cs with
  | [] => ({ draft with ended := true, failed := true }, [])
  | conversion :: rest =>
    (draft.convert ⟨flags, (width.getD 0).natAbs, precision, conversion⟩, rest)

/-- Use a format once. -/
def pass (draft : Draft) (cs : List Char) : Draft :=
  if draft.ended then draft
  else
    match cs with
    | [] => draft
    | '%' :: cs =>
      let (draft, rest) := draft.direct cs
      if rest.length < cs.length then pass draft rest else draft
    | '\\' :: cs =>
      match Escapes.escaped? ⟨false, false⟩ cs with
      | some (c, n) => pass (draft.add [c]) (cs.drop n)
      | none =>
        match cs with
        | 'c' :: _ => { draft with ended := true }
        | cs => pass (draft.add ['\\']) cs
    | c :: cs => pass (draft.add [c]) cs
termination_by cs.length

/-- Use a format as long as it takes arguments. -/
def passes : Nat → Draft → List Char → Draft
  | 0, draft, _ => draft
  | fuel + 1, draft, format =>
    let next := pass draft format
    if next.ended || next.args.isEmpty || next.args.length == draft.args.length then next
    else passes fuel next format

/-- The arguments laid out by a format, and whether all suited it. -/
def render (format : String) (args : List String) : String × Bool :=
  let draft := passes (args.length + 1) ⟨[], args, false, false⟩ format.toList
  (String.ofList draft.out.reverse, !draft.failed)

end DexTrail.Format
