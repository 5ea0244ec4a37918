-- SUMMARY: Arithmetic expressions: reading them, and their values.
import DexTrail.Data.SortedMap
import DexTrail.Tools.Format

/-!
# Arithmetic

Expressions have whole numbers, variables, the usual operators, choices and
assignments. The value of a variable that is not set is zero. Results stay within
64 bits.
-/

namespace DexTrail.Shell

/-- An expression. Operators are kept by their signs. -/
inductive Expr where
  | number (n : Int)
  | variable (name : String)
  | unary (sign : String) (operand : Expr)
  | binary (sign : String) (left right : Expr)
  | choice (condition yes no : Expr)
  /-- `sign` joins the old value and the new one; without it the new one is taken. -/
  | assign (name : String) (sign : Option String) (value : Expr)
  deriving Inhabited

namespace Expr

/-! ## Tokens -/

inductive Token where
  | number (n : Int)
  | name (name : String)
  | sign (sign : String)
  deriving DecidableEq, Inhabited

/-- The signs, longer ones before their beginnings. -/
def signs : List String :=
  ["<<=", ">>=", "<=", ">=", "==", "!=", "&&", "||", "<<", ">>", "+=", "-=", "*=", "/=", "%=",
    "&=", "|=", "^=", "+", "-", "*", "/", "%", "<", ">", "=", "!", "~", "&", "|", "^", "?", ":",
    "(", ")"]

def isBlank (c : Char) : Bool := c == ' ' || c == '\t' || c == '\n'

/-- The token that stands here. -/
def token? (cs : List Char) : Option (Token × List Char) :=
  let isPart (c : Char) : Bool := c.isAlphanum || c == '_'
  match cs.takeWhile isPart with
  | [] => do
    let sign ← signs.find? fun sign => sign.toList.isPrefixOf cs
    pure (.sign sign, cs.drop sign.length)
  | c :: run => do
    let rest := cs.dropWhile isPart
    if !c.isDigit then return (.name (String.ofList (c :: run)), rest)
    match Format.unsigned (c :: run) with
    | (n, true) => pure (.number n, rest)
    | _ => none

/-- The tokens of an expression. -/
def tokens? (cs : List Char) : Option (List Token) :=
  match cs.dropWhile isBlank with
  | [] => some []
  | start =>
    match token? start with
    | none => none
    | some (t, rest) =>
      if rest.length < cs.length then (tokens? rest).map (t :: ·) else none
termination_by cs.length

/-! ## Reading -/

/-- What finds an expression at the start of the tokens still to be read. -/
abbrev Reader := List Token → Option (Expr × List Token)

/-- The operators between two expressions, from the weakest to the strongest. -/
def ranks : List (List String) :=
  [["||"], ["&&"], ["|"], ["^"], ["&"], ["==", "!="], ["<", "<=", ">", ">="], ["<<", ">>"],
    ["+", "-"], ["*", "/", "%"]]

/-- A number, a variable, or an expression in parentheses. -/
def operand (whole : Reader) : Reader
  | .number n :: rest => some (.number n, rest)
  | .name name :: rest => some (.variable name, rest)
  | .sign "(" :: rest => do
    match ← whole rest with
    | (e, .sign ")" :: rest) => pure (e, rest)
    | _ => none
  | .sign s :: rest =>
    if ["+", "-", "!", "~"].contains s then
      (operand whole rest).map fun (e, rest) => (.unary s e, rest)
    else none
  | [] => none

/-- An expression and what operators of one rank join to it. -/
def chain (signs : List String) (item : Reader) (left : Expr) (ts : List Token) :
    Option (Expr × List Token) :=
  match ts with
  | .sign s :: rest =>
    if signs.contains s then
      match item rest with
      | none => none
      | some (right, after) =>
        if after.length ≤ rest.length then chain signs item (.binary s left right) after else none
    else some (left, ts)
  | ts => some (left, ts)
termination_by ts.length

/-- An expression of operators of some ranks. -/
def ranked (operand : Reader) : List (List String) → Reader
  | [] => operand
  | signs :: stronger => fun ts => do
    let (left, rest) ← ranked operand stronger ts
    chain signs (ranked operand stronger) left rest

/-- Any expression with groups, choices and assignments up to a depth. -/
def whole? : Nat → Reader
  | 0, _ => none
  | depth + 1, ts => do
    let assigned? : Option (String × Option String × List Token) := match ts with
      | .name name :: .sign s :: rest =>
        if s == "=" then some (name, none, rest)
        else if ["==", "!=", "<=", ">="].contains s then none
        else if s.toList.getLast? == some '=' then
          some (name, some (String.ofList s.toList.dropLast), rest)
        else none
      | _ => none
    match assigned? with
    | some (name, sign, rest) =>
      let (value, rest) ← whole? depth rest
      pure (.assign name sign value, rest)
    | none =>
      let (condition, rest) ← ranked (operand (whole? depth)) ranks ts
      match rest with
      | .sign "?" :: rest => do
        match ← whole? depth rest with
        | (yes, .sign ":" :: rest) => do
          let (no, rest) ← whole? depth rest
          pure (.choice condition yes no, rest)
        | _ => none
      | rest => pure (condition, rest)

/-- Read an expression. An empty one is zero. -/
def read? (cs : List Char) : Option Expr := do
  let ts ← tokens? cs
  if ts.isEmpty then return .number 0
  match ← whole? (ts.length + 1) ts with
  | (e, []) => some e
  | _ => none

/-! ## Values -/

/-- The values of variables by their names. -/
abbrev Values := SortedMap String String

/-- A number within 64 bits. -/
def wrap (n : Int) : Int := n.bmod UInt64.size

def ofBool (b : Bool) : Int := if b then 1 else 0

/-- What an operator makes of two numbers. Nothing is divided by zero. -/
def combine? (sign : String) (a b : Int) : Option Int :=
  let bits (f : UInt64 → UInt64 → UInt64) : Int := (f (UInt64.ofInt a) (UInt64.ofInt b)).toNat
  match sign with
  | "+" => some (wrap (a + b))
  | "-" => some (wrap (a - b))
  | "*" => some (wrap (a * b))
  | "/" => if b == 0 then none else some (wrap (a.tdiv b))
  | "%" => if b == 0 then none else some (a.tmod b)
  | "<" => some (ofBool (a < b))
  | "<=" => some (ofBool (a ≤ b))
  | ">" => some (ofBool (a > b))
  | ">=" => some (ofBool (a ≥ b))
  | "==" => some (ofBool (a == b))
  | "!=" => some (ofBool (a != b))
  | "&" => some (wrap (bits (· &&& ·)))
  | "|" => some (wrap (bits (· ||| ·)))
  | "^" => some (wrap (bits (· ^^^ ·)))
  | "<<" => some (wrap (bits (· <<< ·)))
  | ">>" => some (a >>> (b % 64).toNat)
  | _ => none

/-- The number that the value of a variable states. -/
def valueOf? (vs : Values) (name : String) : Option Int :=
  match vs.get? name with
  | none => some 0
  | some text =>
    if text.isEmpty then some 0
    else
      match Format.number text with
      | (n, true) => some n
      | _ => none

/-- The value of an expression, with the variables as assigned on the way. -/
def eval (vs : Values) : Expr → Option (Int × Values)
  | .number n => some (wrap n, vs)
  | .variable name => (valueOf? vs name).map fun n => (n, vs)
  | .unary sign e => do
    let (n, vs) ← eval vs e
    match sign with
    | "-" => pure (wrap (-n), vs)
    | "!" => pure (ofBool (n == 0), vs)
    | "~" => pure (-n - 1, vs)
    | _ => pure (n, vs)
  | .binary "&&" left right => do
    let (a, vs) ← eval vs left
    if a == 0 then return (0, vs)
    let (b, vs) ← eval vs right
    pure (ofBool (b != 0), vs)
  | .binary "||" left right => do
    let (a, vs) ← eval vs left
    if a != 0 then return (1, vs)
    let (b, vs) ← eval vs right
    pure (ofBool (b != 0), vs)
  | .binary sign left right => do
    let (a, vs) ← eval vs left
    let (b, vs) ← eval vs right
    pure (← combine? sign a b, vs)
  | .choice condition yes no => do
    let (c, vs) ← eval vs condition
    if c != 0 then eval vs yes else eval vs no
  | .assign name sign value => do
    let (n, vs) ← eval vs value
    let n ← match sign with
      | none => some n
      | some sign => do combine? sign (← valueOf? vs name) n
    pure (n, vs.insert name (Decimal.text n))

end Expr

end DexTrail.Shell
