-- SUMMARY: Reading JSON values from tokens with an explicit stack.
import DexTrail.Json.Token

/-!
# Reading JSON

Tokens are taken one by one by a machine that keeps the containers that are still
open on a stack, so nesting may be of any depth. `Reader.run` of the tokens of a
document ends in the document's value, or in no value when the document is
malformed.
-/

namespace DexTrail.Json

namespace Reader

/-- A container that is still open, its newest part first. -/
inductive Frame where
  | array (items : List Value)
  | object (members : List (Literal × Value))
  /-- An object one of whose members still lacks its value. -/
  | member (members : List (Literal × Value)) (name : Literal)

/-- What must come next. -/
inductive Expected where
  | value
  /-- A value, or the end of an array that is empty so far. -/
  | element
  /-- A name, or the end of an object that is empty so far. -/
  | firstName
  | name
  | colon
  /-- A comma, or the end of the container. -/
  | separator
  deriving DecidableEq

inductive State where
  | reading (stack : List Frame) (expected : Expected)
  | done (v : Value)

/-- Put a finished value where it belongs. -/
def deliver (v : Value) : List Frame → Option State
  | [] => some (.done v)
  | .array items :: stack => some (.reading (.array (v :: items) :: stack) .separator)
  | .member members name :: stack =>
    some (.reading (.object ((name, v) :: members) :: stack) .separator)
  | .object _ :: _ => none

/-- Start the value that begins with a token. -/
def begin (stack : List Frame) : Token → Option State
  | .openBracket => some (.reading (.array [] :: stack) .element)
  | .openBrace => some (.reading (.object [] :: stack) .firstName)
  | .null => deliver .null stack
  | .bool b => deliver (.bool b) stack
  | .number cs => deliver (.number cs) stack
  | .string lit => deliver (.string lit) stack
  | _ => none

/-- End the innermost container. -/
def close : Token → List Frame → Option State
  | .closeBracket, .array items :: stack => deliver (.array items.reverse) stack
  | .closeBrace, .object members :: stack => deliver (.object members.reverse) stack
  | _, _ => none

/-- Take a member's name. -/
def takeName : Token → List Frame → Option State
  | .string lit, .object members :: stack => some (.reading (.member members lit :: stack) .colon)
  | _, _ => none

/-- Go on to the next item of the innermost container. -/
def proceed : List Frame → Option State
  | .array items :: stack => some (.reading (.array items :: stack) .value)
  | .object members :: stack => some (.reading (.object members :: stack) .name)
  | _ => none

/-- Take one token. After the end of the document there may be none. -/
def step : State → Token → Option State
  | .done _, _ => none
  | .reading stack .value, t => begin stack t
  | .reading stack .element, t =>
    if t = .closeBracket then close t stack else begin stack t
  | .reading stack .firstName, t =>
    if t = .closeBrace then close t stack else takeName t stack
  | .reading stack .name, t => takeName t stack
  | .reading stack .colon, t => if t = .colon then some (.reading stack .value) else none
  | .reading stack .separator, t => if t = .comma then proceed stack else close t stack

def run (s : State) (ts : List Token) : Option State := ts.foldlM step s

end Reader

/-- The value of a document. -/
def read? (doc : List Symbol) : Option Value :=
  match (Token.lex doc).bind (Reader.run (.reading [] .value)) with
  | some (.done v) => some v
  | _ => none

end DexTrail.Json
