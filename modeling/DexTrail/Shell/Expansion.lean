-- SUMMARY: What words expand to: values, output of commands, fields and matching paths.
import DexTrail.Shell.Arithmetic
import DexTrail.Shell.Field
import DexTrail.Shell.State

/-!
# Expansion

The parts of a word expand to pieces, the pieces are divided into fields, and a
field with wildcards becomes the paths that it matches, if there are any. Where a
word has to stay one, as in an assignment, nothing is divided or matched.

`Runner` is what runs commands for their output.
-/

namespace DexTrail.Shell

variable {links : Bool}

/-- Runs commands and gives what they print. -/
abbrev Runner (links : Bool := false) := List Command → Act links String

/-! ## Parameters -/

/-- The arguments as pieces. Quoted, each is a field of its own; joined by a
separator they are one. -/
def argumentPieces (s : Shell links) (quoted joined : Bool) : List Piece :=
  if quoted && joined then
    let separator := s.separators.take 1
    [.text true false (List.intercalate separator (s.args.map String.toList))]
  else
    (s.args.map fun arg => Piece.text quoted (!quoted) arg.toList).intersperse .fieldEnd

/-- A value as a piece. -/
def valuePiece (quoted : Bool) (value : String) : Piece := .text quoted (!quoted) value.toList

/-- The value of a parameter with all arguments joined by blanks. -/
def wholeValue? (s : Shell links) (name : String) : Option String :=
  if name == "@" || name == "*" then
    if s.args.isEmpty then none else some (String.intercalate " " s.args)
  else s.parameter? name

/-- The value of a parameter that has to be there if the shell was told so. -/
def demandedValue (name : String) : Act links String := do
  let s ← get
  match wholeValue? s name with
  | some value => pure value
  | none =>
    if s.hasOption 'u' && name != "@" && name != "*" && name != "!" then
      abort (name ++ ": parameter not set")
    else pure ""

/-- The pieces of a parameter without anything made of it. -/
def parameterPieces (quoted : Bool) (name : String) : Act links (List Piece) := do
  if name == "@" || name == "*" then
    return argumentPieces (← get) quoted (name == "*")
  pure [valuePiece quoted (← demandedValue name)]

/-! ## Arithmetic -/

/-- The value of an expression. -/
def arithmetic (expression : String) : Act links String := do
  let values := (← get).bindings.filterMap fun _ (value, _) => some value
  match Expr.read? expression.toList with
  | none => abort ("arithmetic expression: expecting primary: \"" ++ expression ++ "\"")
  | some e =>
    match e.eval values with
    | none => abort "arithmetic expression: division by zero"
    | some (n, after) =>
      for (name, value) in after.toList do
        if values.get? name != some value then assign name value
      pure (Decimal.text n)

/-! ## Parts -/

mutual

/-- The pieces that a part expands to. -/
def partPieces (output : Runner links) : Part → Act links (List Piece)
  | .text quoted text => pure [.text quoted false text.toList]
  | .arithmetic quoted expression => do
    let text := Piece.joined (← wordPieces output expression)
    pure [valuePiece quoted (← arithmetic (String.ofList (text.map (·.char))))]
  | .output quoted commands => do
    let text := (← output commands).toList
    let text := (text.reverse.dropWhile (· == '\n')).reverse
    pure [.text quoted (!quoted) text]
  | .parameter quoted name .value => parameterPieces quoted name
  | .parameter quoted name .length => do
    pure [valuePiece quoted (Decimal.text (← demandedValue name).utf8ByteSize)]
  | .parameter quoted name (.trim atEnd longest pattern) => do
    let value := (← demandedValue name).toList
    let marks := Piece.joined (← wordPieces output pattern)
    let rest := if atEnd then Pattern.trimEnd marks longest value
      else Pattern.trimStart marks longest value
    pure [.text quoted (!quoted) rest]
  | .parameter quoted name (.fallback kind orEmpty word) => do
    let value := wholeValue? (← get) name
    let missing := value.isNone || (orEmpty && value == some "")
    match kind with
    | .alternative =>
      if missing then pure (Piece.within quoted [])
      else do pure (Piece.within quoted (← wordPieces output word))
    | .default =>
      if missing then do pure (Piece.within quoted (← wordPieces output word))
      else parameterPieces quoted name
    | .assign =>
      if missing then
        let marks := Piece.joined (← wordPieces output word)
        let value := String.ofList (marks.map (·.char))
        if !isName name.toList then abort (name ++ ": bad variable name")
        assign name value
        pure [valuePiece quoted value]
      else parameterPieces quoted name
    | .complain =>
      if missing then
        let marks := Piece.joined (← wordPieces output word)
        let reason := String.ofList (marks.map (·.char))
        abort (name ++ ": " ++ if reason.isEmpty then "parameter not set" else reason)
      else parameterPieces quoted name

/-- The pieces that the parts of a word expand to. -/
def wordPieces (output : Runner links) : List Part → Act links (List Piece)
  | [] => pure []
  | part :: rest => do pure ((← partPieces output part) ++ (← wordPieces output rest))

end

/-- A word whose first part names the home directory by a tilde. -/
def withHome (s : Shell links) : Word → Word
  | .text false text :: rest =>
    match text.toList, s.valueOf? "HOME" with
    | ['~'], some home => if rest.isEmpty then [.text true home] else .text false text :: rest
    | '~' :: '/' :: after, some home =>
      .text true home :: .text false (String.ofList ('/' :: after)) :: rest
    | _, _ => .text false text :: rest
  | word => word

/-! ## Paths -/

/-- The paths that lead on from places by the pieces of a pattern. Every place comes
with the text that led to it. -/
def pathsFrom (files : FileTree links) (places : List (String × Location)) :
    List (List Mark) → List (String × Location)
  | [] => places
  | piece :: rest =>
    let name := String.ofList (piece.map (·.char))
    let next := places.flatMap fun (text, place) =>
      let place := files.follow place
      if !files.isDirAt place then []
      else if piece.isEmpty then [(if rest.isEmpty then text else text ++ "/", place)]
      else if Pattern.isWild piece then
        (Pattern.namesIn (files.names place) piece).map fun name => (text ++ name, place ++ [name])
      else
        match files.step place name with
        | .ok there => if (files.get? there).isSome then [(text ++ name, there)] else []
        | .error _ => []
    let next := if rest.isEmpty || piece.isEmpty then next
      else next.map fun (text, place) => (text ++ "/", place)
    pathsFrom files next rest

/-- The paths that a field matches in their order, or the field itself. -/
def matchPaths (s : Shell links) (field : List Mark) : List String :=
  let itself := String.ofList (field.map (·.char))
  if s.hasOption 'f' || !Pattern.isWild field then [itself]
  else
    let start := if field.head?.map (·.char) == some '/' then [] else s.cwd
    let pieces := field.splitOnP fun m => m.char == '/'
    match (pathsFrom s.files [("", start)] pieces).map (·.1) with
    | [] => [itself]
    | paths => paths.mergeSort fun a b => compare a b != .gt

/-! ## Words -/

/-- The fields that a word expands to. -/
def expandFields (output : Runner links) (word : Word) : Act links (List String) := do
  let pieces ← wordPieces output (withHome (← get) word)
  let s ← get
  pure ((fieldsOf s.separators pieces).flatMap (matchPaths s))

/-- The fields that words expand to. -/
def expandAll (output : Runner links) : List Word → Act links (List String)
  | [] => pure []
  | word :: rest => do pure ((← expandFields output word) ++ (← expandAll output rest))

/-- A word that stays one, with what was quoted in it. -/
def expandMarks (output : Runner links) (word : Word) : Act links (List Mark) := do
  pure (Piece.joined (← wordPieces output (withHome (← get) word)))

/-- The text of a word that stays one. -/
def expandText (output : Runner links) (word : Word) : Act links String := do
  pure (String.ofList ((← expandMarks output word).map (·.char)))

end DexTrail.Shell
