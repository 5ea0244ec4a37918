-- SUMMARY: Tools that print texts, pass them on, or take them apart.
import DexTrail.Tools.Condition
import DexTrail.Tools.Files
import DexTrail.Tools.Format

/-!
# Text tools

These tools read files, or descriptor 0 when none is named, and print.
-/

namespace DexTrail.Tools

open Process

variable {links : Bool}

/-! ## Printing -/

/-- Print words on a line. The first arguments may be options: `n` leaves the line
open, `e` and `E` turn escapes on and off. -/
def echo (escapes openEnd : Bool) : Program links
  | arg :: rest =>
    match arg.toList with
    | '-' :: c :: cs =>
      if (c :: cs).all ['n', 'e', 'E'].contains then
        let escapes := (c :: cs).foldl (fun on c => if c == 'n' then on else c == 'e') escapes
        echo escapes (openEnd || (c :: cs).contains 'n') rest
      else say (arg :: rest)
    | _ => say (arg :: rest)
  | [] => say []
where
  say (words : List String) : StateM (Process links) Nat := do
    let line := String.intercalate " " words
    if escapes then
      let (text, ended) := Escapes.unescape ⟨true, true⟩ line.toList
      print (String.ofList text ++ if ended || openEnd then "" else "\n")
    else print (line ++ if openEnd then "" else "\n")
    pure 0

/-- Print words on a line with all escapes. A first argument `-n` leaves the line
open. -/
def plainEcho : Program links := fun args => do
  let (words, openEnd) := match args with
    | "-n" :: words => (words, true)
    | words => (words, false)
  let (text, ended) :=
    Escapes.unescape ⟨true, false⟩ (String.intercalate " " words).toList
  print (String.ofList text ++ if ended || openEnd then "" else "\n")
  pure 0

def printf : Program links
  | [] => do complain "printf: missing operand"; pure 2
  | "--" :: format :: args => layOut format args
  | format :: args => layOut format args
where
  layOut (format : String) (args : List String) : StateM (Process links) Nat := do
    let (text, well) := Format.render format args
    print text
    pure (if well then 0 else 1)

/-- Print numbers from a first to a last one. -/
def seq : Program links := fun args => do
  let numbers := args.map fun arg => Decimal.readLax? arg.toList
  let bounds : Option (Int × Int × Int) := match numbers with
    | [some last] => some (1, 1, last)
    | [some first, some last] => some (first, 1, last)
    | [some first, some step, some last] => some (first, step, last)
    | _ => none
  match bounds with
  | none => complain "seq: invalid argument"; pure 1
  | some (first, step, last) =>
    if step == 0 then
      complain "seq: invalid increment"
      return 1
    let count := ((last - first) / step + 1).toNat
    ((List.range count).map fun (n : Nat) => Decimal.text (first + step * n)).forM printLine
    pure 0

/-! ## Files -/

/-- Do something with the bytes of each file, or of descriptor 0. -/
def forInputs (tool : String) (paths : List String)
    (act : String → ByteArray → StateM (Process links) Unit) : StateM (Process links) Nat :=
  forAll (if paths.isEmpty then ["-"] else paths) fun path => do
    match ← input path with
    | .error e => complainOf tool path e; pure 1
    | .ok bytes => act path bytes; pure 0

/-- The lines of a text, each with its end. -/
def linesOf (text : String) : List String :=
  let lines := text.toList.splitOn '\n'
  let whole := lines.dropLast.map fun cs => String.ofList (cs ++ ['\n'])
  match lines.getLast? with
  | none | some [] => whole
  | some cs => whole ++ [String.ofList cs]

def cat : Program links := fun args =>
  withLine "cat" ['u'] [] args fun l =>
    forInputs "cat" l.operands fun _ bytes => print (textOf bytes)

/-- Arguments with a dash and a number written with the option that it belongs to. -/
def withCount (args : List String) : List String :=
  args.flatMap fun arg =>
    match arg.toList with
    | '-' :: cs => if (Decimal.digits? cs).isSome then ["-n", String.ofList cs] else [arg]
    | _ => [arg]

/-- Print a part of each file: `part` of the lines, or of the characters. -/
def printPart (tool : String) (part : String → List String → List String) : Program links :=
  fun args =>
  withLine tool ['q'] ['n', 'c'] (withCount args) fun l =>
    forInputs tool l.operands fun _ bytes => do
      let text := textOf bytes
      match l.value? 'c' with
      | some n => print (String.join (part n (text.toList.map String.singleton)))
      | none => print (String.join (part ((l.value? 'n').getD "10") (linesOf text)))

/-- Print the first lines; of a negative number, all but the last ones. -/
def head : Program links := printPart "head" fun count items =>
  match (Decimal.readLax? count.toList).getD 0 with
  | .ofNat n => items.take n
  | .negSucc n => items.take (items.length - (n + 1))

/-- Print the last lines; after a plus sign, from a line on. -/
def tail : Program links := printPart "tail" fun count items =>
  let n := ((Decimal.readLax? count.toList).getD 0).natAbs
  if count.toList.head? == some '+' then items.drop (n - 1) else items.drop (items.length - n)

/-- The numbers of lines, words, characters and bytes, by their options. -/
def counts (bytes : ByteArray) : List (Char × Nat) :=
  let cs := (textOf bytes).toList
  let isSpace (c : Char) : Bool := c == ' ' || ('\t' ≤ c && c ≤ '\r')
  let words := (cs.splitBy fun a b => isSpace a == isSpace b).filter fun word => !word.any isSpace
  [('l', cs.count '\n'), ('w', words.length), ('m', cs.length), ('c', bytes.size)]

/-- The sums of the numbers of several files. -/
def totals (rows : List (List (Char × Nat))) : List (Char × Nat) :=
  rows.foldl (fun sums row => sums.map fun (c, n) => (c, n + (row.lookup c).getD 0))
    (counts .empty)

/-- Count lines, words and bytes. A single number stands by itself, and several in
columns that are wide enough for the size of all files. -/
def wc : Program links := fun args =>
  withLine "wc" ['l', 'w', 'c', 'm'] [] args fun l => do
    let mut rows : List (String × List (Char × Nat)) := []
    let mut status := 0
    for path in if l.operands.isEmpty then ["-"] else l.operands do
      match ← input path with
      | .ok bytes => rows := rows ++ [(path, counts bytes)]
      | .error e =>
        complainOf "wc" path e
        status := 1
    let sums := totals (rows.map (·.2))
    let width := if l.operands.length ≤ 1 && l.options.length == 1 then 1
      else if l.operands.isEmpty then 7
      else (Decimal.writeNat ((sums.lookup 'c').getD 0)).length
    let column (n : Nat) : String :=
      let digits := Decimal.writeNat n
      String.ofList (List.replicate (width - digits.length) ' ' ++ digits)
    for (name, row) in if 1 < l.operands.length then rows ++ [("total", sums)] else rows do
      let shown := row.filter fun (c, _) => if l.options.isEmpty then c != 'm' else l.has c
      let names := if l.operands.isEmpty then [] else [name]
      printLine (String.intercalate " " (shown.map (fun (_, n) => column n) ++ names))
    pure status

/-- Pass on descriptor 0 and write it to files. -/
def tee : Program links := fun args =>
  withLine "tee" ['a'] [] args fun l => do
    let bytes ← readAll 0
    print (textOf bytes)
    forAll l.operands fun path => change "tee" path fun p => do
      let before := if l.has 'a' then (p.files.read p.cwd path).toOption.getD .empty else .empty
      p.files.writeFile p.cwd path (before ++ bytes)

/-- Print the lines of all files in their order. -/
def sort : Program links := fun args =>
  withLine "sort" ['r', 'u'] [] args fun l => do
    let before ← get
    let paths := if l.operands.isEmpty then ["-"] else l.operands
    let mut lines : List String := []
    for path in paths do
      match ← input path with
      | .error e =>
        set before
        complainOf "sort" path e
        return 2
      | .ok bytes =>
        lines := lines ++ (linesOf (textOf bytes)).map fun line =>
          if line.toList.getLast? == some '\n' then line else line ++ "\n"
    let sorted := lines.mergeSort fun a b => compare a b != .gt
    let kept := if l.has 'u' then sorted.eraseReps else sorted
    print (String.join (if l.has 'r' then kept.reverse else kept))
    pure 0

/-! ## Names -/

/-- The name at the end of a path, without a suffix. -/
def basename : Program links := fun args =>
  withOperands "basename" [] [] 1 args fun l => do
    let name := (lastName (l.operands.headD "")).toList
    let suffix := ((l.operands[1]?).getD "").toList
    let short := name.take (name.length - suffix.length)
    printLine (String.ofList (if suffix.isSuffixOf name && !short.isEmpty then short else name))
    pure 0

/-- The path without its last name. -/
def dirname : Program links := fun args =>
  withOperands "dirname" [] [] 1 args fun l => do
    l.operands.forM fun path =>
      let cut (cs : List Char) : List Char := (cs.reverse.dropWhile (· == '/')).reverse
      let before := (cut path.toList).reverse.dropWhile (· != '/')
      let dir := cut before.reverse
      printLine (if !dir.isEmpty then String.ofList dir
        else if path.toList.head? == some '/' then "/" else ".")
    pure 0

/-! ## The rest -/

/-- Wait for a time that is over at once. -/
def sleep : Program links := fun args =>
  withOperands "sleep" [] [] 1 args fun l =>
    let isTime (time : String) : Bool :=
      let cs := time.toList
      let cs := if ['s', 'm', 'h', 'd'].contains (cs.getLastD ' ') then cs.dropLast else cs
      !cs.isEmpty && cs.all fun c => c.isDigit || c == '.'
    if l.operands.all isTime then pure 0
    else do complain "sleep: invalid time interval"; pure 1

def printenv : Program links := fun args =>
  withLine "printenv" [] [] args fun l => do
    let vars := (← get).vars
    if l.operands.isEmpty then
      vars.toList.forM fun (name, value) => printLine (name ++ "=" ++ value)
      return 0
    forAll l.operands fun name => do
      match vars.get? name with
      | some value => printLine value; pure 0
      | none => pure 1

/-- Whether the words state a condition that holds. -/
def test : Program links := fun words => do pure (Condition.status (← get) words)

/-- As `test`, with a closing bracket as the last word. -/
def bracket : Program links := fun words => do
  if words.getLast? == some "]" then test words.dropLast
  else do complain "[: missing ]"; pure 2

end DexTrail.Tools
