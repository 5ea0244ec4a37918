-- SUMMARY: Patterns with wildcards and sets of characters, and which texts they match.

/-!
# Patterns

In a pattern a star stands for any text, a question mark for any character, and
brackets for one character of a set. Quoted characters stand for themselves, and
so does a bracket that is never closed.
-/

namespace DexTrail.Shell

/-- A character of a text, and whether it was quoted. -/
structure Mark where
  char : Char
  quoted : Bool
  deriving DecidableEq, Inhabited

namespace Pattern

/-- A range of characters, or a class of them. -/
inductive Range where
  | between (first last : Char)
  | letters (name : String)
  deriving DecidableEq, Inhabited

inductive Item where
  | char (c : Char)
  | anyChar
  | anyText
  | set (denied : Bool) (ranges : List Range)
  deriving DecidableEq, Inhabited

/-- Whether a character belongs to a range. -/
def Range.has (c : Char) : Range → Bool
  | .between first last => first ≤ c && c ≤ last
  | .letters "alpha" => c.isAlpha
  | .letters "digit" => c.isDigit
  | .letters "alnum" => c.isAlphanum
  | .letters "upper" => c.isUpper
  | .letters "lower" => c.isLower
  | .letters "space" => c == ' ' || ('\t' ≤ c && c ≤ '\r')
  | .letters "blank" => c == ' ' || c == '\t'
  | .letters "xdigit" => c.isDigit || ('a' ≤ c && c ≤ 'f') || ('A' ≤ c && c ≤ 'F')
  | .letters "punct" => '!' ≤ c && c ≤ '~' && !c.isAlphanum
  | .letters "print" => ' ' ≤ c && c ≤ '~'
  | .letters "graph" => '!' ≤ c && c ≤ '~'
  | .letters "cntrl" => c < ' ' || c == '\x7f'
  | .letters _ => false

/-! ## Matching -/

/-- Whether a text matches. -/
def holds : List Item → List Char → Bool
  | [], cs => cs.isEmpty
  | .anyText :: items, [] => holds items []
  | .anyText :: items, c :: cs => holds items (c :: cs) || holds (.anyText :: items) cs
  | _ :: _, [] => false
  | .char d :: items, c :: cs => d == c && holds items cs
  | .anyChar :: items, _ :: cs => holds items cs
  | .set denied ranges :: items, c :: cs => ranges.any (·.has c) != denied && holds items cs
termination_by items cs => (items.length, cs.length)

/-! ## Reading -/

/-- The ranges of a set up to its closing bracket. A bracket that comes first stands
for itself. -/
def ranges? (first : Bool) : List Mark → Option (List Range × List Mark)
  | [] => none
  | m :: rest =>
    if m == ⟨']', false⟩ && !first then some ([], rest)
    else
      match m, rest with
      | ⟨'[', false⟩, ⟨':', false⟩ :: rest =>
        let name := rest.takeWhile fun m => m.char != ':'
        match rest.drop name.length with
        | _ :: ⟨']', _⟩ :: after =>
          if after.length < rest.length then
            (ranges? false after).map fun (ranges, after) =>
              (.letters (String.ofList (name.map (·.char))) :: ranges, after)
          else none
        | _ => none
      | m, ⟨'-', false⟩ :: last :: rest =>
        if last == ⟨']', false⟩ then some ([.between m.char m.char, .between '-' '-'], rest)
        else (ranges? false rest).map fun (ranges, rest) =>
          (.between m.char last.char :: ranges, rest)
      | m, rest => (ranges? false rest).map fun (ranges, rest) =>
          (.between m.char m.char :: ranges, rest)
termination_by ms => ms.length
decreasing_by all_goals simp_all <;> omega

/-- The set that follows an opening bracket. -/
def set? : List Mark → Option (Item × List Mark)
  | ⟨'!', false⟩ :: rest | ⟨'^', false⟩ :: rest =>
    (ranges? true rest).map fun (ranges, rest) => (.set true ranges, rest)
  | rest => (ranges? true rest).map fun (ranges, rest) => (.set false ranges, rest)

/-- The pattern that a marked text states. -/
def ofMarks : List Mark → List Item
  | [] => []
  | m :: rest =>
    if m.quoted then .char m.char :: ofMarks rest
    else
      match m.char with
      | '*' => .anyText :: ofMarks rest
      | '?' => .anyChar :: ofMarks rest
      | '[' =>
        match set? rest with
        | some (item, after) =>
          if after.length < rest.length then item :: ofMarks after else .char '[' :: ofMarks rest
        | none => .char '[' :: ofMarks rest
      | c => .char c :: ofMarks rest
termination_by ms => ms.length
decreasing_by all_goals simp_all <;> omega

/-- Whether a marked text has a wildcard. -/
def isWild (ms : List Mark) : Bool :=
  ms.any fun m => !m.quoted && (m.char == '*' || m.char == '?' || m.char == '[')

/-- Whether a text matches the pattern that a marked text states. -/
def isMatch (ms : List Mark) (text : List Char) : Bool := holds (ofMarks ms) text

/-! ## Trimming -/

/-- A text without the part at its start that matches, the shortest or the longest. -/
def trimStart (ms : List Mark) (longest : Bool) (text : List Char) : List Char :=
  let sizes := (List.range (text.length + 1)).filter fun n => isMatch ms (text.take n)
  match if longest then sizes.getLast? else sizes.head? with
  | some n => text.drop n
  | none => text

/-- A text without the part at its end that matches, the shortest or the longest. -/
def trimEnd (ms : List Mark) (longest : Bool) (text : List Char) : List Char :=
  let sizes := (List.range (text.length + 1)).filter fun n => isMatch ms (text.drop n)
  match if longest then sizes.head? else sizes.getLast? with
  | some n => text.take n
  | none => text

/-! ## Paths -/

/-- The names in a directory that match. A dot at the start of a name is matched by
a dot only. -/
def namesIn (names : List String) (ms : List Mark) : List String :=
  names.filter fun name =>
    isMatch ms name.toList &&
      (name.toList.head? != some '.' || (ms.head?.map (·.char)) == some '.')

end Pattern

end DexTrail.Shell
