-- SUMMARY: Putting other streams behind the descriptors of a shell.
import DexTrail.Shell.Expansion

/-!
# Redirections

A redirection puts a stream behind a descriptor: a file that it opens, the stream
of another descriptor, or a text. What cannot be opened is complained about.
-/

namespace DexTrail.Shell

variable {links : Bool}

/-- The descriptor whose stream a special path stands for. -/
def specialDescriptor? (path : String) : Option Nat :=
  match path with
  | "/dev/stdin" => some 0
  | "/dev/stdout" => some 1
  | "/dev/stderr" => some 2
  | path =>
    let start := "/dev/fd/".toList
    if start.isPrefixOf path.toList then Decimal.digits? (path.toList.drop start.length) else none

/-- The stream that opening a path makes, and the tree after it. -/
def openPath (p : Process links) (opening : Opening) (path : String) :
    Except DiskError (FileTree links × Stream) := do
  if path == "/dev/null" then return (p.files, .null)
  let files ← match opening with
    | .read => do
      let _ ← p.files.read p.cwd path
      pure p.files
    | .write => p.files.writeFile p.cwd path .empty
    | .append | .both =>
      match p.files.read p.cwd path with
      | .ok _ => pure p.files
      | .error .notFound => p.files.writeFile p.cwd path .empty
      | .error e => throw e
  let target ← files.locate p.cwd path
  pure (files, .file target.location 0 (opening == .append))

/-- Why a path cannot be opened. -/
def openReason (opening : Opening) : DiskError → String
  | .notFound => if opening == .read then "No such file" else "Directory nonexistent"
  | .notADirectory => "Not a directory"
  | .isADirectory => "Is a directory"
  | .alreadyExists => "File exists"
  | .badPath => "File name too long"
  | .tooManyLinks => "Too many levels of symbolic links"
  | .notPermitted => "Operation not permitted"

/-- Put the stream of another descriptor behind one. The answer is whether there is
such a stream. -/
def shareDescriptor (descriptor source : Nat) : Act links Bool := do
  match (← get).streamAt? source with
  | none => complain (Decimal.text source ++ ": Bad file descriptor"); pure false
  | some position =>
    onProcess (modify fun p => p.bind descriptor position)
    pure true

/-- Put a stream of its own behind a descriptor. -/
def bindStream (descriptor : Nat) (stream : Stream) : Act links Nat := onProcess do
  let (p, position) := (← get).addStream stream
  set (p.bind descriptor position)
  pure position

/-- Carry out a redirection. The answer is whether it succeeded. -/
def redirect (output : Runner links) : Redirection → Act links Bool
  | .path descriptor opening target => do
    let path ← expandText output target
    match specialDescriptor? path with
    | some source => shareDescriptor descriptor source
    | none =>
      match openPath (← get).toProcess opening path with
      | .error e =>
        complain ((if opening == .read then "cannot open " else "cannot create ") ++ path ++ ": " ++
          openReason opening e)
        pure false
      | .ok (files, stream) =>
        onProcess (modify fun p => { p with files })
        let _ ← bindStream descriptor stream
        pure true
  | .share descriptor source => do
    let source ← expandText output source
    if source == "-" then
      onProcess (modify fun p => { p with descriptors := p.descriptors.erase descriptor })
      pure true
    else
      match Decimal.digits? source.toList with
      | some n => shareDescriptor descriptor n
      | none => complain (source ++ ": Bad file descriptor"); pure false
  | .document descriptor text => do
    let text ← expandText output text
    let _ ← bindStream descriptor (.buffer text.toUTF8)
    pure true

/-- Carry out redirections up to the first one that fails. -/
def redirectAll (output : Runner links) : List Redirection → Act links Bool
  | [] => pure true
  | r :: rest => do if ← redirect output r then redirectAll output rest else pure false

end DexTrail.Shell
