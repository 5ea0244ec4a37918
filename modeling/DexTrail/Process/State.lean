-- SUMMARY: What a running program sees: files, variables and descriptors with streams behind them.
import DexTrail.Disk.FileTree
import DexTrail.Text.Symbols

/-!
# Processes

A process sees a file tree from a working directory, environment variables, and
numbered descriptors. Behind a descriptor stands a stream, which several
descriptors may share: bytes that wait in a buffer, a place in a file, or nothing
at all. A process that is started by another one works on the same files and
streams and hands them back when it ends.
-/

namespace DexTrail

variable {links : Bool}

/-- The environment of a process by the names of its variables. -/
abbrev Variables := SortedMap String String

/-- Where bytes come from and go to. -/
inductive Stream where
  /-- Nothing is read from it, and what is written is lost. -/
  | null
  /-- What is written waits until it is read. -/
  | buffer (content : ByteArray)
  /-- A place in a file; writing may happen at the end of the file only. -/
  | file (place : Location) (offset : Nat) (atEnd : Bool)
  deriving Inhabited

structure Process (links : Bool := false) where
  files : FileTree links
  cwd : Location
  vars : Variables
  streams : List Stream
  /-- The positions in `streams` of the open descriptors. -/
  descriptors : SortedMap Nat Nat
  deriving Inhabited

/-- A program as a function of its arguments. The answer is its status, which is
zero for success. -/
abbrev Program (links : Bool := false) := List String → StateM (Process links) Nat

namespace Process

/-- The text of bytes. A byte that belongs to no character becomes a replacement
character. -/
def textOf (bytes : ByteArray) : String :=
  String.ofList ((symbols bytes).map fun symbol => symbol.getD '\ufffd')

/-- A process that reads nothing and whose output and complaints are kept. -/
def start (files : FileTree links) (cwd : Location) (vars : Variables) :
    Process links where
  files
  cwd
  vars
  streams := [.null, .buffer .empty, .buffer .empty]
  descriptors := .ofList [(0, 0), (1, 1), (2, 2)]

/-- The position of the stream behind a descriptor. -/
def streamAt? (p : Process links) (descriptor : Nat) : Option Nat := p.descriptors.get? descriptor

/-- Add a stream. The answer is its position. -/
def addStream (p : Process links) (stream : Stream) : Process links × Nat :=
  ({ p with streams := p.streams ++ [stream] }, p.streams.length)

/-- Put a stream behind a descriptor. -/
def bind (p : Process links) (descriptor position : Nat) : Process links :=
  { p with descriptors := p.descriptors.insert descriptor position }

def setStream (p : Process links) (position : Nat) (stream : Stream) :
    Process links :=
  { p with streams := p.streams.set position stream }

/-- What waits in a buffer. -/
def bufferAt (p : Process links) (position : Nat) : ByteArray :=
  match p.streams[position]? with
  | some (.buffer content) => content
  | _ => .empty

/-- The content of the file at a place; a file that is gone is empty. -/
def contentAt (p : Process links) (place : Location) : ByteArray :=
  (p.files.contentAt? place).getD .empty

/-! ## Writing -/

/-- Content in which some bytes are replaced from an offset on. -/
def overwrite (content : ByteArray) (offset : Nat) (bytes : ByteArray) : ByteArray :=
  let gap : ByteArray := ⟨(List.replicate (offset - content.size) 0).toArray⟩
  content.extract 0 offset ++ gap ++ bytes ++ content.extract (offset + bytes.size) content.size

/-- Write to a descriptor. Without a stream behind it nothing happens. -/
def write (descriptor : Nat) (text : String) : StateM (Process links) Unit := modify fun p =>
  match p.streamAt? descriptor with
  | none => p
  | some position =>
    match p.streams[position]? with
    | some (.buffer content) => p.setStream position (.buffer (content ++ text.toUTF8))
    | some (.file place offset atEnd) =>
      match p.files.contentAt? place with
      | some content =>
        let offset := if atEnd then content.size else offset
        let written := overwrite content offset text.toUTF8
        { p with files := p.files.put place written }.setStream position
          (.file place (offset + text.toUTF8.size) atEnd)
      | none => p
    | _ => p

def print (text : String) : StateM (Process links) Unit := write 1 text

def printLine (line : String) : StateM (Process links) Unit := print (line ++ "\n")

/-- Print a complaint of a program. -/
def complain (line : String) : StateM (Process links) Unit := write 2 (line ++ "\n")

/-! ## Reading -/

/-- Take from a stream. `cut` says how many of the bytes that are there to take. -/
def takeFrom (descriptor : Nat) (cut : ByteArray → Nat) : StateM (Process links) ByteArray := do
  let p ← get
  match p.streamAt? descriptor with
  | none => pure .empty
  | some position =>
    match p.streams[position]? with
    | some (.buffer content) =>
      let n := cut content
      set (p.setStream position (.buffer (content.extract n content.size)))
      pure (content.extract 0 n)
    | some (.file place offset atEnd) =>
      let content := p.contentAt place
      let rest := content.extract offset content.size
      let n := cut rest
      set (p.setStream position (.file place (offset + n) atEnd))
      pure (rest.extract 0 n)
    | _ => pure .empty

/-- Read all that is left. -/
def readAll (descriptor : Nat) : StateM (Process links) ByteArray := takeFrom descriptor (·.size)

/-- Read one line with its end. At the end there is none, and the last line may lack
the line's end. -/
def readLine (descriptor : Nat) : StateM (Process links) String := do
  let bytes ← takeFrom descriptor fun content =>
    min content.size (content.data.toList.takeWhile (· != 10)).length.succ
  pure (textOf bytes)

/-- The bytes of a file, or of what descriptor 0 has for the name `-`. -/
def input (path : String) : StateM (Process links) (Except DiskError ByteArray) := do
  if path == "-" || path == "/dev/stdin" then return .ok (← readAll 0)
  if path == "/dev/null" then return .ok .empty
  let p ← get
  return p.files.read p.cwd path

end Process

end DexTrail
