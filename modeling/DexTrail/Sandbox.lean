-- SUMMARY: A directory that is laid out like the storage of a device, for trying the tracker out.
import DexTrail.Disk.FileTree
import DexTrail.Package.Info
import DexTrail.Settings.Config

/-!
# Sandboxes

A sandbox is a directory of its own with the places where a device keeps the
ledger, the package database, code and private data. Sandboxes are numbered, and
the number is part of the ledger's name.
-/

namespace DexTrail

structure Sandbox where
  /-- The directory of the sandbox, as an absolute path. -/
  root : String
  id : UInt32
  deriving DecidableEq, Inhabited

namespace Sandbox

def dataRoot (s : Sandbox) : String := Path.join s.root "data"

def systemDir (s : Sandbox) : String := Path.join s.dataRoot "system"

def ledgerPath (s : Sandbox) : String :=
  Path.join s.systemDir ("package-dex-usage-" ++ Decimal.text s.id.toNat ++ ".json")

def packagesPath (s : Sandbox) : String := Path.join s.systemDir "packages.json"

/-- Lay out a sandbox in its directory. -/
def create (root : String) (id : UInt32) (t : FileTree) : Sandbox × FileTree :=
  let s : Sandbox := ⟨root, id⟩
  (s, (t.makeDirs [] s.systemDir).1)

/-- The number of the sandbox that is made next. -/
def nextId (s : Sandbox) : UInt32 := s.id + 1

/-- Where the base file of a package stands. -/
def codePath (s : Sandbox) (package : String) : String :=
  Path.join (Path.join (Path.join s.dataRoot "app") package) "base.apk"

/-- A directory of a package for a user, in one of the areas of private data. It is
made if it can be. -/
def privateDir (s : Sandbox) (area package : String) (user : UserId) (t : FileTree) :
    String × FileTree :=
  let dir :=
    Path.join (Path.join (Path.join s.dataRoot area) (Decimal.text user.toInt)) package
  (dir, (t.makeDirs [] dir).1)

def appDataDir (s : Sandbox) : String → UserId → FileTree → String × FileTree :=
  s.privateDir "user"

def deviceDataDir (s : Sandbox) : String → UserId → FileTree → String × FileTree :=
  s.privateDir "user_de"

/-- Make a file and the directories above it. -/
def createFile (path : String) (content : ByteArray) (t : FileTree) :
    FileTree × Except DiskError Unit :=
  match t.makeDirs [] ((Path.parent? path).getD "") with
  | (t, .error e) => (t, .error e)
  | (t, .ok ()) =>
    match t.writeFile [] path content with
    | .error e => (t, .error e)
    | .ok t => (t, .ok ())

/-- A configuration that keeps everything within the sandbox and writes soon. -/
def config (s : Sandbox) : Config :=
  { Config.default with
    ledgerPath := s.ledgerPath
    packageDatabase := s.packagesPath
    writeDebounceMs := 10 }

end Sandbox

end DexTrail
