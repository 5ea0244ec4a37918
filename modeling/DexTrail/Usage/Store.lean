-- SUMMARY: A ledger in memory that is loaded from a file and written back after changes.
import DexTrail.Usage.LedgerFile
import DexTrail.Usage.WriteQueue

/-!
# The store

A store is a ledger together with the queue of its writes. Loading takes the
file's ledger or, when the file is missing or unreadable, an empty one. A change
requests a write; the write itself takes the ledger as it is by then.
-/

namespace DexTrail

structure Store where
  ledger : Ledger
  writes : WriteQueue
  deriving DecidableEq, Inhabited

namespace Store

variable {links : Bool}

def empty : Store := ⟨.empty, .empty⟩

/-- The ledger that a reading of the file gives. -/
def ledgerOf : Except LedgerError (Option Ledger) → Ledger
  | .ok (some doc) => .ofDocument doc
  | .ok none | .error _ => .empty

/-- Take the ledger from a reading of the file, in place of the one held. -/
def load (s : Store) (reading : Except LedgerError (Option Ledger)) : Store :=
  { s with ledger := ledgerOf reading }

/-- Request a write if something changed. The answer says whether the request
starts the wait for a write. -/
def note (s : Store) (changed : Bool) : Store × Bool :=
  let (writes, started) := s.writes.scheduleIf changed
  ({ s with writes }, started)

/-- Take a changed ledger and request its write. -/
def update (s : Store) (result : Ledger × Bool) : Store :=
  ({ s with ledger := result.1 }.note result.2).1

/-- Drop what is not installed and request a write if something went. -/
def sync (s : Store) (installed : SortedMap String (SortedSet UserId)) : Store × Bool :=
  let result := s.ledger.sync installed
  (s.update result, result.2)

/-- Write now, past the queue. -/
def writeNow (s : Store) (file : LedgerFile) (t : FileTree links) : FileTree links × Bool :=
  file.write s.ledger t

/-- Write what waits. -/
def flush (s : Store) (file : LedgerFile) (t : FileTree links) : Store × FileTree links :=
  let (writes, t) := s.writes.drain (file.write s.ledger) t
  ({ s with writes }, t)

end Store

end DexTrail
