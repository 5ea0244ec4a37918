-- SUMMARY: Delayed writes: many requests, one write, and counts of what became of each request.

/-!
# The write queue

A change of the ledger requests a write, which happens some time later. Requests
that arrive while one waits are joined to it. The queue counts what became of
every request. It runs the write through a function of the caller, which says
whether the write succeeded.
-/

namespace DexTrail

/-- What became of the requests so far. These are natural numbers: a counter of 64 bits shows the
same until one of them has counted 2^64 times. -/
structure WriteStats where
  requested : Nat
  coalesced : Nat
  written : Nat
  failed : Nat
  deriving DecidableEq, Inhabited

structure WriteQueue where
  /-- Whether a write waits. -/
  pending : Bool
  stats : WriteStats
  deriving DecidableEq, Inhabited

namespace WriteQueue

def empty : WriteQueue := ⟨false, ⟨0, 0, 0, 0⟩⟩

/-- Request a write. The answer says whether this request starts the wait: one
made while another waits is joined to that. -/
def schedule (q : WriteQueue) : WriteQueue × Bool :=
  let stats := { q.stats with requested := q.stats.requested + 1 }
  if q.pending then (⟨true, { stats with coalesced := stats.coalesced + 1 }⟩, false)
  else (⟨true, stats⟩, true)

/-- Request a write if something changed. -/
def scheduleIf (q : WriteQueue) (changed : Bool) : WriteQueue × Bool :=
  if changed then q.schedule else (q, false)

/-- Take the waiting write up. -/
def take (q : WriteQueue) : WriteQueue := { q with pending := false }

/-- Count a write that was made. -/
def count (q : WriteQueue) (ok : Bool) : WriteQueue :=
  { q with
    stats := if ok then { q.stats with written := q.stats.written + 1 }
      else { q.stats with failed := q.stats.failed + 1 } }

/-- Write what waits, by `write`, which answers whether it succeeded. Without a
waiting request nothing is written. The wait running out, a flush and the end of
the queue all do this. -/
def drain {σ : Type} (q : WriteQueue) (write : σ → σ × Bool) (s : σ) : WriteQueue × σ :=
  if q.pending then
    let (s, ok) := write s
    (q.take.count ok, s)
  else (q, s)

/-! ## Accounting -/

/-- The requests that are accounted for: joined, written, failed, or still waiting. -/
def accounted (q : WriteQueue) : Nat :=
  q.stats.coalesced + q.stats.written + q.stats.failed + if q.pending then 1 else 0

@[simp] theorem pending_schedule (q : WriteQueue) : q.schedule.1.pending = true := by
  rw [schedule]
  split <;> rfl

@[simp] theorem requested_schedule (q : WriteQueue) :
    q.schedule.1.stats.requested = q.stats.requested + 1 := by
  rw [schedule]
  split <;> rfl

/-- A request starts the wait exactly when nothing waits. -/
@[simp] theorem started_schedule (q : WriteQueue) : q.schedule.2 = !q.pending := by
  rw [schedule]
  cases q.pending <;> rfl

theorem accounted_schedule (q : WriteQueue) : q.schedule.1.accounted = q.accounted + 1 := by
  rw [schedule, accounted, accounted]
  cases q.pending
  · rfl
  · simp only [if_true]
    omega

@[simp] theorem pending_drain {σ : Type} (q : WriteQueue) (write : σ → σ × Bool) (s : σ) :
    (q.drain write s).1.pending = false := by
  rw [drain]
  cases hp : q.pending
  · exact hp
  · rfl

@[simp] theorem requested_count (q : WriteQueue) (ok : Bool) :
    (q.count ok).stats.requested = q.stats.requested := by
  cases ok <;> rfl

@[simp] theorem requested_drain {σ : Type} (q : WriteQueue) (write : σ → σ × Bool) (s : σ) :
    (q.drain write s).1.stats.requested = q.stats.requested := by
  rw [drain]
  cases q.pending
  · rfl
  · exact requested_count q.take (write s).2

/-- A write that is made accounts for the request that it was taken up for. -/
theorem accounted_count {q : WriteQueue} (h : q.pending = true) (ok : Bool) :
    (q.take.count ok).accounted = q.accounted := by
  cases ok <;> simp only [accounted, take, count, h] <;> simp <;> omega

theorem accounted_drain {σ : Type} (q : WriteQueue) (write : σ → σ × Bool) (s : σ) :
    (q.drain write s).1.accounted = q.accounted := by
  rw [drain]
  cases hp : q.pending
  · rfl
  · exact accounted_count hp _

end WriteQueue

end DexTrail
