-- SUMMARY: What becomes of every request to write, over all that may happen to the queue and to the worker that serves it.
import DexTrail.Usage.WriteQueue
import Mathlib.Data.List.Induction
import Mathlib.Logic.Relation

/-!
# Accounting of the writes

Whatever happens to a queue, in any order and with any outcomes of the write function, its
counts add up: every request was joined to another, written, failed, or waits
(`WriteQueue.accounts_after`). The queue is shared by those who request writes and by a
worker, who learns of requests and flushes through a mailbox, lets the debounce run out, and
calls the write function. The steps of both interleave (`Scheduler.Step`). The queue remains
that of a sequence of requests, flushes and expiries (`Scheduler.Follows`), and no request is
lost on the way.
-/

namespace DexTrail

/-! ## What happens to a queue -/

namespace WriteQueue

/-- Something that happens to a queue. The outcome is that of the write function in case
that it is called. -/
inductive Event where
  | schedule
  | flush (ok : Bool)
  | expire (ok : Bool)

/-- The queue and the number of calls of the write function after a flush, after the wait
has run out, or after the end of the queue. -/
def attempt (s : WriteQueue × Nat) (ok : Bool) : WriteQueue × Nat :=
  s.1.drain (fun calls => (calls + 1, ok)) s.2

def handle (s : WriteQueue × Nat) : Event → WriteQueue × Nat
  | .schedule => (s.1.schedule.1, s.2)
  | .flush ok | .expire ok => attempt s ok

/-- The queue and the number of calls after all that happened to a new queue. -/
def after (events : List Event) : WriteQueue × Nat := events.foldl handle (.empty, 0)

theorem after_append (events events' : List Event) :
    after (events ++ events') = events'.foldl handle (after events) := List.foldl_append

theorem after_concat (events : List Event) (e : Event) :
    after (events ++ [e]) = handle (after events) e := after_append events [e]

/-! ### The counts add up -/

/-- A call of the write function is counted as written or as failed. -/
theorem calls_attempt (s : WriteQueue × Nat) (ok : Bool) :
    (attempt s ok).2 = s.2 + (if s.1.pending then 1 else 0) ∧
      (attempt s ok).1.stats.written + (attempt s ok).1.stats.failed =
        s.1.stats.written + s.1.stats.failed + if s.1.pending then 1 else 0 := by
  unfold attempt drain
  cases s.1.pending with
  | false => exact ⟨rfl, rfl⟩
  | true =>
    cases ok with
    | false => exact ⟨rfl, rfl⟩
    | true => exact ⟨rfl, Nat.add_right_comm _ _ _⟩

/-- The requests are accounted for, and so are the calls. -/
structure Accounts (s : WriteQueue × Nat) : Prop where
  requested : s.1.stats.requested = s.1.accounted
  calls : s.2 = s.1.stats.written + s.1.stats.failed

theorem Accounts.handle {s : WriteQueue × Nat} (h : Accounts s) (e : Event) :
    Accounts (handle s e) := by
  have hattempt (ok : Bool) : Accounts (attempt s ok) := by
    obtain ⟨hcalls, hcounted⟩ := calls_attempt s ok
    refine ⟨?_, ?_⟩
    · rw [attempt, requested_drain, accounted_drain]
      exact h.requested
    · rw [hcalls, hcounted, h.calls]
  cases e with
  | schedule =>
    refine ⟨?_, ?_⟩
    · rw [WriteQueue.handle, requested_schedule, accounted_schedule, h.requested]
    · rw [WriteQueue.handle, h.calls, schedule]
      split <;> rfl
  | flush ok => exact hattempt ok
  | expire ok => exact hattempt ok

theorem accounts_after (events : List Event) : Accounts (after events) := by
  induction events using List.reverseRecOn with
  | nil => exact ⟨rfl, rfl⟩
  | append_singleton events e ih =>
    rw [after_concat]
    exact ih.handle e

/-! ### Waiting requests -/

/-- While a write waits, it goes on waiting until the write function is called. -/
theorem pending_or_called {s : WriteQueue × Nat} (h : s.1.pending = true) (later : List Event) :
    s.2 < (later.foldl handle s).2 ∨
      (later.foldl handle s).2 = s.2 ∧ (later.foldl handle s).1.pending = true := by
  induction later using List.reverseRecOn with
  | nil => exact .inr ⟨rfl, h⟩
  | append_singleton later e ih =>
    rw [List.foldl_append, List.foldl_cons, List.foldl_nil]
    generalize later.foldl handle s = now at ih
    have hattempt (ok : Bool) : s.2 < (attempt now ok).2 := by
      rw [(calls_attempt now ok).1]
      rcases ih with hcalled | ⟨hsame, hpending⟩
      · exact Nat.lt_add_right _ hcalled
      · rw [hsame, hpending]
        exact Nat.lt_succ_self _
    cases e with
    | schedule =>
      rcases ih with hcalled | ⟨hsame, -⟩
      · exact .inl hcalled
      · exact .inr ⟨hsame, pending_schedule _⟩
    | flush ok => exact .inl (hattempt ok)
    | expire ok => exact .inl (hattempt ok)

/-- After a request the write function is called again, by the next flush or the end of the
queue at the latest. -/
theorem calls_lt_of_schedule (events later : List Event) (ok : Bool) :
    (after (events ++ [.schedule])).2 <
      (attempt (after (events ++ .schedule :: later)) ok).2 := by
  have hrun : after (events ++ .schedule :: later) =
      later.foldl handle (after (events ++ [.schedule])) := by
    rw [← after_append, List.append_assoc]
    rfl
  have hpending : (after (events ++ [.schedule])).1.pending = true := by
    rw [after_concat]
    exact pending_schedule _
  rw [hrun, (calls_attempt _ ok).1]
  rcases pending_or_called hpending later with hcalled | ⟨hsame, hstill⟩
  · exact Nat.lt_add_right _ hcalled
  · rw [hsame, hstill]
    exact Nat.lt_succ_self _

/-! ### An attempt in two halves -/

theorem attempt_of_pending {q : WriteQueue} (h : q.pending = true) (calls : Nat) (ok : Bool) :
    attempt (q, calls) ok = (q.take.count ok, calls + 1) := by
  simp [attempt, drain, h, take, count]

/-- A request that arrives while a write is made is one that arrives after it. -/
theorem count_schedule (q : WriteQueue) (ok : Bool) :
    q.schedule.1.count ok = (q.count ok).schedule.1 := by
  obtain ⟨pending, stats⟩ := q
  cases pending <;> cases ok <;> rfl

end WriteQueue

/-! ## The worker and its mailbox -/

/-- What the worker is told. -/
inductive Message where
  | write
  | flush
  deriving DecidableEq

/-- What the worker is doing. -/
inductive Phase where
  | idle
  /-- It lets the debounce run out. -/
  | waiting
  /-- It calls the write function, to answer a flush after that, or to stop. -/
  | writing (answer stop : Bool)
  | stopped

namespace Phase

def isWriting : Phase → Bool
  | .writing _ _ => true
  | _ => false

/-- The flushes that are answered when the write is made. -/
def answers : Phase → Nat
  | .writing answer _ => answer.toNat
  | _ => 0

/-- Whether the worker has seen the end of its mailbox. -/
def isLast : Phase → Bool
  | .writing _ stop => stop
  | .stopped => true
  | _ => false

/-- Whether the worker looks into its mailbox. -/
def isReading : Phase → Bool
  | .idle | .waiting => true
  | _ => false

variable {p : Phase}

theorem isWriting_of_isReading (h : p.isReading) : p.isWriting = false := by
  cases p <;> first | rfl | cases h

theorem answers_of_isReading (h : p.isReading) : p.answers = 0 := by
  cases p <;> first | rfl | cases h

end Phase

/-- How far the end of the scheduler has got: a last flush, and then the mailbox is closed. -/
inductive Ending where
  | none
  | dropping
  | flushing
  | closed
  deriving DecidableEq

/-- A queue with its worker. -/
structure Scheduler where
  queue : WriteQueue
  /-- How often the write function has been called. -/
  calls : Nat
  /-- The requests that have raised the flag and not told the worker yet. -/
  unsent : Nat
  /-- What the worker has been told, the oldest first. -/
  mailbox : List Message
  phase : Phase
  /-- The flushes so far. -/
  asked : Nat
  /-- Those that have been answered. -/
  answered : Nat
  ending : Ending

namespace Scheduler

open WriteQueue (after attempt_of_pending)

def new : Scheduler := ⟨.empty, 0, 0, [], .idle, 0, 0, .none⟩

/-- The number of messages that the mailbox holds. -/
def capacity : Nat := 64

/-! ### Steps -/

/-- A request counts itself and raises the flag. -/
def request (s : Scheduler) : Scheduler :=
  { s with
    queue := s.queue.schedule.1
    unsent := if s.queue.schedule.2 then s.unsent + 1 else s.unsent }

/-- A request tells the worker, unless the mailbox is full. -/
def send (s : Scheduler) : Scheduler :=
  { s with
    unsent := s.unsent - 1
    mailbox := if s.mailbox.length < capacity then s.mailbox ++ [.write] else s.mailbox }

/-- A flush tells the worker. -/
def ask (s : Scheduler) : Scheduler :=
  { s with mailbox := s.mailbox ++ [.flush], asked := s.asked + 1 }

/-- The worker has done its work: it answers a flush, and it stops or goes on. -/
def rest (s : Scheduler) (answer stop : Bool) : Scheduler :=
  { s with
    phase := if stop then .stopped else .idle
    answered := s.answered + answer.toNat }

/-- The worker lowers the flag and calls the write function, if the flag is up. -/
def attempt (s : Scheduler) (answer stop : Bool) : Scheduler :=
  if s.queue.pending then
    { s with queue := s.queue.take, calls := s.calls + 1, phase := .writing answer stop }
  else s.rest answer stop

/-- The write function has returned. -/
def finish (s : Scheduler) (answer stop ok : Bool) : Scheduler :=
  { s with queue := s.queue.count ok }.rest answer stop

/-- What may happen next. Requests and flushes come from any number of threads. The wait of
the worker runs out at any time: because the time is over, or because the mailbox is
closed. The end of the scheduler comes when no other thread uses it any more. -/
inductive Step : Scheduler → Scheduler → Prop where
  | request {s} (there : s.ending = .none) : Step s s.request
  | send {s} (due : 0 < s.unsent) : Step s s.send
  | ask {s} (there : s.ending = .none) (room : s.mailbox.length < capacity) : Step s s.ask
  | write {s rest} (reading : s.phase.isReading) (next : s.mailbox = .write :: rest) :
    Step s { s with mailbox := rest, phase := .waiting }
  | flush {s rest} (reading : s.phase.isReading) (next : s.mailbox = .flush :: rest) :
    Step s ({ s with mailbox := rest }.attempt true false)
  | expire {s} (waiting : s.phase = .waiting) : Step s (s.attempt false false)
  | finish {s answer stop} (ok : Bool) (writing : s.phase = .writing answer stop) :
    Step s (s.finish answer stop ok)
  | drop {s} (there : s.ending = .none) (sent : s.unsent = 0) (answered : s.asked = s.answered) :
    Step s { s with ending := .dropping }
  | lastFlush {s} (dropping : s.ending = .dropping) (room : s.mailbox.length < capacity) :
    Step s { s.ask with ending := .flushing }
  | close {s} (flushing : s.ending = .flushing) (answered : s.asked = s.answered) :
    Step s { s with ending := .closed }
  | stop {s} (closed : s.ending = .closed) (idle : s.phase = .idle) (done : s.mailbox = []) :
    Step s (s.attempt false true)

/-- A later moment. -/
def Leads : Scheduler → Scheduler → Prop := Relation.ReflTransGen Step

/-- A moment in the life of a scheduler. -/
def Reached (s : Scheduler) : Prop := Leads new s

/-! ### What holds at every moment -/

/-- The queue is that of a sequence of events. While the write function is at work, it is so
up to the count of the write, whatever the outcome is going to be. -/
structure Follows (s : Scheduler) : Prop where
  resting : s.phase.isWriting = false → ∃ events, after events = (s.queue, s.calls)
  writing : s.phase.isWriting → ∀ ok, ∃ events, after events = (s.queue.count ok, s.calls)

theorem Follows.request {s : Scheduler} (h : s.Follows) : s.request.Follows where
  resting hphase := by
    obtain ⟨events, he⟩ := h.resting hphase
    refine ⟨events ++ [.schedule], ?_⟩
    rw [WriteQueue.after_concat, he]
    rfl
  writing hphase ok := by
    obtain ⟨events, he⟩ := h.writing hphase ok
    refine ⟨events ++ [.schedule], ?_⟩
    rw [WriteQueue.after_concat, he]
    exact congrArg (·, s.calls) (WriteQueue.count_schedule s.queue ok).symm

/-- An attempt is an event, an expiry or a flush. -/
theorem Follows.attempt {s : Scheduler} (h : s.Follows) (hphase : s.phase.isWriting = false)
    (answer stop : Bool) : (s.attempt answer stop).Follows := by
  obtain ⟨events, he⟩ := h.resting hphase
  unfold Scheduler.attempt
  split
  · next hpending =>
    refine ⟨fun hresting => ?_, fun _ ok => ⟨events ++ [.flush ok], ?_⟩⟩
    · cases hresting
    · rw [WriteQueue.after_concat, he]
      exact attempt_of_pending hpending s.calls ok
  · refine ⟨fun _ => ⟨events, he⟩, fun hwriting => ?_⟩
    cases stop <;> cases hwriting

theorem Follows.finish {s : Scheduler} (h : s.Follows) (hphase : s.phase.isWriting)
    (answer stop ok : Bool) : (s.finish answer stop ok).Follows := by
  refine ⟨fun _ => h.writing hphase ok, fun hwriting => ?_⟩
  cases stop <;> cases hwriting

/-- At the end nobody is in the middle of a request, and after it nothing is left to do. -/
structure Ends (s : Scheduler) : Prop where
  sent : s.ending ≠ .none → s.unsent = 0
  settled : s.ending = .closed → s.asked = s.answered
  last : s.phase.isLast → s.ending = .closed ∧ s.queue.pending = false

/-- What holds at every moment. -/
structure Sound (s : Scheduler) : Prop where
  follows : s.Follows
  /-- Of a waiting write the worker has heard, or is going to hear. -/
  heard : s.queue.pending → s.mailbox ≠ [] ∨ s.phase = .waiting ∨ 0 < s.unsent
  /-- Every flush is answered, or about to be answered, or in the mailbox. -/
  flushes : s.asked = s.answered + s.phase.answers + s.mailbox.count .flush
  ends : s.Ends

theorem Ends.isLast_eq_false {s : Scheduler} (h : s.Ends) (there : s.ending ≠ .closed) :
    s.phase.isLast = false :=
  Bool.eq_false_iff.2 fun hlast => there (h.last hlast).1

theorem ends_of_there {s : Scheduler} (there : s.ending = .none) (hlast : s.phase.isLast = false) :
    s.Ends where
  sent hne := absurd there hne
  settled hclosed := by
    rw [there] at hclosed
    cases hclosed
  last h := by
    rw [hlast] at h
    cases h

@[simp] theorem pending_attempt (s : Scheduler) (answer stop : Bool) :
    (s.attempt answer stop).queue.pending = false := by
  unfold attempt
  split
  · rfl
  · next h => exact Bool.eq_false_iff.2 h

@[simp] theorem calls_attempt (s : Scheduler) (answer stop : Bool) :
    (s.attempt answer stop).calls = s.calls + s.queue.pending.toNat := by
  unfold attempt
  split
  · next h => rw [h]; rfl
  · next h => rw [Bool.eq_false_iff.2 h]; rfl

@[simp] theorem mailbox_attempt (s : Scheduler) (answer stop : Bool) :
    (s.attempt answer stop).mailbox = s.mailbox := by
  unfold attempt
  split <;> rfl

@[simp] theorem unsent_attempt (s : Scheduler) (answer stop : Bool) :
    (s.attempt answer stop).unsent = s.unsent := by
  unfold attempt
  split <;> rfl

@[simp] theorem asked_attempt (s : Scheduler) (answer stop : Bool) :
    (s.attempt answer stop).asked = s.asked := by
  unfold attempt
  split <;> rfl

@[simp] theorem ending_attempt (s : Scheduler) (answer stop : Bool) :
    (s.attempt answer stop).ending = s.ending := by
  unfold attempt
  split <;> rfl

/-- The flush that an attempt answers is answered at once or after the write. -/
theorem answered_attempt (s : Scheduler) (answer stop : Bool) :
    (s.attempt answer stop).answered + (s.attempt answer stop).phase.answers =
      s.answered + answer.toNat := by
  unfold attempt
  split
  · rfl
  · cases stop <;> rfl

@[simp] theorem answered_attempt_false (s : Scheduler) (stop : Bool) :
    (s.attempt false stop).answered = s.answered := by
  unfold attempt
  split <;> rfl

@[simp] theorem isLast_attempt (s : Scheduler) (answer stop : Bool) :
    (s.attempt answer stop).phase.isLast = stop := by
  unfold attempt
  split
  · rfl
  · cases stop <;> rfl

theorem Sound.attempt {s : Scheduler} {answer stop : Bool} (hfollows : s.Follows)
    (hphase : s.phase.isWriting = false)
    (hflushes : s.asked = s.answered + answer.toNat + s.mailbox.count .flush)
    (hends : (s.attempt answer stop).Ends) : (s.attempt answer stop).Sound where
  follows := hfollows.attempt hphase answer stop
  heard hpending := by simp at hpending
  flushes := by rw [asked_attempt, answered_attempt, mailbox_attempt, hflushes]
  ends := hends

/-- An attempt that answers no flush keeps all books. -/
theorem Sound.attempt_unasked {s : Scheduler} (h : s.Sound) (reading : s.phase.isReading)
    {stop : Bool} (hstop : stop → s.ending = .closed) : (s.attempt false stop).Sound := by
  refine .attempt h.follows (Phase.isWriting_of_isReading reading) ?_ ?_
  · rw [h.flushes, Phase.answers_of_isReading reading]
    rfl
  · refine ⟨by simpa using h.ends.sent, by simpa using h.ends.settled, fun hlast => ?_⟩
    rw [isLast_attempt] at hlast
    exact ⟨by simpa using hstop hlast, pending_attempt s false stop⟩

/-- A request is counted, and if the flag was down it is going to tell the worker. -/
theorem Sound.request {s : Scheduler} (h : s.Sound) (there : s.ending = .none) :
    s.request.Sound where
  follows := h.follows.request
  heard _ := by
    cases hp : s.queue.pending with
    | true =>
      rcases h.heard hp with hm | hw | hu
      · exact .inl hm
      · exact .inr (.inl hw)
      · exact .inr (.inr (by simpa [Scheduler.request, hp] using hu))
    | false => exact .inr (.inr (by simp [Scheduler.request, hp]))
  flushes := h.flushes
  ends := ends_of_there there (h.ends.isLast_eq_false (by simp [there]))

/-- A message is dropped only when there are others. -/
theorem Sound.send {s : Scheduler} (h : s.Sound) : s.send.Sound := by
  have hmailbox : s.send.mailbox ≠ [] ∧ s.send.mailbox.count .flush = s.mailbox.count .flush := by
    simp only [Scheduler.send]
    split
    · simp
    · next hfull =>
      refine ⟨fun hempty => ?_, rfl⟩
      simp [hempty, capacity] at hfull
  refine ⟨⟨h.follows.resting, h.follows.writing⟩, fun _ => .inl hmailbox.1, ?_,
    ⟨fun hne => ?_, h.ends.settled, h.ends.last⟩⟩
  · rw [hmailbox.2]
    exact h.flushes
  · have hsent := h.ends.sent hne
    change s.unsent - 1 = 0
    omega

theorem Sound.ask {s : Scheduler} (h : s.Sound) (hopen : s.ending ≠ .closed) : s.ask.Sound where
  follows := ⟨h.follows.resting, h.follows.writing⟩
  heard _ := .inl (by simp [Scheduler.ask])
  flushes := by
    simp only [Scheduler.ask, List.count_append, List.count_singleton_self, h.flushes]
    omega
  ends := ⟨h.ends.sent, fun hclosed => absurd hclosed hopen, h.ends.last⟩

/-- When the write function returns, a flush that it was called for is answered. -/
theorem Sound.finish {s : Scheduler} (h : s.Sound) {answer stop : Bool} (ok : Bool)
    (writing : s.phase = .writing answer stop) : (s.finish answer stop ok).Sound := by
  have hwriting : s.phase.isWriting := by rw [writing]; rfl
  have hanswers : s.phase.answers = answer.toNat := by rw [writing]; rfl
  have hlast : s.phase.isLast = stop := by rw [writing]; rfl
  have hflushes := h.flushes
  refine ⟨h.follows.finish hwriting answer stop ok, fun hpending => ?_, ?_, h.ends.sent, ?_, ?_⟩
  · rcases h.heard hpending with hm | hw | hu
    · exact .inl hm
    · rw [writing] at hw
      cases hw
    · exact .inr (.inr hu)
  · have hidle : (s.finish answer stop ok).phase.answers = 0 := by cases stop <;> rfl
    change s.asked = s.answered + answer.toNat + _ + s.mailbox.count .flush
    omega
  · intro hclosed
    have hsettled := h.ends.settled hclosed
    change s.asked = s.answered + answer.toNat
    omega
  · intro hstopped
    refine h.ends.last (hlast.trans ?_)
    cases stop
    · cases hstopped
    · rfl

/-- The end comes nearer when no request is under way, and is there when all flushes are
answered. -/
theorem Sound.moveTo {s : Scheduler} (h : s.Sound) (ending : Ending) (hopen : s.ending ≠ .closed)
    (hsent : s.unsent = 0) (hsettled : ending = .closed → s.asked = s.answered) :
    ({ s with ending } : Scheduler).Sound where
  follows := ⟨h.follows.resting, h.follows.writing⟩
  heard := h.heard
  flushes := h.flushes
  ends :=
    ⟨fun _ => hsent, hsettled,
      fun hstopped => absurd hstopped (Bool.eq_false_iff.1 (h.ends.isLast_eq_false hopen))⟩

theorem Sound.step {s s' : Scheduler} (h : s.Sound) (hstep : Step s s') : s'.Sound := by
  cases hstep with
  | request there => exact h.request there
  | send due => exact h.send
  | ask there room => exact h.ask (by simp [there])
  | @write rest reading next =>
    have hcount : s.mailbox.count .flush = rest.count .flush := by simp [next]
    refine ⟨⟨fun _ => ?_, fun hwriting => ?_⟩, fun _ => .inr (.inl rfl), ?_,
      ⟨h.ends.sent, h.ends.settled, fun hlast => ?_⟩⟩
    · exact h.follows.resting (Phase.isWriting_of_isReading reading)
    · cases hwriting
    · rw [h.flushes, Phase.answers_of_isReading reading, hcount]
      rfl
    · cases hlast
  | @flush rest reading next =>
    have hcount : s.mailbox.count .flush = rest.count .flush + 1 := by simp [next]
    have hflushes := h.flushes
    have hanswers := Phase.answers_of_isReading reading
    refine .attempt ⟨h.follows.resting, h.follows.writing⟩ (Phase.isWriting_of_isReading reading)
      ?_ ⟨?_, ?_, ?_⟩
    · change s.asked = s.answered + 1 + rest.count .flush
      omega
    · simpa using h.ends.sent
    · intro hclosed
      rw [ending_attempt] at hclosed
      have hsettled := h.ends.settled hclosed
      omega
    · simp
  | expire waiting => exact h.attempt_unasked (by rw [waiting]; rfl) (by simp)
  | finish ok writing => exact h.finish ok writing
  | drop there sent answered =>
    exact h.moveTo .dropping (by simp [there]) sent fun _ => answered
  | lastFlush dropping room =>
    have hopen : s.ending ≠ .closed := by simp [dropping]
    exact (h.ask hopen).moveTo .flushing hopen (h.ends.sent (by simp [dropping])) (by simp)
  | close flushing answered =>
    exact h.moveTo .closed (by simp [flushing]) (h.ends.sent (by simp [flushing])) fun _ => answered
  | stop closed idle done => exact h.attempt_unasked (by rw [idle]; rfl) fun _ => closed

theorem sound_of_reached {s : Scheduler} (h : Reached s) : s.Sound := by
  induction h with
  | refl =>
    refine ⟨⟨fun _ => ⟨[], rfl⟩, fun hwriting => ?_⟩, fun hpending => ?_, rfl,
      ends_of_there rfl rfl⟩
    · cases hwriting
    · cases hpending
  | tail _ hstep ih => exact ih.step hstep

/-! ### No request is lost -/

/-- While a write waits, the worker takes up no flush without calling the write function. -/
theorem Step.called_or_waits {s s' : Scheduler} (h : Step s s') (hpending : s.queue.pending) :
    s.calls < s'.calls ∨
      s'.calls = s.calls ∧ s'.queue.pending ∧
        s'.answered + s'.phase.answers = s.answered + s.phase.answers := by
  have hcalled (s : Scheduler) (hp : s.queue.pending) (answer stop : Bool) :
      s.calls < (s.attempt answer stop).calls := by
    rw [calls_attempt, hp]
    exact Nat.lt_succ_self _
  cases h with
  | request there => exact .inr ⟨rfl, WriteQueue.pending_schedule _, rfl⟩
  | send due => exact .inr ⟨rfl, hpending, rfl⟩
  | ask there room => exact .inr ⟨rfl, hpending, rfl⟩
  | write reading next =>
    refine .inr ⟨rfl, hpending, ?_⟩
    rw [Phase.answers_of_isReading reading]
    rfl
  | @flush rest reading next => exact .inl (hcalled { s with mailbox := rest } hpending true false)
  | expire waiting => exact .inl (hcalled s hpending false false)
  | @finish answer stop ok writing =>
    refine .inr ⟨rfl, hpending, ?_⟩
    rw [writing]
    cases stop <;> rfl
  | drop there sent answered => exact .inr ⟨rfl, hpending, rfl⟩
  | lastFlush dropping room => exact .inr ⟨rfl, hpending, rfl⟩
  | close flushing answered => exact .inr ⟨rfl, hpending, rfl⟩
  | stop closed idle done => exact .inl (hcalled s hpending false true)

theorem Step.calls_le {s s' : Scheduler} (h : Step s s') : s.calls ≤ s'.calls := by
  cases h with
  | @flush rest reading next =>
    rw [calls_attempt]
    exact Nat.le_add_right _ _
  | expire waiting =>
    rw [calls_attempt]
    exact Nat.le_add_right _ _
  | stop closed idle done =>
    rw [calls_attempt]
    exact Nat.le_add_right _ _
  | _ => exact Nat.le_refl _

/-- When a flush is answered that came after a request, the write function has been called
since that request. -/
theorem calls_lt_of_answered {s s' : Scheduler} (h : Reached s) (hpending : s.queue.pending)
    (run : Leads s s') (hanswered : s.asked < s'.answered) : s.calls < s'.calls := by
  have hrun : s.calls < s'.calls ∨
      s'.calls = s.calls ∧ s'.queue.pending ∧
        s'.answered + s'.phase.answers = s.answered + s.phase.answers := by
    clear hanswered
    induction run with
    | refl => exact .inr ⟨rfl, hpending, rfl⟩
    | tail _ hstep ih =>
      rcases ih with hcalled | ⟨hsame, hstill, htaken⟩
      · exact .inl (Nat.lt_of_lt_of_le hcalled hstep.calls_le)
      · rcases hstep.called_or_waits hstill with hcalled | ⟨hsame', hstill', htaken'⟩
        · exact .inl (hsame ▸ hcalled)
        · exact .inr ⟨hsame'.trans hsame, hstill', htaken'.trans htaken⟩
  rcases hrun with hcalled | ⟨-, -, htaken⟩
  · exact hcalled
  · have hflushes := (sound_of_reached h).flushes
    omega

/-- After the scheduler is dropped, the flag goes down only with a call. -/
theorem Step.calls_of_dropped {s s' : Scheduler} (h : Step s s') (hdropped : s.ending ≠ .none) :
    s'.ending ≠ .none ∧
      s'.calls + s'.queue.pending.toNat = s.calls + s.queue.pending.toNat := by
  have hattempt (s : Scheduler) (answer stop : Bool) :
      (s.attempt answer stop).calls + (s.attempt answer stop).queue.pending.toNat =
        s.calls + s.queue.pending.toNat := by simp
  cases h with
  | request there => exact absurd there hdropped
  | send due => exact ⟨hdropped, rfl⟩
  | ask there room => exact absurd there hdropped
  | write reading next => exact ⟨hdropped, rfl⟩
  | @flush rest reading next =>
    exact ⟨by simpa using hdropped, hattempt { s with mailbox := rest } true false⟩
  | expire waiting => exact ⟨by simpa using hdropped, hattempt s false false⟩
  | finish ok writing => exact ⟨hdropped, rfl⟩
  | drop there sent answered => exact absurd there hdropped
  | lastFlush dropping room => exact ⟨by simp, rfl⟩
  | close flushing answered => exact ⟨by simp, rfl⟩
  | stop closed idle done => exact ⟨by simpa using hdropped, hattempt s false true⟩

/-- Dropping the scheduler makes one last call if a write waits, and none otherwise. -/
theorem calls_of_stopped {s s' : Scheduler} (h : Reached s) (hdropped : s.ending ≠ .none)
    (run : Leads s s') (hstopped : s'.phase = .stopped) :
    s'.calls = s.calls + s.queue.pending.toNat ∧ s'.queue.pending = false := by
  have hrun : s'.ending ≠ .none ∧
      s'.calls + s'.queue.pending.toNat = s.calls + s.queue.pending.toNat := by
    clear hstopped
    induction run with
    | refl => exact ⟨hdropped, rfl⟩
    | tail _ hstep ih =>
      obtain ⟨hending, hcalls⟩ := ih
      obtain ⟨hending', hcalls'⟩ := hstep.calls_of_dropped hending
      exact ⟨hending', hcalls'.trans hcalls⟩
  have hlast := (sound_of_reached (h.trans run)).ends.last (by rw [hstopped]; rfl)
  refine ⟨?_, hlast.2⟩
  rw [← hrun.2, hlast.2]
  rfl

/-! ### The worker catches up -/

/-- Requests in progress go on to tell the worker. -/
theorem exists_sent (s : Scheduler) :
    ∃ s', Leads s s' ∧ s'.unsent = 0 ∧ s'.asked = s.asked ∧ s'.phase = s.phase := by
  obtain ⟨n, hn⟩ : ∃ n, s.unsent = n := ⟨_, rfl⟩
  induction n generalizing s with
  | zero => exact ⟨s, .refl, hn, rfl, rfl⟩
  | succ n ih =>
    obtain ⟨s', run, hsent, hasked, hphase⟩ := ih s.send (by simp [send, hn])
    exact ⟨s', .head (.send (by omega)) run, hsent, hasked, hphase⟩

/-- A write that is being made returns. -/
theorem exists_rested {s : Scheduler} (hlast : s.phase.isLast = false) :
    ∃ s', Leads s s' ∧ s'.phase.isReading ∧ s'.unsent = s.unsent ∧ s'.asked = s.asked ∧
      s'.mailbox = s.mailbox ∧ s'.queue.pending = s.queue.pending := by
  cases hphase : s.phase with
  | idle => exact ⟨s, .refl, by rw [hphase]; rfl, rfl, rfl, rfl, rfl⟩
  | waiting => exact ⟨s, .refl, by rw [hphase]; rfl, rfl, rfl, rfl, rfl⟩
  | writing answer stop =>
    rw [hphase] at hlast
    change stop = false at hlast
    subst hlast
    exact ⟨s.finish answer false true, .single (.finish true hphase), rfl, rfl, rfl, rfl, rfl⟩
  | stopped =>
    rw [hphase] at hlast
    cases hlast

/-- The worker reads its mailbox to the end. -/
theorem exists_read {s : Scheduler} (reading : s.phase.isReading) :
    ∃ s', Leads s s' ∧ s'.phase.isReading ∧ s'.unsent = s.unsent ∧ s'.asked = s.asked ∧
      s'.mailbox = [] := by
  obtain ⟨mailbox, hmailbox⟩ : ∃ mailbox, s.mailbox = mailbox := ⟨_, rfl⟩
  induction mailbox generalizing s with
  | nil => exact ⟨s, .refl, reading, rfl, rfl, hmailbox⟩
  | cons m rest ih =>
    cases m with
    | write =>
      obtain ⟨s', run, hread, hunsent, hasked, hempty⟩ :=
        @ih { s with mailbox := rest, phase := .waiting } rfl rfl
      exact ⟨s', .head (.write reading hmailbox) run, hread, hunsent, hasked, hempty⟩
    | flush =>
      obtain ⟨t, run, hread, hunsent, hasked, hrest, -⟩ :=
        exists_rested (isLast_attempt { s with mailbox := rest } true false)
      rw [unsent_attempt] at hunsent
      rw [asked_attempt] at hasked
      rw [mailbox_attempt] at hrest
      obtain ⟨s', run', hread', hunsent', hasked', hempty⟩ := ih hread hrest
      exact ⟨s', .head (.flush reading hmailbox) (run.trans run'), hread', hunsent'.trans hunsent,
        hasked'.trans hasked, hempty⟩

/-- From every moment on, all flushes may come to be answered and all writes to be made. -/
theorem exists_quiet {s : Scheduler} (h : Reached s) :
    ∃ s', Leads s s' ∧ s'.asked = s.asked ∧ s'.answered = s'.asked ∧
      s'.queue.pending = false := by
  cases hlast : s.phase.isLast with
  | true =>
    have hends := (sound_of_reached h).ends
    obtain ⟨hclosed, hpending⟩ := hends.last hlast
    exact ⟨s, .refl, rfl, (hends.settled hclosed).symm, hpending⟩
  | false =>
    obtain ⟨s₁, run₁, hsent, hasked₁, hphase⟩ := exists_sent s
    obtain ⟨s₂, run₂, hread₂, hunsent₂, hasked₂, -, -⟩ := exists_rested (hphase ▸ hlast)
    obtain ⟨s₃, run₃, hread₃, hunsent₃, hasked₃, hempty⟩ := exists_read hread₂
    have run : Leads s s₃ := run₁.trans (run₂.trans run₃)
    have hasked : s₃.asked = s.asked := hasked₃.trans (hasked₂.trans hasked₁)
    have hsound := sound_of_reached (h.trans run)
    have hanswered : s₃.asked = s₃.answered := by
      simpa [Phase.answers_of_isReading hread₃, hempty] using hsound.flushes
    cases hp : s₃.queue.pending with
    | false => exact ⟨s₃, run, hasked, hanswered.symm, hp⟩
    | true =>
      have hwaiting : s₃.phase = .waiting := by
        rcases hsound.heard hp with hm | hw | hu
        · exact absurd hempty hm
        · exact hw
        · omega
      obtain ⟨s₄, run₄, hread₄, -, hasked₄, hmailbox₄, hpending₄⟩ :=
        exists_rested (isLast_attempt s₃ false false)
      rw [asked_attempt] at hasked₄
      rw [mailbox_attempt, hempty] at hmailbox₄
      rw [pending_attempt] at hpending₄
      have run' : Leads s s₄ := run.trans (.head (.expire hwaiting) run₄)
      refine ⟨s₄, run', hasked₄.trans hasked, ?_, hpending₄⟩
      have hflushes := (sound_of_reached (h.trans run')).flushes
      simpa [Phase.answers_of_isReading hread₄, hmailbox₄] using hflushes.symm

/-! ## Every request is accounted for -/

/-- After any events, with any outcomes of the write function: the counts add up, and each
call of the write function is counted; a request is answered by whether nothing waits; a
flush, an expiry and the end make one call if a write waits and none otherwise, and leave
nothing waiting; and after a request the next of them finds the write function called again.
The queue that requests, flushes and the worker share is one of these at every moment at
which the write function is not at work. While a write waits, no later flush is answered
before the write function is called; dropping the scheduler makes one last call exactly if a
write waits; and the worker never gets stuck. -/
theorem accounts_for_every_request :
    (∀ events : List WriteQueue.Event,
      let s := after events
      s.1.stats.requested =
        s.1.stats.coalesced + s.1.stats.written + s.1.stats.failed +
          (if s.1.pending then 1 else 0) ∧
      s.2 = s.1.stats.written + s.1.stats.failed ∧
      s.1.schedule.2 = !s.1.pending ∧
      (∀ ok, (WriteQueue.attempt s ok).2 = s.2 + (if s.1.pending then 1 else 0) ∧
        (WriteQueue.attempt s ok).1.pending = false) ∧
      ∀ later ok, (after (events ++ [.schedule])).2 <
        (WriteQueue.attempt (after (events ++ .schedule :: later)) ok).2) ∧
    ∀ s, Reached s →
      (s.phase.isWriting = false → ∃ events, after events = (s.queue, s.calls)) ∧
      (s.queue.pending → ∀ s', Leads s s' → s.asked < s'.answered → s.calls < s'.calls) ∧
      (s.ending = .dropping → ∀ s', Leads s s' → s'.phase = .stopped →
        s'.calls = s.calls + (if s.queue.pending then 1 else 0) ∧ s'.queue.pending = false) ∧
      ∃ s', Leads s s' ∧ s'.asked = s.asked ∧ s'.answered = s'.asked ∧
        s'.queue.pending = false := by
  refine ⟨fun events => ?_, fun s hs => ⟨?_, ?_, ?_, exists_quiet hs⟩⟩
  · have haccounts := WriteQueue.accounts_after events
    refine ⟨haccounts.requested, haccounts.calls, WriteQueue.started_schedule _, fun ok => ?_,
      WriteQueue.calls_lt_of_schedule events⟩
    exact ⟨(WriteQueue.calls_attempt _ ok).1, WriteQueue.pending_drain _ _ _⟩
  · exact (sound_of_reached hs).follows.resting
  · exact fun hpending s' run hanswered => calls_lt_of_answered hs hpending run hanswered
  · intro hdropping s' run hstopped
    have hcalls := calls_of_stopped hs (by simp [hdropping]) run hstopped
    cases hp : s.queue.pending <;> simpa [hp] using hcalls

end Scheduler

end DexTrail
