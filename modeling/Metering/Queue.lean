import Metering.Errors
import Mathlib.Logic.Function.Basic
import Mathlib.Data.List.Nodup

/-!
# `handleErr` and the rate-limited work queues

Each queue `setupInformers` makes is `workqueue.NewRateLimitingQueue` with the default controller
rate limiter. Of that limiter only the per-key failure count of its exponential part is seen
here: the `NumRequeues` that `handleErr` reads, which `AddRateLimited` raises and `Forget` clears.
Its delay is always positive, so `AddRateLimited` hands the key to `AddAfter`, which holds it
until a `ready` step adds it. The queue is client-go's: a key added while a worker processes it is
only marked dirty, and `Done` queues it again.
-/

namespace Metering

structure RateLimitingQueue where
  queue : List String
  dirty : List String
  processing : List String
  waiting : List String
  shuttingDown : Bool
  failures : String → Nat

namespace RateLimitingQueue

def empty : RateLimitingQueue := ⟨[], [], [], [], false, fun _ => 0⟩

def add (q : RateLimitingQueue) (key : String) : RateLimitingQueue :=
  if q.shuttingDown then q
  else if key ∈ q.dirty then q
  else if key ∈ q.processing then { q with dirty := q.dirty.insert key }
  else { q with dirty := q.dirty.insert key, queue := q.queue ++ [key] }

/-- `Get`: the next key, or `none` once the queue is empty and shutting down; on an empty queue
that is not shutting down it blocks. -/
def get (q : RateLimitingQueue) : Option (Option String × RateLimitingQueue) :=
  match q.queue with
  | key :: rest =>
    some (some key,
      { q with queue := rest, processing := q.processing.insert key, dirty := q.dirty.erase key })
  | [] => if q.shuttingDown then some (none, q) else none

def done (q : RateLimitingQueue) (key : String) : RateLimitingQueue :=
  { q with
    processing := q.processing.erase key
    queue := if key ∈ q.dirty then q.queue ++ [key] else q.queue }

def shutDown (q : RateLimitingQueue) : RateLimitingQueue := { q with shuttingDown := true }

def addAfter (q : RateLimitingQueue) (key : String) : RateLimitingQueue :=
  if q.shuttingDown then q else { q with waiting := q.waiting.insert key }

def addReady (q : RateLimitingQueue) (key : String) : RateLimitingQueue :=
  { q with waiting := q.waiting.erase key }.add key

/-- `AddAfter(key, When(key))`: `When` counts one more failure before `AddAfter` runs. -/
def addRateLimited (q : RateLimitingQueue) (key : String) : RateLimitingQueue :=
  { q with failures := Function.update q.failures key (q.failures key + 1) }.addAfter key

def forget (q : RateLimitingQueue) (key : String) : RateLimitingQueue :=
  { q with failures := Function.update q.failures key 0 }

def numRequeues (q : RateLimitingQueue) (key : String) : Nat := q.failures key

@[simp] theorem add_failures (q : RateLimitingQueue) (key : String) :
    (q.add key).failures = q.failures := by
  unfold add
  split_ifs <;> rfl

@[simp] theorem addAfter_failures (q : RateLimitingQueue) (key : String) :
    (q.addAfter key).failures = q.failures := by
  unfold addAfter
  split_ifs <;> rfl

@[simp] theorem done_failures (q : RateLimitingQueue) (key : String) :
    (q.done key).failures = q.failures := rfl

@[simp] theorem add_shuttingDown (q : RateLimitingQueue) (key : String) :
    (q.add key).shuttingDown = q.shuttingDown := by
  unfold add
  split_ifs <;> rfl

@[simp] theorem addAfter_shuttingDown (q : RateLimitingQueue) (key : String) :
    (q.addAfter key).shuttingDown = q.shuttingDown := by
  unfold addAfter
  split_ifs <;> rfl

@[simp] theorem addReady_shuttingDown (q : RateLimitingQueue) (key : String) :
    (q.addReady key).shuttingDown = q.shuttingDown := by
  simp [addReady]

@[simp] theorem done_shuttingDown (q : RateLimitingQueue) (key : String) :
    (q.done key).shuttingDown = q.shuttingDown := rfl

@[simp] theorem numRequeues_addRateLimited (q : RateLimitingQueue) (k key : String) :
    (q.addRateLimited k).numRequeues key =
      if key = k then q.numRequeues k + 1 else q.numRequeues key := by
  simp [addRateLimited, numRequeues, Function.update_apply]

@[simp] theorem numRequeues_forget (q : RateLimitingQueue) (k key : String) :
    (q.forget k).numRequeues key = if key = k then 0 else q.numRequeues key := by
  simp [forget, numRequeues, Function.update_apply]

theorem get_cases {q q' : RateLimitingQueue} {key : Option String}
    (got : q.get = some (key, q')) :
    (∃ k rest, q.queue = k :: rest ∧ key = some k ∧
      q' = { q with queue := rest, processing := q.processing.insert k, dirty := q.dirty.erase k }) ∨
    (q.queue = [] ∧ q.shuttingDown ∧ key = none ∧ q' = q) := by
  unfold get at got
  split at got
  · rename_i k rest queued
    cases got
    exact .inl ⟨k, rest, queued, rfl, rfl⟩
  · rename_i empty
    split_ifs at got with shutting
    cases got
    exact .inr ⟨empty, shutting, rfl, rfl⟩

theorem get_failures {q q' : RateLimitingQueue} {key : Option String}
    (got : q.get = some (key, q')) : q'.failures = q.failures := by
  rcases get_cases got with ⟨k, rest, -, -, rfl⟩ | ⟨-, -, -, rfl⟩ <;> rfl

end RateLimitingQueue

/-- `handleErr` after syncing `key` ended with `err` (the logger and `objType` only label its log
lines). -/
def Chargeback.handleErr (err : Option GoError) (key : String) (queue : RateLimitingQueue) :
    RateLimitingQueue :=
  match err with
  | none => queue.forget key
  | some _ => if queue.numRequeues key < 5 then queue.addRateLimited key else queue.forget key

/-- `handleErr` touches only the limiter's counts and the keys `AddAfter` holds. -/
theorem handleErr_frame (err : Option GoError) (key : String) (q : RateLimitingQueue) :
    ∃ failures waiting, Chargeback.handleErr err key q = { q with failures, waiting } := by
  unfold Chargeback.handleErr RateLimitingQueue.addRateLimited RateLimitingQueue.forget
    RateLimitingQueue.addAfter
  split <;> (try split_ifs) <;> exact ⟨_, _, rfl⟩

@[simp] theorem handleErr_shuttingDown (err : Option GoError) (key : String)
    (q : RateLimitingQueue) : (Chargeback.handleErr err key q).shuttingDown = q.shuttingDown := by
  obtain ⟨_, _, framed⟩ := handleErr_frame err key q
  rw [framed]

/-- What the informers and a worker do to one queue. A worker calls `Done` on a key its `Get`
returned, and `handleErr` with the result of syncing a key. -/
inductive QueueEvent where
  | add (key : String)
  | get (key : Option String)
  | synced (key : String) (err : Option GoError)
  | done (key : String)
  | ready (key : String)
  deriving DecidableEq, Repr

def QueueEvent.handsOut : QueueEvent → Bool
  | .get (some _) => true
  | _ => false

/-- The event, when it can happen: a `Get` that returns `key`, a `Done` on a key being processed,
the delay of a waiting key passing. -/
def QueueEvent.step (queue : RateLimitingQueue) : QueueEvent → Option RateLimitingQueue
  | .add key => some (queue.add key)
  | .get key =>
    match queue.get with
    | some (got, queue') => if got = key then some queue' else none
    | none => none
  | .synced key err => some (Chargeback.handleErr err key queue)
  | .done key => if key ∈ queue.processing then some (queue.done key) else none
  | .ready key => if key ∈ queue.waiting then some (queue.addReady key) else none

theorem QueueEvent.get_of_step {q q' : RateLimitingQueue} {key : Option String}
    (stepped : (QueueEvent.get key).step q = some q') : q.get = some (key, q') := by
  simp only [QueueEvent.step] at stepped
  split at stepped
  · rename_i got queue' fetched
    split_ifs at stepped with same
    cases stepped
    rw [fetched, same]
  · cases stepped

def QueueEvent.apply (queue : RateLimitingQueue) (e : QueueEvent) : RateLimitingQueue :=
  (e.step queue).getD queue

def RateLimitingQueue.run (queue : RateLimitingQueue) (events : List QueueEvent) :
    RateLimitingQueue :=
  events.foldl QueueEvent.apply queue

/-! ## Well-formed queues -/

namespace RateLimitingQueue

/-- What client-go keeps of its queue: no key twice, every queued key dirty, and no key both
queued and processing. -/
structure WellFormed (q : RateLimitingQueue) : Prop where
  queue_nodup : q.queue.Nodup
  dirty_nodup : q.dirty.Nodup
  processing_nodup : q.processing.Nodup
  queued_dirty : ∀ key ∈ q.queue, key ∈ q.dirty
  queued_idle : ∀ key ∈ q.queue, key ∉ q.processing

theorem WellFormed.empty : WellFormed empty :=
  ⟨.nil, .nil, .nil, nofun, nofun⟩

theorem WellFormed.add {q : RateLimitingQueue} (wf : q.WellFormed) (key : String) :
    (q.add key).WellFormed := by
  obtain ⟨queue_nodup, dirty_nodup, processing_nodup, queued_dirty, queued_idle⟩ := wf
  unfold RateLimitingQueue.add
  split_ifs with shutting clean busy
  · exact ⟨queue_nodup, dirty_nodup, processing_nodup, queued_dirty, queued_idle⟩
  · exact ⟨queue_nodup, dirty_nodup, processing_nodup, queued_dirty, queued_idle⟩
  · exact ⟨queue_nodup, dirty_nodup.insert, processing_nodup,
      fun k mem => List.mem_insert_of_mem (queued_dirty k mem), queued_idle⟩
  · refine ⟨queue_nodup.append (List.nodup_singleton key) ?_, dirty_nodup.insert,
      processing_nodup, fun k mem => ?_, fun k mem => ?_⟩
    · exact List.disjoint_singleton.mpr fun queued => clean (queued_dirty key queued)
    · simp only [List.mem_append, List.mem_singleton] at mem
      rcases mem with mem | rfl
      · exact List.mem_insert_of_mem (queued_dirty k mem)
      · exact List.mem_insert_self k q.dirty
    · simp only [List.mem_append, List.mem_singleton] at mem
      rcases mem with mem | rfl
      · exact queued_idle k mem
      · exact busy

theorem WellFormed.get {q q' : RateLimitingQueue} {key : Option String} (wf : q.WellFormed)
    (got : q.get = some (key, q')) : q'.WellFormed := by
  obtain ⟨queue_nodup, dirty_nodup, processing_nodup, queued_dirty, queued_idle⟩ := wf
  rcases get_cases got with ⟨first, rest, queued, -, rfl⟩ | ⟨-, -, -, rfl⟩
  · rw [queued] at queue_nodup queued_dirty queued_idle
    have idle := queued_idle first (List.mem_cons_self _ _)
    obtain ⟨fresh, rest_nodup⟩ := List.nodup_cons.mp queue_nodup
    refine ⟨rest_nodup, dirty_nodup.erase first, processing_nodup.insert, fun k mem => ?_,
      fun k mem => ?_⟩
    · have other : k ≠ first := fun same => fresh (same ▸ mem)
      exact (List.mem_erase_of_ne other).mpr (queued_dirty k (List.mem_cons_of_mem _ mem))
    · have other : k ≠ first := fun same => fresh (same ▸ mem)
      simpa [List.mem_insert_iff, other] using queued_idle k (List.mem_cons_of_mem _ mem)
  · exact ⟨queue_nodup, dirty_nodup, processing_nodup, queued_dirty, queued_idle⟩

theorem WellFormed.done {q : RateLimitingQueue} (wf : q.WellFormed) {key : String}
    (busy : key ∈ q.processing) : (q.done key).WellFormed := by
  obtain ⟨queue_nodup, dirty_nodup, processing_nodup, queued_dirty, queued_idle⟩ := wf
  have erased : ∀ k, k ∈ q.processing.erase key ↔ k ≠ key ∧ k ∈ q.processing :=
    fun k => processing_nodup.mem_erase_iff
  unfold RateLimitingQueue.done
  split_ifs with marked
  · refine ⟨queue_nodup.append (List.nodup_singleton key) ?_, dirty_nodup,
      processing_nodup.erase key, fun k mem => ?_, fun k mem => ?_⟩
    · exact List.disjoint_singleton.mpr fun queued => queued_idle key queued busy
    · simp only [List.mem_append, List.mem_singleton] at mem
      rcases mem with mem | rfl
      · exact queued_dirty k mem
      · exact marked
    · simp only [List.mem_append, List.mem_singleton] at mem
      rcases mem with mem | rfl
      · simpa [erased] using fun _ => queued_idle k mem
      · simp [erased]
  · exact ⟨queue_nodup, dirty_nodup, processing_nodup.erase key, queued_dirty,
      fun k mem => by simpa [erased] using fun _ => queued_idle k mem⟩

theorem WellFormed.addReady {q : RateLimitingQueue} (wf : q.WellFormed) (key : String) :
    (q.addReady key).WellFormed :=
  have waited : WellFormed { q with waiting := q.waiting.erase key } :=
    ⟨wf.queue_nodup, wf.dirty_nodup, wf.processing_nodup, wf.queued_dirty, wf.queued_idle⟩
  waited.add key

theorem WellFormed.handleErr {q : RateLimitingQueue} (wf : q.WellFormed) (err : Option GoError)
    (key : String) : (Chargeback.handleErr err key q).WellFormed := by
  obtain ⟨_, _, framed⟩ := handleErr_frame err key q
  rw [framed]
  exact ⟨wf.queue_nodup, wf.dirty_nodup, wf.processing_nodup, wf.queued_dirty, wf.queued_idle⟩

theorem WellFormed.step {q q' : RateLimitingQueue} {e : QueueEvent} (wf : q.WellFormed)
    (stepped : e.step q = some q') : q'.WellFormed := by
  cases e with
  | add key => cases stepped; exact wf.add key
  | get key => exact wf.get (QueueEvent.get_of_step stepped)
  | synced key err => cases stepped; exact wf.handleErr err key
  | done key =>
    obtain ⟨busy, ⟨⟩⟩ := Option.ite_none_right_eq_some.mp stepped
    exact wf.done busy
  | ready key =>
    obtain ⟨-, ⟨⟩⟩ := Option.ite_none_right_eq_some.mp stepped
    exact wf.addReady key

theorem WellFormed.shutDown {q : RateLimitingQueue} (wf : q.WellFormed) : q.shutDown.WellFormed :=
  ⟨wf.queue_nodup, wf.dirty_nodup, wf.processing_nodup, wf.queued_dirty, wf.queued_idle⟩

/-! ## After `ShutDown` -/

/-- The keys `Get` can still hand out once the queue is shutting down: the queued ones, and the
dirty ones a worker is processing, which its `Done` queues again. -/
def pending (q : RateLimitingQueue) : Nat :=
  q.queue.length + q.processing.countP (· ∈ q.dirty)

theorem pending_done {q : RateLimitingQueue} {key : String}
    (busy : key ∈ q.processing) : (q.done key).pending = q.pending := by
  have split := (List.perm_cons_erase busy).countP_eq (· ∈ q.dirty)
  rw [List.countP_cons] at split
  unfold pending done
  split_ifs with marked <;> simp [marked] at split ⊢ <;> omega

theorem pending_get {q q' : RateLimitingQueue} {key : String} (wf : q.WellFormed)
    (got : q.get = some (some key, q')) : q'.pending + 1 = q.pending := by
  rcases get_cases got with ⟨k, rest, queued, ⟨⟩, rfl⟩ | ⟨-, -, ⟨⟩, -⟩
  · have idle := wf.queued_idle key (queued ▸ List.mem_cons_self _ _)
    have kept : q.processing.countP (· ∈ q.dirty.erase key) = q.processing.countP (· ∈ q.dirty) :=
      List.countP_congr fun k mem => by
        have other : k ≠ key := fun same => idle (same ▸ mem)
        simp [List.mem_erase_of_ne other]
    simp [pending, List.insert_of_not_mem idle, wf.dirty_nodup.not_mem_erase, kept, queued]
    omega

theorem shutDown_add {q : RateLimitingQueue} (shutting : q.shuttingDown) (key : String) :
    q.add key = q := by
  simp [RateLimitingQueue.add, shutting]

theorem get_shuttingDown {q q' : RateLimitingQueue} {key : Option String}
    (got : q.get = some (key, q')) : q'.shuttingDown = q.shuttingDown := by
  rcases get_cases got with ⟨k, rest, -, -, rfl⟩ | ⟨-, -, -, rfl⟩ <;> rfl

theorem shuttingDown_step {q q' : RateLimitingQueue} {e : QueueEvent}
    (stepped : e.step q = some q') : q'.shuttingDown = q.shuttingDown := by
  cases e with
  | get key => exact get_shuttingDown (QueueEvent.get_of_step stepped)
  | add key | synced key err =>
    cases stepped
    simp
  | done key | ready key =>
    obtain ⟨-, ⟨⟩⟩ := Option.ite_none_right_eq_some.mp stepped
    simp

theorem get_none {q q' : RateLimitingQueue} (got : q.get = some (none, q')) : q' = q := by
  rcases get_cases got with ⟨k, rest, -, ⟨⟩, -⟩ | ⟨-, -, -, rfl⟩
  rfl

theorem pending_step {q q' : RateLimitingQueue} {e : QueueEvent} (wf : q.WellFormed)
    (shutting : q.shuttingDown) (stepped : e.step q = some q') :
    q'.shuttingDown ∧ q'.pending + (if e.handsOut then 1 else 0) = q.pending := by
  cases e with
  | add key =>
    cases stepped
    simp [shutDown_add shutting, shutting, QueueEvent.handsOut]
  | get key =>
    have fetched := QueueEvent.get_of_step stepped
    refine ⟨(get_shuttingDown fetched).trans shutting, ?_⟩
    cases key with
    | none => simp [get_none fetched, QueueEvent.handsOut]
    | some key => simpa [QueueEvent.handsOut] using pending_get wf fetched
  | synced key err =>
    cases stepped
    obtain ⟨_, _, framed⟩ := handleErr_frame err key q
    rw [framed]
    exact ⟨shutting, by simp [pending, QueueEvent.handsOut]⟩
  | done key =>
    obtain ⟨busy, ⟨⟩⟩ := Option.ite_none_right_eq_some.mp stepped
    exact ⟨shutting, by simpa [QueueEvent.handsOut] using pending_done busy⟩
  | ready key =>
    obtain ⟨-, ⟨⟩⟩ := Option.ite_none_right_eq_some.mp stepped
    simp [addReady, RateLimitingQueue.add, shutting, pending, QueueEvent.handsOut]

end RateLimitingQueue

/-- The failed syncs of `key` since its last successful sync, counted from `n`. -/
def streakStep (key : String) (n : Nat) : QueueEvent → Nat
  | .synced k err => if k = key then (if err.isSome then n + 1 else 0) else n
  | _ => n

def failureStreak (key : String) (events : List QueueEvent) : Nat :=
  events.foldl (streakStep key) 0

theorem failures_apply {queue : RateLimitingQueue} {e : QueueEvent}
    (not_synced : ∀ key err, e ≠ .synced key err) : (e.apply queue).failures = queue.failures := by
  unfold QueueEvent.apply
  cases stepped : e.step queue with
  | none => rfl
  | some queue' =>
    cases e with
    | add key => cases stepped; simp
    | get key => exact RateLimitingQueue.get_failures (QueueEvent.get_of_step stepped)
    | synced key err => exact absurd rfl (not_synced key err)
    | done key | ready key =>
      obtain ⟨-, ⟨⟩⟩ := Option.ite_none_right_eq_some.mp stepped
      simp [RateLimitingQueue.addReady]

theorem numRequeues_apply {queue : RateLimitingQueue} {key : String} {n : Nat}
    (counted : queue.numRequeues key = n % 6) (e : QueueEvent) :
    (e.apply queue).numRequeues key = streakStep key n e % 6 := by
  cases e with
  | synced k err =>
    simp only [QueueEvent.apply, QueueEvent.step, Option.getD_some, Chargeback.handleErr,
      streakStep]
    by_cases same : k = key
    · subst same
      cases err with
      | none => simp
      | some e =>
        simp only [ite_true, Option.isSome_some]
        split_ifs <;> simp <;> omega
    · cases err <;> simp only [same, ite_false] <;> (try split_ifs) <;>
        simpa [Ne.symm same] using counted
  | _ =>
    simpa [RateLimitingQueue.numRequeues, streakStep, failures_apply] using counted

theorem numRequeues_run (key : String) :
    ∀ (events : List QueueEvent) (queue : RateLimitingQueue) (n : Nat),
      queue.numRequeues key = n % 6 →
      (queue.run events).numRequeues key = events.foldl (streakStep key) n % 6
  | [], _, _, counted => counted
  | e :: events, queue, _, counted =>
    numRequeues_run key events (e.apply queue) _ (numRequeues_apply counted e)

/-- From the empty queue, after any events, `NumRequeues(key)` is at most 5; a successful sync
forgets the key, and the `i`-th failed sync in a row since the last successful one re-adds the key
unless `i` is a multiple of 6, when it forgets (drops) it. -/
theorem handleErr_requeues_five_times (events : List QueueEvent) (key : String) (err : GoError) :
    (RateLimitingQueue.empty.run events).numRequeues key ≤ 5 ∧
      Chargeback.handleErr none key (RateLimitingQueue.empty.run events) =
        (RateLimitingQueue.empty.run events).forget key ∧
      Chargeback.handleErr (some err) key (RateLimitingQueue.empty.run events) =
        if (failureStreak key events + 1) % 6 = 0 then
          (RateLimitingQueue.empty.run events).forget key
        else (RateLimitingQueue.empty.run events).addRateLimited key := by
  have counted := numRequeues_run key events RateLimitingQueue.empty 0 rfl
  refine ⟨by omega, rfl, ?_⟩
  simp only [Chargeback.handleErr, counted, failureStreak]
  by_cases wraps : (events.foldl (streakStep key) 0 + 1) % 6 = 0 <;>
    simp only [wraps, ite_true, ite_false]
  · rw [if_neg (by omega)]
  · rw [if_pos (by omega)]

end Metering
