import Metering.Queue

/-!
# The informers' queues and `ShutdownQueues`

`setupInformers` gives each of seven resource kinds a queue and registers handlers that add an
object's key to its kind's queue. The workers run client-go's loop on a queue: `Get` a key, sync it,
pass the result to `handleErr`, and call `Done`. Their bodies are not in src, so the model lets a
worker take any of these steps at any time, calling `Done` only on a key its `Get` returned. At
shutdown `Run` starts `go c.informers.ShutdownQueues()`, which shuts the queues of `queueList`
down one after another.

* `queues_drain_after_shutdown`: once `ShutdownQueues` returned, the `Get`s on a queue hand out
  exactly the keys it still held, queued or dirty while processing, however the informers, the
  workers and `AddAfter` interleave. Once they are handed out every `Get` reports shutdown.
-/

namespace Metering

inductive Kind where
  | report
  | scheduledReport
  | reportDataSource
  | reportGenerationQuery
  | reportPrometheusQuery
  | storageLocation
  | prestoTable
  deriving DecidableEq, Repr

def queueList : List Kind :=
  [.storageLocation, .reportPrometheusQuery, .reportGenerationQuery, .reportDataSource,
   .prestoTable, .scheduledReport, .report]

theorem mem_queueList (kind : Kind) : kind ∈ queueList := by
  cases kind <;> simp [queueList]

/-- `MetaNamespaceKeyFunc` of the object an informer delivers, an error for an object without
metadata. -/
inductive InformerEvent where
  | add (key : Except GoError String)
  | update (key : Except GoError String)
  | delete (key : Except GoError String)
  deriving DecidableEq, Repr

/-- The key the `AddFunc` and `UpdateFunc` of `kind` add to its queue. The scheduled reports'
`DeleteFunc` adds nothing, and three kinds have no handlers. -/
def handlerKey : Kind → InformerEvent → Option String
  | .report, .add key | .report, .update key
  | .scheduledReport, .add key | .scheduledReport, .update key
  | .reportDataSource, .add key | .reportDataSource, .update key
  | .reportGenerationQuery, .add key | .reportGenerationQuery, .update key => key.toOption
  | _, _ => none

/-- The queues, and how many of those of `queueList` `ShutdownQueues` has shut down. -/
structure Informers where
  queues : Kind → RateLimitingQueue
  shutDown : Nat

inductive InformersStep where
  | informer (kind : Kind) (event : InformerEvent)
  | queue (kind : Kind) (e : QueueEvent)
  | shutDownNext
  deriving DecidableEq, Repr

def InformersStep.handsOut (kind : Kind) : InformersStep → Bool
  | .queue k e => k = kind && e.handsOut
  | _ => false

namespace Informers

def init : Informers := ⟨fun _ => .empty, 0⟩

def update (s : Informers) (kind : Kind) (q : RateLimitingQueue) : Informers :=
  { s with queues := Function.update s.queues kind q }

@[simp] theorem update_queues (s : Informers) (kind k : Kind) (q : RateLimitingQueue) :
    (s.update kind q).queues k = if k = kind then q else s.queues k :=
  Function.update_apply _ _ _ _

@[simp] theorem update_shutDown (s : Informers) (kind : Kind) (q : RateLimitingQueue) :
    (s.update kind q).shutDown = s.shutDown := rfl

def step (s : Informers) : InformersStep → Option Informers
  | .informer kind event =>
    some (match handlerKey kind event with
      | some key => s.update kind ((s.queues kind).add key)
      | none => s)
  | .queue kind e => (e.step (s.queues kind)).map (s.update kind)
  | .shutDownNext =>
    match queueList[s.shutDown]? with
    | some kind => some { s.update kind (s.queues kind).shutDown with shutDown := s.shutDown + 1 }
    | none => none

def run : Informers → List InformersStep → Option Informers
  | s, [] => some s
  | s, e :: rest => (s.step e).bind (run · rest)

inductive Reachable : Informers → Prop
  | init : Reachable init
  | step {s s' : Informers} {e : InformersStep} : Reachable s → s.step e = some s' → Reachable s'

theorem run_reachable : ∀ {s s' : Informers} (trace : List InformersStep), Reachable s →
    s.run trace = some s' → Reachable s'
  | _, _, [], reachable, ran => by cases ran; exact reachable
  | s, _, e :: rest, reachable, ran => by
    obtain ⟨s₁, stepped, ran⟩ := Option.bind_eq_some.mp ran
    exact run_reachable rest (reachable.step stepped) ran

/-! ## What a step can do -/

theorem step_cases {s s' : Informers} {l : InformersStep} (stepped : s.step l = some s') :
    (∃ (kind : Kind) (e : QueueEvent) (q : RateLimitingQueue), e.step (s.queues kind) = some q ∧
      s' = s.update kind q ∧
      ∀ k, l.handsOut k = (kind = k && e.handsOut)) ∨
    (s' = s ∧ ∀ k, l.handsOut k = false) ∨
    (∃ kind, l = .shutDownNext ∧ queueList[s.shutDown]? = some kind ∧
      s' = { s.update kind (s.queues kind).shutDown with shutDown := s.shutDown + 1 }) := by
  cases l with
  | informer kind event =>
    cases stepped
    split
    · exact .inl ⟨kind, .add _, _, rfl, rfl,
        fun _ => by simp [InformersStep.handsOut, QueueEvent.handsOut]⟩
    · exact .inr (.inl ⟨rfl, fun _ => rfl⟩)
  | queue kind e =>
    obtain ⟨q, event, rfl⟩ := Option.map_eq_some'.mp stepped
    exact .inl ⟨kind, e, q, event, rfl, fun _ => rfl⟩
  | shutDownNext =>
    simp only [step] at stepped
    split at stepped <;> cases stepped
    exact .inr (.inr ⟨_, rfl, ‹_›, rfl⟩)

/-! ## Shutting the queues down -/

/-- Every queue is well formed, and the queues `ShutdownQueues` has reached are shutting down. -/
structure Invariant (s : Informers) : Prop where
  well_formed : ∀ kind, (s.queues kind).WellFormed
  within : s.shutDown ≤ queueList.length
  shut : ∀ kind ∈ queueList.take s.shutDown, (s.queues kind).shuttingDown

theorem Invariant.init : Invariant init :=
  ⟨fun _ => .empty, Nat.zero_le _, nofun⟩

theorem Invariant.step {s s' : Informers} {l : InformersStep} (inv : s.Invariant)
    (stepped : s.step l = some s') : s'.Invariant := by
  obtain ⟨well_formed, within, shut⟩ := inv
  rcases step_cases stepped with ⟨kind, e, q, event, rfl, -⟩ | ⟨rfl, -⟩ | ⟨kind, -, next, rfl⟩
  · refine ⟨fun k => ?_, within, fun k mem => ?_⟩ <;> by_cases same : k = kind <;>
      simp only [update_queues, same, ite_true, ite_false]
    · exact (well_formed kind).step event
    · exact well_formed k
    · rw [RateLimitingQueue.shuttingDown_step event]
      exact shut kind (same ▸ mem)
    · exact shut k mem
  · exact ⟨well_formed, within, shut⟩
  · refine ⟨fun k => ?_, (List.getElem?_eq_some_iff.mp next).1, fun k mem => ?_⟩ <;>
      by_cases same : k = kind <;> simp only [update_queues, same, ite_true, ite_false]
    · exact (well_formed kind).shutDown
    · exact well_formed k
    · rfl
    · rw [List.take_succ, next, List.mem_append] at mem
      rcases mem with mem | last
      · exact shut k mem
      · simp_all

theorem Reachable.invariant {s : Informers} (reachable : Reachable s) : s.Invariant := by
  induction reachable with
  | init => exact .init
  | step _ stepped inv => exact inv.step stepped

/-! ## After `ShutdownQueues` returned -/

theorem step_drains {s s' : Informers} {l : InformersStep} (stepped : s.step l = some s')
    (ready : ∀ kind, (s.queues kind).WellFormed ∧ (s.queues kind).shuttingDown) (kind : Kind) :
    ((s'.queues kind).WellFormed ∧ (s'.queues kind).shuttingDown) ∧
      (s'.queues kind).pending + (if l.handsOut kind then 1 else 0) = (s.queues kind).pending := by
  rcases step_cases stepped with ⟨k, e, q, event, rfl, handsOut⟩ | ⟨rfl, handsOut⟩ |
    ⟨k, rfl, -, rfl⟩
  · obtain ⟨shutting, drained⟩ := RateLimitingQueue.pending_step (ready k).1 (ready k).2 event
    rw [handsOut]
    by_cases same : kind = k
    · subst same
      simpa [shutting] using ⟨(ready kind).1.step event, drained⟩
    · simpa [same, Ne.symm same] using ready kind
  · simpa [handsOut] using ready kind
  · by_cases same : kind = k
    · subst same
      simp only [update_queues, ite_true, InformersStep.handsOut]
      exact ⟨⟨(ready kind).1.shutDown, rfl⟩, rfl⟩
    · simpa [same, InformersStep.handsOut] using ready kind

theorem run_drains : ∀ {s s' : Informers} (trace : List InformersStep),
    (∀ kind, (s.queues kind).WellFormed ∧ (s.queues kind).shuttingDown) → s.run trace = some s' →
      ∀ kind, (s'.queues kind).shuttingDown ∧
        (s'.queues kind).pending + trace.countP (·.handsOut kind) = (s.queues kind).pending
  | _, _, [], ready, ran, kind => by cases ran; exact ⟨(ready kind).2, rfl⟩
  | s, _, l :: rest, ready, ran, kind => by
    obtain ⟨s₁, stepped, ran⟩ := Option.bind_eq_some.mp ran
    have later := run_drains rest (fun k => (step_drains stepped ready k).1) ran kind
    have first := (step_drains stepped ready kind).2
    refine ⟨later.1, ?_⟩
    rw [List.countP_cons]
    omega

/-- Once `ShutdownQueues` returned, whatever the informers deliver, the workers' `Get`s, `Done`s
and `handleErr` calls do and `AddAfter` adds, the `Get`s on each queue hand out exactly the keys
it still held, queued or dirty while a worker processed them, less those it holds at the end. Once
they have handed out that many, every further `Get` reports shutdown. -/
theorem queues_drain_after_shutdown {s s' : Informers} {trace : List InformersStep}
    (reachable : Reachable s) (returned : s.shutDown = queueList.length)
    (ran : s.run trace = some s') (kind : Kind) :
    (s'.queues kind).pending + trace.countP (·.handsOut kind) = (s.queues kind).pending ∧
      ((s.queues kind).pending ≤ trace.countP (·.handsOut kind) →
        (s'.queues kind).get = some (none, s'.queues kind)) := by
  obtain ⟨well_formed, -, shut⟩ := reachable.invariant
  have ready : ∀ kind, (s.queues kind).WellFormed ∧ (s.queues kind).shuttingDown := fun kind =>
    ⟨well_formed kind, shut kind (by simpa [returned] using mem_queueList kind)⟩
  obtain ⟨shutting, drained⟩ := run_drains trace ready ran kind
  refine ⟨drained, fun taken => ?_⟩
  have empty : (s'.queues kind).queue = [] := by
    have none_left : (s'.queues kind).pending = 0 := by omega
    simp only [RateLimitingQueue.pending, Nat.add_eq_zero, List.length_eq_zero] at none_left
    exact none_left.1
  simp [RateLimitingQueue.get, empty, shutting]

/-- A report is added, taken by a worker and updated while it is processed; then `ShutdownQueues`
runs to its end. -/
def shutdownTrace : List InformersStep :=
  [.informer .report (.add (.ok "metering/r1")), .queue .report (.get (some "metering/r1")),
   .informer .report (.update (.ok "metering/r1")),
   .shutDownNext, .shutDownNext, .shutDownNext, .shutDownNext, .shutDownNext, .shutDownNext,
   .shutDownNext]

/-- After the shutdown the worker's `Done` queues the dirty report again, a `Get` hands it out,
its sync fails, and after its `Done` the next `Get` reports shutdown. -/
def drainTrace : List InformersStep :=
  [.queue .report (.done "metering/r1"), .queue .report (.get (some "metering/r1")),
   .queue .report (.synced "metering/r1" (some .eof)), .queue .report (.done "metering/r1"),
   .queue .report (.get none)]

theorem queues_drain_after_shutdown_requeued :
    ∃ s s', Reachable s ∧ s.shutDown = queueList.length ∧ s.run drainTrace = some s' ∧
      ((s'.queues .report).pending + drainTrace.countP (·.handsOut .report) =
          (s.queues .report).pending ∧
        ((s.queues .report).pending ≤ drainTrace.countP (·.handsOut .report) →
          (s'.queues .report).get = some (none, s'.queues .report))) := by
  obtain ⟨s, reached, ran⟩ := Option.bind_eq_some.mp
    (rfl : (init.run shutdownTrace).bind (·.run drainTrace) = some _)
  have reachable := run_reachable shutdownTrace .init reached
  have returned : s.shutDown = queueList.length := by
    have counted : (init.run shutdownTrace).map (·.shutDown) = some queueList.length := rfl
    rw [reached] at counted
    exact Option.some.inj counted
  exact ⟨s, _, reachable, returned, ran, queues_drain_after_shutdown reachable returned ran .report⟩

end Informers

end Metering
