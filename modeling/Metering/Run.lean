import Metering.Hive.Shared

/-!
# `Chargeback.Run`

One run of `Run` as a system of goroutines: `Run` itself, the two errgroup goroutines that open
the Presto and Hive connections, the workers `startWorkers` starts, and the stop channel. An
`Operator` is the state of all of them, and `step` takes one atomic step of one of them, with what
the world answers to it. `Run`'s deferred `closeHiveConnection` and `prestoDB.Close()` are two
such steps, and the other goroutines step between them. The workers' bodies are not in src: until
it calls `Done`, which it does only once the stop channel is closed, a worker may make any call of
`hiveQueryer.Query` on the shared `c.hiveQueryer`, also after `Run` has returned.

`startWorkers` receives `wg sync.WaitGroup` by value: its `Add`s count on a copy, which the
workers' `Done`s decrement, and the `wg.Wait()` of `Run` waits on a counter nothing ever raised.
-/

namespace Metering

inductive Worker where
  | prestoTable
  | reportDataSource (i : Nat)
  | reportGenerationQuery (i : Nat)
  | report (i : Nat)
  | scheduledReport (i : Nat)
  | scheduledReportRunner
  | promsum
  deriving DecidableEq, Repr

def threadiness : Nat := 2

/-- The goroutines `startWorkers` starts, in the order it starts them. -/
def startedWorkers (cfg : Config) : List Worker :=
  .prestoTable :: (List.range threadiness).flatMap (fun i =>
    [.reportDataSource i, .reportGenerationQuery i, .report i, .scheduledReport i]) ++
    .scheduledReportRunner :: if cfg.disablePromsum then [] else [.promsum]

/-- `startWorkers(wg, stopCh)` with `wg` passed by value: the counter of the copy after its `Add`s,
and the goroutines that will call `Done` on that copy. -/
def Chargeback.startWorkers (cfg : Config) (wg : Nat) : Nat × List Worker :=
  (wg + (startedWorkers cfg).length, startedWorkers cfg)

inductive RunPc where
  | connecting
  | prometheus
  | cacheSync
  | pollPresto
  | startWorkers
  | setInitialized
  | awaitStop
  | shutdown
  | waitWorkers
  | closeHive (err : Option GoError)
  | closePresto (err : Option GoError)
  | returned (err : Option GoError)
  deriving DecidableEq, Repr

def runStopCh : RecvChan := some 0

structure Operator where
  cfg : Config
  pc : RunPc
  stopClosed : Bool
  prestoReturned : Bool
  hiveReturned : Bool
  groupErr : Option GoError
  prestoDB : Option PrestoDB
  hiveQueryer : Option HiveClient
  deferred : Bool
  cachesSynced : Bool
  probeSucceeded : Bool
  wg : Nat
  workersWg : Nat
  running : List Worker
  initialized : Bool
  deriving DecidableEq, Repr

def Operator.init (cfg : Config) : Operator :=
  { cfg, pc := .connecting, stopClosed := false, prestoReturned := false, hiveReturned := false,
    groupErr := none, prestoDB := none, hiveQueryer := none, deferred := false,
    cachesSynced := false, probeSucceeded := false, wg := 0, workersWg := 0, running := [],
    initialized := false }

/-- The steps of `Run` and of the goroutines it starts, each with what the world answers: what
`newPrestoConn`, `newHiveConn`, `newPrometheusConn`, `WaitForCacheSync` and `testWriteToPresto`
returned. -/
inductive OperatorStep where
  | prestoConnected (result : Except GoError Unit)
  | hiveConnected (connect : Except GoError Unit)
  | groupWait
  | prometheusConn (result : Except GoError Unit)
  | cacheSync (synced : Bool)
  | probe (ok : Bool)
  | pollStopped
  | startWorkers
  | setInitialized
  | stopReceived
  | shutdown
  | wgWait
  | deferredCall
  | workerDone (worker : Worker)
  | hiveCall (worker : Worker) (c : HiveClient.HiveCall)
  | closeStop
  deriving DecidableEq, Repr

namespace Operator

/-- `return err`: once `Run` has registered its deferred calls, they run first, one step each. -/
def returnWith (s : Operator) (err : Option GoError) : Operator :=
  { s with pc := if s.deferred then .closeHive err else .returned err }

def step (s : Operator) : OperatorStep → Option Operator
  | .prestoConnected result =>
    if s.pc = .connecting ∧ !s.prestoReturned then
      some { s with
        prestoReturned := true
        prestoDB := result.toOption.map fun () => ⟨false⟩
        groupErr := s.groupErr.or (match result with | .error err => some err | .ok () => none) }
    else none
  | .hiveConnected connect =>
    if s.pc = .connecting ∧ !s.hiveReturned then
      let (hive, result) := (HiveClient.mk
        (newHiveQueryer s.cfg.hiveHost s.cfg.logDDLQueries runStopCh) []).getHiveConnection connect
      some { s with
        hiveReturned := true
        hiveQueryer := some hive
        groupErr := s.groupErr.or (match result with | .error err => some err | .ok _ => none) }
    else none
  | .groupWait =>
    if s.pc = .connecting ∧ s.prestoReturned ∧ s.hiveReturned then
      match s.groupErr with
      | some err => some (s.returnWith (some err))
      | none => some { s with pc := .prometheus, deferred := true }
    else none
  | .prometheusConn result =>
    if s.pc = .prometheus then
      match result with
      | .error err => some (s.returnWith (some (.errorf "can't connect to prometheus: %v" err)))
      | .ok () => some { s with pc := .cacheSync }
    else none
  | .cacheSync synced =>
    if s.pc = .cacheSync ∧ (synced ∨ s.stopClosed) then
      if synced then some { s with pc := .pollPresto, cachesSynced := true }
      else some (s.returnWith (some (.errorString "cache for reports not synced in time")))
    else none
  | .probe ok =>
    if s.pc = .pollPresto then
      some (if ok then { s with pc := .startWorkers, probeSucceeded := true } else s)
    else none
  | .pollStopped =>
    if s.pc = .pollPresto ∧ s.stopClosed then some { s with pc := .startWorkers } else none
  | .startWorkers =>
    if s.pc = .startWorkers then
      let (copy, workers) := Chargeback.startWorkers s.cfg s.wg
      some { s with pc := .setInitialized, workersWg := copy, running := workers }
    else none
  | .setInitialized =>
    if s.pc = .setInitialized then some { s with pc := .awaitStop, initialized := true } else none
  | .stopReceived =>
    if s.pc = .awaitStop ∧ s.stopClosed then some { s with pc := .shutdown } else none
  | .shutdown => if s.pc = .shutdown then some { s with pc := .waitWorkers } else none
  | .wgWait => if s.pc = .waitWorkers ∧ s.wg = 0 then some (s.returnWith none) else none
  | .deferredCall =>
    match s.pc with
    | .closeHive err =>
      some { s with
        pc := .closePresto err
        hiveQueryer := s.hiveQueryer.map HiveClient.closeHiveConnection }
    | .closePresto err =>
      some { s with
        pc := .returned err
        prestoDB := s.prestoDB.map fun db => { db with closed := true } }
    | _ => none
  | .workerDone worker =>
    if worker ∈ s.running ∧ s.stopClosed then
      some { s with running := s.running.erase worker, workersWg := s.workersWg - 1 }
    else none
  | .hiveCall worker c =>
    if worker ∈ s.running then some { s with hiveQueryer := s.hiveQueryer.map (·.call c) }
    else none
  | .closeStop => some { s with stopClosed := true }

inductive Reachable (cfg : Config) : Operator → Prop
  | init : Reachable cfg (init cfg)
  | step {s s' : Operator} {e : OperatorStep} : Reachable cfg s → s.step e = some s' →
      Reachable cfg s'

def run : Operator → List OperatorStep → Option Operator
  | s, [] => some s
  | s, e :: rest => (s.step e).bind (run · rest)

theorem run_reachable {cfg : Config} :
    ∀ {s s' : Operator} (trace : List OperatorStep), Reachable cfg s → s.run trace = some s' →
      Reachable cfg s'
  | _, _, [], reachable, ran => by cases ran; exact reachable
  | s, _, e :: rest, reachable, ran => by
    cases stepped : s.step e with
    | none => simp [run, stepped] at ran
    | some s₁ =>
      simp only [run, stepped, Option.bind_some] at ran
      exact run_reachable rest (reachable.step stepped) ran

/-- Both connections open, Prometheus answers, the caches sync and the first write probe succeeds;
`Run` starts the workers and sets `initialized`. -/
def startupTrace : List OperatorStep :=
  [.prestoConnected (.ok ()), .hiveConnected (.ok ()), .groupWait, .prometheusConn (.ok ()),
   .cacheSync true, .probe true, .startWorkers, .setInitialized]

def stopTrace : List OperatorStep := [.closeStop, .stopReceived, .shutdown]

/-- `wg.Wait()` returns at once, and `Run` returns through its two deferred calls. -/
def returnTrace : List OperatorStep := [.wgWait, .deferredCall, .deferredCall]

def chartConfig : Config := ⟨"hive-server:10000", "presto:8080", false, false⟩

/-! ## The invariant -/

/-- What `Run` has established when it stands at `pc`. It registers the deferred closes only
after `g.Wait()`, sees the caches synced after `WaitForCacheSync`, starts the workers and sets
`initialized` in that order, and passes `<-stopCh` only once the channel closed. It returns having
closed `prestoDB` if it registered the deferred closes. -/
def Established (s : Operator) : RunPc → Prop
  | .connecting => s.deferred = false ∧ s.running = [] ∧ s.initialized = false
  | .prometheus | .cacheSync => s.deferred ∧ s.running = [] ∧ s.initialized = false
  | .pollPresto | .startWorkers =>
    s.deferred ∧ s.cachesSynced ∧ s.running = [] ∧ s.initialized = false
  | .setInitialized => s.deferred ∧ s.cachesSynced ∧ s.initialized = false
  | .awaitStop => s.deferred ∧ s.cachesSynced ∧ s.initialized
  | .shutdown | .waitWorkers | .closeHive none | .closePresto none =>
    s.deferred ∧ s.cachesSynced ∧ s.initialized ∧ s.stopClosed
  | .closeHive (some _) | .closePresto (some _) =>
    s.deferred ∧ s.running = [] ∧ s.initialized = false
  | .returned none => s.deferred ∧ (∀ db ∈ s.prestoDB, db.closed) ∧ s.initialized ∧ s.stopClosed
  | .returned (some _) =>
    (s.deferred → ∀ db ∈ s.prestoDB, db.closed) ∧ s.running = [] ∧ s.initialized = false

/-- A worker's `Done` leaves what `Run` established: `Run` reads only whether workers run. -/
theorem Established.erase {s : Operator} {pc : RunPc} (established : s.Established pc)
    (worker : Worker) (count : Nat) :
    { s with running := s.running.erase worker, workersWg := count }.Established pc := by
  rcases pc with _ | _ | _ | _ | _ | _ | _ | _ | _ | (_ | _) | (_ | _) | (_ | _) <;>
    simp_all [Established]

theorem Established.closeStop {s : Operator} {pc : RunPc} (established : s.Established pc) :
    { s with stopClosed := true }.Established pc := by
  rcases pc with _ | _ | _ | _ | _ | _ | _ | _ | _ | (_ | _) | (_ | _) | (_ | _) <;>
    simp_all [Established]

structure Invariant (s : Operator) : Prop where
  wg_zero : s.wg = 0
  workersWg_counts : s.workersWg = s.running.length
  established : s.Established s.pc
  initialized_ready : s.initialized → s.deferred ∧ s.cachesSynced
  presto_opened : s.prestoReturned → s.groupErr = none → s.prestoDB.isSome
  hive_made : s.hiveReturned → s.hiveQueryer.isSome
  deferred_connected : s.deferred → s.prestoReturned ∧ s.hiveReturned ∧ s.groupErr = none
  hive_accounted : ∀ hive ∈ s.hiveQueryer, hive.Accounted

theorem Invariant.init (cfg : Config) : Invariant (init cfg) :=
  ⟨rfl, rfl, ⟨rfl, rfl, rfl⟩, nofun, nofun, nofun, nofun, nofun⟩

theorem Invariant.returnError {s : Operator} (inv : Invariant s) (err : GoError)
    (idle : s.running = [] ∧ s.initialized = false) : Invariant (s.returnWith (some err)) := by
  refine { inv with established := ?_ }
  by_cases registered : s.deferred <;> simpa [returnWith, registered, Established] using idle

theorem Invariant.step {s s' : Operator} {e : OperatorStep} (inv : Invariant s)
    (stepped : s.step e = some s') : Invariant s' := by
  have established := inv.established
  cases e with
  | prestoConnected result =>
    obtain ⟨guard, ⟨⟩⟩ := Option.ite_none_right_eq_some.mp stepped
    rw [guard.1] at established
    refine { inv with
      established := by rwa [guard.1]
      presto_opened := fun _ none_failed => ?_
      deferred_connected := fun registered => absurd registered (by simp [established.1]) }
    cases result with
    | ok => rfl
    | error err => simp at none_failed
  | hiveConnected connect =>
    obtain ⟨guard, ⟨⟩⟩ := Option.ite_none_right_eq_some.mp stepped
    rw [guard.1] at established
    refine { inv with
      established := by rwa [guard.1]
      hive_made := fun _ => rfl
      presto_opened := fun returned none_failed =>
        inv.presto_opened returned (Option.or_eq_none.mp none_failed).1
      deferred_connected := fun registered => absurd registered (by simp [established.1])
      hive_accounted := fun hive made => ?_ }
    cases made
    exact (HiveClient.Accounted.init (newHiveQueryer _ _ _) rfl).getHiveConnection connect
  | groupWait =>
    obtain ⟨guard, stepped⟩ := Option.ite_none_right_eq_some.mp stepped
    rw [guard.1] at established
    split at stepped <;> rename_i failed <;> cases stepped
    · exact inv.returnError _ established.2
    · exact { inv with
        established := ⟨rfl, established.2⟩
        initialized_ready := fun initialized => by simp [established.2.2] at initialized
        deferred_connected := fun _ => ⟨guard.2.1, guard.2.2, failed⟩ }
  | prometheusConn result =>
    obtain ⟨guard, stepped⟩ := Option.ite_none_right_eq_some.mp stepped
    rw [guard] at established
    split at stepped <;> cases stepped
    · exact inv.returnError _ established.2
    · exact { inv with established := established }
  | cacheSync synced =>
    obtain ⟨guard, stepped⟩ := Option.ite_none_right_eq_some.mp stepped
    rw [guard.1] at established
    split_ifs at stepped <;> cases stepped
    · exact { inv with
        established := ⟨established.1, rfl, established.2⟩
        initialized_ready := fun _ => ⟨established.1, rfl⟩ }
    · exact inv.returnError _ established.2
  | probe ok =>
    obtain ⟨guard, stepped⟩ := Option.ite_none_right_eq_some.mp stepped
    rw [guard] at established
    split_ifs at stepped <;> cases stepped
    · exact { inv with established := established }
    · exact inv
  | pollStopped =>
    obtain ⟨guard, ⟨⟩⟩ := Option.ite_none_right_eq_some.mp stepped
    rw [guard.1] at established
    exact { inv with established := established }
  | startWorkers =>
    obtain ⟨guard, ⟨⟩⟩ := Option.ite_none_right_eq_some.mp stepped
    rw [guard] at established
    exact { inv with
      workersWg_counts := by simp [Chargeback.startWorkers, inv.wg_zero]
      established := ⟨established.1, established.2.1, established.2.2.2⟩ }
  | setInitialized =>
    obtain ⟨guard, ⟨⟩⟩ := Option.ite_none_right_eq_some.mp stepped
    rw [guard] at established
    exact { inv with
      established := ⟨established.1, established.2.1, rfl⟩
      initialized_ready := fun _ => ⟨established.1, established.2.1⟩ }
  | stopReceived =>
    obtain ⟨guard, ⟨⟩⟩ := Option.ite_none_right_eq_some.mp stepped
    rw [guard.1] at established
    exact { inv with established := ⟨established.1, established.2.1, established.2.2, guard.2⟩ }
  | shutdown =>
    obtain ⟨guard, ⟨⟩⟩ := Option.ite_none_right_eq_some.mp stepped
    rw [guard] at established
    exact { inv with established := established }
  | wgWait =>
    obtain ⟨guard, ⟨⟩⟩ := Option.ite_none_right_eq_some.mp stepped
    rw [guard.1] at established
    rw [returnWith, if_pos established.1]
    exact { inv with established := established }
  | deferredCall =>
    simp only [Operator.step] at stepped
    split at stepped <;> rename_i err calling <;> cases stepped <;> rw [calling] at established
    · -- the deferred `c.hiveQueryer.closeHiveConnection()`
      refine { inv with
        established := by cases err <;> exact established
        hive_made := by simpa using inv.hive_made
        hive_accounted := fun hive made => ?_ }
      obtain ⟨queryer, held, rfl⟩ := Option.map_eq_some'.mp made
      exact (inv.hive_accounted queryer held).closeHiveConnection
    · -- the deferred `c.prestoDB.Close()`
      refine { inv with
        established := ?_
        presto_opened := by simpa using inv.presto_opened }
      cases err with
      | none => exact ⟨established.1, by simp, established.2.2⟩
      | some err => exact ⟨fun _ => by simp, established.2⟩
  | workerDone worker =>
    obtain ⟨guard, ⟨⟩⟩ := Option.ite_none_right_eq_some.mp stepped
    exact { inv with
      workersWg_counts := by simp [inv.workersWg_counts, List.length_erase_of_mem guard.1]
      established := established.erase worker _ }
  | hiveCall worker c =>
    obtain ⟨-, ⟨⟩⟩ := Option.ite_none_right_eq_some.mp stepped
    refine { inv with hive_made := by simpa using inv.hive_made, hive_accounted := ?_ }
    intro hive made
    obtain ⟨queryer, held, rfl⟩ := Option.map_eq_some'.mp made
    exact (inv.hive_accounted queryer held).call c
  | closeStop =>
    cases stepped
    exact { inv with established := established.closeStop }

theorem Reachable.invariant {cfg : Config} {s : Operator} (reachable : Reachable cfg s) :
    Invariant s := by
  induction reachable with
  | init => exact .init cfg
  | step _ stepped inv => exact inv.step stepped

/-! ## What every run keeps -/

/-- `Run`'s `wg.Wait()` returns at once wherever `Run` reaches it, whatever the workers do: the
counter it waits on is zero, while the copy `startWorkers` received counts the workers that have
not called `Done`. -/
theorem wg_wait_returns_at_once {cfg : Config} {s : Operator} (reachable : Reachable cfg s)
    (waiting : s.pc = .waitWorkers) :
    s.step .wgWait = some (s.returnWith none) ∧ s.workersWg = s.running.length := by
  have inv := reachable.invariant
  exact ⟨by simp [Operator.step, waiting, inv.wg_zero], inv.workersWg_counts⟩

theorem wg_wait_returns_at_once_on_stop :
    ∃ s, Reachable chartConfig s ∧ s.pc = .waitWorkers ∧
      s.step .wgWait = some (s.returnWith none) ∧ s.workersWg = s.running.length :=
  have reachable := run_reachable (startupTrace ++ stopTrace) .init rfl
  ⟨_, reachable, rfl, wg_wait_returns_at_once reachable rfl⟩

/-- A return after `g.Wait()` returned nil closes the `prestoDB` `Run` opened, and nothing opens it
again. -/
theorem later_returns_close_presto {cfg : Config} {s : Operator} {err : Option GoError}
    (reachable : Reachable cfg s) (returned : s.pc = .returned err) (registered : s.deferred) :
    ∃ db, s.prestoDB = some db ∧ db.closed := by
  have inv := reachable.invariant
  obtain ⟨prestoReturned, -, noError⟩ := inv.deferred_connected registered
  obtain ⟨db, opened⟩ := Option.isSome_iff_exists.mp (inv.presto_opened prestoReturned noError)
  have closed : ∀ db ∈ s.prestoDB, db.closed := by
    have established := inv.established
    rw [returned] at established
    cases err with
    | none => exact established.2.1
    | some e => exact established.1 registered
  exact ⟨db, opened, closed db opened⟩

theorem later_returns_close_presto_on_stop :
    ∃ s, Reachable chartConfig s ∧ s.pc = .returned none ∧ s.deferred ∧
      ∃ db, s.prestoDB = some db ∧ db.closed :=
  have reachable := run_reachable (startupTrace ++ stopTrace ++ returnTrace) .init rfl
  ⟨_, reachable, rfl, rfl, later_returns_close_presto reachable rfl rfl⟩

/-- `Run` sets `initialized` only after both connection goroutines returned without error, having
opened `prestoDB` and made the Hive queryer, and `WaitForCacheSync` reported the caches synced. -/
theorem initialized_after_connect_and_sync {cfg : Config} {s : Operator}
    (reachable : Reachable cfg s) (initialized : s.initialized) :
    s.groupErr = none ∧ s.prestoDB.isSome ∧ s.hiveQueryer.isSome ∧ s.cachesSynced := by
  have inv := reachable.invariant
  obtain ⟨registered, synced⟩ := inv.initialized_ready initialized
  obtain ⟨prestoReturned, hiveReturned, noError⟩ := inv.deferred_connected registered
  exact ⟨noError, inv.presto_opened prestoReturned noError, inv.hive_made hiveReturned, synced⟩

theorem initialized_after_connect_and_sync_on_startup :
    ∃ s, Reachable chartConfig s ∧ s.initialized ∧
      s.groupErr = none ∧ s.prestoDB.isSome ∧ s.hiveQueryer.isSome ∧ s.cachesSynced :=
  have reachable := run_reachable startupTrace .init rfl
  ⟨_, reachable, rfl, initialized_after_connect_and_sync reachable rfl⟩

/-- `Run` returns nil only after the stop signal arrived, with `initialized` set; it returns an
error only before it started any worker, with `initialized` unset. -/
theorem returns_after_stop_or_before_workers {cfg : Config} {s : Operator} {err : Option GoError}
    (reachable : Reachable cfg s) (returned : s.pc = .returned err) :
    (err = none ∧ s.stopClosed ∧ s.initialized) ∨
      (err.isSome ∧ s.running = [] ∧ s.initialized = false) := by
  have established := reachable.invariant.established
  rw [returned] at established
  cases err with
  | none => exact .inl ⟨rfl, established.2.2.2, established.2.2.1⟩
  | some err => exact .inr ⟨rfl, established.2⟩

theorem returns_after_stop_or_before_workers_on_stop :
    ∃ s, Reachable chartConfig s ∧ s.pc = .returned none ∧
      (((none : Option GoError) = none ∧ s.stopClosed ∧ s.initialized) ∨
        ((none : Option GoError).isSome ∧ s.running = [] ∧ s.initialized = false)) :=
  have reachable := run_reachable (startupTrace ++ stopTrace ++ returnTrace) .init rfl
  ⟨_, reachable, rfl, returns_after_stop_or_before_workers reachable rfl⟩

/-- However the workers' calls on the shared `hiveQueryer` interleave with `Run`, before and after
its deferred `closeHiveConnection`, `newHiveConn` returns each connection at most once, and each one
it returned is the one `hiveConn` holds, never closed, or was closed exactly once. -/
theorem hive_connections_accounted {cfg : Config} {s : Operator} (reachable : Reachable cfg s)
    {hive : HiveClient} (made : s.hiveQueryer = some hive) (c : HiveConnection) :
    hive.log.count (.connect (.ok c)) ≤ 1 ∧
      hive.log.count (.connect (.ok c)) =
        hive.log.count (.close (some c)) + if hive.hiveConn = some c then 1 else 0 :=
  have accounted := reachable.invariant.hive_accounted hive made
  ⟨accounted.opened_once c, accounted.balanced c⟩

theorem hive_connections_accounted_after_return :
    ∃ s hive, Reachable chartConfig s ∧ s.pc = .returned none ∧ s.hiveQueryer = some hive ∧
      hive.hiveConn = some ⟨1, false⟩ ∧
      (hive.log.count (.connect (.ok ⟨1, false⟩)) ≤ 1 ∧
        hive.log.count (.connect (.ok ⟨1, false⟩)) =
          hive.log.count (.close (some ⟨1, false⟩)) +
            if hive.hiveConn = some ⟨1, false⟩ then 1 else 0) :=
  have reachable := run_reachable (startupTrace ++ stopTrace ++ returnTrace ++
    [OperatorStep.hiveCall (.reportDataSource 0) (.getHiveConnection (.ok ()))]) .init rfl
  ⟨_, _, reachable, rfl, rfl, rfl, hive_connections_accounted reachable rfl ⟨1, false⟩⟩

end Operator

/-! ## Runs that break the shutdown and startup contracts -/

/-- `Run` returns nil after `wg.Wait()`, its deferred calls having closed `prestoDB` and the Hive
connection, while every worker `startWorkers` started is still running and the copy of `wg` it
received still counts them all. -/
theorem run_returns_before_workers_done (cfg : Config) :
    ∃ s, Operator.Reachable cfg s ∧ s.pc = .returned none ∧ s.prestoDB = some ⟨true⟩ ∧
      s.hiveQueryer.map HiveClient.hiveConn = some none ∧ s.running = startedWorkers cfg ∧
      s.workersWg = (startedWorkers cfg).length :=
  ⟨_, Operator.run_reachable
      (Operator.startupTrace ++ Operator.stopTrace ++ Operator.returnTrace) .init rfl,
    rfl, rfl, rfl, rfl, Nat.zero_add _⟩

/-- When the stop channel closes while the Presto write probe keeps failing, `PollUntil` returns
and `Run` starts the workers and sets `initialized` with no probe having succeeded. -/
theorem initialized_without_presto_write (cfg : Config) :
    ∃ s, Operator.Reachable cfg s ∧ s.initialized ∧ s.running = startedWorkers cfg ∧
      s.probeSucceeded = false :=
  ⟨_, Operator.run_reachable
    [.prestoConnected (.ok ()), .hiveConnected (.ok ()), .groupWait, .prometheusConn (.ok ()),
     .cacheSync true, .probe false, .closeStop, .pollStopped, .startWorkers, .setInitialized]
    .init rfl, rfl, rfl, rfl⟩

/-- When one connection goroutine fails after the other opened its connection, `Run` returns the
error from `g.Wait()` with that connection still open: it registers its deferred closes only
after. -/
theorem run_returns_with_connection_open (cfg : Config) (err : GoError) :
    (∃ s, Operator.Reachable cfg s ∧ s.pc = .returned (some err) ∧ s.prestoDB = some ⟨false⟩) ∧
      ∃ s, Operator.Reachable cfg s ∧ s.pc = .returned (some err) ∧
        (s.hiveQueryer.bind HiveClient.hiveConn).isSome :=
  ⟨⟨_, Operator.run_reachable
      [.prestoConnected (.ok ()), .hiveConnected (.error err), .groupWait] .init rfl, rfl, rfl⟩,
    ⟨_, Operator.run_reachable
      [.hiveConnected (.ok ()), .prestoConnected (.error err), .groupWait] .init rfl, rfl, rfl⟩⟩

end Metering
