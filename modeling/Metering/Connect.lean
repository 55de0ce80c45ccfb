import Metering.Errors

/-!
# The connect loops

`Chargeback.newPrestoConn` and `hiveQueryer.newHiveConn` run one loop, `connectLoop`, with their
own errors and stop channels: connect; on failure give up once more than `maxConnWaitTime` has
passed since the loop started, otherwise wait in a `select` for a `connBackoff` tick or the stop
channel. `newHiveQueryer` never stores its stop channel, so `newHiveConn` selects on the nil
channel.
-/

namespace Metering

/-! Times (`time.Time`) and durations (`time.Duration`) are in nanoseconds. -/

def second : Nat := 1000000000
def minute : Nat := 60 * second

def connBackoff : Nat := second * 15
def maxConnWaitTime : Nat := minute * 3

theorem connBackoff_eq : connBackoff = 15000000000 := rfl
theorem maxConnWaitTime_eq : maxConnWaitTime = 180000000000 := rfl

structure Config where
  hiveHost : String
  prestoHost : String
  disablePromsum : Bool
  logDDLQueries : Bool
  deriving DecidableEq, Repr

/-- A `<-chan struct{}`: `none` is the nil channel, `some ch` a channel that was made. -/
abbrev RecvChan := Option Nat

def recvReady (closed : Nat → Bool) : RecvChan → Bool
  | none => false
  | some ch => closed ch

inductive SelectCase where
  | tick
  | stop
  deriving DecidableEq, Repr

/-- The cases of `select { case <-clock.Tick(connBackoff): case <-stopCh: }` that are ready
once the tick has been delivered. -/
def readyCases (closed : Nat → Bool) (stopCh : RecvChan) : List SelectCase :=
  if recvReady closed stopCh then [.tick, .stop] else [.tick]

/-- What the world does in one iteration of a connect loop: the result of `sql.Open` or
`hive.Connect`, the clock at `clock.Since(startTime)`, when the tick comes, the channels closed by
the `select`, and the case it takes if that case is ready. -/
structure Iteration (α : Type) where
  result : Except GoError α
  now : Nat
  tickAt : Nat
  closed : Nat → Bool
  pick : SelectCase

/-- The clock never runs backwards, and each tick comes at least `connBackoff` after the clock
reading that precedes the `select` asking for it. -/
def ClockAdmissible (startTime : Nat) (attempts : Nat → Iteration α) : Prop :=
  startTime ≤ (attempts 0).now ∧
    ∀ k, (attempts k).now + connBackoff ≤ (attempts k).tickAt ∧
      (attempts k).tickAt ≤ (attempts (k + 1)).now

theorem now_ge_of_admissible {startTime : Nat} {attempts : Nat → Iteration α}
    (admissible : ClockAdmissible startTime attempts) :
    ∀ k, startTime + k * connBackoff ≤ (attempts k).now
  | 0 => by simpa using admissible.1
  | k + 1 => by
    have before := now_ge_of_admissible admissible k
    have tick := admissible.2 k
    rw [connBackoff_eq] at before tick ⊢
    omega

def backoffSelect (it : Iteration α) (stopCh : RecvChan) : SelectCase :=
  if it.pick ∈ readyCases it.closed stopCh then it.pick else .tick

theorem backoffSelect_mem_readyCases (it : Iteration α) (stopCh : RecvChan) :
    backoffSelect it stopCh ∈ readyCases it.closed stopCh := by
  unfold backoffSelect readyCases
  split_ifs <;> simp_all

theorem backoffSelect_nil (it : Iteration α) : backoffSelect it none = .tick := by
  have ready := backoffSelect_mem_readyCases it none
  simpa [readyCases, recvReady] using ready

def loopBody (stopCh : RecvChan) (timedOut : GoError → GoError) (shutdown : GoError)
    (startTime : Nat) (it : Iteration α) : Option (Except GoError α) :=
  match it.result with
  | .ok conn => some (.ok conn)
  | .error err =>
    if it.now - startTime > maxConnWaitTime then some (.error (timedOut err))
    else match backoffSelect it stopCh with
      | .tick => none
      | .stop => some (.error shutdown)

/-- The `for` loop from iteration `k` on, with `fuel` iterations left to run: the index of the
iteration it returned in and what it returned, or `none` when the fuel ran out first. -/
def connectLoop (stopCh : RecvChan) (timedOut : GoError → GoError) (shutdown : GoError)
    (startTime : Nat) (attempts : Nat → Iteration α) : Nat → Nat → Option (Nat × Except GoError α)
  | 0, _ => none
  | fuel + 1, k =>
    match loopBody stopCh timedOut shutdown startTime (attempts k) with
    | some r => some (k, r)
    | none => connectLoop stopCh timedOut shutdown startTime attempts fuel (k + 1)

def ReturnsWithin (bound : Nat) (run : Nat → Option (Nat × Except GoError α))
    (lastConnected : Nat → α → Prop) : Prop :=
  ∃ j r, j < bound ∧ (∀ fuel, bound ≤ fuel → run fuel = some (j, r)) ∧
    ∀ conn, r = .ok conn ↔ lastConnected j conn

/-- Why an iteration that returns returned `r`: its connect gave the connection `r`; or it failed
after the deadline and `r` is `timedOut` of its error; or it failed before the deadline and
`select` took the stop case, ready because the stop channel was closed. -/
def ReturnCause (stopCh : RecvChan) (timedOut : GoError → GoError) (shutdown : GoError)
    (startTime : Nat) (it : Iteration α) : Except GoError α → Prop
  | .ok conn => it.result = .ok conn
  | .error e => ∃ err, it.result = .error err ∧
      (maxConnWaitTime < it.now - startTime ∧ e = timedOut err ∨
        it.now - startTime ≤ maxConnWaitTime ∧ recvReady it.closed stopCh = true ∧ e = shutdown)

section
variable {stopCh : RecvChan} {timedOut : GoError → GoError} {shutdown : GoError}
  {startTime : Nat} {attempts : Nat → Iteration α}

/-! ## One iteration -/

theorem loopBody_eq_none {it : Iteration α}
    (continues : loopBody stopCh timedOut shutdown startTime it = none) :
    (∃ err, it.result = .error err) ∧ it.now - startTime ≤ maxConnWaitTime ∧
      backoffSelect it stopCh = .tick := by
  unfold loopBody at continues
  split at continues
  · cases continues
  · rename_i err failed
    split_ifs at continues with deadline
    split at continues
    · rename_i picked
      exact ⟨⟨err, failed⟩, Nat.le_of_not_lt deadline, picked⟩
    · cases continues

theorem loopBody_returns {it : Iteration α} {r : Except GoError α}
    (returns : loopBody stopCh timedOut shutdown startTime it = some r) (conn : α) :
    r = .ok conn ↔ it.result = .ok conn := by
  cases result : it.result with
  | ok c =>
    simp only [loopBody, result, Option.some.injEq] at returns
    rw [← returns]
  | error err =>
    obtain ⟨e, rfl⟩ : ∃ e, r = .error e := by
      simp only [loopBody, result] at returns
      split_ifs at returns
      · exact ⟨_, (Option.some.inj returns).symm⟩
      · split at returns
        · cases returns
        · exact ⟨_, (Option.some.inj returns).symm⟩
    simp

theorem stop_mem_readyCases {closed : Nat → Bool} :
    SelectCase.stop ∈ readyCases closed stopCh ↔ recvReady closed stopCh = true := by
  unfold readyCases
  split <;> simp_all

theorem loopBody_cause {it : Iteration α} {r : Except GoError α}
    (returns : loopBody stopCh timedOut shutdown startTime it = some r) :
    ReturnCause stopCh timedOut shutdown startTime it r := by
  unfold loopBody at returns
  split at returns
  · rename_i conn connected
    cases returns
    exact connected
  · rename_i err failed
    split_ifs at returns with deadline
    · cases returns
      exact ⟨err, failed, .inl ⟨deadline, rfl⟩⟩
    · split at returns
      · cases returns
      · rename_i picked
        cases returns
        have ready := backoffSelect_mem_readyCases it stopCh
        rw [picked, stop_mem_readyCases] at ready
        exact ⟨err, failed, .inr ⟨Nat.le_of_not_lt deadline, ready, rfl⟩⟩

/-! ## The whole loop -/

theorem connectLoop_earlier {fuel k j : Nat} {r : Except GoError α}
    (returns : connectLoop stopCh timedOut shutdown startTime attempts fuel k = some (j, r)) :
    k ≤ j ∧
      ∀ i, k ≤ i → i < j → loopBody stopCh timedOut shutdown startTime (attempts i) = none := by
  induction fuel generalizing k with
  | zero => cases returns
  | succ fuel ih =>
    simp only [connectLoop] at returns
    split at returns
    · simp only [Option.some.injEq, Prod.mk.injEq] at returns
      obtain ⟨rfl, rfl⟩ := returns
      exact ⟨le_rfl, fun i lo hi => absurd hi (by omega)⟩
    · rename_i continues
      obtain ⟨later, before⟩ := ih returns
      refine ⟨by omega, fun i lo hi => ?_⟩
      rcases Nat.eq_or_lt_of_le lo with rfl | lo
      · exact continues
      · exact before i lo hi

theorem connectLoop_eq_some {fuel k j : Nat} {r : Except GoError α}
    (returns : connectLoop stopCh timedOut shutdown startTime attempts fuel k = some (j, r)) :
    loopBody stopCh timedOut shutdown startTime (attempts j) = some r := by
  induction fuel generalizing k with
  | zero => cases returns
  | succ fuel ih =>
    simp only [connectLoop] at returns
    split at returns
    · rename_i r' body
      simp only [Option.some.injEq, Prod.mk.injEq] at returns
      obtain ⟨rfl, rfl⟩ := returns
      exact body
    · exact ih returns

theorem connectLoop_exit {fuel k j : Nat} {r : Except GoError α}
    (returns : connectLoop stopCh timedOut shutdown startTime attempts fuel k = some (j, r)) :
    (∀ i, k ≤ i → i < j → (∃ err, (attempts i).result = .error err) ∧
        (attempts i).now - startTime ≤ maxConnWaitTime ∧
        backoffSelect (attempts i) stopCh = .tick) ∧
      ReturnCause stopCh timedOut shutdown startTime (attempts j) r :=
  ⟨fun i lo hi => loopBody_eq_none ((connectLoop_earlier returns).2 i lo hi),
    loopBody_cause (connectLoop_eq_some returns)⟩

theorem connectLoop_add {fuel k : Nat} {x : Nat × Except GoError α}
    (returns : connectLoop stopCh timedOut shutdown startTime attempts fuel k = some x) (n : Nat) :
    connectLoop stopCh timedOut shutdown startTime attempts (fuel + n) k = some x := by
  induction fuel generalizing k with
  | zero => cases returns
  | succ fuel ih =>
    rw [Nat.succ_add]
    simp only [connectLoop] at returns ⊢
    cases body : loopBody stopCh timedOut shutdown startTime (attempts k) with
    | some r => simpa [body] using returns
    | none =>
      simp only [body] at returns ⊢
      exact ih returns

theorem connectLoop_of_first {r : Except GoError α} :
    ∀ n k,
      (∀ i, k ≤ i → i < k + n → loopBody stopCh timedOut shutdown startTime (attempts i) = none) →
      loopBody stopCh timedOut shutdown startTime (attempts (k + n)) = some r →
      connectLoop stopCh timedOut shutdown startTime attempts (n + 1) k = some (k + n, r)
  | 0, k, _, last => by simp [connectLoop, (Nat.add_zero k) ▸ last]
  | n + 1, k, before, last => by
    simp only [connectLoop, before k le_rfl (by omega)]
    rw [show k + (n + 1) = k + 1 + n by omega] at last ⊢
    exact connectLoop_of_first n (k + 1) (fun i lo hi => before i (by omega) (by omega)) last

theorem continues_before_deadline (admissible : ClockAdmissible startTime attempts) {k : Nat}
    (continues : loopBody stopCh timedOut shutdown startTime (attempts k) = none) : k ≤ 12 := by
  obtain ⟨-, deadline, -⟩ := loopBody_eq_none continues
  have elapsed := now_ge_of_admissible admissible k
  rw [connBackoff_eq] at elapsed
  rw [maxConnWaitTime_eq] at deadline
  omega

theorem connectLoop_within (admissible : ClockAdmissible startTime attempts) :
    ∀ fuel k, k + fuel = 13 →
      ∃ j r, j ≤ 13 ∧
        connectLoop stopCh timedOut shutdown startTime attempts (fuel + 1) k = some (j, r)
  | fuel, k, left => by
    simp only [connectLoop]
    cases body : loopBody stopCh timedOut shutdown startTime (attempts k) with
    | some r => exact ⟨k, r, by omega, rfl⟩
    | none =>
      have early := continues_before_deadline admissible body
      cases fuel with
      | zero => omega
      | succ fuel => exact connectLoop_within admissible fuel (k + 1) (by omega)

theorem connectLoop_returns (admissible : ClockAdmissible startTime attempts) :
    ReturnsWithin 14 (connectLoop stopCh timedOut shutdown startTime attempts · 0)
      fun j conn => (attempts j).result = .ok conn := by
  obtain ⟨j, r, last, returns⟩ := connectLoop_within admissible 13 0 rfl
  refine ⟨j, r, by omega, fun fuel enough => ?_, loopBody_returns (connectLoop_eq_some returns)⟩
  obtain ⟨n, rfl⟩ := Nat.exists_eq_add_of_le enough
  exact connectLoop_add returns n

end

structure PrestoDB where
  closed : Bool
  deriving DecidableEq, Repr

def prestoConnStr (cfg : Config) : String :=
  "presto://" ++ cfg.prestoHost ++ "/hive/default"

def Chargeback.newPrestoConn (cfg : Config) (stopCh : RecvChan) (startTime : Nat)
    (world : String → Nat → Iteration PrestoDB) (fuel : Nat) :
    Option (Nat × Except GoError PrestoDB) :=
  connectLoop stopCh (.errorf "failed to connect to presto: %v")
    (.errorString "got shutdown signal, closing Presto connection") startTime
    (world (prestoConnStr cfg)) fuel 0

structure HiveConnection where
  id : Nat
  logQueries : Bool
  deriving DecidableEq, Repr

def HiveConnection.setLogQueries (hive : HiveConnection) (logQueries : Bool) : HiveConnection :=
  { hive with logQueries }

structure HiveQueryer where
  hiveHost : String
  logQueries : Bool
  stopCh : RecvChan
  hiveConn : Option HiveConnection
  deriving DecidableEq, Repr

def newHiveQueryer (hiveHost : String) (logQueries : Bool) (stopCh : RecvChan) : HiveQueryer :=
  { hiveHost, logQueries, stopCh := none, hiveConn := none }

def HiveQueryer.newHiveConn (q : HiveQueryer) (startTime : Nat)
    (world : String → Nat → Iteration HiveConnection) (fuel : Nat) :
    Option (Nat × Except GoError HiveConnection) :=
  (connectLoop q.stopCh id (.errorString "got shutdown signal, closing hive connection")
    startTime (world q.hiveHost) fuel 0).map
    fun (k, result) => (k, result.map (·.setLogQueries q.logQueries))

/-! ## Both loops -/

theorem connect_loops_return_within_14_attempts (cfg : Config) (stopCh : RecvChan)
    (q : HiveQueryer) (prestoStart hiveStart : Nat)
    (prestoWorld : String → Nat → Iteration PrestoDB)
    (hiveWorld : String → Nat → Iteration HiveConnection)
    (prestoClock : ClockAdmissible prestoStart (prestoWorld (prestoConnStr cfg)))
    (hiveClock : ClockAdmissible hiveStart (hiveWorld q.hiveHost)) :
    ReturnsWithin 14 (Chargeback.newPrestoConn cfg stopCh prestoStart prestoWorld)
        (fun j db => (prestoWorld (prestoConnStr cfg) j).result = .ok db) ∧
      ReturnsWithin 14 (q.newHiveConn hiveStart hiveWorld)
        fun j hive => ∃ conn, (hiveWorld q.hiveHost j).result = .ok conn ∧
          hive = conn.setLogQueries q.logQueries := by
  refine ⟨connectLoop_returns prestoClock, ?_⟩
  obtain ⟨j, r, last, returns, connected⟩ : ReturnsWithin 14
      (connectLoop q.stopCh id (.errorString "got shutdown signal, closing hive connection")
        hiveStart (hiveWorld q.hiveHost) · 0) _ :=
    connectLoop_returns hiveClock
  refine ⟨j, r.map (·.setLogQueries q.logQueries), last,
    fun fuel enough => by simp [HiveQueryer.newHiveConn, returns fuel enough], fun hive => ?_⟩
  cases r with
  | ok conn =>
    have connectedLast : (hiveWorld q.hiveHost j).result = .ok conn := (connected conn).mp rfl
    simp [Except.map, connectedLast, eq_comm]
  | error err =>
    simp only [Except.map, reduceCtorEq, false_iff, not_exists, not_and]
    exact fun conn result => nomatch (connected conn).mpr result

/-- Every attempt refused, on a clock that ticks exactly `connBackoff` apart. -/
def refusingWorld (stopClosed : Bool) : String → Nat → Iteration α := fun _ k =>
  { result := .error (.opError "dial" (.syscallError "connect" (.errno 111)))
    now := k * connBackoff
    tickAt := (k + 1) * connBackoff
    closed := fun _ => stopClosed
    pick := .stop }

theorem refusingWorld_admissible (stopClosed : Bool) (dsn : String) :
    ClockAdmissible 0 (refusingWorld (α := α) stopClosed dsn) :=
  ⟨Nat.zero_le _, fun k => ⟨by simp [refusingWorld, Nat.succ_mul], le_refl _⟩⟩

theorem connect_loops_return_within_14_attempts_refused :
    let cfg : Config := ⟨"hive:10000", "presto:8080", false, false⟩
    let q := newHiveQueryer cfg.hiveHost cfg.logDDLQueries (some 0)
    (ClockAdmissible 0 (refusingWorld (α := PrestoDB) false (prestoConnStr cfg)) ∧
      ClockAdmissible 0 (refusingWorld (α := HiveConnection) false q.hiveHost)) ∧
    ReturnsWithin 14 (Chargeback.newPrestoConn cfg (some 0) 0 (refusingWorld false))
        (fun j db => (refusingWorld false (prestoConnStr cfg) j).result = .ok db) ∧
      ReturnsWithin 14 (q.newHiveConn 0 (refusingWorld false))
        fun j hive => ∃ conn, (refusingWorld (α := HiveConnection) false q.hiveHost j).result =
          .ok conn ∧ hive = conn.setLogQueries q.logQueries :=
  ⟨⟨refusingWorld_admissible _ _, refusingWorld_admissible _ _⟩,
    connect_loops_return_within_14_attempts _ _ _ 0 0 _ _
      (refusingWorld_admissible _ _) (refusingWorld_admissible _ _)⟩

/-! ## The stop channel of `newHiveConn` -/

theorem loopBody_nil {shutdown : GoError} {startTime : Nat}
    {it : Iteration α} {r : Except GoError α}
    (returns : loopBody none id shutdown startTime it = some r) : r = it.result := by
  unfold loopBody at returns
  split at returns
  · rename_i conn connected
    rw [connected, ← Option.some.inj returns]
  · rename_i err failed
    split_ifs at returns
    · rw [failed, ← Option.some.inj returns]
      rfl
    · rw [backoffSelect_nil] at returns
      cases returns

/-- Whatever its stop channel does, `newHiveConn` of a queryer `newHiveQueryer` made returns only
what the connect of its last attempt returned: a connection, or that attempt's error, never the
shutdown error. -/
theorem newHiveConn_returns_connect_result (hiveHost : String) (logQueries : Bool)
    (stopCh : RecvChan) (startTime : Nat) (world : String → Nat → Iteration HiveConnection)
    {fuel k : Nat} {r : Except GoError HiveConnection}
    (returns : (newHiveQueryer hiveHost logQueries stopCh).newHiveConn startTime world fuel =
      some (k, r)) :
    r = (world hiveHost k).result.map (·.setLogQueries logQueries) := by
  obtain ⟨⟨j, r'⟩, looped, returned⟩ := Option.map_eq_some'.mp returns
  obtain ⟨rfl, rfl⟩ := Prod.mk.inj returned
  rw [loopBody_nil (connectLoop_eq_some looped)]
  rfl

theorem connectLoop_refused (stopCh : RecvChan) {timedOut : GoError → GoError}
    {shutdown : GoError} {stopClosed : Bool} {dsn : String}
    (never : recvReady (fun _ => stopClosed) stopCh = false) :
    connectLoop stopCh timedOut shutdown 0 (refusingWorld (α := α) stopClosed dsn) 14 0 =
      some (13, .error (timedOut (.opError "dial" (.syscallError "connect" (.errno 111))))) := by
  have tick : ∀ k, backoffSelect (refusingWorld (α := α) stopClosed dsn k) stopCh = .tick :=
    fun k => by simp [backoffSelect, readyCases, refusingWorld, never]
  refine connectLoop_of_first 13 0 (fun i _ early => ?_) ?_ <;> unfold loopBody <;>
    simp only [refusingWorld]
  · rw [if_neg (by rw [connBackoff_eq, maxConnWaitTime_eq]; omega)]
    have ticked := tick i
    simp only [refusingWorld] at ticked
    rw [ticked]
  · rw [if_pos (by rw [connBackoff_eq, maxConnWaitTime_eq]; omega)]

theorem newHiveConn_returns_connect_result_refused :
    (newHiveQueryer "hive-server:10000" false (some 0)).newHiveConn 0 (refusingWorld true) 14 =
      some (13, .error (.opError "dial" (.syscallError "connect" (.errno 111)))) ∧
    .error (.opError "dial" (.syscallError "connect" (.errno 111))) =
      (refusingWorld true "hive-server:10000" 13).result.map
        (HiveConnection.setLogQueries · false) :=
  have returns : (newHiveQueryer "hive-server:10000" false (some 0)).newHiveConn 0
      (refusingWorld true) 14 =
        some (13, .error (.opError "dial" (.syscallError "connect" (.errno 111)))) := by
    simp [HiveQueryer.newHiveConn, newHiveQueryer, connectLoop_refused none rfl,
      Except.map]
  ⟨returns, newHiveConn_returns_connect_result _ _ _ 0 _ returns⟩

/-- With the stop channel closed and every attempt refused, `newPrestoConn` returns the shutdown
error at once; the select of `newHiveConn` is on the nil channel, so it keeps connecting until
the deadline. -/
theorem newHiveConn_ignores_stop (cfg : Config) (hiveHost : String) (logQueries : Bool)
    (stopCh : Nat) :
    (∀ closed, SelectCase.stop ∉
      readyCases closed (newHiveQueryer hiveHost logQueries (some stopCh)).stopCh) ∧
    Chargeback.newPrestoConn cfg (some stopCh) 0 (refusingWorld true) 1 =
      some (0, .error (.errorString "got shutdown signal, closing Presto connection")) ∧
    ∀ fuel, 14 ≤ fuel →
      (newHiveQueryer hiveHost logQueries (some stopCh)).newHiveConn 0 (refusingWorld true) fuel =
        some (13, .error (.opError "dial" (.syscallError "connect" (.errno 111)))) := by
  refine ⟨fun closed => by simp [newHiveQueryer, readyCases, recvReady], rfl, fun fuel enough => ?_⟩
  obtain ⟨n, rfl⟩ := Nat.exists_eq_add_of_le enough
  simp [HiveQueryer.newHiveConn, newHiveQueryer,
    connectLoop_add (connectLoop_refused none rfl) n, Except.map]

/-! ## Why the loops return -/

/-- Every return of `newPrestoConn`, however its attempts go: every attempt before the last one
failed before the deadline and took the tick; the last one returned its connection, or its error
wrapped after the deadline, or the shutdown error because the stop channel was closed before the
deadline. -/
theorem newPrestoConn_returns (cfg : Config) (stopCh : RecvChan) (startTime : Nat)
    (world : String → Nat → Iteration PrestoDB) {fuel j : Nat} {r : Except GoError PrestoDB}
    (returns : Chargeback.newPrestoConn cfg stopCh startTime world fuel = some (j, r)) :
    (∀ i < j, (∃ err, (world (prestoConnStr cfg) i).result = .error err) ∧
        (world (prestoConnStr cfg) i).now - startTime ≤ maxConnWaitTime ∧
        backoffSelect (world (prestoConnStr cfg) i) stopCh = .tick) ∧
      ReturnCause stopCh (.errorf "failed to connect to presto: %v")
        (.errorString "got shutdown signal, closing Presto connection") startTime
        (world (prestoConnStr cfg) j) r :=
  have exit := connectLoop_exit returns
  ⟨fun i early => exit.1 i (Nat.zero_le i) early, exit.2⟩

theorem newPrestoConn_returns_refused :
    let cfg : Config := ⟨"hive:10000", "presto:8080", false, false⟩
    Chargeback.newPrestoConn cfg (some 0) 0 (refusingWorld false) 14 =
      some (13, .error (.errorf "failed to connect to presto: %v"
        (.opError "dial" (.syscallError "connect" (.errno 111))))) ∧
    (∀ i < 13, (∃ err, (refusingWorld (α := PrestoDB) false (prestoConnStr cfg) i).result =
          .error err) ∧
        (refusingWorld (α := PrestoDB) false (prestoConnStr cfg) i).now - 0 ≤ maxConnWaitTime ∧
        backoffSelect (refusingWorld (α := PrestoDB) false (prestoConnStr cfg) i) (some 0) =
          .tick) ∧
      ReturnCause (some 0) (.errorf "failed to connect to presto: %v")
        (.errorString "got shutdown signal, closing Presto connection") 0
        (refusingWorld (α := PrestoDB) false (prestoConnStr cfg) 13)
        (.error (.errorf "failed to connect to presto: %v"
          (.opError "dial" (.syscallError "connect" (.errno 111))))) :=
  have returns : Chargeback.newPrestoConn ⟨"hive:10000", "presto:8080", false, false⟩ (some 0) 0
      (refusingWorld false) 14 =
        some (13, .error (.errorf "failed to connect to presto: %v"
          (.opError "dial" (.syscallError "connect" (.errno 111))))) :=
    connectLoop_refused _ rfl
  ⟨returns, newPrestoConn_returns _ (some 0) 0 _ returns⟩

/-- `newHiveConn` of a queryer `newHiveQueryer` made stops at the first attempt that connects or
that fails after the deadline: every attempt before it failed before the deadline. -/
theorem newHiveConn_exit (hiveHost : String) (logQueries : Bool) (stopCh : RecvChan)
    (startTime : Nat) (world : String → Nat → Iteration HiveConnection) {fuel k : Nat}
    {r : Except GoError HiveConnection}
    (returns : (newHiveQueryer hiveHost logQueries stopCh).newHiveConn startTime world fuel =
      some (k, r)) :
    (∀ i < k, (∃ err, (world hiveHost i).result = .error err) ∧
        (world hiveHost i).now - startTime ≤ maxConnWaitTime) ∧
      ((∃ conn, (world hiveHost k).result = .ok conn) ∨
        ∃ err, (world hiveHost k).result = .error err ∧
          maxConnWaitTime < (world hiveHost k).now - startTime) := by
  obtain ⟨⟨j, r'⟩, looped, returned⟩ := Option.map_eq_some'.mp returns
  obtain ⟨rfl, -⟩ := Prod.mk.inj returned
  obtain ⟨earlier, cause⟩ := connectLoop_exit looped
  refine ⟨fun i early => (earlier i (Nat.zero_le i) early).imp_right And.left, ?_⟩
  cases r' with
  | ok conn => exact .inl ⟨conn, cause⟩
  | error e =>
    obtain ⟨err, failed, ⟨late, -⟩ | ⟨-, ready, -⟩⟩ := cause
    · exact .inr ⟨err, failed, late⟩
    · cases ready

theorem newHiveConn_exit_refused :
    (newHiveQueryer "hive-server:10000" false (some 0)).newHiveConn 0 (refusingWorld true) 14 =
      some (13, .error (.opError "dial" (.syscallError "connect" (.errno 111)))) ∧
    (∀ i < 13, (∃ err, (refusingWorld (α := HiveConnection) true "hive-server:10000" i).result =
          .error err) ∧
        (refusingWorld (α := HiveConnection) true "hive-server:10000" i).now - 0 ≤
          maxConnWaitTime) ∧
      ((∃ conn, (refusingWorld (α := HiveConnection) true "hive-server:10000" 13).result =
          .ok conn) ∨
        ∃ err, (refusingWorld (α := HiveConnection) true "hive-server:10000" 13).result =
          .error err ∧
          maxConnWaitTime <
            (refusingWorld (α := HiveConnection) true "hive-server:10000" 13).now - 0) :=
  have returns : (newHiveQueryer "hive-server:10000" false (some 0)).newHiveConn 0
      (refusingWorld true) 14 =
        some (13, .error (.opError "dial" (.syscallError "connect" (.errno 111)))) := by
    simp [HiveQueryer.newHiveConn, newHiveQueryer, connectLoop_refused none rfl,
      Except.map]
  ⟨returns, newHiveConn_exit _ _ _ 0 _ returns⟩

end Metering
