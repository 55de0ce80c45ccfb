import Metering.Connect
import Mathlib.Data.List.Chain

/-!
# The Hive client

`hiveQueryer.getHiveConnection`, `closeHiveConnection` and `Query` for one caller. A
`HiveClient` is the `hiveQueryer` together with what it did to the endpoint: the connects
(`newHiveConn` calls), the queries and the closes, oldest first.
-/

namespace Metering

/-- What the client did to the endpoint: a `newHiveConn` call of `getHiveConnection`, a
`hiveConn.Query(query)`, or a `closeHiveConnection` with the connection it found. -/
inductive HiveEvent where
  | connect (result : Except GoError HiveConnection)
  | query (conn : HiveConnection) (text : String) (result : Except GoError Unit)
  | close (conn : Option HiveConnection)
  deriving DecidableEq, Repr

namespace HiveEvent

def isQuery : HiveEvent → Bool
  | .query .. => true
  | _ => false

def isClose : HiveEvent → Bool
  | .close _ => true
  | _ => false

def isConnect : HiveEvent → Bool
  | .connect _ => true
  | _ => false

def failedTransiently : HiveEvent → Bool
  | .connect (.error err) => reconnects err
  | .query _ _ (.error err) => reconnects err
  | _ => false

def queryResult : HiveEvent → Option (Except GoError Unit)
  | .query _ _ result => some result
  | _ => none

def queryResultOn (conn : HiveConnection) : HiveEvent → Option (Except GoError Unit)
  | .query c _ result => if c = conn then some result else none
  | _ => none

end HiveEvent

def lastQueryResult (log : List HiveEvent) : Option (Except GoError Unit) :=
  (log.filterMap HiveEvent.queryResult).getLast?

def lastQueryOn (conn : HiveConnection) (log : List HiveEvent) : Option (Except GoError Unit) :=
  (log.filterMap (HiveEvent.queryResultOn conn)).getLast?

/-- Adjacent events of one call: a close comes only after a failure `Query` reconnects on or
after the close that followed one, and a connect only right after a close. -/
def CloseOrder (a b : HiveEvent) : Prop :=
  (b.isClose = true → a.failedTransiently = true ∨ a.isClose = true) ∧
    (b.isConnect = true → a.isClose = true)

/-- What a run of `Query`'s loop with `attempts` attempts did: starting with `start` as
`hiveConn`, it made `events`, left `hiveConn` and returned `err`. -/
structure CallContract (query : String) (attempts : Nat) (start : Option HiveConnection)
    (events : List HiveEvent) (hiveConn : Option HiveConnection) (err : Option GoError) : Prop where
  sends_at_most : events.countP HiveEvent.isQuery ≤ attempts
  closes_in_order : events.Chain' CloseOrder
  opens_with_attempt : 0 < attempts → ∀ e ∈ events.head?, e.isClose = false
  connects_unconnected : ∀ r, events.head? = some (.connect r) → start = none
  connect_error_returned : ∀ e, .connect (.error e) ∈ events → reconnects e = false →
    events.getLast? = some (.connect (.error e)) ∧ err = some e ∧ hiveConn = none
  query_error_returned : ∀ c e, .query c query (.error e) ∈ events → reconnects e = false →
    events.getLast? = some (.query c query (.error e)) ∧ err = some e ∧ hiveConn = some c
  nil_iff_last_query_ok : err = none ↔ lastQueryResult events = some (.ok ())
  gives_up_without_connection :
    events.countP HiveEvent.failedTransiently = attempts → hiveConn = none
  ends_healthy : ∀ c, hiveConn = some c →
    ∃ r, events.getLast? = some (.query c query r) ∧ ∀ e, r = .error e → reconnects e = false

structure HiveClient where
  queryer : HiveQueryer
  log : List HiveEvent
  deriving DecidableEq, Repr

/-- What the endpoint answers in one `Query` call, by the number of retries before the attempt:
what `newHiveConn` returns if it is called, and what the query returns. -/
structure HiveEndpoint where
  connect : Nat → Except GoError Unit
  query : Nat → Except GoError Unit

namespace HiveClient

def hiveConn (s : HiveClient) : Option HiveConnection := s.queryer.hiveConn

def connects (s : HiveClient) : Nat := s.log.countP HiveEvent.isConnect

def getHiveConnection (s : HiveClient) (connect : Except GoError Unit) :
    HiveClient × Except GoError HiveConnection :=
  match s.queryer.hiveConn with
  | some hiveConn => (s, .ok hiveConn)
  | none =>
    let result := connect.map fun () => ⟨s.connects, s.queryer.logQueries⟩
    ({ queryer := { s.queryer with hiveConn := result.toOption }
       log := s.log ++ [.connect result] }, result)

def closeHiveConnection (s : HiveClient) : HiveClient :=
  { s with
    queryer := { s.queryer with hiveConn := none }
    log := s.log ++ [.close s.queryer.hiveConn] }

def send (s : HiveClient) (hiveConn : HiveConnection) (query : String)
    (result : Except GoError Unit) : HiveClient :=
  { s with log := s.log ++ [.query hiveConn query result] }

inductive Attempt where
  | returns (s : HiveClient) (err : Option GoError)
  | retry (s : HiveClient)

def attempt (s : HiveClient) (ep : HiveEndpoint) (query : String) (retries : Nat) : Attempt :=
  match s.getHiveConnection (ep.connect retries) with
  | (s, .error err) =>
    if reconnects err then .retry s.closeHiveConnection else .returns s (some err)
  | (s, .ok hiveConn) =>
    match ep.query retries with
    | .error err =>
      if reconnects err then .retry (s.send hiveConn query (.error err)).closeHiveConnection
      else .returns (s.send hiveConn query (.error err)) (some err)
    | .ok () => .returns (s.send hiveConn query (.ok ())) none

def maxRetries : Nat := 3

def errRetriesExhausted : GoError :=
  .errorString "unable to create new hive connection after existing hive connection closed"

def queryFrom (ep : HiveEndpoint) (query : String) (retries : Nat) :
    Nat → HiveClient → HiveClient × Option GoError
  | 0, s => (s.closeHiveConnection, some errRetriesExhausted)
  | left + 1, s =>
    match s.attempt ep query retries with
    | .returns s err => (s, err)
    | .retry s => queryFrom ep query (retries + 1) left s

def query (s : HiveClient) (ep : HiveEndpoint) (query : String) : HiveClient × Option GoError :=
  queryFrom ep query 0 maxRetries s

/-! ## One attempt -/

@[simp] theorem closeHiveConnection_hiveConn (s : HiveClient) :
    s.closeHiveConnection.hiveConn = none := rfl

@[simp] theorem closeHiveConnection_log (s : HiveClient) :
    s.closeHiveConnection.log = s.log ++ [.close s.hiveConn] := rfl

@[simp] theorem send_hiveConn (s : HiveClient) (c : HiveConnection) (query : String)
    (result : Except GoError Unit) : (s.send c query result).hiveConn = s.hiveConn := rfl

@[simp] theorem send_log (s : HiveClient) (c : HiveConnection) (query : String)
    (result : Except GoError Unit) :
    (s.send c query result).log = s.log ++ [.query c query result] := rfl

theorem getHiveConnection_cases {s s₁ : HiveClient} {connect : Except GoError Unit}
    {r : Except GoError HiveConnection} (got : s.getHiveConnection connect = (s₁, r)) :
    (∃ c, r = .ok c ∧ s₁.hiveConn = some c ∧
      (s₁ = s ∨ s₁.log = s.log ++ [.connect (.ok c)] ∧ s.hiveConn = none ∧ c.id = s.connects)) ∨
    ∃ err, r = .error err ∧ s₁.hiveConn = none ∧ s₁.log = s.log ++ [.connect (.error err)] ∧
      s.hiveConn = none := by
  unfold getHiveConnection at got
  split at got
  · rename_i c held
    simp only [Prod.mk.injEq] at got
    obtain ⟨rfl, rfl⟩ := got
    exact .inl ⟨c, rfl, held, .inl rfl⟩
  · rename_i held
    simp only [Prod.mk.injEq] at got
    obtain ⟨rfl, rfl⟩ := got
    cases connect with
    | ok u => exact .inl ⟨_, rfl, rfl, .inr ⟨rfl, held, rfl⟩⟩
    | error err => exact .inr ⟨err, rfl, rfl, rfl, held⟩

/-- What `getHiveConnection` did before returning `c`: nothing, as `s` held `c`, or the connect
that opened it. -/
def Opened (s : HiveClient) (c : HiveConnection) (pre : List HiveEvent) : Prop :=
  pre = [] ∧ s.hiveConn = some c ∨ pre = [.connect (.ok c)] ∧ s.hiveConn = none ∧ c.id = s.connects

/-- A pass of the loop body that returns: a failed connect, or a query on the connection it then
holds; `err` is nil or an error `Query` does not reconnect on. -/
def Returned (s : HiveClient) (query : String) (events : List HiveEvent)
    (hiveConn : Option HiveConnection) (err : Option GoError) : Prop :=
  (∃ e, events = [.connect (.error e)] ∧ s.hiveConn = none ∧ hiveConn = none ∧ err = some e ∧
    reconnects e = false) ∨
  ∃ c pre r, Opened s c pre ∧ events = pre ++ [.query c query r] ∧ hiveConn = some c ∧
    (r = .ok () ∧ err = none ∨ ∃ e, r = .error e ∧ err = some e ∧ reconnects e = false)

def Retried (s : HiveClient) (query : String) (events : List HiveEvent)
    (hiveConn : Option HiveConnection) : Prop :=
  hiveConn = none ∧
  ((∃ e, events = [.connect (.error e), .close none] ∧ s.hiveConn = none ∧ reconnects e = true) ∨
    ∃ c pre e, Opened s c pre ∧ events = pre ++ [.query c query (.error e), .close (some c)] ∧
      reconnects e = true)

theorem attempt_spec (s : HiveClient) (ep : HiveEndpoint) (query : String) (retries : Nat) :
    match s.attempt ep query retries with
    | .returns s' err =>
      ∃ events, s'.log = s.log ++ events ∧ Returned s query events s'.hiveConn err
    | .retry s' => ∃ events, s'.log = s.log ++ events ∧ Retried s query events s'.hiveConn := by
  unfold attempt
  generalize got : s.getHiveConnection (ep.connect retries) = pair
  obtain ⟨s₁, r⟩ := pair
  rcases getHiveConnection_cases got with ⟨c, rfl, held, opened⟩ | ⟨e, rfl, held, log₁, was⟩
  · obtain ⟨pre, log₁, opened⟩ : ∃ pre, s₁.log = s.log ++ pre ∧ Opened s c pre := by
      rcases opened with rfl | ⟨log₁, was, named⟩
      · exact ⟨[], by simp, .inl ⟨rfl, held⟩⟩
      · exact ⟨_, log₁, .inr ⟨rfl, was, named⟩⟩
    cases result : ep.query retries with
    | ok u => exact ⟨_, by simp [log₁], .inr ⟨c, pre, .ok (), opened, rfl, held, .inl ⟨rfl, rfl⟩⟩⟩
    | error e =>
      dsimp only
      split_ifs with transient
      · exact ⟨_, by simp [log₁, held], rfl, .inr ⟨c, pre, e, opened, rfl, transient⟩⟩
      · exact ⟨_, by simp [log₁],
          .inr ⟨c, pre, .error e, opened, rfl, held, .inr ⟨e, rfl, rfl, by simpa using transient⟩⟩⟩
  · dsimp only
    split_ifs with transient
    · exact ⟨_, by simp [log₁, held], rfl, .inl ⟨e, rfl, was, transient⟩⟩
    · exact ⟨_, log₁, .inl ⟨e, rfl, was, held, rfl, by simpa using transient⟩⟩

/-! ## The contract of one call -/

theorem lastQueryResult_append (a b : List HiveEvent) :
    lastQueryResult (a ++ b) = (lastQueryResult b).or (lastQueryResult a) := by
  simp [lastQueryResult, List.filterMap_append, List.getLast?_append]

theorem Opened.facts {s : HiveClient} {c : HiveConnection} {pre : List HiveEvent}
    (opened : Opened s c pre) (query : String) (r : Except GoError Unit) :
    pre.countP HiveEvent.isQuery = 0 ∧ pre.countP HiveEvent.failedTransiently = 0 ∧
      lastQueryResult pre = none ∧ (∀ e, .connect (.error e) ∉ pre) ∧
      (pre ++ [HiveEvent.query c query r]).Chain' CloseOrder ∧
      ∀ e ∈ (pre ++ [HiveEvent.query c query r]).head?,
        e.isClose = false ∧ ∀ r', e = .connect r' → s.hiveConn = none := by
  rcases opened with ⟨rfl, -⟩ | ⟨rfl, was, -⟩ <;>
    simp [lastQueryResult, CloseOrder, HiveEvent.isQuery, HiveEvent.isClose, HiveEvent.isConnect,
      HiveEvent.failedTransiently, HiveEvent.queryResult, *]

theorem Returned.contract {s : HiveClient} {query : String} {events : List HiveEvent}
    {hiveConn : Option HiveConnection} {err : Option GoError} {attempts : Nat}
    (positive : 0 < attempts)
    (returned : Returned s query events hiveConn err) :
    events ≠ [] ∧ CallContract query attempts s.hiveConn events hiveConn err ∧
      events.countP HiveEvent.failedTransiently = 0 := by
  rcases returned with ⟨e, rfl, was, rfl, rfl, stays⟩ | ⟨c, pre, r, opened, rfl, rfl, result⟩
  · -- a connect failed with an error `Query` does not reconnect on
    refine ⟨List.cons_ne_nil _ _,
      { sends_at_most := by simp [HiveEvent.isQuery]
        closes_in_order := List.chain'_singleton _
        opens_with_attempt := fun _ => by simp [HiveEvent.isClose]
        connects_unconnected := fun _ _ => was
        connect_error_returned := fun e' mem _ => by simp_all
        query_error_returned := fun _ _ mem => by simp at mem
        nil_iff_last_query_ok := by simp [lastQueryResult, HiveEvent.queryResult]
        gives_up_without_connection := fun _ => rfl
        ends_healthy := nofun }, by simp [HiveEvent.failedTransiently, stays]⟩
  · -- a query on the connection `getHiveConnection` returned, with its result
    obtain ⟨noQuery, noTransient, noResult, noConnectError, chain, head⟩ := opened.facts query r
    have settled : (HiveEvent.query c query r).failedTransiently = false := by
      rcases result with ⟨rfl, -⟩ | ⟨e, rfl, -, stays⟩ <;> simp [HiveEvent.failedTransiently, *]
    have last : (pre ++ [HiveEvent.query c query r]).getLast? = some (.query c query r) := by simp
    have transient :
        (pre ++ [HiveEvent.query c query r]).countP HiveEvent.failedTransiently = 0 := by
      simp [List.countP_append, noTransient, settled]
    refine ⟨by simp,
      { sends_at_most := by simp [List.countP_append, noQuery, HiveEvent.isQuery]; omega
        closes_in_order := chain
        opens_with_attempt := fun _ e mem => (head e mem).1
        connects_unconnected := fun r' first => (head _ first).2 r' rfl
        connect_error_returned := fun e mem _ => by simp_all
        query_error_returned := fun c' e mem stays => ?_
        nil_iff_last_query_ok := ?_
        gives_up_without_connection := fun all => by omega
        ends_healthy := fun c' held => ?_ }, transient⟩
    · have queried : HiveEvent.query c' query (.error e) = .query c query r := by
        rcases List.mem_append.mp mem with early | now
        · exact absurd (List.countP_eq_zero.mp noQuery _ early) (by simp [HiveEvent.isQuery])
        · simpa using now
      cases queried
      rcases result with ⟨⟨⟩, -⟩ | ⟨e', ⟨⟩, rfl, -⟩
      exact ⟨last, rfl, rfl⟩
    · rcases result with ⟨rfl, rfl⟩ | ⟨e, rfl, rfl, -⟩ <;>
        simp [lastQueryResult_append, noResult, lastQueryResult, HiveEvent.queryResult]
    · cases held
      exact ⟨r, last, fun e failed => by
        rcases result with ⟨rfl, -⟩ | ⟨e', rfl, -, stays⟩ <;> simp_all⟩

theorem Retried.facts {s : HiveClient} {query : String} {events : List HiveEvent}
    {hiveConn : Option HiveConnection} (retried : Retried s query events hiveConn) :
    events.countP HiveEvent.isQuery ≤ 1 ∧ events.Chain' CloseOrder ∧
      (∃ e, events.head? = some e ∧ e.isClose = false ∧ ∀ r, e = .connect r → s.hiveConn = none) ∧
      (∀ e, .connect (.error e) ∈ events → reconnects e = true) ∧
      (∀ c e, .query c query (.error e) ∈ events → reconnects e = true) ∧
      lastQueryResult events ≠ some (.ok ()) ∧
      events.countP HiveEvent.failedTransiently = 1 ∧
      ∃ c, events.getLast? = some (.close c) := by
  obtain ⟨-, ⟨e, rfl, was, transient⟩ |
    ⟨c, pre, e, ⟨rfl, held⟩ | ⟨rfl, held, named⟩, rfl, transient⟩⟩ := retried <;>
    simp_all [lastQueryResult, CloseOrder, HiveEvent.isQuery, HiveEvent.isClose,
      HiveEvent.isConnect, HiveEvent.failedTransiently, HiveEvent.queryResult]

theorem Retried.contract {s : HiveClient} {query : String} {events rest : List HiveEvent}
    {hiveConn hiveConn' : Option HiveConnection} {err : Option GoError} {left : Nat}
    (retried : Retried s query events hiveConn)
    (restContract : CallContract query left hiveConn rest hiveConn' err) (restMade : rest ≠ []) :
    CallContract query (left + 1) s.hiveConn (events ++ rest) hiveConn' err := by
  obtain ⟨sends, chain, ⟨first, head, notClose, unconnected⟩, connectsRetried, queriesRetried,
    notOk, failedOnce, closed, lastClose⟩ := retried.facts
  have headOf : (events ++ rest).head? = some first := by simp [List.head?_append, head]
  have lastOf : (events ++ rest).getLast? = rest.getLast? := by
    obtain ⟨x, hx⟩ := Option.ne_none_iff_exists'.mp (mt List.getLast?_eq_none_iff.mp restMade)
    simp [List.getLast?_append, hx]
  refine
    { sends_at_most := ?sends, closes_in_order := ?chain, opens_with_attempt := ?opens
      connects_unconnected := ?unconnected, connect_error_returned := ?connectError
      query_error_returned := ?queryError, nil_iff_last_query_ok := ?nil
      gives_up_without_connection := ?givesUp, ends_healthy := ?healthy }
  case sends =>
    have := restContract.sends_at_most
    simp only [List.countP_append]
    omega
  case chain =>
    refine chain.append restContract.closes_in_order fun x hx y _ => ?_
    rw [lastClose] at hx
    cases hx
    exact ⟨fun _ => .inr rfl, fun _ => rfl⟩
  case opens => simpa [headOf] using notClose
  case unconnected =>
    intro r hr
    rw [headOf] at hr
    exact unconnected r (Option.some.inj hr)
  case connectError =>
    intro e mem stays
    rcases List.mem_append.mp mem with mem | mem
    · simp [connectsRetried e mem] at stays
    · rw [lastOf]
      exact restContract.connect_error_returned e mem stays
  case queryError =>
    intro c e mem stays
    rcases List.mem_append.mp mem with mem | mem
    · simp [queriesRetried c e mem] at stays
    · rw [lastOf]
      exact restContract.query_error_returned c e mem stays
  case nil =>
    rw [restContract.nil_iff_last_query_ok, lastQueryResult_append]
    cases lastQueryResult rest <;> simp [notOk]
  case givesUp =>
    intro failures
    simp only [List.countP_append, failedOnce] at failures
    exact restContract.gives_up_without_connection (by omega)
  case healthy =>
    intro c held
    rw [lastOf]
    exact restContract.ends_healthy c held

theorem queryFrom_contract (ep : HiveEndpoint) (query : String) :
    ∀ left retries (s : HiveClient), ∃ events,
      (queryFrom ep query retries left s).1.log = s.log ++ events ∧ events ≠ [] ∧
      CallContract query left s.hiveConn events (queryFrom ep query retries left s).1.hiveConn
        (queryFrom ep query retries left s).2
  | 0, retries, s => ⟨[.close s.hiveConn], rfl, by simp, by
      constructor <;>
        simp [lastQueryResult, HiveEvent.isQuery, HiveEvent.failedTransiently,
          HiveEvent.queryResult, queryFrom]⟩
  | left + 1, retries, s => by
    have spec := attempt_spec s ep query retries
    simp only [queryFrom]
    split
    · rename_i s' err pass
      rw [pass] at spec
      obtain ⟨events, log, returned⟩ := spec
      obtain ⟨made, contract, -⟩ := returned.contract (Nat.succ_pos left)
      exact ⟨events, log, made, contract⟩
    · rename_i s' pass
      rw [pass] at spec
      obtain ⟨events, log, retried⟩ := spec
      obtain ⟨rest, restLog, restMade, restContract⟩ :=
        queryFrom_contract ep query left (retries + 1) s'
      exact ⟨events ++ rest, by simp [restLog, log], by simp [restMade],
        retried.contract restContract restMade⟩

/-! ## Between calls -/

/-- Every connection `s` holds or has queried was named before `s.connects`. -/
def Fresh (s : HiveClient) : Prop :=
  (∀ c, s.hiveConn = some c → c.id < s.connects) ∧
    ∀ c q r, .query c q r ∈ s.log → c.id < s.connects

/-- `hiveConn` is nil or a connection whose most recent query did not fail with an error
`Query` reconnects on. -/
def Healthy (s : HiveClient) : Prop :=
  ∀ c, s.hiveConn = some c → ∀ e, lastQueryOn c s.log = some (.error e) → reconnects e = false

theorem connects_of_log {s s' : HiveClient} {events : List HiveEvent}
    (log : s'.log = s.log ++ events) :
    s'.connects = s.connects + events.countP HiveEvent.isConnect := by
  simp [connects, log, List.countP_append]

theorem lastQueryOn_of_getLast {log events : List HiveEvent} {c : HiveConnection} {query : String}
    {r : Except GoError Unit} (last : events.getLast? = some (.query c query r)) :
    lastQueryOn c (log ++ events) = some r := by
  obtain ⟨front, rfl⟩ := List.getLast?_eq_some_iff.mp last
  simp [lastQueryOn, List.filterMap_append, List.getLast?_append, HiveEvent.queryResultOn]

theorem Fresh.of_log {s s' : HiveClient} {events : List HiveEvent} (fresh : Fresh s)
    (log : s'.log = s.log ++ events)
    (queried : ∀ c q r, .query c q r ∈ events → c.id < s'.connects)
    (held : ∀ c, s'.hiveConn = some c → c.id < s'.connects) : Fresh s' := by
  refine ⟨held, fun c q r mem => ?_⟩
  rw [log] at mem
  rcases List.mem_append.mp mem with old | new
  · have := fresh.2 c q r old
    rw [connects_of_log log]
    omega
  · exact queried c q r new

theorem Opened.fresh {s : HiveClient} {c : HiveConnection} {pre : List HiveEvent}
    (fresh : Fresh s) (opened : Opened s c pre) :
    c.id < s.connects + pre.countP HiveEvent.isConnect := by
  rcases opened with ⟨rfl, held⟩ | ⟨rfl, -, named⟩
  · simpa using fresh.1 c held
  · simp [named, HiveEvent.isConnect]

theorem attempt_fresh {s : HiveClient} (fresh : Fresh s) (ep : HiveEndpoint) (query : String)
    (retries : Nat) :
    match s.attempt ep query retries with
    | .returns s' _ => Fresh s'
    | .retry s' => Fresh s' := by
  have spec := attempt_spec s ep query retries
  split <;> rename_i pass <;> rw [pass] at spec <;> obtain ⟨events, log, spec⟩ := spec
  · refine fresh.of_log log ?_ ?_ <;> rw [connects_of_log log]
    · rcases spec with ⟨e, rfl, -⟩ | ⟨c, pre, r, opened, rfl, -, -⟩
      · simp
      · have := opened.fresh fresh
        rcases opened with ⟨rfl, -⟩ | ⟨rfl, -⟩ <;> simp_all [HiveEvent.isConnect]
    · rcases spec with ⟨e, -, -, held, -⟩ | ⟨c, pre, r, opened, rfl, held, -⟩ <;> rw [held]
      · simp
      · have := opened.fresh fresh
        rcases opened with ⟨rfl, -⟩ | ⟨rfl, -⟩ <;> simp_all [HiveEvent.isConnect]
  · refine fresh.of_log log ?_ (by simp [spec.1])
    rw [connects_of_log log]
    rcases spec.2 with ⟨e, rfl, -⟩ | ⟨c, pre, e, opened, rfl, -⟩
    · simp
    · have := opened.fresh fresh
      rcases opened with ⟨rfl, -⟩ | ⟨rfl, -⟩ <;> simp_all [HiveEvent.isConnect]

theorem queryFrom_fresh (ep : HiveEndpoint) (query : String) :
    ∀ left retries (s : HiveClient), Fresh s → Fresh (queryFrom ep query retries left s).1
  | 0, retries, s, fresh => fresh.of_log rfl (by simp) (by simp [queryFrom])
  | left + 1, retries, s, fresh => by
    have pass := attempt_fresh fresh ep query retries
    simp only [queryFrom]
    split <;> rename_i outcome <;> rw [outcome] at pass
    · exact pass
    · exact queryFrom_fresh ep query left (retries + 1) _ pass

theorem mem_of_lastQueryOn {c : HiveConnection} {log : List HiveEvent} {r : Except GoError Unit}
    (last : lastQueryOn c log = some r) : ∃ q, .query c q r ∈ log := by
  obtain ⟨e, mem, found⟩ := List.mem_filterMap.mp (List.mem_of_getLast?_eq_some last)
  cases e with
  | query c' q r' =>
    simp only [HiveEvent.queryResultOn, Option.ite_none_right_eq_some, Option.some.injEq] at found
    obtain ⟨rfl, rfl⟩ := found
    exact ⟨q, mem⟩
  | connect _ | close _ => cases found

theorem getHiveConnection_invariant {s : HiveClient} (fresh : Fresh s) (healthy : Healthy s)
    (connect : Except GoError Unit) :
    Fresh (s.getHiveConnection connect).1 ∧ Healthy (s.getHiveConnection connect).1 := by
  generalize got : s.getHiveConnection connect = pair
  obtain ⟨s₁, r⟩ := pair
  rcases getHiveConnection_cases got with ⟨c, -, held, rfl | ⟨log, -, named⟩⟩ | ⟨e, -, held, log, -⟩
  · exact ⟨fresh, healthy⟩
  · have connects := connects_of_log log
    simp only [List.countP_singleton, HiveEvent.isConnect, ite_true] at connects
    refine ⟨fresh.of_log log (by simp) (by simp [held, named, connects]), fun c' held' e last => ?_⟩
    rw [held, Option.some.injEq] at held'
    subst held'
    obtain ⟨q, mem⟩ := mem_of_lastQueryOn last
    rw [log] at mem
    have := fresh.2 c q _ (by simpa using mem)
    omega
  · exact ⟨fresh.of_log log (by simp) (by simp [held]), by simp [Healthy, held]⟩

/-- The states between calls: a `hiveQueryer` from `newHiveQueryer`, then any sequence of
`getHiveConnection` calls (as `Run` makes) and `Query` calls. -/
inductive Reachable : HiveClient → Prop
  | init (hiveHost : String) (logQueries : Bool) (stopCh : RecvChan) :
      Reachable ⟨newHiveQueryer hiveHost logQueries stopCh, []⟩
  | getHiveConnection {s : HiveClient} (connect : Except GoError Unit) :
      Reachable s → Reachable (s.getHiveConnection connect).1
  | query {s : HiveClient} (ep : HiveEndpoint) (query : String) :
      Reachable s → Reachable (s.query ep query).1

theorem Reachable.invariant {s : HiveClient} (reachable : Reachable s) : Fresh s ∧ Healthy s := by
  induction reachable with
  | init =>
    exact ⟨⟨by simp [hiveConn, newHiveQueryer], by simp⟩,
      by simp [Healthy, hiveConn, newHiveQueryer]⟩
  | getHiveConnection connect _ ih => exact getHiveConnection_invariant ih.1 ih.2 connect
  | @query s ep query _ ih =>
    refine ⟨queryFrom_fresh ep query maxRetries 0 s ih.1, fun c held e last => ?_⟩
    unfold HiveClient.query at held last
    obtain ⟨events, log, -, contract⟩ := queryFrom_contract ep query maxRetries 0 s
    obtain ⟨r, lastEvent, stays⟩ := contract.ends_healthy c held
    rw [log, lastQueryOn_of_getLast lastEvent, Option.some.injEq] at last
    exact stays e last

/-- Every call sends its query at most `maxRetries` times, closes the connection only after a
failure it reconnects on and before every reconnect, returns other failures unchanged, returns
nil exactly when its last query succeeded, and gives up with no connection; between calls
`hiveConn` is nil or a connection whose last query did not fail with `io.EOF` or a broken pipe. -/
theorem query_contract {s : HiveClient} (reachable : Reachable s) (ep : HiveEndpoint)
    (query : String) :
    Healthy s ∧ ∃ events, (s.query ep query).1.log = s.log ++ events ∧
      CallContract query maxRetries s.hiveConn events (s.query ep query).1.hiveConn
        (s.query ep query).2 := by
  obtain ⟨events, log, -, contract⟩ := queryFrom_contract ep query maxRetries 0 s
  exact ⟨reachable.invariant.2, events, log, contract⟩

theorem query_contract_after_run_connects :
    let s := (HiveClient.mk (newHiveQueryer "hive-server:10000" false (some 0))
      []).getHiveConnection (.ok ()) |>.1
    let ep : HiveEndpoint :=
      ⟨fun _ => .ok (), fun retries => if retries = 0 then .error .eof else .ok ()⟩
    Reachable s ∧ Healthy s ∧ ∃ events, (s.query ep "SHOW TABLES").1.log = s.log ++ events ∧
      CallContract "SHOW TABLES" maxRetries s.hiveConn events (s.query ep "SHOW TABLES").1.hiveConn
        (s.query ep "SHOW TABLES").2 :=
  have reachable := Reachable.getHiveConnection (.ok ()) (.init "hive-server:10000" false (some 0))
  ⟨reachable, query_contract reachable _ _⟩

/-! ## A broken pipe as the net package reports it -/

/-- `&net.OpError{Op: "write", Err: &os.SyscallError{Syscall: "write", Err: syscall.EPIPE}}`. -/
def brokenPipeWrite : GoError := .opError "write" (.syscallError "write" EPIPE)

/-- The error Go's net package returns for a write to a broken socket wraps `EPIPE`, but
`isErrBrokenPipe` rejects it, so `Query` returns it at once and keeps the connection, although a
new connection would have answered. -/
theorem query_returns_wrapped_broken_pipe (queryer : HiveQueryer) (log : List HiveEvent)
    (c : HiveConnection) (connect : Nat → Except GoError Unit) (query : String) :
    let s : HiveClient := ⟨{ queryer with hiveConn := some c }, log⟩
    let ep : HiveEndpoint :=
      ⟨connect, fun retries => if retries = 0 then .error brokenPipeWrite else .ok ()⟩
    EPIPE ∈ causes brokenPipeWrite ∧ isErrBrokenPipe brokenPipeWrite = false ∧
      s.query ep query = (s.send c query (.error brokenPipeWrite), some brokenPipeWrite) :=
  ⟨by simp [causes, brokenPipeWrite, EPIPE], rfl, rfl⟩

end HiveClient

end Metering
