import Metering.Hive.Callers

/-!
# One `hiveQueryer` shared by the workers

`getHiveConnection` and `closeHiveConnection` hold `q.mu`, so each is one atomic step on the
shared client; `hiveConn.Query` runs outside the mutex and only adds to the log. Whatever the
callers of `Query` do in between, these three keep the connections accounted for.
-/

namespace Metering

namespace HiveClient

/-- Each connection `newHiveConn` returned was returned once, and it is the one `hiveConn` holds
or it was closed once: opened = closed + held. -/
structure Accounted (s : HiveClient) : Prop where
  named : ∀ c, .connect (.ok c) ∈ s.log → c.id < s.connects
  opened_once : ∀ c, s.log.count (.connect (.ok c)) ≤ 1
  balanced : ∀ c, s.log.count (.connect (.ok c)) =
    s.log.count (.close (some c)) + if s.hiveConn = some c then 1 else 0

theorem Accounted.init (queryer : HiveQueryer) (none_held : queryer.hiveConn = none) :
    Accounted ⟨queryer, []⟩ :=
  ⟨nofun, fun _ => Nat.zero_le _, fun _ => by simp [hiveConn, none_held]⟩

theorem Accounted.send {s : HiveClient} (accounted : Accounted s) (c : HiveConnection)
    (query : String) (result : Except GoError Unit) : Accounted (s.send c query result) := by
  obtain ⟨named, once, balanced⟩ := accounted
  have connects : (s.send c query result).connects = s.connects :=
    (connects_of_log (send_log s c query result)).trans (by simp [HiveEvent.isConnect])
  refine ⟨fun c' mem => ?_, fun c' => ?_, fun c' => ?_⟩ <;> simp_all

theorem Accounted.closeHiveConnection {s : HiveClient} (accounted : Accounted s) :
    Accounted s.closeHiveConnection := by
  obtain ⟨named, once, balanced⟩ := accounted
  have connects : s.closeHiveConnection.connects = s.connects :=
    (connects_of_log (closeHiveConnection_log s)).trans (by simp [HiveEvent.isConnect])
  refine ⟨fun c' mem => ?_, fun c' => ?_, fun c' => ?_⟩
  · simp_all
  · simpa using once c'
  · simp [balanced c', List.count_singleton]

theorem Accounted.getHiveConnection {s : HiveClient} (accounted : Accounted s)
    (connect : Except GoError Unit) : Accounted (s.getHiveConnection connect).1 := by
  obtain ⟨named, once, balanced⟩ := accounted
  generalize got : s.getHiveConnection connect = pair
  obtain ⟨s₁, r⟩ := pair
  show Accounted s₁
  rcases getHiveConnection_cases got with
    ⟨c, -, held, rfl | ⟨log, was, fresh⟩⟩ | ⟨err, -, held, log, was⟩
  · exact ⟨named, once, balanced⟩
  · have connects : s₁.connects = s.connects + 1 := by
      simpa [HiveEvent.isConnect] using connects_of_log log
    have unopened : s.log.count (.connect (.ok c)) = 0 :=
      List.count_eq_zero.mpr fun mem => (named c mem).ne fresh
    refine ⟨fun c' mem => ?_, fun c' => ?_, fun c' => ?_⟩
    · rw [log, List.mem_append, List.mem_singleton] at mem
      rcases mem with mem | same
      · have := named c' mem
        omega
      · obtain rfl : c' = c := by simpa using same
        omega
    · by_cases same : c = c'
      · simp [log, ← same, unopened]
      · simpa [log, List.count_singleton, same] using once c'
    · have before := balanced c'
      by_cases same : c = c' <;> simp_all [List.count_singleton]
  · have connects : s₁.connects = s.connects + 1 := by
      simpa [HiveEvent.isConnect] using connects_of_log log
    refine ⟨fun c' mem => ?_, fun c' => ?_, fun c' => ?_⟩
    · have := named c' (by simpa [log] using mem)
      omega
    · simpa [log, List.count_singleton] using once c'
    · simpa [log, held, was, List.count_singleton] using balanced c'

/-- A call on the shared client by one of its users: the two that hold `q.mu`, and the unlocked
`hiveConn.Query` on a connection it was given. -/
inductive HiveCall where
  | getHiveConnection (connect : Except GoError Unit)
  | query (conn : HiveConnection) (text : String) (result : Except GoError Unit)
  | closeHiveConnection
  deriving DecidableEq, Repr

def call (s : HiveClient) : HiveCall → HiveClient
  | .getHiveConnection connect => (s.getHiveConnection connect).1
  | .query conn text result => s.send conn text result
  | .closeHiveConnection => s.closeHiveConnection

theorem Accounted.call {s : HiveClient} (accounted : Accounted s) :
    ∀ c : HiveCall, Accounted (s.call c)
  | .getHiveConnection connect => accounted.getHiveConnection connect
  | .query conn text result => accounted.send conn text result
  | .closeHiveConnection => accounted.closeHiveConnection

theorem Accounted.held_open {s : HiveClient} (accounted : Accounted s) {c : HiveConnection}
    (held : s.hiveConn = some c) : .connect (.ok c) ∈ s.log ∧ .close (some c) ∉ s.log := by
  have balanced := accounted.balanced c
  have once := accounted.opened_once c
  rw [if_pos held] at balanced
  exact ⟨List.count_pos_iff.mp (by omega), List.count_eq_zero.mp (by omega)⟩

/-! ## A single caller -/

/-- Each query in `log` went to a connection that `newHiveConn` had returned and that no close
before it had closed. -/
def QueriesOpen (log : List HiveEvent) : Prop :=
  ∀ pre c query r post, log = pre ++ .query c query r :: post →
    .connect (.ok c) ∈ pre ∧ .close (some c) ∉ pre

theorem QueriesOpen.append {log : List HiveEvent} (opened : QueriesOpen log) {e : HiveEvent}
    (fits : ∀ c query r, e = .query c query r →
      .connect (.ok c) ∈ log ∧ .close (some c) ∉ log) :
    QueriesOpen (log ++ [e]) := by
  intro pre c query r post split
  rcases List.eq_nil_or_concat post with rfl | ⟨post, last, rfl⟩
  · obtain ⟨rfl, sent⟩ := List.append_inj' split rfl
    exact fits c query r (List.singleton_inj.mp sent)
  · rw [List.concat_eq_append, ← List.cons_append, ← List.append_assoc] at split
    exact opened pre c query r post (List.append_inj' split rfl).1

theorem getHiveConnection_queries_open {s : HiveClient} (opened : QueriesOpen s.log)
    (connect : Except GoError Unit) : QueriesOpen (s.getHiveConnection connect).1.log := by
  generalize got : s.getHiveConnection connect = pair
  obtain ⟨s₁, r⟩ := pair
  rcases getHiveConnection_cases got with ⟨c, -, -, rfl | ⟨log, -⟩⟩ | ⟨err, -, -, log, -⟩
  · exact opened
  all_goals
    rw [log]
    exact opened.append nofun

theorem closeHiveConnection_queries_open {s : HiveClient} (opened : QueriesOpen s.log) :
    QueriesOpen s.closeHiveConnection.log := by
  rw [closeHiveConnection_log]
  exact opened.append nofun

theorem attempt_queries_open {s : HiveClient} (accounted : Accounted s)
    (opened : QueriesOpen s.log) (ep : HiveEndpoint) (query : String) (retries : Nat) :
    match s.attempt ep query retries with
    | .returns s' _ => Accounted s' ∧ QueriesOpen s'.log
    | .retry s' => Accounted s' ∧ QueriesOpen s'.log := by
  have closing : ∀ {s : HiveClient}, Accounted s → QueriesOpen s.log →
      Accounted s.closeHiveConnection ∧ QueriesOpen s.closeHiveConnection.log :=
    fun accounted opened => ⟨accounted.closeHiveConnection, closeHiveConnection_queries_open opened⟩
  unfold attempt
  have accounted₁ := accounted.getHiveConnection (ep.connect retries)
  have opened₁ := getHiveConnection_queries_open opened (ep.connect retries)
  generalize got : s.getHiveConnection (ep.connect retries) = pair at accounted₁ opened₁
  obtain ⟨s₁, r⟩ := pair
  cases r with
  | error err =>
    dsimp only
    split_ifs
    · exact closing accounted₁ opened₁
    · exact ⟨accounted₁, opened₁⟩
  | ok c =>
    obtain ⟨_, ⟨⟩, held, -⟩ | ⟨err, fails, -⟩ := getHiveConnection_cases got
    · have sent : ∀ r, Accounted (s₁.send c query r) ∧ QueriesOpen (s₁.send c query r).log :=
        fun r => ⟨accounted₁.send c query r, by
          rw [send_log]
          exact opened₁.append fun c' _ _ same => by
            cases same
            exact accounted₁.held_open held⟩
      cases ep.query retries with
      | ok u => exact sent _
      | error err =>
        dsimp only
        split_ifs
        · exact closing (sent _).1 (sent _).2
        · exact sent _
    · cases fails

theorem queryFrom_queries_open (ep : HiveEndpoint) (query : String) :
    ∀ left retries (s : HiveClient), Accounted s → QueriesOpen s.log →
      Accounted (queryFrom ep query retries left s).1 ∧
        QueriesOpen (queryFrom ep query retries left s).1.log
  | 0, _, _, accounted, opened =>
    ⟨accounted.closeHiveConnection, closeHiveConnection_queries_open opened⟩
  | left + 1, retries, s, accounted, opened => by
    have pass := attempt_queries_open accounted opened ep query retries
    simp only [queryFrom]
    split <;> rename_i outcome <;> rw [outcome] at pass
    · exact pass
    · exact queryFrom_queries_open ep query left (retries + 1) _ pass.1 pass.2

theorem Reachable.queries_open {s : HiveClient} (reachable : Reachable s) :
    Accounted s ∧ QueriesOpen s.log := by
  induction reachable with
  | init => exact ⟨.init _ rfl, fun pre _ _ _ _ split => by simp at split⟩
  | getHiveConnection connect _ ih =>
    exact ⟨ih.1.getHiveConnection connect, getHiveConnection_queries_open ih.2 connect⟩
  | query ep query _ ih => exact queryFrom_queries_open ep query maxRetries 0 _ ih.1 ih.2

/-- A single caller, calling `getHiveConnection` as `Run` does and `Query` any number of times,
only ever queries a connection that `newHiveConn` returned and that no close had closed. -/
theorem queries_open_connections {s : HiveClient} (reachable : Reachable s) :
    ∀ pre c query r post, s.log = pre ++ .query c query r :: post →
      .connect (.ok c) ∈ pre ∧ .close (some c) ∉ pre :=
  reachable.queries_open.2

theorem queries_open_connections_after_reconnect :
    let s := ((HiveClient.mk (newHiveQueryer "hive-server:10000" false (some 0))
      []).getHiveConnection (.ok ())).1.query
        ⟨fun _ => .ok (), fun retries => if retries = 0 then .error .eof else .ok ()⟩
        "SHOW TABLES" |>.1
    Reachable s ∧ ∀ pre c query r post, s.log = pre ++ .query c query r :: post →
      .connect (.ok c) ∈ pre ∧ .close (some c) ∉ pre :=
  have reachable := Reachable.query _ "SHOW TABLES"
    (.getHiveConnection (.ok ()) (.init "hive-server:10000" false (some 0)))
  ⟨reachable, queries_open_connections reachable⟩

end HiveClient

/-! ## Every interleaving -/

namespace Callers

theorem step_client {s s' : Callers} {l : CallersStep} (stepped : s.step l = some s') :
    s'.client = s.client ∨ ∃ c, s'.client = s.client.call c := by
  cases l with
  | breakConn conn =>
    cases stepped
    exact .inl rfl
  | run i answer =>
    simp only [step] at stepped
    split at stepped
    · split_ifs at stepped
      · split at stepped <;> rename_i got <;> cases stepped <;>
          exact .inr ⟨.getHiveConnection answer, by simp [HiveClient.call, got]⟩
      · cases stepped
        exact .inr ⟨.closeHiveConnection, rfl⟩
    · split at stepped <;> cases stepped <;> exact .inr ⟨.query _ _ _, rfl⟩
    · cases stepped
      exact .inr ⟨.closeHiveConnection, rfl⟩
    all_goals cases stepped

theorem step_accounted {s s' : Callers} {l : CallersStep} (accounted : s.client.Accounted)
    (stepped : s.step l = some s') : s'.client.Accounted := by
  rcases step_client stepped with same | ⟨c, made⟩
  · exact same ▸ accounted
  · exact made ▸ accounted.call c

def Steps : Callers → Callers → Prop :=
  Relation.ReflTransGen fun s s' => ∃ l, s.step l = some s'

theorem Steps.accounted {s s' : Callers} (steps : Steps s s') (accounted : s.client.Accounted) :
    s'.client.Accounted := by
  induction steps with
  | refl => exact accounted
  | tail _ stepped kept =>
    obtain ⟨l, stepped⟩ := stepped
    exact step_accounted kept stepped

theorem steps_of_run : ∀ {s s' : Callers} (trace : List CallersStep), s.run trace = some s' →
    Steps s s'
  | _, _, [], ran => by
    cases ran
    exact .refl
  | s, _, l :: rest, ran => by
    simp only [run] at ran
    split_ifs at ran
    obtain ⟨s₁, stepped, ran⟩ := Option.bind_eq_some.mp ran
    exact Relation.ReflTransGen.head ⟨l, stepped⟩ (steps_of_run rest ran)

/-- However the callers of `Query` on a `hiveQueryer` made by `newHiveQueryer` interleave, and
whatever the endpoint and the network answer, `newHiveConn` returns each connection at most once,
and each one it returned is either the one `hiveConn` holds, never closed, or was closed exactly
once: no connection is lost and none is closed twice. -/
theorem accounted_in_any_interleaving (hiveHost : String) (logQueries : Bool) (stopCh : RecvChan)
    (broken : List HiveConnection) (callers : List Caller) {s : Callers}
    (steps : Steps ⟨⟨newHiveQueryer hiveHost logQueries stopCh, []⟩, broken, callers⟩ s)
    (c : HiveConnection) :
    s.client.log.count (.connect (.ok c)) ≤ 1 ∧
      s.client.log.count (.connect (.ok c)) =
        s.client.log.count (.close (some c)) + if s.client.hiveConn = some c then 1 else 0 := by
  have accounted := steps.accounted (HiveClient.Accounted.init _ rfl)
  exact ⟨accounted.opened_once c, accounted.balanced c⟩

theorem accounted_in_any_interleaving_replaced :
    ∃ s, threeWorkers.run replacementTrace = some s ∧
      s.client.log.count (.connect (.ok ⟨1, false⟩)) ≤ 1 ∧
      s.client.log.count (.connect (.ok ⟨1, false⟩)) =
        s.client.log.count (.close (some ⟨1, false⟩)) +
          if s.client.hiveConn = some ⟨1, false⟩ then 1 else 0 :=
  have ran : threeWorkers.run replacementTrace = some _ := rfl
  ⟨_, ran, accounted_in_any_interleaving "hive-server:10000" false (some 0) [] _
    (steps_of_run replacementTrace ran) ⟨1, false⟩⟩

end Callers

/-! ## Callers one after another -/

/-- `Query` calls made one after another, each answered by its own endpoint: the client they
leave and what each returned. -/
def HiveClient.queryAll : HiveClient → List (String × HiveEndpoint) →
    HiveClient × List (Option GoError)
  | s, [] => (s, [])
  | s, (query, ep) :: calls =>
    ((s.query ep query).1.queryAll calls |>.1,
      (s.query ep query).2 :: ((s.query ep query).1.queryAll calls).2)

namespace Callers

/-- The callers from `k` on run their calls in order, each on its own until it returns, answered
by the endpoint of its own call. -/
inductive Serial (calls : List (String × HiveEndpoint)) : Nat → Callers → Callers → Prop
  | done {k : Nat} {s : Callers} : calls.length ≤ k → Serial calls k s s
  | next {k : Nat} {s s₁ s₂ : Callers} {call : String × HiveEndpoint} : calls[k]? = some call →
      SoloSteps call.2 k s s₁ → Serial calls (k + 1) s₁ s₂ → Serial calls k s s₂

theorem Serial.steps {calls : List (String × HiveEndpoint)} {k : Nat} {s s' : Callers}
    (serial : Serial calls k s s') : Steps s s' := by
  induction serial with
  | done => exact .refl
  | next _ solo _ rest => exact (solo.mono fun _ _ ⟨_, _, stepped⟩ => ⟨_, stepped⟩).trans rest

theorem modify_append_length {α : Type} (f : α → α) (done : List α) (a : α) (rest : List α) :
    (done ++ a :: rest).modify f done.length = done ++ f a :: rest := by
  induction done with
  | nil => simp
  | cons b done ih => simp [ih]

theorem serial_from (calls : List (String × HiveEndpoint)) (broken : List HiveConnection) :
    ∀ (pending : List (String × HiveEndpoint)) (done : List Caller) (client : HiveClient),
      calls.drop done.length = pending →
      Serial calls done.length
        ⟨client, broken, done ++ pending.map fun call => ⟨call.1, .attempt 0⟩⟩
        ⟨(client.queryAll pending).1, broken,
          done ++ (pending.zip (client.queryAll pending).2).map fun (call, err) =>
            ⟨call.1, .returned err⟩⟩
  | [], done, client, rest => .done (List.drop_eq_nil_iff.mp rest)
  | (query, ep) :: pending, done, client, rest => by
    have at_k : calls[done.length]? = some (query, ep) := by
      rw [← Nat.add_zero done.length, ← List.getElem?_drop, rest]
      simp
    have solo := queryFrom_solo ep done.length query HiveClient.maxRetries 0
      ⟨client, broken, done ++ ((query, ep) :: pending).map fun call => ⟨call.1, .attempt 0⟩⟩
      (Nat.zero_add _) (by rw [List.getElem?_append_right (Nat.le_refl _), Nat.sub_self]; simp)
    have later := serial_from calls broken pending
      (done ++ [⟨query, .returned (client.query ep query).2⟩]) (client.query ep query).1
      (by simp [← List.drop_drop, rest])
    refine .next at_k solo ?_
    simpa [moveTo, modify_append_length, HiveClient.queryAll] using later

/-- Callers of `Query` that each run alone until they return, in order, leave the shared client
exactly as the same calls made one after another by a single caller, and each returns what that
caller's call returned: the concurrent model refines the sequential one on serial schedules. -/
theorem serial_calls_refine_queryAll (client : HiveClient) (broken : List HiveConnection)
    (calls : List (String × HiveEndpoint)) :
    Serial calls 0 ⟨client, broken, calls.map fun call => ⟨call.1, .attempt 0⟩⟩
      ⟨(client.queryAll calls).1, broken,
        (calls.zip (client.queryAll calls).2).map fun (call, err) => ⟨call.1, .returned err⟩⟩ :=
  serial_from calls broken calls [] client rfl

end Callers

end Metering
