import Metering.Hive.Query
import Mathlib.Logic.Relation

/-!
# Concurrent callers of one `hiveQueryer`

`startWorkers` runs several workers that share `c.hiveQueryer`. Its mutex makes
`getHiveConnection` and `closeHiveConnection` atomic, but `hiveConn.Query` runs outside it. A
`Callers` state is the shared client, the connections the network broke, and where each caller
is in `Query`'s loop; `step` runs one atomic step of one caller, with the endpoint's answer to it.
-/

namespace Metering

/-- Where a caller is in `Query`'s loop: at its top after `retries` retries, about to send on the
connection `getHiveConnection` returned, or about to `closeHiveConnection` and `continue`. -/
inductive CallerPc where
  | attempt (retries : Nat)
  | send (retries : Nat) (conn : HiveConnection)
  | reconnect (retries : Nat)
  | returned (err : Option GoError)
  deriving DecidableEq, Repr

structure Caller where
  query : String
  pc : CallerPc
  deriving DecidableEq, Repr

structure Callers where
  client : HiveClient
  broken : List HiveConnection
  callers : List Caller
  deriving DecidableEq, Repr

/-- Caller `i` takes its next step, `answer` being what `newHiveConn` or the query returns, or the
network drops a connection. -/
inductive CallersStep where
  | run (i : Nat) (answer : Except GoError Unit)
  | breakConn (conn : HiveConnection)
  deriving DecidableEq, Repr

namespace Callers

def moveTo (s : Callers) (i : Nat) (client : HiveClient) (pc : CallerPc) : Callers :=
  { s with client, callers := s.callers.modify (fun caller => { caller with pc }) i }

def afterFailure (retries : Nat) (err : GoError) : CallerPc :=
  if reconnects err then .reconnect retries else .returned (some err)

def step (s : Callers) : CallersStep → Option Callers
  | .breakConn conn => some { s with broken := conn :: s.broken }
  | .run i answer =>
    match s.callers[i]? with
    | some ⟨_, .attempt retries⟩ =>
      if retries < HiveClient.maxRetries then
        match s.client.getHiveConnection answer with
        | (client, .ok hiveConn) => some (s.moveTo i client (.send retries hiveConn))
        | (client, .error err) => some (s.moveTo i client (afterFailure retries err))
      else
        some (s.moveTo i s.client.closeHiveConnection
          (.returned (some HiveClient.errRetriesExhausted)))
    | some ⟨query, .send retries hiveConn⟩ =>
      let client := s.client.send hiveConn query answer
      match answer with
      | .ok () => some (s.moveTo i client (.returned none))
      | .error err => some (s.moveTo i client (afterFailure retries err))
    | some ⟨_, .reconnect retries⟩ =>
      some (s.moveTo i s.client.closeHiveConnection (.attempt (retries + 1)))
    | some ⟨_, .returned _⟩ | none => none

def isOpen (s : Callers) (conn : HiveConnection) : Bool :=
  conn ∉ s.broken && HiveEvent.close (some conn) ∉ s.client.log

/-- The answer fits a Hive server that fails no query on an open connection: a query on an open
connection succeeds and one on a broken or closed connection fails. -/
def honest (s : Callers) : CallersStep → Bool
  | .run i answer =>
    match s.callers[i]? with
    | some ⟨_, .send _ conn⟩ => s.isOpen conn == answer.isOk
    | _ => true
  | .breakConn _ => true

def run : Callers → List CallersStep → Option Callers
  | s, [] => some s
  | s, l :: rest => if s.honest l then (s.step l).bind (run · rest) else none

/-! ## A caller on its own -/

def soloAnswer (ep : HiveEndpoint) : CallerPc → Except GoError Unit
  | .attempt retries => ep.connect retries
  | .send retries _ => ep.query retries
  | _ => .ok ()

def SoloSteps (ep : HiveEndpoint) (i : Nat) : Callers → Callers → Prop :=
  Relation.ReflTransGen fun s s' =>
    ∃ caller, s.callers[i]? = some caller ∧ s.step (.run i (soloAnswer ep caller.pc)) = some s'

@[simp] theorem moveTo_client (s : Callers) (i : Nat) (client : HiveClient) (pc : CallerPc) :
    (s.moveTo i client pc).client = client := rfl

@[simp] theorem moveTo_broken (s : Callers) (i : Nat) (client : HiveClient) (pc : CallerPc) :
    (s.moveTo i client pc).broken = s.broken := rfl

theorem moveTo_caller (s : Callers) {i : Nat} {caller : Caller}
    (at_i : s.callers[i]? = some caller) (client : HiveClient) (pc : CallerPc) :
    (s.moveTo i client pc).callers[i]? = some { caller with pc } := by
  simp [moveTo, List.getElem?_modify, at_i]

theorem moveTo_moveTo (s : Callers) (i : Nat) (client client' : HiveClient) (pc pc' : CallerPc) :
    (s.moveTo i client pc).moveTo i client' pc' = s.moveTo i client' pc' := by
  simp [moveTo, List.modify_modify_eq, Function.comp_def]

theorem SoloSteps.move {ep : HiveEndpoint} {i : Nat} {s : Callers} {query : String}
    {pc : CallerPc} {client : HiveClient} {pc' : CallerPc}
    (at_i : s.callers[i]? = some ⟨query, pc⟩)
    (stepped : s.step (.run i (soloAnswer ep pc)) = some (s.moveTo i client pc')) :
    SoloSteps ep i s (s.moveTo i client pc') :=
  .single ⟨_, at_i, stepped⟩

theorem attempt_solo (ep : HiveEndpoint) {i : Nat} {s : Callers} {query : String} {retries : Nat}
    (at_i : s.callers[i]? = some ⟨query, .attempt retries⟩)
    (early : retries < HiveClient.maxRetries) :
    match s.client.attempt ep query retries with
    | .returns client err => SoloSteps ep i s (s.moveTo i client (.returned err))
    | .retry client => SoloSteps ep i s (s.moveTo i client (.attempt (retries + 1))) := by
  unfold HiveClient.attempt
  have get : ∀ client r, s.client.getHiveConnection (ep.connect retries) = (client, r) →
      s.step (.run i (soloAnswer ep (.attempt retries))) = some (s.moveTo i client
        (match r with | .ok c => .send retries c | .error err => afterFailure retries err)) := by
    intro client r got
    cases r <;> simp [step, at_i, early, soloAnswer, got]
  generalize got : s.client.getHiveConnection (ep.connect retries) = pair
  obtain ⟨client, r⟩ := pair
  have first := SoloSteps.move at_i (get client r got)
  cases r with
  | error err =>
    dsimp only
    split_ifs with transient
    · refine first.tail ⟨_, moveTo_caller s at_i _ _, ?_⟩
      simp [step, moveTo_caller s at_i, afterFailure, transient, soloAnswer, moveTo_moveTo]
    · simpa [afterFailure, transient] using first
  | ok c =>
    have sent := moveTo_caller s at_i client (.send retries c)
    cases answer : ep.query retries with
    | ok u =>
      refine first.tail ⟨_, sent, ?_⟩
      simp [step, sent, soloAnswer, answer, moveTo_moveTo]
    | error err =>
      dsimp only
      split_ifs with transient
      · have failed : SoloSteps ep i s
            (s.moveTo i (client.send c query (.error err)) (.reconnect retries)) :=
          first.tail ⟨_, sent, by
            simp [step, sent, soloAnswer, answer, afterFailure, transient, moveTo_moveTo]⟩
        refine failed.tail ⟨_, moveTo_caller s at_i _ _, ?_⟩
        simp [step, moveTo_caller s at_i, moveTo_moveTo]
      · refine first.tail ⟨_, sent, ?_⟩
        simp [step, sent, soloAnswer, answer, afterFailure, transient, moveTo_moveTo]

theorem queryFrom_solo (ep : HiveEndpoint) (i : Nat) (query : String) :
    ∀ left retries (s : Callers), retries + left = HiveClient.maxRetries →
      s.callers[i]? = some ⟨query, .attempt retries⟩ →
      SoloSteps ep i s (s.moveTo i (HiveClient.queryFrom ep query retries left s.client).1
        (.returned (HiveClient.queryFrom ep query retries left s.client).2))
  | 0, retries, s, total, at_i => by
    rw [Nat.add_zero] at total
    subst total
    exact .single ⟨_, at_i, by simp [step, at_i, HiveClient.queryFrom]⟩
  | left + 1, retries, s, total, at_i => by
    have pass := attempt_solo ep at_i (by omega)
    simp only [HiveClient.queryFrom]
    split <;> rename_i outcome <;> rw [outcome] at pass
    · exact pass
    · rename_i client
      have rest := queryFrom_solo ep i query left (retries + 1)
        (s.moveTo i client (.attempt (retries + 1))) (by omega) (moveTo_caller s at_i _ _)
      simpa [moveTo_moveTo] using pass.trans rest

/-- A `Query` call running alone in the concurrent model returns what `HiveClient.query` returns
and leaves the client as it leaves it. -/
theorem step_solo (client : HiveClient) (broken : List HiveConnection) (ep : HiveEndpoint)
    (query : String) :
    SoloSteps ep 0 ⟨client, broken, [⟨query, .attempt 0⟩]⟩
      ⟨(client.query ep query).1, broken, [⟨query, .returned (client.query ep query).2⟩]⟩ :=
  queryFrom_solo ep 0 query HiveClient.maxRetries 0 _ (Nat.zero_add _) rfl

end Callers

/-! ## A failed caller closes another caller's new connection -/

def threeWorkers : Callers :=
  { client := ⟨newHiveQueryer "hive-server:10000" false (some 0), []⟩
    broken := []
    callers := [⟨"A", .attempt 0⟩, ⟨"B", .attempt 0⟩, ⟨"C", .attempt 0⟩] }

/-- All three take the first connection; the network drops it; `A` fails on it, closes it and
opens a second; `B` fails on the first and closes the second; `A` fails on the second, opens a
third; `C` fails on the first and closes the third; `A` fails on the third and gives up. -/
def replacementTrace : List CallersStep :=
  [.run 0 (.ok ()), .run 1 (.ok ()), .run 2 (.ok ()), .breakConn ⟨0, false⟩,
   .run 0 (.error .eof), .run 0 (.ok ()), .run 0 (.ok ()),
   .run 1 (.error .eof), .run 1 (.ok ()),
   .run 0 (.error .eof), .run 0 (.ok ()), .run 0 (.ok ()),
   .run 2 (.error .eof), .run 2 (.ok ()),
   .run 0 (.error .eof), .run 0 (.ok ()), .run 0 (.ok ())]

theorem close_discards_replacement :
    threeWorkers.run replacementTrace = some
      { client :=
          ⟨{ newHiveQueryer "hive-server:10000" false (some 0) with hiveConn := none },
            [.connect (.ok ⟨0, false⟩), .query ⟨0, false⟩ "A" (.error .eof),
             .close (some ⟨0, false⟩), .connect (.ok ⟨1, false⟩),
             .query ⟨0, false⟩ "B" (.error .eof), .close (some ⟨1, false⟩),
             .query ⟨1, false⟩ "A" (.error .eof), .close none, .connect (.ok ⟨2, false⟩),
             .query ⟨0, false⟩ "C" (.error .eof), .close (some ⟨2, false⟩),
             .query ⟨2, false⟩ "A" (.error .eof), .close none, .close none]⟩
        broken := [⟨0, false⟩]
        callers := [⟨"A", .returned (some HiveClient.errRetriesExhausted)⟩, ⟨"B", .attempt 1⟩,
          ⟨"C", .attempt 1⟩] } := by
  decide

/-! ## Every caller returns -/

namespace CallerPc

def Valid : CallerPc → Prop
  | .attempt retries => retries ≤ HiveClient.maxRetries
  | .send retries _ | .reconnect retries => retries < HiveClient.maxRetries
  | .returned _ => True

instance (pc : CallerPc) : Decidable pc.Valid :=
  match pc with
  | .attempt _ => inferInstanceAs (Decidable (_ ≤ _))
  | .send _ _ | .reconnect _ => inferInstanceAs (Decidable (_ < _))
  | .returned _ => inferInstanceAs (Decidable True)

/-- The steps a caller at `pc` can still take: three for each attempt left, and one to give up. -/
def budget : CallerPc → Nat
  | .attempt retries => 3 * (HiveClient.maxRetries - retries) + 1
  | .send retries _ => 3 * (HiveClient.maxRetries - retries)
  | .reconnect retries => 3 * (HiveClient.maxRetries - retries) - 1
  | .returned _ => 0

theorem afterFailure_valid {retries : Nat} (err : GoError)
    (early : retries < HiveClient.maxRetries) :
    (Callers.afterFailure retries err).Valid ∧
      (Callers.afterFailure retries err).budget < 3 * (HiveClient.maxRetries - retries) := by
  unfold Callers.afterFailure
  split_ifs <;> simp only [Valid, budget, true_and, early] <;> omega

end CallerPc

def CallersStep.caller? : CallersStep → Option Nat
  | .run i _ => some i
  | .breakConn _ => none

namespace Callers

theorem moveTo_other (s : Callers) {i j : Nat} (other : j ≠ i) (client : HiveClient)
    (pc : CallerPc) : (s.moveTo j client pc).callers[i]? = s.callers[i]? :=
  List.getElem?_modify_ne _ _ other

theorem step_run {s s' : Callers} {j : Nat} {answer : Except GoError Unit}
    (stepped : s.step (.run j answer) = some s') :
    ∃ caller client pc, s.callers[j]? = some caller ∧ s' = s.moveTo j client pc ∧
      (caller.pc.Valid → pc.Valid ∧ pc.budget < caller.pc.budget) := by
  simp only [step] at stepped
  split at stepped <;> rename_i at_j
  · rename_i retries
    split_ifs at stepped with early
    · split at stepped <;> cases stepped
      · exact ⟨_, _, _, at_j, rfl, fun _ => ⟨early, Nat.lt_succ_self _⟩⟩
      · rename_i err _
        have failed := CallerPc.afterFailure_valid err early
        exact ⟨_, _, _, at_j, rfl, fun _ => ⟨failed.1, Nat.lt_succ_of_lt failed.2⟩⟩
    · cases stepped
      exact ⟨_, _, _, at_j, rfl, fun _ => ⟨trivial, Nat.succ_pos _⟩⟩
  · rename_i retries _
    split at stepped <;> cases stepped
    · refine ⟨_, _, _, at_j, rfl, fun early => ⟨trivial, ?_⟩⟩
      have early : retries < HiveClient.maxRetries := early
      show 0 < 3 * (HiveClient.maxRetries - retries)
      omega
    · exact ⟨_, _, _, at_j, rfl, CallerPc.afterFailure_valid _⟩
  · rename_i retries
    cases stepped
    refine ⟨_, _, _, at_j, rfl, fun early => ⟨early, ?_⟩⟩
    have early : retries < HiveClient.maxRetries := early
    show 3 * (HiveClient.maxRetries - (retries + 1)) + 1 <
      3 * (HiveClient.maxRetries - retries) - 1
    omega
  all_goals cases stepped

theorem run_within_budget (i : Nat) :
    ∀ (trace : List CallersStep) (s s' : Callers) (caller : Caller), s.run trace = some s' →
      s.callers[i]? = some caller → caller.pc.Valid →
      trace.countP (·.caller? == some i) ≤ caller.pc.budget
  | [], _, _, _, _, _, _ => by simp
  | l :: rest, s, s', caller, ran, at_i, valid => by
    simp only [run] at ran
    split_ifs at ran
    obtain ⟨s₁, stepped, ran⟩ := Option.bind_eq_some.mp ran
    cases l with
    | breakConn conn =>
      cases stepped
      simpa [CallersStep.caller?] using run_within_budget i rest _ s' caller ran at_i valid
    | run j answer =>
      obtain ⟨caller', client, pc, at_j, rfl, smaller⟩ := step_run stepped
      by_cases same : j = i
      · subst same
        obtain rfl := Option.some.inj (at_i.symm.trans at_j)
        obtain ⟨valid', fewer⟩ := smaller valid
        have later : _ ≤ pc.budget :=
          run_within_budget j rest _ s' _ ran (moveTo_caller s at_i client pc) valid'
        have own : ((CallersStep.run j answer).caller? == some j) = true := by
          simp [CallersStep.caller?]
        simp only [List.countP_cons, own, ite_true]
        omega
      · have later := run_within_budget i rest _ s' caller ran
          ((moveTo_other s same client pc).trans at_i) valid
        simpa [CallersStep.caller?, same] using later

theorem step_enabled {s : Callers} {i : Nat} {caller : Caller}
    (at_i : s.callers[i]? = some caller) (running : ∀ err, caller.pc ≠ .returned err) :
    ∃ answer s', s.honest (.run i answer) ∧ s.step (.run i answer) = some s' := by
  obtain ⟨query, pc⟩ := caller
  cases pc with
  | attempt retries =>
    refine ⟨.ok (), ?_⟩
    simp only [honest, step, at_i, true_and]
    split_ifs
    · split <;> exact ⟨_, rfl⟩
    · exact ⟨_, rfl⟩
  | send retries conn =>
    refine ⟨if s.isOpen conn then .ok () else .error .eof, ?_⟩
    simp only [honest, step, at_i]
    split_ifs with opened <;> simp [opened, Except.isOk, Except.toBool]
  | reconnect retries =>
    exact ⟨.ok (), s.moveTo i s.client.closeHiveConnection (.attempt (retries + 1)),
      by simp [honest, at_i], by simp [step, at_i]⟩
  | returned err => exact absurd rfl (running err)

/-- However the other callers and the network interleave with it, a caller that starts `Query`
takes at most `3 * maxRetries + 1` steps of its own, and until it returns it can always take its
next one: every `Query` call returns. -/
theorem query_returns_in_any_interleaving {s s' : Callers} {trace : List CallersStep} {i : Nat}
    {query : String} (starts : s.callers[i]? = some ⟨query, .attempt 0⟩)
    (ran : s.run trace = some s') :
    trace.countP (·.caller? == some i) ≤ 3 * HiveClient.maxRetries + 1 ∧
      ∀ caller, s'.callers[i]? = some caller → (∀ err, caller.pc ≠ .returned err) →
        ∃ answer s'', s'.honest (.run i answer) ∧ s'.step (.run i answer) = some s'' :=
  ⟨run_within_budget i trace s s' _ ran starts (Nat.zero_le _), fun _ at_i => step_enabled at_i⟩

theorem query_returns_in_any_interleaving_replaced :
    ∃ s', threeWorkers.run replacementTrace = some s' ∧
      replacementTrace.countP (·.caller? == some 0) ≤ 3 * HiveClient.maxRetries + 1 ∧
      ∀ caller, s'.callers[0]? = some caller → (∀ err, caller.pc ≠ .returned err) →
        ∃ answer s'', s'.honest (.run 0 answer) ∧ s'.step (.run 0 answer) = some s'' :=
  have starts : threeWorkers.callers[0]? = some ⟨"A", .attempt 0⟩ := rfl
  have ran : threeWorkers.run replacementTrace = some _ := rfl
  ⟨_, ran, query_returns_in_any_interleaving starts ran⟩

end Callers

end Metering
