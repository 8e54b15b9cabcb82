/-
The outbox: request transactions that write events, and the worker that publishes them.

`publish_event` adds a row to `event_log` in the caller's transaction, under READ
COMMITTED, the database's default; others see the row once that transaction has
committed. `created_at` is the column's server default `now()`, so every row of a
transaction carries the instant at which the transaction began. The worker polls the rows
without `published_at`, fifty at a time and by `created_at`, sends them to the broker one
by one, and commits `published_at` for the whole batch at its end. No request writes a
committed row, so `SKIP LOCKED` has nothing to skip.

The steps of requests and of the worker come in any order. What the worker cannot choose
is given with the step: whether the broker answers, whether the database commits, and in
which of the orders that its `ORDER BY` allows the rows are returned.
-/
import EnvMgr.Core.Values
import EnvMgr.Lib.OrderBy
import EnvMgr.Lib.Runs
import EnvMgr.Lib.Table

namespace EnvMgr.Outbox

/-- `_BATCH_SIZE`. -/
def BATCH_SIZE : ℕ := 50

/-! ## Rows -/

/-- The keys are drawn when the rows are written, so they number the rows in that order. -/
structure EventLog where
  id : ℕ
  event_type : String
  aggregate_id : ℕ
  aggregate_type : String
  /-- The JSON text. -/
  payload : String
  published_at : Option DateTime
  tenant_id : ℕ
  created_at : DateTime
  /-- The transaction that wrote the row. -/
  xmin : ℕ
  deriving DecidableEq

def same_aggregate (a b : EventLog) : Prop :=
  a.aggregate_type = b.aggregate_type ∧ a.aggregate_id = b.aggregate_id
  deriving Decidable

/-- An open transaction. `now` is what `func.now()` returns in it. -/
structure Transaction where
  id : ℕ
  now : DateTime
  deriving DecidableEq

/-- The arguments of `publish_event`. -/
structure EventData where
  event_type : String
  aggregate_id : ℕ
  aggregate_type : String
  payload : String
  tenant_id : ℕ

def publish_event (data : EventData) (db : Transaction) : Table.New EventLog.id where
  row id :=
    { id := id
      event_type := data.event_type
      aggregate_id := data.aggregate_id
      aggregate_type := data.aggregate_type
      payload := data.payload
      published_at := none
      tenant_id := data.tenant_id
      created_at := db.now
      xmin := db.id }
  key_row _ := rfl

/-! ## The broker -/

/-- What `_publish_batch` sends, as JSON. -/
structure Message where
  event_type : String
  aggregate_id : ℕ
  aggregate_type : String
  payload : String
  tenant_id : ℕ
  created_at : String
  deriving DecidableEq

/-- A message that has reached the broker. The row it was sent for is not part of what
the broker sees. -/
structure Delivery where
  event : ℕ
  subject : String
  data : Message
  acked : Bool
  deriving DecidableEq

def delivery (event : EventLog) (acked : Bool) : Delivery where
  event := event.id
  subject := s!"envmgr.events.{event.aggregate_type}.{event.event_type}"
  data :=
    { event_type := event.event_type
      aggregate_id := event.aggregate_id
      aggregate_type := event.aggregate_type
      payload := event.payload
      tenant_id := event.tenant_id
      created_at := isoformat event.created_at }
  acked := acked

/-! ## The state -/

/-- The worker's open session: the `published_at` that it has set on rows of its batch and
not committed, and the rows of the batch that are not acknowledged yet. -/
structure Session where
  stamps : List (ℕ × DateTime)
  waiting : List EventLog
  deriving DecidableEq

structure Worker where
  /-- `js is not None`. -/
  connected : Bool
  session : Option Session
  deriving DecidableEq

/-- `event_log` also holds the rows of transactions that are still open. `stream` is what
has reached the broker, in order. -/
structure State where
  event_log : Table EventLog EventLog.id
  transactions : Table Transaction Transaction.id
  worker : Worker
  stream : List Delivery

def start : State := ⟨Table.empty, Table.empty, ⟨false, none⟩, []⟩

/-- The row is in no open transaction. -/
def committed (s : State) (r : EventLog) : Prop := ∀ t ∈ s.transactions, t.id ≠ r.xmin
  deriving Decidable

/-- `WHERE published_at IS NULL`, as the worker reads it. -/
def unpublished (s : State) : List EventLog :=
  s.event_log.select fun r => committed s r ∧ r.published_at = none

/-! ## Requests -/

def begin_transaction (s : State) (now : DateTime) : State :=
  { s with transactions := s.transactions.insert ⟨fun id => ⟨id, now⟩, fun _ => rfl⟩ }

def write (s : State) (tx : ℕ) (data : EventData) : State :=
  match s.transactions.select_one fun t => t.id = tx with
  | some db => { s with event_log := s.event_log.insert (publish_event data db) }
  | none => s

/-- The rows of an open transaction. -/
def written (s : State) (tx : ℕ) : List EventLog :=
  s.event_log.select fun r => r.xmin = tx ∧ ¬ committed s r

def commit (s : State) (tx : ℕ) : State :=
  { s with transactions := s.transactions.delete fun t => t.id = tx }

def rollback (s : State) (tx : ℕ) : State :=
  { s with
    event_log := s.event_log.delete fun r => r.xmin = tx ∧ ¬ committed s r
    transactions := s.transactions.delete fun t => t.id = tx }

/-! ## The worker -/

def State.with_worker (s : State) (connected : Bool) (session : Option Session) : State :=
  { s with worker := ⟨connected, session⟩ }

/-- The attempt to connect that precedes a poll when `js is None`. -/
def connect (s : State) (succeeds : Bool) : State :=
  if s.worker.connected then s else s.with_worker succeeds none

/-- The query, with the database's `answer`; an answer that it cannot give is no step. An
empty batch ends the session. -/
def poll (s : State) (answer : List EventLog) : State :=
  if s.worker.connected ∧ s.worker.session.isNone
      ∧ OrderBy.Answers EventLog.created_at (unpublished s) answer then
    match answer.take BATCH_SIZE with
    | [] => s
    | event :: events => s.with_worker true (some ⟨[], event :: events⟩)
  else s

/-- How `js.publish` ends. -/
inductive Outcome
  /-- The broker acknowledges, and `published_at` is set to the time. -/
  | acked (now : DateTime)
  /-- It raises, although the message has reached the broker. -/
  | unacknowledged
  /-- It raises, and the message is lost. -/
  | lost

def State.deliver (s : State) (event : EventLog) (acked : Bool) : State :=
  { s with stream := s.stream ++ [delivery event acked] }

/-- One round of the loop of `_publish_batch`. An exception closes the connection, and
leaving the session rolls it back. -/
def publish (s : State) (outcome : Outcome) : State :=
  match s.worker.session with
  | some ⟨stamps, event :: waiting⟩ =>
    match outcome with
    | .acked now =>
      (s.deliver event true).with_worker s.worker.connected
        (some ⟨stamps ++ [(event.id, now)], waiting⟩)
    | .unacknowledged => (s.deliver event false).with_worker false none
    | .lost => s.with_worker false none
  | _ => s

/-- The `UPDATE` of the rows whose `published_at` was set. -/
def stamp (stamps : List (ℕ × DateTime)) : Table.Edit EventLog.id where
  apply r := { r with published_at := (stamps.lookup r.id).or r.published_at }
  key_apply _ := rfl

def flush (s : State) (stamps : List (ℕ × DateTime)) : State :=
  { s with
    event_log := s.event_log.update (fun _ => true) (stamp stamps)
    worker := ⟨s.worker.connected, none⟩ }

/-- `db.commit()` after the batch. Where it raises, the database may have committed or
not; either way the worker goes on with a new session and the old connection. -/
def commit_batch (s : State) (applied : Bool) : State :=
  match s.worker.session with
  | some ⟨stamps, []⟩ =>
    if applied then flush s stamps else s.with_worker s.worker.connected none
  | _ => s

/-- Anything that `run_event_publisher` does not catch: the supervisor starts it anew. -/
def crash (s : State) : State := s.with_worker false none

/-! ## Runs -/

inductive Move
  | begin_ (now : DateTime)
  | write (tx : ℕ) (data : EventData)
  | commit (tx : ℕ)
  | rollback (tx : ℕ)
  | connect (succeeds : Bool)
  | poll (answer : List EventLog)
  | publish (outcome : Outcome)
  | commit_batch (applied : Bool)
  | crash

def step (s : State) : Move → State
  | .begin_ now => begin_transaction s now
  | .write tx data => write s tx data
  | .commit tx => commit s tx
  | .rollback tx => rollback s tx
  | .connect succeeds => connect s succeeds
  | .poll answer => poll s answer
  | .publish outcome => publish s outcome
  | .commit_batch applied => commit_batch s applied
  | .crash => crash s

/-- The move is one of the worker's. -/
def Move.by_worker : Move → Bool
  | .begin_ _ | .write _ _ | .commit _ | .rollback _ => false
  | .connect _ | .poll _ | .publish _ | .commit_batch _ | .crash => true

/-- The move commits a batch. -/
def completes (s : State) : Move → Bool
  | .commit_batch true => s.worker.session.any fun session => session.waiting = []
  | _ => false

/-! ## What a step can do -/

/-- Every way in which a move changes the state. -/
inductive Step (s : State) : Move → State → Prop
  | idle (m : Move) (hm : completes s m = false) : Step s m s
  | begin_ (now : DateTime) : Step s (.begin_ now) (begin_transaction s now)
  | write (db : Transaction) (data : EventData) (hdb : db ∈ s.transactions) :
      Step s (.write db.id data)
        { s with event_log := s.event_log.insert (publish_event data db) }
  | commit (tx : ℕ) : Step s (.commit tx) (commit s tx)
  | rollback (tx : ℕ) : Step s (.rollback tx) (rollback s tx)
  /-- The session ends without a commit. -/
  | leave (m : Move) (connected : Bool) (hworker : m.by_worker = true)
      (hm : completes s m = false) : Step s m (s.with_worker connected none)
  | poll (answer : List EventLog) (hidle : s.worker.session = none)
      (hanswer : OrderBy.Answers EventLog.created_at (unpublished s) answer) :
      Step s (.poll answer) (s.with_worker true (some ⟨[], answer.take BATCH_SIZE⟩))
  | acked (now : DateTime) (stamps : List (ℕ × DateTime)) (event : EventLog)
      (waiting : List EventLog) (hsession : s.worker.session = some ⟨stamps, event :: waiting⟩) :
      Step s (.publish (.acked now)) ((s.deliver event true).with_worker s.worker.connected
        (some ⟨stamps ++ [(event.id, now)], waiting⟩))
  | unacknowledged (stamps : List (ℕ × DateTime)) (event : EventLog) (waiting : List EventLog)
      (hsession : s.worker.session = some ⟨stamps, event :: waiting⟩) :
      Step s (.publish .unacknowledged) ((s.deliver event false).with_worker false none)
  | flush (stamps : List (ℕ × DateTime)) (hsession : s.worker.session = some ⟨stamps, []⟩) :
      Step s (.commit_batch true) (flush s stamps)

theorem write_step (s : State) (tx : ℕ) (data : EventData) :
    Step s (.write tx data) (write s tx data) := by
  rw [write]
  cases hfind : s.transactions.select_one fun t => t.id = tx with
  | none => exact .idle _ rfl
  | some db =>
    obtain ⟨hdb, hkey⟩ := Table.select_one_some hfind
    obtain rfl := of_decide_eq_true hkey
    exact .write db data hdb

theorem poll_step (s : State) (answer : List EventLog) : Step s (.poll answer) (poll s answer) := by
  rw [poll]
  split
  · next h =>
    cases htake : answer.take BATCH_SIZE with
    | nil => exact .idle _ rfl
    | cons event events =>
      have hstep := Step.poll answer (Option.isNone_iff_eq_none.1 h.2.1) h.2.2
      rwa [htake] at hstep
  · exact .idle _ rfl

theorem publish_step (s : State) (outcome : Outcome) :
    Step s (.publish outcome) (publish s outcome) := by
  rw [publish]
  split
  · next stamps event waiting hsession =>
    cases outcome with
    | acked now => exact .acked now stamps event waiting hsession
    | unacknowledged => exact .unacknowledged stamps event waiting hsession
    | lost => exact .leave _ false rfl rfl
  · exact .idle _ rfl

theorem commit_batch_step (s : State) (applied : Bool) :
    Step s (.commit_batch applied) (commit_batch s applied) := by
  rw [commit_batch]
  split
  · next stamps hsession =>
    cases applied with
    | true => exact .flush stamps hsession
    | false => exact .leave _ s.worker.connected rfl rfl
  · next hnone =>
    refine .idle _ ?_
    cases applied with
    | false => rfl
    | true =>
      rw [completes, Option.any_eq_false]
      intro session hsession
      refine decide_eq_false fun hnil => ?_
      exact hnone session.stamps (by rw [← hnil]; exact hsession)

theorem step_cases (s : State) (m : Move) : Step s m (step s m) := by
  cases m with
  | begin_ now => exact .begin_ now
  | write tx data => exact write_step s tx data
  | commit tx => exact .commit tx
  | rollback tx => exact .rollback tx
  | connect succeeds =>
    rw [step, connect]
    split
    · exact .idle _ rfl
    · exact .leave _ succeeds rfl rfl
  | poll answer => exact poll_step s answer
  | publish outcome => exact publish_step s outcome
  | commit_batch applied => exact commit_batch_step s applied
  | crash => exact .leave _ false rfl rfl

end EnvMgr.Outbox
