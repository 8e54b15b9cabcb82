/-
Escalating under concurrency.

`n` calls of `create_escalation`, each in a transaction of its own under READ
COMMITTED, the database's default; a sequence of calls is the schedule that lets
each end before the next begins. The table holds every row that was flushed, and
one that a call has inserted is visible to others once that call has committed.
A unique constraint sees it at once: an `INSERT` of a pair that another open
transaction has inserted waits for that transaction to end.

Between the statements of the calls anything else may happen: bookings are made
and changed, users are created, escalations are answered. No service gives a
booking another tenant, and none deletes an escalation.
-/
import EnvMgr.Contention.Escalation
import Mathlib.Logic.Function.Basic

namespace EnvMgr.Contention.Concurrent

open EnvMgr.Bookings (Booking)

/-- How far a call has come: which of its statements have run. -/
inductive Phase
  | received
  /-- no escalation of the pair was found -/
  | absent
  /-- both bookings were found -/
  | visible
  /-- they conflict -/
  | in_conflict
  /-- the owner was found -/
  | owned
  /-- the constraint refused the row, and the savepoint is rolled back -/
  | refused
  /-- `insert_or_reread` has flushed its `INSERT` -/
  | inserted (row : ContentionEscalation)
  /-- committed, with the row and whether this call inserted it -/
  | returned (row : ContentionEscalation) (inserted : Bool)
  | raised (e : Raised)
  /-- the connection is gone -/
  | lost
  deriving DecidableEq

structure State (n : ℕ) where
  users : List Auth.User
  bookings : BookingRows
  escalations : EscalationRows
  calls : Fin n → Phase

/-- No escalation yet. -/
def start (n : ℕ) (users : List Auth.User) (bookings : BookingRows) : State n :=
  ⟨users, bookings, Table.empty, fun _ => .received⟩

variable {n : ℕ}

/-- The row that the call has flushed and not committed. -/
def Phase.pending : Phase → Option ContentionEscalation
  | .inserted row => some row
  | _ => none

/-- The row is in no open transaction. -/
def committed (s : State n) (r : ContentionEscalation) : Prop :=
  ∀ p, ∀ row ∈ (s.calls p).pending, row.id ≠ r.id
  deriving Decidable

/-- The table as a statement of any call reads it. A call reads nothing after
its own `INSERT`. -/
def visible_rows (s : State n) : EscalationRows :=
  s.escalations.delete fun r => ¬ committed s r

/-! ## One statement of one call -/

section Statements

variable (calls : Fin n → Call)

/-- What the call makes of the table and of itself with its next statement. -/
def advance (s : State n) (p : Fin n) : EscalationRows × Phase :=
  let call := calls p
  let found := get_escalation (visible_rows s) call.pair.1 call.pair.2 call.tenant_id
  let check (result : Except Raised Unit) (ph : Phase) : EscalationRows × Phase :=
    match result with
    | .ok () => (s.escalations, ph)
    | .error e => (s.escalations, .raised e)
  match s.calls p with
  | .received =>
    match found with
    | some existing => (s.escalations, .returned existing false)
    | none => (s.escalations, .absent)
  | .absent => check (_assert_bookings_visible s.bookings call.pair call.tenant_id) .visible
  | .visible =>
    check (find_conflict s.bookings call.pair.1 call.pair.2 call.tenant_id) .in_conflict
  | .in_conflict => check (find_owner s.users call.owner_user_id call.tenant_id) .owned
  | .owned =>
    if pair_taken (visible_rows s) call.pair then (s.escalations, .refused)
    else if pair_taken s.escalations call.pair then (s.escalations, .owned)
    else (s.escalations.insert call.row, .inserted (call.row.row s.escalations.next))
  | .refused =>
    match found with
    | some existing => (s.escalations, .returned existing false)
    | none => (s.escalations, .raised .IntegrityError)
  | .inserted row => (s.escalations, .returned row true)
  | .returned row inserted => (s.escalations, .returned row inserted)
  | .raised e => (s.escalations, .raised e)
  | .lost => (s.escalations, .lost)

/-- What another service does to a booking. -/
structure BookingEdit extends Table.Edit Booking.id where
  tenant_apply : ∀ b, (apply b).tenant_id = b.tenant_id

/-- What a schedule consists of: the next statement of a call, the loss of one
that has not ended, and the writes of others. -/
inductive Event (n : ℕ)
  | proceed (p : Fin n)
  | abort (p : Fin n)
  | decide (escalation_id : ℕ) (decision : Decision) (now : DateTime)
  | user (u : Auth.User)
  | book (new : Table.New Booking.id)
  | rebook (selected : Booking → Bool) (edit : BookingEdit)

/-- The table without what the call has inserted and not committed. -/
def rollback (s : State n) (p : Fin n) : EscalationRows :=
  s.escalations.delete fun r => (s.calls p).pending.any fun row => row.id = r.id

def step (s : State n) : Event n → State n
  | .proceed p =>
    { s with
      escalations := (advance calls s p).1
      calls := Function.update s.calls p (advance calls s p).2 }
  | .abort p =>
    match s.calls p with
    | .returned .. | .raised _ => s
    | _ => { s with escalations := rollback s p, calls := Function.update s.calls p .lost }
  | .decide escalation_id decision now =>
    -- a row that is not visible is not found, and one that is found keeps its id
    match record_decision (visible_rows s) escalation_id decision now with
    | .ok _ =>
      { s with
        escalations := s.escalations.update (fun r => r.id = escalation_id) (decision.assign now) }
    | .error _ => s
  | .user u => { s with users := u :: s.users.filter fun other => other.id ≠ u.id }
  | .book new => { s with bookings := s.bookings.insert new }
  | .rebook selected edit => { s with bookings := s.bookings.update selected edit.toEdit }

end Statements

end EnvMgr.Contention.Concurrent
