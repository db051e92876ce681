import PlasmaStream.Basic

/-!
# Admission of connections

`server/listener.rs` and `server/handler.rs`: `Listener::start` loops: it takes a permit of the
semaphore and forgets it (`acquire().await.unwrap().forget()`), accepts a socket, and spawns a
task that runs a `Handler` on it. `accept` retries a failed accept with a growing back off and
returns the fifth failure, which ends `start`. `Drop for Handler` adds one permit back, however
the handler's task ends: by returning, with an error, or by a panic, which unwinds through it.

The listener and the handlers' tasks run concurrently; a run is any list of their events, each
taken when it is enabled and a no operation otherwise.

* `Listener.run_permits`: over every run, the available permits, the live handlers and the
  permit the listener took but has not handed to a handler add up to `max_connections`; so the
  live handlers never outnumber it.
-/

namespace PlasmaStream

namespace Listener

/-- Where the listener's loop is: waiting for a permit, accepting with the back off of
`accept`, or returned from `start` with the error of a fifth failed accept. -/
inductive Phase where
  | acquiring
  | accepting (backoff : Nat)
  | stopped

/-- How a handler's task ended. All three drop the handler. -/
inductive HandlerEnd where
  | returned
  | failed
  | panicked

/-- The admission of a server's connections: the permits of the semaphore, the handlers whose
tasks are running, and the listener. Which handler ends does not matter to the semaphore. -/
structure Admission where
  available : Nat
  live : Nat
  phase : Phase

/-- The events of a run. -/
inductive Event where
  /-- The semaphore grants the listener a permit. -/
  | acquire
  /-- `TcpListener::accept` returns a socket. -/
  | accept
  /-- `TcpListener::accept` returns an error. -/
  | acceptFailed
  /-- The task of a live handler ends. -/
  | handlerEnds (how : HandlerEnd)

/-- `Listener::new` with `max_connections` permits, and `start` entering its loop. -/
def Admission.start (maxConnections : Nat) : Admission := ⟨maxConnections, 0, .acquiring⟩

/-- One event. -/
def Admission.step (s : Admission) : Event → Admission
  | .acquire =>
    match s.phase with
    | .acquiring =>
      if 0 < s.available then { s with available := s.available - 1, phase := .accepting 1 }
      else s
    | _ => s
  | .accept =>
    match s.phase with
    | .accepting _ => { s with live := s.live + 1, phase := .acquiring }
    | _ => s
  | .acceptFailed =>
    match s.phase with
    | .accepting backoff =>
      if backoff > 4 then { s with phase := .stopped }
      else { s with phase := .accepting (backoff + 1) }
    | _ => s
  | .handlerEnds _ =>
    if 0 < s.live then { s with available := s.available + 1, live := s.live - 1 } else s

def Admission.run (s : Admission) (events : List Event) : Admission := events.foldl Admission.step s

/-- The permit the listener took and has not handed to a handler: while it accepts, and, once
`start` has returned with an error, for good, since the permit was forgotten. -/
def Admission.held (s : Admission) : Nat :=
  match s.phase with
  | .acquiring => 0
  | .accepting _ => 1
  | .stopped => 1

/-- No permit is lost or made: every permit is available, held by a live handler, or held by
the listener. -/
def Admission.Conserves (m : Nat) (s : Admission) : Prop := s.available + s.live + s.held = m

theorem conserves_step {m : Nat} {s : Admission} (h : s.Conserves m) (e : Event) :
    (s.step e).Conserves m := by
  obtain ⟨available, live, phase⟩ := s
  unfold Admission.Conserves at *
  cases e with
  | acquire =>
    cases phase with
    | acquiring =>
      simp only [Admission.step, Admission.held] at h ⊢
      split_ifs <;> simp only [Admission.held] <;> omega
    | accepting _ | stopped => exact h
  | accept =>
    cases phase with
    | accepting _ => simp only [Admission.step, Admission.held] at h ⊢; omega
    | acquiring | stopped => exact h
  | acceptFailed =>
    cases phase with
    | accepting _ =>
      simp only [Admission.step, Admission.held] at h ⊢
      split_ifs <;> simp only [Admission.held] <;> omega
    | acquiring | stopped => exact h
  | handlerEnds _ =>
    simp only [Admission.step]
    split_ifs
    · cases phase <;> simp only [Admission.held] at h ⊢ <;> omega
    · exact h

theorem conserves_run {m : Nat} {s : Admission} (h : s.Conserves m) (events : List Event) :
    (s.run events).Conserves m := by
  induction events generalizing s with
  | nil => exact h
  | cons e events ih => exact ih (conserves_step h e)

theorem run_permits (m : Nat) (events : List Event) :
    ((Admission.start m).run events).available + ((Admission.start m).run events).live +
        ((Admission.start m).run events).held = m ∧
      ((Admission.start m).run events).live ≤ m := by
  have h := conserves_run (m := m) (s := Admission.start m) rfl events
  exact ⟨h, by unfold Admission.Conserves at h; omega⟩

/-- With two permits and two live handlers, the listener waits: its third `acquire` is not
granted until a handler ends. -/
example :
    (Admission.start 2).run [.acquire, .accept, .acquire, .accept, .acquire] = ⟨0, 2, .acquiring⟩ ∧
    (Admission.start 2).run [.acquire, .accept, .acquire, .accept, .handlerEnds .panicked, .acquire] =
      ⟨0, 1, .accepting 1⟩ :=
  ⟨rfl, rfl⟩

end Listener

end PlasmaStream
