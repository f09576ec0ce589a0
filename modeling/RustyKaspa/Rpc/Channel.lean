import Mathlib.Data.List.Basic

/-!
# Channels

`Inner` talks to the rest of the client through two channels it does not own: the
`tokio::sync::mpsc` channel of capacity 16 that feeds requests to the gRPC stream, and the
`NotificationChannel` that carries notifications to the collector.  Neither is part of the
repository; both are modelled from the spec's words: a FIFO queue, bounded or not, with an
awaited `send` that waits for room and a non-blocking `try_send` that fails when the queue is
full or closed.

A channel is kept together with its history: `log` is everything ever sent, in order, and the
receiving side has taken the first `taken` of it.  What is in flight is `log.drop taken`.  This
makes "was ever sent on the channel" a property of a single state, which is the form the safety
results about the request channel take.
-/

namespace Kaspa

/-- Modelled from the spec: a FIFO channel with its history. -/
structure Channel (α : Type) where
  log : List α
  taken : Nat
  capacity : Option Nat
  closed : Bool
  taken_le : taken ≤ log.length
  deriving DecidableEq

namespace Channel

variable {α : Type}

/-- An empty, open channel. -/
def new (capacity : Option Nat) : Channel α := ⟨[], 0, capacity, false, Nat.zero_le _⟩

/-- What has been sent and not yet taken, oldest first. -/
def inFlight (ch : Channel α) : List α := ch.log.drop ch.taken

/-- A bounded channel is full when its capacity is used up; an unbounded one never is. -/
def isFull (ch : Channel α) : Bool :=
  match ch.capacity with
  | some c => c ≤ ch.inFlight.length
  | none => false

/-- Put a value at the back. -/
def push (ch : Channel α) (a : α) : Channel α :=
  { ch with
    log := ch.log ++ [a]
    taken_le := by have := ch.taken_le; simp only [List.length_append]; omega }

/-- `try_send`: `none` is the error, when the channel is closed or full. -/
def trySend (ch : Channel α) (a : α) : Option (Channel α) :=
  if ch.closed || ch.isFull then none else some (ch.push a)

/-- One attempt of an awaited `send`: `some (.error ())` when the receiving side is gone,
`none` while the channel is full (the sender waits), and the channel with the value pushed
otherwise. -/
def send (ch : Channel α) (a : α) : Option (Except Unit (Channel α)) :=
  if ch.closed then some (.error ())
  else if ch.isFull then none
  else some (.ok (ch.push a))

/-- The receiving side takes the oldest value in flight. -/
def recv (ch : Channel α) : Option (α × Channel α) :=
  if h : ch.taken < ch.log.length then
    some (ch.log.get ⟨ch.taken, h⟩, { ch with taken := ch.taken + 1, taken_le := h })
  else none

/-- The receiving side is dropped. -/
def close (ch : Channel α) : Channel α := { ch with closed := true }

@[simp] lemma push_log (ch : Channel α) (a : α) : (ch.push a).log = ch.log ++ [a] := rfl

@[simp] lemma close_log (ch : Channel α) : ch.close.log = ch.log := rfl

@[simp] lemma new_log (capacity : Option Nat) : (new capacity : Channel α).log = [] := rfl

lemma send_eq_ok {ch ch' : Channel α} {a : α} (h : ch.send a = some (.ok ch')) :
    ch' = ch.push a := by
  unfold send at h
  split_ifs at h <;> cases h
  rfl

/-- Taking a value only moves the cursor: the history is unchanged. -/
lemma recv_log {ch ch' : Channel α} {a : α} (h : ch.recv = some (a, ch')) : ch'.log = ch.log := by
  unfold recv at h
  split_ifs at h
  cases h
  rfl

end Channel

end Kaspa
