import RustyKaspa.Rpc.Client.Inner

/-!
# The session: `Inner` and everything that runs against it

A connected client is `Inner` together with the code running against it at the same time:
calls of `Inner::call`, each suspended at one of its two `.await`s; the two background tasks;
calls of `Inner::shutdown`; and, at the far ends of the two channels, the gRPC transport taking
requests and the collector taking notifications.  `Session.step` is one step of one of them,
chosen by a label; the labels also carry what the outside world decides (the random id of a
call, what the stream yields next), so that every schedule tokio may pick, and every server
behaviour, is one run.

The background tasks and the shutdown calls move exactly as in `Lifecycle`: their steps are
`Lifecycle.step` on `Session.lifecycle`, followed, for a task's loop body, by what that body
does (`handle_response`, `remove_expired_requests`).  `step_lifecycle` states the resulting
simulation: every step of a session is a step of its lifecycle or leaves it unchanged, so every
invariant of `Lifecycle` holds of every reachable session (`Reachable.lifecycle_inv`).

The clock is a counter the environment advances (`tick`).  The timeout task may run its body at
any moment rather than once a second, which only adds schedules.
-/

namespace Kaspa

/-- A call of `Inner::call`: its operation and the id it drew, where it is in its code, and what
its one-shot channel holds. -/
structure Call where
  op : RpcApiOps
  id : UInt64
  pc : CallPc
  inbox : Option (Except Error KaspadResponse)
  deriving DecidableEq, Repr

/-- A connected client at one moment: `Inner`, every call made so far (numbered in the order
they were made), every shutdown call made so far, and the time. -/
structure Session where
  inner : Inner
  calls : List Call
  shutdowns : List ShutdownPc
  now : Nat
  deriving DecidableEq

/-- What the receiver's loop body does with one stream result: whether it breaks out of the
loop (`Ok(None)`, the end of the stream), and the message it hands to `handle_response`.  A
transport error is traced and skipped. -/
def receiverBody : StreamResult → Bool × Option KaspadResponse
  | .ok (some response) => (false, some response)
  | .ok none => (true, none)
  | .error _ => (false, none)

lemma getElem?_append_of_eq_some {α : Type} {l l' : List α} {i : Nat} {a : α}
    (h : l[i]? = some a) : (l ++ l')[i]? = some a := by
  rw [List.getElem?_append_left (List.getElem?_eq_some_iff.mp h).1, h]

/-- After element `i` of a list is replaced, each element is the replacement or what it was. -/
lemma getElem?_set_cases {α : Type} {l : List α} {i j : Nat} {a b x : α} (ha : l[i]? = some a)
    (hb : l[j]? = some b) :
    (i = j ∧ b = a ∧ (l.set i x)[j]? = some x) ∨ (l.set i x)[j]? = some b := by
  by_cases hij : i = j
  · subst hij
    exact .inl ⟨rfl, Option.some.inj (hb.symm.trans ha),
      List.getElem?_set_self (List.getElem?_eq_some_iff.mp ha).1⟩
  · exact .inr (by rw [List.getElem?_set_ne hij, hb])

/-- A property that every step of a guarded step function keeps holds along every replay of
labels. -/
lemma foldlM_induction {σ α : Type} {step : σ → α → Option σ} {P : σ → Prop}
    (hstep : ∀ s a s', P s → step s a = some s' → P s') :
    ∀ (labels : List α) {s s' : σ}, P s → labels.foldlM step s = some s' → P s'
  | [], _, _, hp, hr => by cases hr; exact hp
  | a :: labels, s, _, hp, hr => by
    simp only [List.foldlM_cons] at hr
    cases hs : step s a with
    | none => simp [hs] at hr
    | some s₁ =>
      simp only [hs] at hr
      exact foldlM_induction hstep labels (hstep _ _ _ hp hs) hr

namespace Session

/-- A session right after `Inner::connect` returned `inner`. -/
def start (inner : Inner) : Session := ⟨inner, [], [], 0⟩

/-- The handshake part of a session. -/
def lifecycle (s : Session) : Lifecycle := ⟨s.inner.receiver, s.inner.timeout, s.shutdowns⟩

/-- Replace the handshake part of a session. -/
def withLifecycle (s : Session) (l : Lifecycle) : Session :=
  { s with
    inner := { s.inner with receiver := l.receiver, timeout := l.timeout }
    shutdowns := l.shutdowns }

/-- A resolver sends a completion down the one-shot channel of the call waiting on it. -/
def deliver (calls : List Call) (c : Completion) : List Call :=
  calls.modify (fun call => { call with inbox := some c.result }) c.caller

/-- What a completion does to the calls: it fills the channel of its own call, and nothing
else. -/
lemma getElem?_deliver (calls : List Call) (d : Completion) (j : Nat) :
    (deliver calls d)[j]? =
      calls[j]?.map fun c => if d.caller = j then { c with inbox := some d.result } else c := by
  simp [deliver, List.getElem?_modify]

/-- A completion reaches its own call only. -/
@[simp] lemma deliver_getElem?_of_ne {calls : List Call} {c : Completion} {j : Nat}
    (h : c.caller ≠ j) : (deliver calls c)[j]? = calls[j]? :=
  List.getElem?_modify_ne _ _ h

lemma foldl_deliver_getElem? {j : Nat} : ∀ {cs : List Completion} {calls : List Call},
    (∀ c ∈ cs, c.caller ≠ j) → (cs.foldl deliver calls)[j]? = calls[j]?
  | [], _, _ => rfl
  | c :: _, _, h => by
    rw [List.foldl_cons, foldl_deliver_getElem? fun c' hc' => h c' (List.mem_cons_of_mem _ hc'),
      deliver_getElem?_of_ne (h c (List.mem_cons_self _ _))]

/-- A completion changes no call's place in its code. -/
@[simp] lemma deliver_map_pc (calls : List Call) (c : Completion) :
    (deliver calls c).map Call.pc = calls.map Call.pc := by
  apply List.ext_getElem?
  intro j
  simp only [List.getElem?_map, deliver, List.getElem?_modify]
  cases calls[j]? <;> simp
  split <;> rfl

@[simp] lemma length_deliver (calls : List Call) (c : Completion) :
    (deliver calls c).length = calls.length :=
  List.length_modify _ _ _

@[simp] lemma foldl_deliver_length :
    ∀ (cs : List Completion) (calls : List Call), (cs.foldl deliver calls).length = calls.length
  | [], _ => rfl
  | c :: cs, calls => by rw [List.foldl_cons, foldl_deliver_length cs, length_deliver]

@[simp] lemma foldl_deliver_map_pc :
    ∀ (cs : List Completion) (calls : List Call), (cs.foldl deliver calls).map Call.pc = calls.map Call.pc
  | [], _ => rfl
  | c :: cs, calls => by rw [List.foldl_cons, foldl_deliver_map_pc cs, deliver_map_pc]

/-- The receiver's `self.handle_response(response)`, with the resolver's completion sent. -/
def handle (s : Session) (response : KaspadResponse) : Session :=
  let r := s.inner.handleResponse response
  { s with inner := r.1, calls := r.2.elim s.calls (deliver s.calls) }

/-- The timeout task's `self.resolver().remove_expired_requests(timeout)`, with the timeouts
sent. -/
def expireRequests (s : Session) : Session :=
  let r := s.inner.resolver.removeExpiredRequests s.inner.timeoutDuration s.now
  { s with inner := { s.inner with resolver := r.1 }, calls := r.2.foldl deliver s.calls }

/-- What can happen next. -/
inductive Label
  /-- `Inner::call(op, request)` is called, and draws `id`; when the id-based resolver finds `id`
  live it drops the call, which then takes no step at all, as a call whose caller dropped it. -/
  | call (op : RpcApiOps) (request : KaspadRequest) (id : UInt64)
  /-- Call `i`'s `request_sender.send(request).await` completes. -/
  | send (i : Nat)
  /-- Call `i`'s `receiver.await` completes. -/
  | resume (i : Nat)
  /-- The receiver's `stream.message()` arm yields `result`. -/
  | receive (result : StreamResult)
  /-- The receiver takes its shutdown arm. -/
  | receiverShutdown
  /-- The receiver takes its next step after the loop. -/
  | receiverExit
  /-- The timeout task's delay arm fires. -/
  | expire
  /-- The timeout task takes its shutdown arm. -/
  | timeoutShutdown
  /-- The timeout task takes its next step after the loop. -/
  | timeoutExit
  /-- `Inner::shutdown` is called. -/
  | shutdown
  /-- Shutdown call `i` takes a step. -/
  | stop (i : Nat)
  /-- Time passes. -/
  | tick
  /-- The transport takes the oldest request. -/
  | transmit
  /-- The transport drops the receiving end of the request channel. -/
  | closeRequests
  /-- The collector takes the oldest notification. -/
  | collect
  /-- The collector drops the receiving end of the notification channel. -/
  | closeNotifications
  deriving DecidableEq, Repr

/-- The guarded step function of a session: `none` when the label is not enabled. -/
def step (s : Session) : Label → Option Session
  | .call op request id =>
    (s.inner.callStart op { request with id := id } s.now s.calls.length).map fun r =>
      { s with inner := r.1, calls := s.calls ++ [⟨op, id, r.2, none⟩] }
  | .send i => s.calls[i]?.bind fun c =>
    match c.pc with
    | .sending request => (s.inner.requestSender.send request).map fun
      | .ok ch => { s with
          inner := { s.inner with requestSender := ch }
          calls := s.calls.set i { c with pc := .awaiting } }
      | .error () => { s with calls := s.calls.set i { c with pc := .returned (.error .ChannelRecvError) } }
    | _ => none
  | .resume i => s.calls[i]?.bind fun c =>
    match c.pc, c.inbox with
    | .awaiting, some result => some { s with calls := s.calls.set i { c with pc := .returned result } }
    | _, _ => none
  | .receive result => (s.lifecycle.step (.work .receiver (receiverBody result).1)).map fun l =>
    (receiverBody result).2.elim (s.withLifecycle l) (s.withLifecycle l).handle
  | .receiverShutdown => (s.lifecycle.step (.leave .receiver)).map s.withLifecycle
  | .receiverExit => (s.lifecycle.step (.exit .receiver)).map s.withLifecycle
  | .expire => (s.lifecycle.step (.work .timeout false)).map fun l => (s.withLifecycle l).expireRequests
  | .timeoutShutdown => (s.lifecycle.step (.leave .timeout)).map s.withLifecycle
  | .timeoutExit => (s.lifecycle.step (.exit .timeout)).map s.withLifecycle
  | .shutdown => (s.lifecycle.step .shutdown).map s.withLifecycle
  | .stop i => (s.lifecycle.step (.stop i)).map s.withLifecycle
  | .tick => some { s with now := s.now + 1 }
  | .transmit => s.inner.requestSender.recv.map fun r =>
    { s with inner := { s.inner with requestSender := r.2 } }
  | .closeRequests => some { s with inner := { s.inner with requestSender := s.inner.requestSender.close } }
  | .collect => s.inner.notifySender.recv.map fun r =>
    { s with inner := { s.inner with notifySender := r.2 } }
  | .closeNotifications =>
    some { s with inner := { s.inner with notifySender := s.inner.notifySender.close } }

/-- Replay labels from a session; `none` if one of them is not enabled on the way. -/
def runFrom (s : Session) (labels : List Label) : Option Session :=
  labels.foldlM step s

/-- A property that every step keeps holds along every run. -/
lemma runFrom_induction {P : Session → Prop}
    (hstep : ∀ s label s', P s → s.step label = some s' → P s') :
    ∀ (labels : List Label) {s s' : Session}, P s → s.runFrom labels = some s' → P s' :=
  foldlM_induction hstep

/-- A run takes its first step, then runs the rest from there. -/
lemma runFrom_cons {s s₁ : Session} {a : Label} (h : s.step a = some s₁) (labels : List Label) :
    s.runFrom (a :: labels) = s₁.runFrom labels := by
  rw [runFrom, List.foldlM_cons, h]
  rfl

/-- Time passes: `n` ticks advance the clock by `n` and change nothing else. -/
lemma runFrom_ticks (s : Session) (n : Nat) :
    s.runFrom (List.replicate n .tick) = some { s with now := s.now + n } := by
  induction n generalizing s with
  | zero => rfl
  | succ n ih =>
    have htick : s.step .tick = some { s with now := s.now + 1 } := rfl
    rw [List.replicate_succ, runFrom_cons htick, ih, Nat.add_right_comm]
    rfl

/-- The sessions a successful `Inner::connect` can lead to. -/
inductive Reachable : Session → Prop
  | connect {notifySend : Channel RpcNotification} {first : StreamResult} {inner : Inner} :
    Inner.connect notifySend first = .ok inner → Reachable (start inner)
  | step {s s' : Session} {label : Label} : Reachable s → s.step label = some s' → Reachable s'

lemma Reachable.runFrom {s s' : Session} (hs : s.Reachable) {labels : List Label}
    (h : s.runFrom labels = some s') : s'.Reachable :=
  runFrom_induction (fun _ _ _ hs hl => hs.step hl) labels hs h

/-- No step changes what the server advertised. -/
lemma step_flags {s s' : Session} {label : Label} (hs : s.step label = some s') :
    s'.inner.handleStopNotify = s.inner.handleStopNotify ∧
      s'.inner.handleMessageId = s.inner.handleMessageId := by
  cases label with
  | call op request id =>
    obtain ⟨r, hr, rfl⟩ := Option.map_eq_some'.mp hs
    rw [(Inner.callStart_spec hr).1]
    exact ⟨rfl, rfl⟩
  | send i =>
    simp only [step, Option.bind_eq_some] at hs
    obtain ⟨c, -, hs⟩ := hs
    split at hs
    · obtain ⟨r, -, rfl⟩ := Option.map_eq_some'.mp hs
      cases r <;> exact ⟨rfl, rfl⟩
    · cases hs
  | resume i =>
    simp only [step, Option.bind_eq_some] at hs
    obtain ⟨c, -, hs⟩ := hs
    split at hs
    · cases hs; exact ⟨rfl, rfl⟩
    · cases hs
  | receive result =>
    obtain ⟨l, -, rfl⟩ := Option.map_eq_some'.mp hs
    cases (receiverBody result).2 <;> simp [handle, withLifecycle]
  | expire | receiverShutdown | receiverExit | timeoutShutdown | timeoutExit | stop i
  | transmit | collect =>
    obtain ⟨l, -, rfl⟩ := Option.map_eq_some'.mp hs
    exact ⟨rfl, rfl⟩
  | shutdown | tick | closeRequests | closeNotifications => cases hs; exact ⟨rfl, rfl⟩

/-! ## The receiver's loop body -/

/-- The receiver in its loop hands a message to `handle_response` and stays in the loop. -/
lemma step_receive_message {s : Session} (hl : s.inner.receiver.pc = .looping)
    (response : KaspadResponse) : s.step (.receive (.ok (some response))) = some (s.handle response) := by
  simp [step, Lifecycle.step, lifecycle, Lifecycle.task, Lifecycle.setTask, Task.work, hl,
    receiverBody, withLifecycle]

/-- The receiver in its loop skips a transport error and stays in the loop. -/
lemma step_receive_error {s : Session} (hl : s.inner.receiver.pc = .looping) (status : Status) :
    s.step (.receive (.error status)) = some s := by
  simp [step, Lifecycle.step, lifecycle, Lifecycle.task, Lifecycle.setTask, Task.work, hl,
    receiverBody, withLifecycle]

/-- At the end of the stream the receiver breaks out of its loop. -/
lemma step_receive_end {s : Session} (hl : s.inner.receiver.pc = .looping) :
    s.step (.receive (.ok none)) =
      some { s with inner := { s.inner with receiver := { s.inner.receiver with pc := .exiting } } } := by
  simp [step, Lifecycle.step, lifecycle, Lifecycle.task, Lifecycle.setTask, Task.work, hl,
    receiverBody, withLifecycle]

/-- The timeout monitor in its loop runs `remove_expired_requests` and stays in the loop. -/
lemma step_expire {s : Session} (hl : s.inner.timeout.pc = .looping) :
    s.step .expire = some s.expireRequests := by
  simp [step, Lifecycle.step, lifecycle, Lifecycle.task, Lifecycle.setTask, Task.work, hl,
    withLifecycle]

/-- Out of its loop, the receiver reads nothing more. -/
lemma step_receive_of_not_looping {s : Session} (hl : s.inner.receiver.pc ≠ .looping)
    (result : StreamResult) : s.step (.receive result) = none := by
  simp [step, Lifecycle.step, lifecycle, Lifecycle.task, Task.work, hl]

/-! ## What a step does to the pendings, the calls and the request channel -/

/-- What one step of a session does to the resolver, the calls and the history of the request
channel: the inversion of `step` that the invariants below are proved from. -/
inductive StepKind (s : Session) (label : Label) (s' : Session) : Prop
  /-- A step of the handshake, of the clock or of the far end of a channel. -/
  | frame (resolver : s'.inner.resolver = s.inner.resolver) (calls : s'.calls = s.calls)
      (log : s'.inner.requestSender.log = s.inner.requestSender.log)
  /-- A new call, numbered after the others, with its request and the id it draws. -/
  | call (op : RpcApiOps) (request : KaspadRequest) (id : UInt64) (hlabel : label = .call op request id)
      (r : Inner × CallPc)
      (start : s.inner.callStart op { request with id := id } s.now s.calls.length = some r)
      (resolver : s'.inner.resolver = r.1.resolver)
      (calls : s'.calls = s.calls ++ [⟨op, id, r.2, none⟩])
      (log : s'.inner.requestSender.log = s.inner.requestSender.log)
  /-- Call `i` puts its request on the channel. -/
  | sent (i : Nat) (c : Call) (request : KaspadRequest) (hc : s.calls[i]? = some c)
      (hpc : c.pc = .sending request) (resolver : s'.inner.resolver = s.inner.resolver)
      (calls : s'.calls = s.calls.set i { c with pc := .awaiting })
      (log : s'.inner.requestSender.log = s.inner.requestSender.log ++ [request])
  /-- Call `i` finds the request channel closed and returns the channel error. -/
  | sendFailed (i : Nat) (c : Call) (request : KaspadRequest) (hc : s.calls[i]? = some c)
      (hpc : c.pc = .sending request) (resolver : s'.inner.resolver = s.inner.resolver)
      (calls : s'.calls = s.calls.set i { c with pc := .returned (.error .ChannelRecvError) })
      (log : s'.inner.requestSender.log = s.inner.requestSender.log)
  /-- Call `i` reads its one-shot channel and returns what it holds. -/
  | resumed (i : Nat) (c : Call) (result : Except Error KaspadResponse)
      (hc : s.calls[i]? = some c) (hpc : c.pc = .awaiting) (hin : c.inbox = some result)
      (resolver : s'.inner.resolver = s.inner.resolver)
      (calls : s'.calls = s.calls.set i { c with pc := .returned result })
      (log : s'.inner.requestSender.log = s.inner.requestSender.log)
  /-- The receiver, in its loop, hands a response to `handle_response`. -/
  | handled (response : KaspadResponse) (running : s.inner.receiver.pc = .looping)
      (resolver : s'.inner.resolver = (s.inner.handleResponse response).1.resolver)
      (calls : s'.calls = (s.inner.handleResponse response).2.elim s.calls (deliver s.calls))
      (log : s'.inner.requestSender.log = s.inner.requestSender.log)
  /-- The timeout task, in its loop, removes the expired pendings. -/
  | expired (running : s.inner.timeout.pc = .looping)
      (resolver : s'.inner.resolver =
        (s.inner.resolver.removeExpiredRequests s.inner.timeoutDuration s.now).1)
      (calls : s'.calls =
        (s.inner.resolver.removeExpiredRequests s.inner.timeoutDuration s.now).2.foldl deliver s.calls)
      (log : s'.inner.requestSender.log = s.inner.requestSender.log)

/-- Every step is one of the kinds of `StepKind`. -/
theorem step_kind {s s' : Session} {label : Label} (h : s.step label = some s') :
    StepKind s label s' := by
  cases label with
  | call op request id =>
    obtain ⟨r, hr, rfl⟩ := Option.map_eq_some'.mp h
    exact .call op request id rfl r hr rfl rfl (by rw [(Inner.callStart_spec hr).1])
  | send i =>
    simp only [step, Option.bind_eq_some] at h
    obtain ⟨c, hc, h⟩ := h
    split at h
    · rename_i request hpc
      obtain ⟨r, hr, rfl⟩ := Option.map_eq_some'.mp h
      cases r with
      | error u => exact .sendFailed i c request hc hpc rfl rfl rfl
      | ok ch => exact .sent i c request hc hpc rfl rfl (by simp [Channel.send_eq_ok hr])
    · cases h
  | resume i =>
    simp only [step, Option.bind_eq_some] at h
    obtain ⟨c, hc, h⟩ := h
    split at h
    · rename_i result hpc hin
      cases h
      exact .resumed i c result hc hpc hin rfl rfl rfl
    · cases h
  | receive result =>
    obtain ⟨l, hl, rfl⟩ := Option.map_eq_some'.mp h
    simp only [lifecycle, Lifecycle.step, Lifecycle.task, Option.map_eq_some'] at hl
    obtain ⟨t, ht, rfl⟩ := hl
    cases hb : (receiverBody result).2 with
    | none => simp only [hb, Option.elim]; exact .frame rfl rfl rfl
    | some response =>
      simp only [hb, Option.elim]
      obtain ⟨hres, hcomp⟩ := Inner.handleResponse_congr
        (a := (s.withLifecycle _).inner) (b := s.inner) rfl response
      exact .handled response (Task.work_pc ht) hres (by rw [← hcomp]; rfl)
        (by simp [handle, withLifecycle])
  | expire =>
    obtain ⟨l, hl, rfl⟩ := Option.map_eq_some'.mp h
    simp only [lifecycle, Lifecycle.step, Lifecycle.task, Option.map_eq_some'] at hl
    obtain ⟨t, ht, rfl⟩ := hl
    exact .expired (Task.work_pc ht) rfl rfl rfl
  | receiverShutdown | receiverExit | timeoutShutdown | timeoutExit | stop i =>
    obtain ⟨l, -, rfl⟩ := Option.map_eq_some'.mp h
    exact .frame rfl rfl rfl
  | shutdown | tick => cases h; exact .frame rfl rfl rfl
  | transmit =>
    obtain ⟨⟨r, ch⟩, hr, rfl⟩ := Option.map_eq_some'.mp h
    exact .frame rfl rfl (Channel.recv_log hr)
  | collect =>
    obtain ⟨r, -, rfl⟩ := Option.map_eq_some'.mp h
    exact .frame rfl rfl rfl
  | closeRequests | closeNotifications => cases h; exact .frame rfl rfl rfl

/-! ## The projection onto the handshake -/

@[simp] lemma lifecycle_withLifecycle (s : Session) (l : Lifecycle) :
    (s.withLifecycle l).lifecycle = l := rfl

@[simp] lemma handle_lifecycle (s : Session) (response : KaspadResponse) :
    (s.handle response).lifecycle = s.lifecycle := by
  simp [handle, lifecycle]

@[simp] lemma expireRequests_lifecycle (s : Session) : s.expireRequests.lifecycle = s.lifecycle :=
  rfl

/-- The handshake label a session label is, if any. -/
def Label.lifecycle? : Label → Option Lifecycle.Label
  | .receive result => some (.work .receiver (receiverBody result).1)
  | .receiverShutdown => some (.leave .receiver)
  | .receiverExit => some (.exit .receiver)
  | .expire => some (.work .timeout false)
  | .timeoutShutdown => some (.leave .timeout)
  | .timeoutExit => some (.exit .timeout)
  | .shutdown => some .shutdown
  | .stop i => some (.stop i)
  | _ => none

/-- **The session simulates the handshake**: each step is the step of its handshake label, or
leaves the handshake as it was. -/
theorem step_lifecycle {s s' : Session} {label : Label} (h : s.step label = some s') :
    match label.lifecycle? with
    | some l => s.lifecycle.step l = some s'.lifecycle
    | none => s'.lifecycle = s.lifecycle := by
  cases label with
  | call op request id =>
    obtain ⟨r, hr, rfl⟩ := Option.map_eq_some'.mp h
    simp only [Label.lifecycle?, lifecycle]
    rw [(Inner.callStart_spec hr).1]
  | send i =>
    simp only [step, Option.bind_eq_some] at h
    obtain ⟨c, -, h⟩ := h
    split at h
    · obtain ⟨r, -, rfl⟩ := Option.map_eq_some'.mp h
      cases r <;> rfl
    · cases h
  | resume i =>
    simp only [step, Option.bind_eq_some] at h
    obtain ⟨c, -, h⟩ := h
    split at h
    · cases h; rfl
    · cases h
  | receive result =>
    obtain ⟨l, hl, rfl⟩ := Option.map_eq_some'.mp h
    cases (receiverBody result).2 <;> simpa using hl
  | expire =>
    obtain ⟨l, hl, rfl⟩ := Option.map_eq_some'.mp h
    simpa using hl
  | receiverShutdown | receiverExit | timeoutShutdown | timeoutExit | stop i =>
    obtain ⟨l, hl, rfl⟩ := Option.map_eq_some'.mp h
    exact hl
  | shutdown => cases h; rfl
  | tick | closeRequests | closeNotifications => cases h; rfl
  | transmit | collect =>
    obtain ⟨r, -, rfl⟩ := Option.map_eq_some'.mp h
    rfl

lemma connect_lifecycle {notifySend : Channel RpcNotification} {first : StreamResult}
    {inner : Inner} (h : Inner.connect notifySend first = .ok inner) :
    (start inner).lifecycle = ⟨Task.new.spawn, Task.new.spawn, []⟩ := by
  unfold Inner.connect at h
  split at h <;> cases h
  rfl

/-- A property of handshakes that every handshake step keeps is kept by every session step. -/
lemma lifecycle_of_step {P : Lifecycle → Prop}
    (hstep : ∀ l label l', P l → l.step label = some l' → P l') {s s' : Session} {label : Label}
    (hp : P s.lifecycle) (h : s.step label = some s') : P s'.lifecycle := by
  have hl := step_lifecycle h
  split at hl
  · exact hstep _ _ _ hp hl
  · rw [hl]; exact hp

/-- A property of handshakes that every handshake step keeps holds along every session run. -/
lemma runFrom_lifecycle {P : Lifecycle → Prop}
    (hstep : ∀ l label l', P l → l.step label = some l' → P l') (labels : List Label)
    {s s' : Session} : P s.lifecycle → s.runFrom labels = some s' → P s'.lifecycle :=
  runFrom_induction (P := fun s => P s.lifecycle) (fun _ _ _ hp h => lifecycle_of_step hstep hp h)
    labels

/-- **Every reachable session satisfies the handshake invariant.** -/
theorem Reachable.lifecycle_inv {s : Session} (h : s.Reachable) : s.lifecycle.Inv := by
  induction h with
  | connect hc =>
    rw [connect_lifecycle hc]
    have ht : (Task.new.spawn).Inv := Task.Inv.spawn rfl
    exact ⟨ht, ht, fun _ hp => by cases hp⟩
  | step _ hs ih => exact lifecycle_of_step (fun _ _ _ h hl => h.step hl) ih hs

end Session

/-! ## A connection to a server without the two capabilities -/

/-- The first message of the stream: a GetInfo response advertising neither capability. -/
def getInfoWithoutCapabilities : KaspadResponse := ⟨0, some (.GetInfoResponse ⟨false, false⟩)⟩

/-- What `Inner::connect` returns on that first message. -/
def connectedWithoutCapabilities : Inner :=
  (Inner.new false false (Channel.new none) ((Channel.new (some 16)).push getInfoRequest)
    ).spawnRequestTimeoutMonitor.spawnResponseReceiverTask

end Kaspa
