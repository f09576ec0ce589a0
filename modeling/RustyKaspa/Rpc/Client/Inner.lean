import RustyKaspa.Rpc.Channel
import RustyKaspa.Rpc.Client.Resolver
import RustyKaspa.Rpc.Client.Lifecycle

/-!
# `Inner`, the state of a connected client

`Inner` holds what `Inner::connect` learned from the server (the two capability flags), the two
channels it writes to, the resolver, and the two background tasks with their flags and
triggers.  This file gives the structure, its constructor and `connect`, and the functions of
`Inner` that run without awaiting anything: `handle_response` and the part of `call` before its
first `.await`.  How they interleave is `Client.Session`.

`handle_response` is written through `route`, the decision it takes on a response (to the
resolver, to the notification channel, or nowhere), so that the receive path can be reasoned
about apart from what the resolver and the channel then do.
-/

namespace Kaspa

/-- `REQUEST_TIMEOUT_DURATION`, in milliseconds. -/
def requestTimeoutDuration : Nat := 5000

/-- `TIMEOUT_MONITORING_INTERVAL`, in milliseconds. -/
def timeoutMonitoringInterval : Nat := 1000

/-- `Inner`.  The `*_is_running` flag and `*_shutdown` trigger of each background task are kept
with the task itself in a `Task`. -/
structure Inner where
  handleStopNotify : Bool
  handleMessageId : Bool
  notifySender : Channel RpcNotification
  requestSender : Channel KaspadRequest
  receiver : Task
  resolver : Resolver
  timeout : Task
  timeoutTimerInterval : Nat
  timeoutDuration : Nat
  deriving DecidableEq

/-- Where a call of `Inner::call` that got past its payload check is: awaiting
`request_sender.send`, awaiting its one-shot receiver, or returned. -/
inductive CallPc
  | sending (request : KaspadRequest)
  | awaiting
  | returned (result : Except Error KaspadResponse)
  deriving DecidableEq, Repr

/-- Where `Inner::handle_response` sends a response. -/
inductive Route
  | resolver (response : KaspadResponse)
  | notifier (notification : RpcNotification)
  | dropped
  deriving DecidableEq, Repr

/-- The decision `Inner::handle_response` takes: a notification goes to the notification
channel if it converts and is dropped if not; any other response goes to the resolver if it
has a payload. -/
def route (response : KaspadResponse) : Route :=
  if response.isNotification then
    match RpcNotification.tryFrom response with
    | .ok notification => .notifier notification
    | .error _ => .dropped
  else if response.payload.isSome then .resolver response
  else .dropped

/-- The GetInfo probe `Inner::connect` sends first: `GetInfoRequestMessage {}.into()`. -/
def getInfoRequest : KaspadRequest := ⟨0, some (.Call .GetInfo none)⟩

/-- A response the receiver hands to the resolver is the response it read. -/
lemma route_eq_resolver {response r : KaspadResponse} (h : route response = .resolver r) :
    r = response := by
  unfold route at h
  split at h
  · split at h <;> cases h
  · split at h <;> cases h
    rfl

namespace Inner

/-- `Inner::new`: the resolver follows `handle_message_id`, both tasks are not spawned yet. -/
def new (handleStopNotify handleMessageId : Bool) (notifySend : Channel RpcNotification)
    (requestSend : Channel KaspadRequest) : Inner where
  handleStopNotify := handleStopNotify
  handleMessageId := handleMessageId
  notifySender := notifySend
  requestSender := requestSend
  resolver := match handleMessageId with
    | true => IdResolver.new
    | false => QueueResolver.new
  receiver := Task.new
  timeout := Task.new
  timeoutDuration := requestTimeoutDuration
  timeoutTimerInterval := timeoutMonitoringInterval

/-- `spawn_request_timeout_monitor`. -/
def spawnRequestTimeoutMonitor (self : Inner) : Inner := { self with timeout := self.timeout.spawn }

/-- `spawn_response_receiver_task`. -/
def spawnResponseReceiverTask (self : Inner) : Inner :=
  { self with receiver := self.receiver.spawn }

/-- `Inner::connect` from the point where the stream is open: the GetInfo probe is on the
request channel, and `first` is the first `stream.message().await`.  The capability flags are
those of the GetInfo response, both false when the first message is not one; the transport
set-up before it (endpoint, TLS, compression) is out of scope. -/
def connect (notifySend : Channel RpcNotification) (first : StreamResult) : Except Error Inner :=
  let requestSend := (Channel.new (some 16)).push getInfoRequest
  match first with
  | .error status => .error (.TonicStatus status.message)
  | .ok none => .error (.String "gRPC stream was closed by the server")
  | .ok (some msg) =>
    let flags := match msg.getInfoResponse with
      | .ok response => (response.hasNotifyCommand, response.hasMessageId)
      | .error _ => (false, false)
    .ok (new flags.1 flags.2 notifySend requestSend).spawnRequestTimeoutMonitor.spawnResponseReceiverTask

/-- A connection's resolver follows the server's `has_message_id`. -/
lemma connect_kind {notifySend : Channel RpcNotification} {first : StreamResult} {inner : Inner}
    (h : connect notifySend first = .ok inner) :
    inner.resolver.kind = if inner.handleMessageId then .Id else .Queue := by
  unfold connect at h
  split at h <;> cases h
  simp only [spawnResponseReceiverTask, spawnRequestTimeoutMonitor, new]
  split <;> simp [*, IdResolver.new, QueueResolver.new]

/-- A connection starts with no pending. -/
lemma connect_pendings {notifySend : Channel RpcNotification} {first : StreamResult} {inner : Inner}
    (h : connect notifySend first = .ok inner) : inner.resolver.pendings = [] := by
  unfold connect at h
  split at h <;> cases h
  simp only [spawnResponseReceiverTask, spawnRequestTimeoutMonitor, new]
  split <;> rfl

/-- A connection starts with the GetInfo probe on the request channel. -/
lemma connect_requestSender {notifySend : Channel RpcNotification} {first : StreamResult}
    {inner : Inner} (h : connect notifySend first = .ok inner) :
    inner.requestSender = (Channel.new (some 16)).push getInfoRequest := by
  unfold connect at h
  split at h <;> cases h
  rfl

/-- `Inner::handle_response`, returning what the resolver sends down a one-shot channel.  A
failed `try_send` leaves the channel as it was. -/
def handleResponse (self : Inner) (response : KaspadResponse) : Inner × Option Completion :=
  match route response with
  | .resolver response =>
    let r := self.resolver.handleResponse response
    ({ self with resolver := r.1 }, r.2)
  | .notifier notification =>
    ({ self with notifySender := (self.notifySender.trySend notification).getD self.notifySender },
      none)
  | .dropped => (self, none)

/-- `Inner::call` up to its first `.await`, for the call numbered `caller`, at time `now`: a
request with no payload fails with `MissingRequestPayload`; otherwise its pending is
registered and the call goes on to send it, unless the resolver drops it on an id collision
(`none`). -/
def callStart (self : Inner) (op : RpcApiOps) (request : KaspadRequest) (now caller : Nat) :
    Option (Inner × CallPc) :=
  if request.payload.isSome then
    (self.resolver.registerRequest op request now caller).map fun resolver =>
      ({ self with resolver := resolver }, .sending request)
  else some (self, .returned (.error .MissingRequestPayload))

/-! ## What each function touches -/

@[simp] lemma handleResponse_receiver (self : Inner) (response : KaspadResponse) :
    (self.handleResponse response).1.receiver = self.receiver := by
  unfold handleResponse; split <;> rfl

@[simp] lemma handleResponse_timeout (self : Inner) (response : KaspadResponse) :
    (self.handleResponse response).1.timeout = self.timeout := by
  unfold handleResponse; split <;> rfl

@[simp] lemma handleResponse_requestSender (self : Inner) (response : KaspadResponse) :
    (self.handleResponse response).1.requestSender = self.requestSender := by
  unfold handleResponse; split <;> rfl

@[simp] lemma handleResponse_handleStopNotify (self : Inner) (response : KaspadResponse) :
    (self.handleResponse response).1.handleStopNotify = self.handleStopNotify := by
  unfold handleResponse; split <;> rfl

@[simp] lemma handleResponse_handleMessageId (self : Inner) (response : KaspadResponse) :
    (self.handleResponse response).1.handleMessageId = self.handleMessageId := by
  unfold handleResponse; split <;> rfl

/-- What `handle_response` does to the resolver, and the completion it sends, depend on the
resolver alone. -/
lemma handleResponse_congr {a b : Inner} (h : a.resolver = b.resolver) (response : KaspadResponse) :
    (a.handleResponse response).1.resolver = (b.handleResponse response).1.resolver ∧
      (a.handleResponse response).2 = (b.handleResponse response).2 := by
  unfold handleResponse
  split <;> simp [h]

/-- Handling a response adds no pending. -/
lemma handleResponse_pendings (self : Inner) (response : KaspadResponse) :
    List.Sublist (self.handleResponse response).1.resolver.pendings self.resolver.pendings := by
  unfold handleResponse
  split
  · exact Resolver.handleResponse_sublist _ _
  · exact List.Sublist.refl _
  · exact List.Sublist.refl _

/-- With one pending per call, handling a response either leaves the resolver alone and
completes nothing, or removes one pending and completes its call, leaving that call none. -/
lemma handleResponse_cases (self : Inner) (response : KaspadResponse)
    (hnd : (self.resolver.pendings.map Pending.caller).Nodup) :
    ((self.handleResponse response).1.resolver = self.resolver ∧
        (self.handleResponse response).2 = none) ∨
      ∃ p ∈ self.resolver.pendings,
        (self.handleResponse response).2 = some ⟨p.caller, .ok response⟩ ∧
          ∀ q ∈ (self.handleResponse response).1.resolver.pendings, q.caller ≠ p.caller := by
  unfold handleResponse
  split
  · rename_i r hr
    obtain rfl := route_eq_resolver hr
    rcases self.resolver.handleResponse_cases r hnd with h | h
    · rw [h]; exact .inl ⟨rfl, rfl⟩
    · exact .inr h
  · exact .inl ⟨rfl, rfl⟩
  · exact .inl ⟨rfl, rfl⟩

/-- A completion of `handle_response` goes to the call of a pending the response matches. -/
lemma handleResponse_completion {self : Inner} {response : KaspadResponse} {d : Completion}
    (h : (self.handleResponse response).2 = some d) :
    ∃ p ∈ self.resolver.pendings, p.isMatching self.resolver.kind response ∧
      d = ⟨p.caller, .ok response⟩ := by
  unfold handleResponse at h
  split at h
  · rename_i r hr
    obtain rfl := route_eq_resolver hr
    exact Resolver.handleResponse_completion h
  · cases h
  · cases h

/-- The only pending `handle_response` removes is the one whose call it completes. -/
lemma handleResponse_keeps {self : Inner} {response : KaspadResponse} {q : Pending}
    (hq : q ∈ self.resolver.pendings)
    (hd : ∀ d, (self.handleResponse response).2 = some d → d.caller ≠ q.caller) :
    q ∈ (self.handleResponse response).1.resolver.pendings := by
  unfold handleResponse at hd ⊢
  cases hr : route response with
  | resolver r =>
    simp only [hr] at hd ⊢
    exact Resolver.handleResponse_keeps hq hd
  | notifier _ | dropped => simpa [hr] using hq

@[simp] lemma handleResponse_kind (self : Inner) (response : KaspadResponse) :
    (self.handleResponse response).1.resolver.kind = self.resolver.kind := by
  unfold handleResponse
  split <;> simp

/-- `call` up to its first `.await`: with a payload it registers one pending for `caller` and
goes on to send the request; without one it registers nothing and fails.  Nothing else of
`Inner` changes. -/
lemma callStart_spec {self : Inner} {op : RpcApiOps} {request : KaspadRequest} {now caller : Nat}
    {r : Inner × CallPc} (h : self.callStart op request now caller = some r) :
    r.1 = { self with resolver := r.1.resolver } ∧
      ((request.payload.isSome ∧ self.resolver.registerRequest op request now caller = some r.1.resolver ∧
          r.2 = .sending request) ∨
        (request.payload = none ∧ r.1.resolver = self.resolver ∧
          r.2 = .returned (.error .MissingRequestPayload))) := by
  unfold callStart at h
  split at h <;> rename_i hp
  · obtain ⟨resolver, hreg, rfl⟩ := Option.map_eq_some'.mp h
    exact ⟨rfl, .inl ⟨hp, hreg, rfl⟩⟩
  · cases h
    exact ⟨rfl, .inr ⟨Option.not_isSome_iff_eq_none.mp hp, rfl, rfl⟩⟩

lemma callStart_kind {self : Inner} {op : RpcApiOps} {request : KaspadRequest} {now caller : Nat}
    {r : Inner × CallPc} (h : self.callStart op request now caller = some r) :
    r.1.resolver.kind = self.resolver.kind := by
  rcases (callStart_spec h).2 with ⟨-, hreg, -⟩ | ⟨-, hr, -⟩
  · exact Resolver.registerRequest_kind hreg
  · rw [hr]

end Inner

end Kaspa
