import RustyKaspa.Rpc.Client.Calls
import RustyKaspa.Rpc.Notify.Notifier

/-!
# `GrpcClient`: the public API over `Inner` and the notifier

`GrpcClient` owns an `Inner` and a `Notifier` whose subscriber calls back into `Inner` through
the `SubscriptionManager` impl.  Its API is the `route!` methods, each an `Inner::call` with the
request message of its operation, and the notification methods, which go to the notifier;
`stop_notify` first checks the `handle_stop_notify` flag `Inner::connect` read off the GetInfo
response.  The subscriber passes each subscription request of the notifier to `Inner`'s
`start_notify` or `stop_notify`, and the latter makes a call only when the flag is set.

`GrpcClient.step` is one step of any of them, or of the session: everything of the session but
starting a call, since only the API and the subscriber call `Inner::call`.  Each step is a step
of the session or leaves it alone (`Reachable.session`), so every result about sessions holds of
the session of every reachable client.

**`stop_notify_unsupported`**: when the server did not advertise notify commands, no request
carrying a Stop subscribe message is ever put on the request channel, whatever the API, the
notifier and the subscriber do; and `stop_notify` answers `UnsupportedFeature` at once, leaving
the client, the notifier included, as it was.

**`api_call_results`**: a call made through the client, by a `route!` method or by the
subscriber, returns a response that answers it, a timeout or the channel error, and never
`MissingRequestPayload`: the client always builds a payload (`NoMissing`).
-/

namespace Kaspa

/-- Whether a request carries a subscribe message with `SubscribeCommand::Stop`. -/
def KaspadRequest.isStop (request : KaspadRequest) : Bool :=
  match request.payload with
  | some (.Subscribe _ .Stop) => true
  | _ => false

namespace Inner

/-- `SubscriptionManager::start_notify` for `Inner`: the call it makes. -/
def startNotify (_self : Inner) (notificationType : NotificationType) :
    Option (RpcApiOps × KaspadRequest) :=
  let request := RequestPayload.fromNotificationType notificationType .Start
  some (request.op, ⟨0, some request⟩)

/-- `SubscriptionManager::stop_notify` for `Inner`: the call it makes, none when the server does
not handle the stop command. -/
def stopNotify (self : Inner) (notificationType : NotificationType) :
    Option (RpcApiOps × KaspadRequest) :=
  if self.handleStopNotify then
    let request := RequestPayload.fromNotificationType notificationType .Stop
    some (request.op, ⟨0, some request⟩)
  else none

/-- Modelled from the spec: the subscriber passes a subscription request to its
`SubscriptionManager`. -/
def handleSubscription (self : Inner) : NotificationType × SubscribeCommand →
    Option (RpcApiOps × KaspadRequest)
  | (notificationType, .Start) => self.startNotify notificationType
  | (notificationType, .Stop) => self.stopNotify notificationType

/-- The subscriber's calls carry a subscribe message. -/
lemma handleSubscription_payload {self : Inner} {message : NotificationType × SubscribeCommand}
    {op : RpcApiOps} {request : KaspadRequest}
    (h : self.handleSubscription message = some (op, request)) : request.payload.isSome := by
  obtain ⟨notificationType, command⟩ := message
  cases command with
  | Start => cases h; rfl
  | Stop =>
    simp only [handleSubscription, stopNotify] at h
    split at h <;> cases h
    rfl

/-- The subscriber asks for a Stop only on a server that handles it. -/
lemma handleSubscription_isStop {self : Inner} {message : NotificationType × SubscribeCommand}
    {op : RpcApiOps} {request : KaspadRequest} (hf : self.handleStopNotify = false)
    (h : self.handleSubscription message = some (op, request)) : request.isStop = false := by
  obtain ⟨notificationType, command⟩ := message
  cases command with
  | Start => cases h; rfl
  | Stop => simp [handleSubscription, stopNotify, hf] at h

end Inner

namespace Session

variable {s s' : Session}

/-- No Stop request has been put on the request channel, and no call is about to put one. -/
structure NoStop (s : Session) : Prop where
  /-- Nothing on the request channel, taken or not, is a Stop. -/
  log : ∀ request ∈ s.inner.requestSender.log, request.isStop = false
  /-- No call is about to send a Stop. -/
  sending : ∀ request, CallPc.sending request ∈ s.calls.map Call.pc → request.isStop = false

/-- Moving call `i` to a point other than sending keeps the calls free of Stops. -/
lemma NoStop.sending_set (h : s.NoStop) {i : Nat} {c : Call} (hpc : ∀ r, c.pc ≠ .sending r)
    (hcalls : s'.calls = s.calls.set i c) :
    ∀ request, CallPc.sending request ∈ s'.calls.map Call.pc → request.isStop = false := by
  intro request hr
  rw [hcalls, List.map_set] at hr
  rcases List.mem_or_eq_of_mem_set hr with hr | hr
  · exact h.sending request hr
  · exact absurd hr.symm (hpc request)

/-- **A step keeps the channel free of Stops unless it starts a call with one.** -/
theorem NoStop.step (h : s.NoStop) {label : Label} (hs : s.step label = some s')
    (hl : ∀ op request id, label = .call op request id → request.isStop = false) : s'.NoStop := by
  cases step_kind hs with
  | frame _ hcalls hlog => exact ⟨hlog ▸ h.log, hcalls ▸ h.sending⟩
  | call op request id hlabel r hstart _ hcalls hlog =>
    refine ⟨hlog ▸ h.log, fun q hq => ?_⟩
    rw [hcalls, List.map_append, List.mem_append] at hq
    refine hq.elim (h.sending q) fun hq => ?_
    rcases (Inner.callStart_spec hstart).2 with ⟨-, -, hpc⟩ | ⟨-, -, hpc⟩ <;> simp [hpc] at hq
    exact hq ▸ hl op request id hlabel
  | sent i c request hc hpc _ hcalls hlog =>
    refine ⟨fun r hr => ?_, h.sending_set (fun _ => by simp) hcalls⟩
    rw [hlog, List.mem_append, List.mem_singleton] at hr
    rcases hr with hr | rfl
    · exact h.log r hr
    · exact h.sending r (hpc ▸ List.mem_map_of_mem _ (List.getElem?_mem hc))
  | sendFailed i c request hc hpc _ hcalls hlog =>
    exact ⟨hlog ▸ h.log, h.sending_set (fun _ => by simp) hcalls⟩
  | resumed i c result hc hpc hin _ hcalls hlog =>
    exact ⟨hlog ▸ h.log, h.sending_set (fun _ => by simp) hcalls⟩
  | handled response _ _ hcalls hlog =>
    refine ⟨hlog ▸ h.log, ?_⟩
    rw [hcalls]
    cases (s.inner.handleResponse response).2 <;> simpa using h.sending
  | expired _ _ hcalls hlog =>
    exact ⟨hlog ▸ h.log, by rw [hcalls, foldl_deliver_map_pc]; exact h.sending⟩

/-- No call has returned `MissingRequestPayload`. -/
def NoMissing (s : Session) : Prop :=
  CallPc.returned (.error .MissingRequestPayload) ∉ s.calls.map Call.pc

/-- Moving call `i` to a point other than the missing-payload return keeps it. -/
lemma NoMissing.set (h : s.NoMissing) {i : Nat} {c : Call}
    (hpc : c.pc ≠ .returned (.error .MissingRequestPayload)) (hcalls : s'.calls = s.calls.set i c) :
    s'.NoMissing := fun hm => by
  rw [hcalls, List.map_set] at hm
  exact (List.mem_or_eq_of_mem_set hm).elim h fun he => hpc he.symm

/-- **A step keeps every call clear of `MissingRequestPayload`** unless it starts a call without
a payload, for settled calls: a call resuming returns what its channel holds, a response or a
timeout. -/
lemma NoMissing.step (h : s.NoMissing) (hset : s.Settled) {label : Label}
    (hs : s.step label = some s')
    (hl : ∀ op request id, label = .call op request id → request.payload.isSome) : s'.NoMissing := by
  cases step_kind hs with
  | frame _ hcalls _ => exact fun hm => h (hcalls ▸ hm)
  | call op request id hlabel r hstart _ hcalls _ =>
    rcases (Inner.callStart_spec hstart).2 with ⟨-, -, hpc⟩ | ⟨hnone, -, -⟩
    · intro hm
      rw [hcalls, List.map_append, List.mem_append] at hm
      exact hm.elim h fun hm => by simp [hpc] at hm
    · exact absurd (hl op request id hlabel) (by simp [show request.payload = none from hnone])
  | sent i c request hc _ _ hcalls _ => exact h.set (by simp) hcalls
  | sendFailed i c request hc _ _ hcalls _ => exact h.set (by simp) hcalls
  | resumed i c result hc _ hin _ hcalls _ =>
    refine h.set (fun he => ?_) hcalls
    cases he
    exact absurd ((hset c (List.getElem?_mem hc)).inbox _ hin) (by decide)
  | handled response _ _ hcalls _ =>
    exact fun hm => h (by rwa [hcalls, elim_deliver, foldl_deliver_map_pc] at hm)
  | expired _ _ hcalls _ => exact fun hm => h (by rwa [hcalls, foldl_deliver_map_pc] at hm)

end Session

/-- The request a `route!` method hands to `Inner::call`: the request message of its
operation, with the distinguishing key of the typed request it was given. -/
def routeRequest (op : RpcApiOps) (key : Option RequestKey) : KaspadRequest :=
  ⟨0, some (.Call op key)⟩

/-- `GrpcClient`: its `Inner`, with everything running against it, and its `Notifier`. -/
structure GrpcClient where
  session : Session
  notifier : Notifier
  deriving DecidableEq

namespace GrpcClient

/-- `GrpcClient::connect` from the point where the stream is open: `Inner::connect`, then a
notifier with no listener. -/
def connect (notifySend : Channel RpcNotification) (first : StreamResult) :
    Except Error GrpcClient :=
  (Inner.connect notifySend first).map fun inner => ⟨Session.start inner, Notifier.new⟩

lemma connect_eq_ok {notifySend : Channel RpcNotification} {first : StreamResult} {c : GrpcClient}
    (h : connect notifySend first = .ok c) :
    ∃ inner, Inner.connect notifySend first = .ok inner ∧ c = ⟨Session.start inner, Notifier.new⟩ := by
  unfold connect at h
  cases hi : Inner.connect notifySend first with
  | error e => rw [hi] at h; cases h
  | ok inner => rw [hi] at h; cases h; exact ⟨inner, rfl, rfl⟩

/-- `GrpcClient::handle_stop_notify`. -/
def handleStopNotify (self : GrpcClient) : Bool := self.session.inner.handleStopNotify

/-- `register_new_listener`. -/
def registerNewListener (self : GrpcClient) : GrpcClient × ListenerID :=
  let r := self.notifier.registerNewListener
  ({ self with notifier := r.1 }, r.2)

/-- `unregister_listener`. -/
def unregisterListener (self : GrpcClient) (id : ListenerID) : GrpcClient :=
  { self with notifier := self.notifier.unregisterListener id }

/-- `start_notify`. -/
def startNotify (self : GrpcClient) (id : ListenerID) (notificationType : NotificationType) :
    GrpcClient × Except RpcError Unit :=
  ({ self with notifier := self.notifier.startNotify id notificationType }, .ok ())

/-- `stop_notify`: refused when the server does not handle the stop command. -/
def stopNotify (self : GrpcClient) (id : ListenerID) (notificationType : NotificationType) :
    GrpcClient × Except RpcError Unit :=
  if self.handleStopNotify then
    ({ self with notifier := self.notifier.stopNotify id notificationType }, .ok ())
  else (self, .error .UnsupportedFeature)

/-- What can happen next to a client. -/
inductive Label
  /-- A step of the session other than starting a call. -/
  | session (label : Session.Label)
  /-- A `route!` method is called with a request of distinguishing key `key`, and its call draws
  `id`. -/
  | call (op : RpcApiOps) (key : Option RequestKey) (id : UInt64)
  /-- `register_new_listener`. -/
  | registerNewListener
  /-- `unregister_listener(id)`. -/
  | unregisterListener (id : ListenerID)
  /-- `start_notify(id, notification_type)`. -/
  | startNotify (id : ListenerID) (notificationType : NotificationType)
  /-- `stop_notify(id, notification_type)`. -/
  | stopNotify (id : ListenerID) (notificationType : NotificationType)
  /-- The subscriber takes the oldest subscription request and passes it to `Inner`; a call it
  makes draws `id`. -/
  | subscribe (id : UInt64)
  deriving DecidableEq, Repr

/-- Whether a session label starts a call. -/
def isCall : Session.Label → Bool
  | .call .. => true
  | _ => false

/-- The guarded step function of a client. -/
def step (c : GrpcClient) : Label → Option GrpcClient
  | .session label =>
    if isCall label then none else (c.session.step label).map fun s => { c with session := s }
  | .call op key id =>
    (c.session.step (.call op (routeRequest op key) id)).map fun s => { c with session := s }
  | .registerNewListener => some c.registerNewListener.1
  | .unregisterListener id => some (c.unregisterListener id)
  | .startNotify id notificationType => some (c.startNotify id notificationType).1
  | .stopNotify id notificationType => some (c.stopNotify id notificationType).1
  | .subscribe id => c.notifier.subscriptions.recv.bind fun r =>
    let c' := { c with notifier := { c.notifier with subscriptions := r.2 } }
    match c.session.inner.handleSubscription r.1 with
    | some call => (c.session.step (.call call.1 call.2 id)).map fun s => { c' with session := s }
    | none => some c'

/-- Replay labels from a client; `none` if one of them is not enabled on the way. -/
def runFrom (c : GrpcClient) (labels : List Label) : Option GrpcClient :=
  labels.foldlM step c

/-- The clients a successful `GrpcClient::connect` can lead to. -/
inductive Reachable : GrpcClient → Prop
  | connect {notifySend : Channel RpcNotification} {first : StreamResult} {c : GrpcClient} :
    GrpcClient.connect notifySend first = .ok c → Reachable c
  | step {c c' : GrpcClient} {label : Label} : Reachable c → c.step label = some c' → Reachable c'

lemma Reachable.runFrom {c c' : GrpcClient} (hc : c.Reachable) {labels : List Label}
    (h : c.runFrom labels = some c') : c'.Reachable :=
  foldlM_induction (fun _ _ _ hc hs => Reachable.step hc hs) labels hc h

/-- **Every client step is a session step or leaves the session alone**, and a call the step
starts carries no Stop when the server does not handle the stop command. -/
theorem step_session {c c' : GrpcClient} {label : Label} (h : c.step label = some c') :
    c'.session = c.session ∨ ∃ l, c.session.step l = some c'.session ∧
      ∀ op request id, l = .call op request id → request.payload.isSome ∧
        (c.session.inner.handleStopNotify = false → request.isStop = false) := by
  cases label with
  | session l =>
    simp only [step] at h
    split at h
    · cases h
    · rename_i hl
      obtain ⟨s, hs, rfl⟩ := Option.map_eq_some'.mp h
      refine .inr ⟨l, hs, fun op request id he => ?_⟩
      simp [he, isCall] at hl
  | call op key id =>
    simp only [step] at h
    obtain ⟨s, hs, rfl⟩ := Option.map_eq_some'.mp h
    exact .inr ⟨_, hs, fun _ _ _ he => by cases he; exact ⟨rfl, fun _ => rfl⟩⟩
  | subscribe id =>
    simp only [step, Option.bind_eq_some] at h
    obtain ⟨r, -, h⟩ := h
    split at h
    · rename_i call hcall
      obtain ⟨s, hs, rfl⟩ := Option.map_eq_some'.mp h
      exact .inr ⟨_, hs, fun _ _ _ he => by
        cases he
        exact ⟨Inner.handleSubscription_payload hcall, fun hf => Inner.handleSubscription_isStop hf hcall⟩⟩
    · cases h; exact .inl rfl
  | registerNewListener | unregisterListener _ | startNotify _ _ => cases h; exact .inl rfl
  | stopNotify _ _ =>
    cases h
    unfold stopNotify
    split <;> exact .inl rfl

/-- **The session of a reachable client is a reachable session.** -/
theorem Reachable.session {c : GrpcClient} (hc : c.Reachable) : c.session.Reachable := by
  induction hc with
  | connect h =>
    obtain ⟨inner, hi, rfl⟩ := connect_eq_ok h
    exact .connect hi
  | step _ h ih =>
    rcases step_session h with he | ⟨l, hl, -⟩
    · rw [he]; exact ih
    · exact ih.step hl

/-- On a server without notify commands, the session of a reachable client is free of Stops. -/
lemma Reachable.noStop {c : GrpcClient} (hc : c.Reachable) :
    c.session.inner.handleStopNotify = false → c.session.NoStop := by
  induction hc with
  | connect h =>
    obtain ⟨inner, hi, rfl⟩ := connect_eq_ok h
    exact fun _ => ⟨by simp [Session.start, Inner.connect_requestSender hi, KaspadRequest.isStop,
      getInfoRequest], fun _ hr => by cases hr⟩
  | step _ h ih =>
    intro hf
    rcases step_session h with he | ⟨l, hl, hstop⟩
    · rw [he] at hf ⊢; exact ih hf
    · rw [(Session.step_flags hl).1] at hf
      exact (ih hf).step hl fun op request id he => (hstop op request id he).2 hf

/-- **No wire Stop to a server without notify commands.**  When the handshake left
`handle_stop_notify` false, nothing on the request channel of a reachable client, ever, carries
a Stop subscribe message, whatever the API, the notifier and its subscriber did; and
`stop_notify` answers `UnsupportedFeature` leaving the client, its notifier included, as it
was. -/
theorem stop_notify_unsupported {c : GrpcClient} (hc : c.Reachable)
    (hf : c.handleStopNotify = false) :
    (∀ request ∈ c.session.inner.requestSender.log, request.isStop = false) ∧
      ∀ id notificationType, c.stopNotify id notificationType = (c, .error .UnsupportedFeature) :=
  ⟨(hc.noStop hf).log, fun _ _ => by simp [stopNotify, hf]⟩

/-- In a reachable client no call has returned `MissingRequestPayload`: the `route!` methods and
the subscriber always build a payload. -/
lemma Reachable.noMissing {c : GrpcClient} (hc : c.Reachable) : c.session.NoMissing := by
  induction hc with
  | connect h =>
    obtain ⟨inner, -, rfl⟩ := connect_eq_ok h
    exact fun hm => by simp [Session.start] at hm
  | step hc h ih =>
    rcases step_session h with he | ⟨l, hl, hcall⟩
    · rw [he]; exact ih
    · exact ih.step hc.session.settled hl fun op request id he => (hcall op request id he).1

/-- **What an API call returns.**  In every reachable client, a call made by a `route!` method or
by the subscriber that has returned has returned a response answering it (carrying its id when
the server tags messages with ids, of its operation when it does not), a timeout, or the channel
error: never `MissingRequestPayload`, since the client always builds a payload. -/
theorem api_call_results {c : GrpcClient} (hc : c.Reachable) {i : Nat} {call : Call}
    {result : Except Error KaspadResponse} (hcall : c.session.calls[i]? = some call)
    (hr : call.pc = .returned result) :
    (∃ response, result = .ok response ∧
        if c.session.inner.handleMessageId then response.id = call.id
        else response.op? = some call.op) ∨
      result = .error .Timeout ∨ result = .error .ChannelRecvError := by
  have hs := hc.session
  rcases (hs.settled call (List.getElem?_mem hcall)).returned result hr with h | h | h
  · exact (hs.returned_completion hcall hr h).imp_right .inl
  · exact .inr (.inr h)
  · refine absurd ?_ hc.noMissing
    rw [← h, ← hr]
    exact List.mem_map_of_mem Call.pc (List.getElem?_mem hcall)

end GrpcClient

/-! ## A listener that subscribes and unsubscribes on a server without notify commands -/

/-- A listener is registered and starts `BlockAdded`; the subscriber passes the Start on and its
call sends it; the listener's `stop_notify` is refused; the listener is unregistered, which asks
for a Stop; the subscriber drops it. -/
def subscribeThenUnregister : List GrpcClient.Label :=
  [.registerNewListener, .startNotify 0 .BlockAdded, .subscribe 11, .session (.send 0),
    .stopNotify 0 .BlockAdded, .unregisterListener 0, .subscribe 12]

/-- The client that run reaches. -/
def afterSubscribeThenUnregister : GrpcClient :=
  (GrpcClient.runFrom ⟨Session.start connectedWithoutCapabilities, Notifier.new⟩
    subscribeThenUnregister).getD ⟨Session.start connectedWithoutCapabilities, Notifier.new⟩

theorem stop_notify_unsupported_after_unregister :
    afterSubscribeThenUnregister.Reachable ∧ afterSubscribeThenUnregister.handleStopNotify = false ∧
      (∀ request ∈ afterSubscribeThenUnregister.session.inner.requestSender.log,
        request.isStop = false) ∧
      ∀ id notificationType, afterSubscribeThenUnregister.stopNotify id notificationType =
        (afterSubscribeThenUnregister, .error .UnsupportedFeature) :=
  have hc : GrpcClient.connect (Channel.new none) (.ok (some getInfoWithoutCapabilities)) =
      .ok ⟨Session.start connectedWithoutCapabilities, Notifier.new⟩ := rfl
  have hrun : GrpcClient.runFrom ⟨Session.start connectedWithoutCapabilities, Notifier.new⟩
      subscribeThenUnregister = some afterSubscribeThenUnregister := rfl
  have hs : afterSubscribeThenUnregister.Reachable := (GrpcClient.Reachable.connect hc).runFrom hrun
  have hf : afterSubscribeThenUnregister.handleStopNotify = false := rfl
  ⟨hs, hf, GrpcClient.stop_notify_unsupported hs hf⟩

/-- The notifier asked for a Start and a Stop, and the subscriber took both; only the Start went
on the wire. -/
example : afterSubscribeThenUnregister.notifier.subscriptions.log =
      [(.BlockAdded, .Start), (.BlockAdded, .Stop)] ∧
    afterSubscribeThenUnregister.notifier.subscriptions.taken = 2 ∧
    afterSubscribeThenUnregister.session.inner.requestSender.log.map KaspadRequest.payload =
      [some (.Call .GetInfo none), some (.Subscribe .BlockAdded .Start)] := by
  decide

/-! ## A `Ping` through the API -/

/-- A `route!` call of `Ping` draws id 7 and is sent; its response arrives and the call
returns it. -/
def pingThroughApi : List GrpcClient.Label :=
  [.call .Ping none 7, .session (.send 0), .session (.receive (.ok (some Session.pingResponse))),
    .session (.resume 0)]

/-- The client that run reaches. -/
def afterPingThroughApi : GrpcClient :=
  (GrpcClient.runFrom ⟨Session.start connectedWithoutCapabilities, Notifier.new⟩
    pingThroughApi).getD ⟨Session.start connectedWithoutCapabilities, Notifier.new⟩

theorem api_call_results_after_ping :
    afterPingThroughApi.Reachable ∧
      afterPingThroughApi.session.calls[0]? = some
        ⟨.Ping, 7, .returned (.ok Session.pingResponse), some (.ok Session.pingResponse)⟩ ∧
      ((∃ response, (.ok Session.pingResponse : Except Error KaspadResponse) = .ok response ∧
          if afterPingThroughApi.session.inner.handleMessageId then response.id = 7
          else response.op? = some .Ping) ∨
        (.ok Session.pingResponse : Except Error KaspadResponse) = .error .Timeout ∨
        (.ok Session.pingResponse : Except Error KaspadResponse) = .error .ChannelRecvError) :=
  have hc : GrpcClient.connect (Channel.new none) (.ok (some getInfoWithoutCapabilities)) =
      .ok ⟨Session.start connectedWithoutCapabilities, Notifier.new⟩ := rfl
  have hrun : GrpcClient.runFrom ⟨Session.start connectedWithoutCapabilities, Notifier.new⟩
      pingThroughApi = some afterPingThroughApi := rfl
  have hs : afterPingThroughApi.Reachable := (GrpcClient.Reachable.connect hc).runFrom hrun
  ⟨hs, rfl, GrpcClient.api_call_results hs (i := 0) rfl rfl⟩

end Kaspa
