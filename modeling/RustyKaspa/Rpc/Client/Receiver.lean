import RustyKaspa.Rpc.Client.Session

/-!
# The receive path

The response receiver reads the stream in a loop: it hands each message to `handle_response`,
skips a transport error, and breaks out of the loop at the end of the stream.
`handle_response` sends a notification that converts to the notification channel with
`try_send`, ignoring its error, drops one that does not convert, and passes any other message
that carries a payload to the resolver.

The spec says the same of a whole stream in terms of lists: the messages the resolver gets are
the non-notification messages with a payload, in order (`resolverMessages`); the notifications
offered to the channel are those that convert, in order (`convertedNotifications`); nothing after
the first end of stream is read (`untilEnd`).  These three are written from the spec's words.

**`receive_path`**: from any session whose receiver is in its loop, the receiver reads every
stream up to its end, and the session it reaches is the spec's: the resolver and the calls are
those `handle_response` leaves after the resolver messages, one after the other; the channel is
the one `try_send` leaves after the converted notifications; after the end of the stream the
receiver reads nothing more, and without one it is still in its loop.
-/

namespace Kaspa

/-! ## The spec of a stream -/

/-- Spec: the results the receiver reads, up to and including the first end of stream. -/
def untilEnd : List StreamResult → List StreamResult
  | [] => []
  | result :: rest => if result = .ok none then [result] else result :: untilEnd rest

/-- The message a stream result carries. -/
def messageOf : StreamResult → Option KaspadResponse
  | .ok response => response
  | .error _ => none

/-- Spec: a message goes to the resolver when it is not a notification and has a payload. -/
def toResolver (response : KaspadResponse) : Bool :=
  !response.isNotification && response.payload.isSome

/-- Spec: a notification message goes to the notification channel when it converts. -/
def toNotifier (response : KaspadResponse) : Option RpcNotification :=
  if response.isNotification then (RpcNotification.tryFrom response).toOption else none

/-- Spec: the messages passed to the resolver, in arrival order. -/
def resolverMessages (results : List StreamResult) : List KaspadResponse :=
  ((untilEnd results).filterMap messageOf).filter toResolver

/-- Spec: the notifications offered to the notification channel, in arrival order. -/
def convertedNotifications (results : List StreamResult) : List RpcNotification :=
  ((untilEnd results).filterMap messageOf).filterMap toNotifier

/-- The resolver's `handle_response`, with its completion sent to the call waiting on it. -/
def resolve (state : Resolver × List Call) (response : KaspadResponse) : Resolver × List Call :=
  let r := state.1.handleResponse response
  (r.1, r.2.elim state.2 (Session.deliver state.2))

/-- `notify_sender.try_send(notification)`, its error ignored. -/
def offer (ch : Channel RpcNotification) (notification : RpcNotification) :
    Channel RpcNotification :=
  (ch.trySend notification).getD ch

@[simp] lemma untilEnd_end (rest : List StreamResult) : untilEnd (.ok none :: rest) = [.ok none] :=
  if_pos rfl

@[simp] lemma untilEnd_message (response : KaspadResponse) (rest : List StreamResult) :
    untilEnd (.ok (some response) :: rest) = .ok (some response) :: untilEnd rest :=
  if_neg (by simp)

@[simp] lemma untilEnd_error (status : Status) (rest : List StreamResult) :
    untilEnd (.error status :: rest) = .error status :: untilEnd rest :=
  if_neg (by simp)

/-! ## `handle_response` against the spec -/

/-- The route `handle_response` takes, in the spec's terms. -/
lemma route_eq_spec (response : KaspadResponse) :
    route response = if toResolver response then .resolver response
      else (toNotifier response).elim .dropped .notifier := by
  unfold route toResolver toNotifier
  cases response.isNotification with
  | false => cases response.payload.isSome <;> rfl
  | true => cases RpcNotification.tryFrom response <;> rfl

/-- A message that goes to the resolver is not a notification. -/
lemma toNotifier_of_toResolver {response : KaspadResponse} (h : toResolver response = true) :
    toNotifier response = none := by
  simp only [toResolver, Bool.and_eq_true, Bool.not_eq_true'] at h
  simp [toNotifier, h.1]

namespace Session

lemma handle_resolve (s : Session) (response : KaspadResponse) :
    ((s.handle response).inner.resolver, (s.handle response).calls) =
      if toResolver response then resolve (s.inner.resolver, s.calls) response
      else (s.inner.resolver, s.calls) := by
  simp only [handle, Inner.handleResponse, route_eq_spec]
  cases toResolver response <;> cases toNotifier response <;> rfl

lemma handle_notifySender (s : Session) (response : KaspadResponse) :
    (s.handle response).inner.notifySender =
      (toNotifier response).elim s.inner.notifySender (offer s.inner.notifySender) := by
  simp only [handle, Inner.handleResponse, route_eq_spec]
  cases h : toResolver response
  · cases toNotifier response <;> rfl
  · rw [toNotifier_of_toResolver h]
    rfl

@[simp] lemma handle_receiver (s : Session) (response : KaspadResponse) :
    (s.handle response).inner.receiver = s.inner.receiver :=
  Inner.handleResponse_receiver _ _

/-! ## The receiver's loop over a whole stream -/

/-- What the receiver's loop, reading `results`, leaves of `s` according to the spec. -/
structure ReceivedAsSpecified (s s' : Session) (results : List StreamResult) : Prop where
  /-- The resolver got exactly the non-notification messages with a payload, in order, and the
  calls got its completions. -/
  resolved : (s'.inner.resolver, s'.calls) =
    (resolverMessages results).foldl resolve (s.inner.resolver, s.calls)
  /-- The notification channel was offered exactly the converted notifications, in order. -/
  notified : s'.inner.notifySender =
    (convertedNotifications results).foldl offer s.inner.notifySender
  /-- After the end of the stream the receiver reads nothing more. -/
  ended : .ok none ∈ results → ∀ result, s'.step (.receive result) = none
  /-- Until then it stays in its loop, whatever transport errors it skips. -/
  looping : .ok none ∉ results → s'.inner.receiver.pc = .looping

/-- **The receive path**: from any session whose receiver is in its loop, the receiver reads a
stream up to its end, and leaves the session the spec describes. -/
theorem receive_path {s : Session} (hl : s.inner.receiver.pc = .looping)
    (results : List StreamResult) :
    ∃ s', s.runFrom ((untilEnd results).map .receive) = some s' ∧
      ReceivedAsSpecified s s' results := by
  induction results generalizing s with
  | nil => exact ⟨s, rfl, rfl, rfl, fun h => absurd h (List.not_mem_nil _), fun _ => hl⟩
  | cons result rest ih =>
    rcases result with status | _ | response
    · -- a transport error is skipped
      obtain ⟨s', hrun, hspec⟩ := ih hl
      refine ⟨s', by simpa [runFrom, step_receive_error hl] using hrun, ?_, ?_, ?_, ?_⟩
      · simpa [resolverMessages, messageOf] using hspec.resolved
      · simpa [convertedNotifications, messageOf] using hspec.notified
      · simpa using hspec.ended
      · simpa using hspec.looping
    · -- the end of the stream
      exact ⟨{ s with inner := { s.inner with receiver := { s.inner.receiver with pc := .exiting } } },
        by simp [runFrom, step_receive_end hl], rfl, rfl,
        fun _ => step_receive_of_not_looping (by simp), fun h => absurd (List.mem_cons_self _ _) h⟩
    · -- a message goes through `handle_response`
      obtain ⟨s', hrun, hspec⟩ := ih (s := s.handle response) (by simpa using hl)
      refine ⟨s', by simpa [runFrom, step_receive_message hl] using hrun, ?_, ?_, ?_, ?_⟩
      · rw [hspec.resolved, handle_resolve]
        simp only [resolverMessages, untilEnd_message, List.filterMap_cons, messageOf,
          List.filter_cons]
        split <;> rfl
      · rw [hspec.notified, handle_notifySender]
        simp only [convertedNotifications, untilEnd_message, List.filterMap_cons, messageOf]
        cases toNotifier response <;> rfl
      · simpa using hspec.ended
      · simpa using hspec.looping

end Session

/-! ## A stream with every kind of result -/

/-- A notification that converts, a transport error, a response, a message without payload,
the end of the stream, and a response after it. -/
def sampleStream : List StreamResult :=
  [.ok (some ⟨0, some (.Notification (some ⟨.BlockAdded, [7]⟩))⟩), .error ⟨"reset"⟩,
    .ok (some ⟨3, some (.Response .Ping none)⟩), .ok (some ⟨4, none⟩), .ok none,
    .ok (some ⟨5, some (.Response .Ping none)⟩)]

example : resolverMessages sampleStream = [⟨3, some (.Response .Ping none)⟩] ∧
    convertedNotifications sampleStream = [⟨.BlockAdded, [7]⟩] := by
  decide

theorem receive_path_on_sample_stream :
    (Session.start connectedWithoutCapabilities).inner.receiver.pc = .looping ∧
      ∃ s', (Session.start connectedWithoutCapabilities).runFrom
          ((untilEnd sampleStream).map .receive) = some s' ∧
        Session.ReceivedAsSpecified (Session.start connectedWithoutCapabilities) s' sampleStream :=
  ⟨rfl, Session.receive_path rfl sampleStream⟩

end Kaspa
