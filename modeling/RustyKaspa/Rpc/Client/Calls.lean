import RustyKaspa.Rpc.Client.Pendings
import RustyKaspa.Rpc.Client.Correlation

/-!
# The life of a call

`Inner::call` registers a pending, puts its request on the request channel, and waits on a
one-shot channel that the receiver (`handle_response`) or the timeout monitor
(`remove_expired_requests`) fills.  The receiver and the monitor race for the same pendings,
calls run concurrently with them and with each other, and the transport may drop the request
channel at any moment.  This file follows a call through every interleaving.

**`inbox_written_once`**: a one-shot channel is written at most once.  Once a response or a
timeout has reached a call, no later step of any run replaces or removes it; in particular no
call gets both a response and a timeout.  Completions only go to calls that own a pending, and
such a call's channel is still empty (`Owned`).

**`waiting_call_registered`**: conversely, a call still sending or waiting with an empty channel
has exactly one pending registered, carrying its operation and id (`Registered`): no call waits
on a channel that neither the receiver nor the monitor can fill.  When the server tags messages
with ids, no other pending carries that id (`IdsUnique`, kept because the id-based resolver
drops a registration whose id is live).

**`waiting_call_times_out`**: so, while the monitor is in its loop, a waiting call whose pending
is past its deadline returns `Timeout` as soon as the monitor runs its body and the call resumes.

**`call_results`**: a call returns a response that answers it (by id, or by operation), a
timeout, the channel error after a send that found the channel closed, or
`MissingRequestPayload`, and nothing else (`Settled`).

**`sent_requests`**: the request channel has carried the GetInfo probe and then, in some order,
exactly one request per call that got past its send, carrying that call's id (`WireAccount`): no
request is lost or sent twice, and none comes from a call that failed to send or had no payload.
-/

namespace Kaspa

/-- What a resolver sends down a one-shot channel: a response, or a timeout. -/
def isCompletionResult : Except Error KaspadResponse → Bool
  | .ok _ => true
  | .error .Timeout => true
  | .error _ => false

lemma isCompletionResult_iff {r : Except Error KaspadResponse} :
    isCompletionResult r = true ↔ (∃ response, r = .ok response) ∨ r = .error .Timeout := by
  match r with
  | .ok response => simp [isCompletionResult]
  | .error e => cases e <;> simp [isCompletionResult]

/-- Whether a call at this point has put its request on the channel: it waits on its one-shot
channel, or it returned what that channel held. -/
def CallPc.hasSent : CallPc → Bool
  | .sending _ => false
  | .awaiting => true
  | .returned result => isCompletionResult result

/-- Whether a call at this point still waits for a completion: it is sending or awaiting. -/
def CallPc.isWaiting : CallPc → Bool
  | .returned _ => false
  | _ => true

/-- A call whose channel holds nothing but a response or a timeout, that returned one of those,
the channel error or `MissingRequestPayload`, and that carries its own id on the request it is
about to send. -/
structure Call.Settled (c : Call) : Prop where
  inbox : ∀ r, c.inbox = some r → isCompletionResult r
  returned : ∀ r, c.pc = .returned r →
    isCompletionResult r ∨ r = .error .ChannelRecvError ∨ r = .error .MissingRequestPayload
  sending : ∀ request, c.pc = .sending request → request.id = c.id

lemma getElem?_append_singleton {α : Type} {l : List α} {x y : α} {j : Nat}
    (h : (l ++ [x])[j]? = some y) : l[j]? = some y ∨ (j = l.length ∧ y = x) := by
  rcases lt_or_ge j l.length with hlt | hge
  · exact .inl (by rwa [List.getElem?_append_left hlt] at h)
  · rw [List.getElem?_append_right hge] at h
    cases hj : j - l.length <;> simp [hj] at h
    exact .inr ⟨by omega, h.symm⟩

/-- Replacing an element the filter drops by one it keeps adds that one, up to order. -/
lemma filter_set_perm {α : Type} {p : α → Bool} {b : α} (hb : p b = true) :
    ∀ {l : List α} {i : Nat} {a : α}, l[i]? = some a → p a = false →
      ((l.set i b).filter p).Perm (l.filter p ++ [b])
  | [], _, _, h, _ => by simp at h
  | x :: l, 0, a, h, ha => by
    obtain rfl : x = a := by simpa using h
    simpa [List.filter_cons, ha, hb] using (List.perm_append_singleton b (l.filter p)).symm
  | x :: l, i + 1, a, h, ha => by
    have ih := filter_set_perm hb (l := l) (i := i) (by simpa using h) ha
    simp only [List.set_cons_succ, List.filter_cons]
    split
    · exact ih.cons x
    · exact ih

/-- Replacing an element by one the filter treats alike and the map sends to the same value
changes nothing once filtered and mapped. -/
lemma map_filter_set {α β : Type} {p : α → Bool} {f : α → β} {a b : α} (hp : p b = p a)
    (hf : f b = f a) :
    ∀ {l : List α} {i : Nat}, l[i]? = some a → ((l.set i b).filter p).map f = (l.filter p).map f
  | [], _, h => by simp at h
  | x :: l, 0, h => by
    obtain rfl : x = a := by simpa using h
    simp only [List.set_cons_zero, List.filter_cons, hp]
    split <;> simp [hf]
  | x :: l, i + 1, h => by
    simp only [List.set_cons_succ, List.filter_cons]
    split <;> simp [map_filter_set hp hf (l := l) (i := i) (by simpa using h)]

/-- In a list told apart by `f`, the elements `f` sends where it sends `p` are `p` alone. -/
lemma filter_eq_singleton_of_nodup_map {α β : Type} [DecidableEq β] {f : α → β} :
    ∀ {l : List α} {p : α}, (l.map f).Nodup → p ∈ l → l.filter (fun q => f q == f p) = [p]
  | [], _, _, hp => absurd hp (List.not_mem_nil _)
  | x :: l, p, hnd, hp => by
    rw [List.map_cons, List.nodup_cons] at hnd
    rcases List.mem_cons.mp hp with rfl | hp
    · rw [List.filter_cons_of_pos (by simp), List.filter_eq_nil_iff.mpr]
      intro q hq hfq
      exact hnd.1 (beq_iff_eq.mp hfq ▸ List.mem_map_of_mem f hq)
    · have hne : f x ≠ f p := fun h => hnd.1 (h ▸ List.mem_map_of_mem f hp)
      rw [List.filter_cons_of_neg (by simpa using hne), filter_eq_singleton_of_nodup_map hnd.2 hp]

namespace Session

variable {s s' : Session}

/-! ## What completions do to the calls -/

/-- After completions, each call is what it was, reached by none of them, or what it was with
the result of one of them in its channel. -/
lemma foldl_deliver_getElem?_cases {j : Nat} {c' : Call} :
    ∀ {cs : List Completion} {calls : List Call}, (cs.foldl deliver calls)[j]? = some c' →
      ∃ c, calls[j]? = some c ∧ ((c' = c ∧ ∀ d ∈ cs, d.caller ≠ j) ∨
        ∃ d ∈ cs, c' = { c with inbox := some d.result })
  | [], _, h => ⟨c', h, .inl ⟨rfl, fun _ hd => absurd hd (List.not_mem_nil _)⟩⟩
  | d :: cs, calls, h => by
    obtain ⟨c₁, h₁, hc'⟩ := @foldl_deliver_getElem?_cases j c' cs (deliver calls d) h
    rw [getElem?_deliver] at h₁
    obtain ⟨c, hc, rfl⟩ := Option.map_eq_some'.mp h₁
    refine ⟨c, hc, ?_⟩
    by_cases hj : d.caller = j
    · rw [if_pos hj] at hc'
      rcases hc' with ⟨rfl, -⟩ | ⟨e, he, rfl⟩
      · exact .inr ⟨d, List.mem_cons_self _ _, rfl⟩
      · exact .inr ⟨e, List.mem_cons_of_mem _ he, rfl⟩
    · rw [if_neg hj] at hc'
      rcases hc' with ⟨rfl, hno⟩ | ⟨e, he, rfl⟩
      · exact .inl ⟨rfl, fun e he => (List.mem_cons.mp he).elim (fun h => h ▸ hj) (hno e)⟩
      · exact .inr ⟨e, List.mem_cons_of_mem _ he, rfl⟩

/-- A call whose channel is still empty after completions was reached by none of them. -/
lemma foldl_deliver_of_inbox_none {j : Nat} {c' : Call} {cs : List Completion}
    {calls : List Call} (h : (cs.foldl deliver calls)[j]? = some c') (hin : c'.inbox = none) :
    calls[j]? = some c' ∧ ∀ d ∈ cs, d.caller ≠ j := by
  obtain ⟨c, hc, ⟨rfl, hno⟩ | ⟨d, -, rfl⟩⟩ := foldl_deliver_getElem?_cases h
  · exact ⟨hc, hno⟩
  · cases hin

/-- What `handle_response` sends is at most one completion. -/
lemma elim_deliver (calls : List Call) (d : Option Completion) :
    d.elim calls (deliver calls) = d.toList.foldl deliver calls := by
  cases d <;> rfl

/-- Completions change no call's place in its code, nor its id. -/
lemma foldl_deliver_sent (cs : List Completion) (calls : List Call) :
    ((cs.foldl deliver calls).filter (·.pc.hasSent)).map Call.id =
      (calls.filter (·.pc.hasSent)).map Call.id := by
  have hview : ∀ l : List Call, (l.filter (·.pc.hasSent)).map Call.id =
      ((l.map fun c => (c.pc, c.id)).filter (·.1.hasSent)).map Prod.snd := fun l => by
    rw [List.filter_map, List.map_map]
    rfl
  have hpair : ∀ (d : Completion) (l : List Call),
      (deliver l d).map (fun c => (c.pc, c.id)) = l.map fun c => (c.pc, c.id) := fun d l => by
    apply List.ext_getElem?
    intro j
    simp only [List.getElem?_map, deliver, List.getElem?_modify]
    cases l[j]? <;> simp
    split <;> simp
  rw [hview, hview calls]
  congr 2
  induction cs generalizing calls with
  | nil => rfl
  | cons d cs ih => rw [List.foldl_cons, ih, hpair]

/-! ## Settled calls -/

/-- Every call of the session is settled. -/
def Settled (s : Session) : Prop := ∀ c ∈ s.calls, c.Settled

lemma Settled.set (h : s.Settled) {i : Nat} {c' : Call} (hcalls : s'.calls = s.calls.set i c')
    (hc' : c'.Settled) : s'.Settled := fun d hd =>
  (List.mem_or_eq_of_mem_set (hcalls ▸ hd)).elim (h d) fun e => e ▸ hc'

lemma Settled.foldl_deliver {cs : List Completion} {calls : List Call}
    (h : ∀ c ∈ calls, c.Settled) (hcs : ∀ d ∈ cs, isCompletionResult d.result) :
    ∀ c ∈ cs.foldl deliver calls, c.Settled := by
  intro c' hc'
  obtain ⟨j, hj⟩ := List.mem_iff_getElem?.mp hc'
  obtain ⟨c, hc, ⟨rfl, -⟩ | ⟨d, hd, rfl⟩⟩ := foldl_deliver_getElem?_cases hj
  · exact h _ (List.getElem?_mem hc)
  · have hset := h c (List.getElem?_mem hc)
    exact ⟨fun r hr => Option.some.inj hr ▸ hcs d hd, hset.returned, hset.sending⟩

/-- **Every step keeps the calls settled.** -/
lemma Settled.step (h : s.Settled) {label : Label} (hs : s.step label = some s') : s'.Settled := by
  cases step_kind hs with
  | frame _ hcalls _ => exact fun c hc => h c (hcalls ▸ hc)
  | call op request id _ r hstart _ hcalls _ =>
    rw [Settled, hcalls]
    refine fun c hc => (List.mem_append.mp hc).elim (h c) fun hc => ?_
    rw [List.mem_singleton.mp hc]
    rcases (Inner.callStart_spec hstart).2 with ⟨-, -, hpc⟩ | ⟨-, -, hpc⟩ <;> rw [hpc]
    · exact ⟨(fun _ h => by cases h), (fun _ h => by cases h), fun _ h => by cases h; rfl⟩
    · exact ⟨(fun _ h => by cases h), (fun _ h => by cases h; simp), fun _ h => by cases h⟩
  | sent i c request hc hpc _ hcalls _ =>
    have hset := h c (List.getElem?_mem hc)
    exact h.set hcalls ⟨hset.inbox, (fun _ h => by cases h), fun _ h => by cases h⟩
  | sendFailed i c request hc hpc _ hcalls _ =>
    have hset := h c (List.getElem?_mem hc)
    exact h.set hcalls ⟨hset.inbox, (fun _ h => by cases h; simp), fun _ h => by cases h⟩
  | resumed i c result hc hpc hin _ hcalls _ =>
    have hset := h c (List.getElem?_mem hc)
    exact h.set hcalls
      ⟨hset.inbox, (fun _ h => by cases h; exact .inl (hset.inbox _ hin)), fun _ h => by cases h⟩
  | handled response _ _ hcalls _ =>
    rw [Settled, hcalls, elim_deliver]
    refine Settled.foldl_deliver h fun d hd => ?_
    obtain ⟨p, -, -, rfl⟩ := Inner.handleResponse_completion (Option.mem_toList.mp hd)
    rfl
  | expired _ _ hcalls _ =>
    rw [Settled, hcalls]
    refine Settled.foldl_deliver h fun d hd => ?_
    obtain ⟨p, -, -, rfl⟩ := Resolver.mem_removeExpiredRequests.mp hd
    rfl

lemma Reachable.settled (hs : s.Reachable) : s.Settled := by
  induction hs with
  | connect _ => exact fun _ h => by cases h
  | step _ h ih => exact ih.step h

/-- A call that returned what its one-shot channel held returned a timeout or a response
answering it: carrying the call's id when the server tags messages with ids, and the call's
operation when it does not. -/
lemma Reachable.returned_completion (hs : s.Reachable) {i : Nat} {c : Call}
    {result : Except Error KaspadResponse} (hc : s.calls[i]? = some c)
    (hr : c.pc = .returned result) (h : isCompletionResult result) :
    (∃ response, result = .ok response ∧
        if s.inner.handleMessageId then response.id = c.id else response.op? = some c.op) ∨
      result = .error .Timeout := by
  rcases isCompletionResult_iff.mp h with ⟨response, rfl⟩ | rfl
  · have ha := hs.correlated.answered i c response hc (.inr hr)
    rw [hs.kind] at ha
    exact .inl ⟨response, rfl, Call.isAnsweredBy_flag ha⟩
  · exact .inr rfl

/-- **What a call returns.**  In every reachable session a call that returned has returned a
response answering it (carrying its id when the server tags messages with ids, of its operation
when it does not), a timeout, the channel error, or `MissingRequestPayload`. -/
theorem call_results (hs : s.Reachable) {i : Nat} {c : Call}
    {result : Except Error KaspadResponse} (hc : s.calls[i]? = some c)
    (hr : c.pc = .returned result) :
    (∃ response, result = .ok response ∧
        if s.inner.handleMessageId then response.id = c.id else response.op? = some c.op) ∨
      result = .error .Timeout ∨ result = .error .ChannelRecvError ∨
        result = .error .MissingRequestPayload := by
  rcases (hs.settled c (List.getElem?_mem hc)).returned result hr with h | h
  · exact (hs.returned_completion hc hr h).imp_right .inl
  · exact .inr (.inr h)

/-- The `Ping` call, resumed after its response arrived. -/
def afterPingReturned : Session := (afterPingAnswered.runFrom [.resume 0]).getD afterPingAnswered

lemma afterPingReturned_reachable : afterPingReturned.Reachable :=
  afterPingAnswered_reachable.runFrom
    (show afterPingAnswered.runFrom [.resume 0] = some afterPingReturned from rfl)

theorem call_results_after_ping :
    afterPingReturned.Reachable ∧
      afterPingReturned.calls[0]? =
        some ⟨.Ping, 7, .returned (.ok pingResponse), some (.ok pingResponse)⟩ ∧
      ((∃ response, (.ok pingResponse : Except Error KaspadResponse) = .ok response ∧
          if afterPingReturned.inner.handleMessageId then response.id = 7
          else response.op? = some .Ping) ∨
        (.ok pingResponse : Except Error KaspadResponse) = .error .Timeout ∨
        (.ok pingResponse : Except Error KaspadResponse) = .error .ChannelRecvError ∨
        (.ok pingResponse : Except Error KaspadResponse) = .error .MissingRequestPayload) :=
  ⟨afterPingReturned_reachable, rfl, call_results afterPingReturned_reachable (i := 0) rfl rfl⟩

/-! ## The request channel -/

/-- The request channel has carried the GetInfo probe, then one request per call that has
sent, carrying its id. -/
def WireAccount (s : Session) : Prop :=
  ∃ rest, s.inner.requestSender.log = getInfoRequest :: rest ∧
    (rest.map KaspadRequest.id).Perm ((s.calls.filter (·.pc.hasSent)).map Call.id)

/-- **Every step keeps the account of the request channel**, for settled calls: a send puts on
the channel the request of the call that moves to waiting, and no other step touches the
channel's history or moves a call across `hasSent`. -/
lemma WireAccount.step (h : s.WireAccount) (hset : s.Settled) {label : Label}
    (hs : s.step label = some s') : s'.WireAccount := by
  obtain ⟨rest, hlog, hperm⟩ := h
  cases step_kind hs with
  | frame _ hcalls hl => exact ⟨rest, hl.trans hlog, hcalls ▸ hperm⟩
  | call op request id _ r hstart _ hcalls hl =>
    refine ⟨rest, hl.trans hlog, ?_⟩
    rw [hcalls, List.filter_append]
    rcases (Inner.callStart_spec hstart).2 with ⟨-, -, hpc⟩ | ⟨-, -, hpc⟩ <;>
      simpa [hpc, CallPc.hasSent, isCompletionResult] using hperm
  | sent i c request hc hpc _ hcalls hl =>
    refine ⟨rest ++ [request], by rw [hl, hlog]; rfl, ?_⟩
    have hid : request.id = c.id := (hset c (List.getElem?_mem hc)).sending request hpc
    rw [hcalls, List.map_append, List.map_singleton, hid]
    refine (hperm.append_right [c.id]).trans ?_
    have hp := ((filter_set_perm (p := fun c : Call => c.pc.hasSent)
      (b := { c with pc := .awaiting }) rfl hc
      (by simp [hpc, CallPc.hasSent])).map Call.id).symm
    simpa only [List.map_append, List.map_singleton] using hp
  | sendFailed i c request hc hpc _ hcalls hl =>
    refine ⟨rest, hl.trans hlog, ?_⟩
    rw [hcalls, map_filter_set (p := fun c : Call => c.pc.hasSent) (f := Call.id) (a := c)
      (b := { c with pc := .returned (.error .ChannelRecvError) })
      (by simp [hpc, CallPc.hasSent, isCompletionResult]) rfl hc]
    exact hperm
  | resumed i c result hc hpc hin _ hcalls hl =>
    refine ⟨rest, hl.trans hlog, ?_⟩
    have hdone := (hset c (List.getElem?_mem hc)).inbox result hin
    rw [hcalls, map_filter_set (p := fun c : Call => c.pc.hasSent) (f := Call.id) (a := c)
      (b := { c with pc := .returned result })
      (by simp [hpc, CallPc.hasSent, hdone]) rfl hc]
    exact hperm
  | handled response _ _ hcalls hl =>
    refine ⟨rest, hl.trans hlog, ?_⟩
    rw [hcalls, elim_deliver, foldl_deliver_sent]
    exact hperm
  | expired _ _ hcalls hl =>
    refine ⟨rest, hl.trans hlog, ?_⟩
    rw [hcalls, foldl_deliver_sent]
    exact hperm

lemma Reachable.wireAccount (hs : s.Reachable) : s.WireAccount := by
  induction hs with
  | connect hc =>
    exact ⟨[], by simp [start, Inner.connect_requestSender hc], by simp [start]⟩
  | step hr h ih => exact ih.step hr.settled h

/-- **Each call sends its request once.**  In every reachable session the request channel has
carried the GetInfo probe, then, in some order, exactly one request per call that got past its
send, carrying that call's id: a call still sending, one whose send found the channel closed and
one without a payload have put nothing on it, and no call has put anything twice. -/
theorem sent_requests (hs : s.Reachable) :
    ∃ rest, s.inner.requestSender.log = getInfoRequest :: rest ∧
      (rest.map KaspadRequest.id).Perm ((s.calls.filter (·.pc.hasSent)).map Call.id) :=
  hs.wireAccount

theorem sent_requests_after_send :
    afterPingSent.Reachable ∧
      ∃ rest, afterPingSent.inner.requestSender.log = getInfoRequest :: rest ∧
        (rest.map KaspadRequest.id).Perm ((afterPingSent.calls.filter (·.pc.hasSent)).map Call.id) :=
  ⟨afterPingSent_reachable, sent_requests afterPingSent_reachable⟩

/-! ## Every waiting call has its pending -/

/-- Every call still sending or waiting with an empty channel has a pending registered for it. -/
def Registered (s : Session) : Prop :=
  ∀ (i : Nat) (c : Call), s.calls[i]? = some c → c.inbox = none → c.pc.isWaiting →
    ∃ p ∈ s.inner.resolver.pendings, p.caller = i

/-- Moving call `i` keeps the registration, when the call it becomes waits with an empty channel
only if it did. -/
lemma Registered.set (h : s.Registered) {i : Nat} {c c' : Call} (hc : s.calls[i]? = some c)
    (hres : s'.inner.resolver = s.inner.resolver) (hcalls : s'.calls = s.calls.set i c')
    (hc' : c'.inbox = none → c'.pc.isWaiting → c.inbox = none ∧ c.pc.isWaiting) :
    s'.Registered := by
  intro j d hd hin hw
  rw [hres]
  rcases eq_of_getElem?_set (hcalls ▸ hd) with ⟨rfl, rfl⟩ | hd
  · exact h _ c hc (hc' hin hw).1 (hc' hin hw).2
  · exact h j d hd hin hw

/-- **Every step keeps every waiting call registered.**  A pending is only removed together with
a completion for its call, which fills the call's channel. -/
lemma Registered.step (h : s.Registered) {label : Label} (hs : s.step label = some s') :
    s'.Registered := by
  cases step_kind hs with
  | frame hres hcalls _ => exact fun j c hc hin hw => hres ▸ h j c (hcalls ▸ hc) hin hw
  | call op request id _ r hstart hres hcalls _ =>
    intro j c hc hin hw
    rw [hcalls] at hc
    rcases (Inner.callStart_spec hstart).2 with ⟨-, hreg, hpc⟩ | ⟨-, hr, hpc⟩ <;> rw [hres]
    · rw [Resolver.registerRequest_pendings hreg]
      rcases getElem?_append_singleton hc with hc | ⟨rfl, -⟩
      · obtain ⟨p, hp, hpj⟩ := h j c hc hin hw
        exact ⟨p, List.mem_append_left _ hp, hpj⟩
      · exact ⟨_, List.mem_append_right _ (List.mem_singleton_self _), rfl⟩
    · rw [hr]
      rcases getElem?_append_singleton hc with hc | ⟨-, rfl⟩
      · exact h j c hc hin hw
      · simp [hpc, CallPc.isWaiting] at hw
  | sent i c request hc hpc hres hcalls _ =>
    exact h.set hc hres hcalls fun hin _ => ⟨hin, by simp [hpc, CallPc.isWaiting]⟩
  | sendFailed i c request hc hpc hres hcalls _ =>
    exact h.set hc hres hcalls fun _ hw => by simp [CallPc.isWaiting] at hw
  | resumed i c result hc hpc hin hres hcalls _ =>
    exact h.set hc hres hcalls fun _ hw => by simp [CallPc.isWaiting] at hw
  | handled response _ hres hcalls _ =>
    intro j c' hc' hin hw
    rw [hcalls, elim_deliver] at hc'
    obtain ⟨hc, hno⟩ := foldl_deliver_of_inbox_none hc' hin
    obtain ⟨q, hq, rfl⟩ := h _ c' hc hin hw
    exact ⟨q, hres ▸ Inner.handleResponse_keeps hq fun d hd =>
      hno d (Option.mem_toList.mpr hd), rfl⟩
  | expired _ hres hcalls _ =>
    intro j c' hc' hin hw
    rw [hcalls] at hc'
    obtain ⟨hc, hno⟩ := foldl_deliver_of_inbox_none hc' hin
    obtain ⟨q, hq, rfl⟩ := h _ c' hc hin hw
    refine ⟨q, hres ▸ List.mem_filter.mpr ⟨hq, ?_⟩, rfl⟩
    cases hto : q.isTimedOut s.inner.timeoutDuration s.now
    · rfl
    · exact absurd rfl (hno _ (Resolver.mem_removeExpiredRequests.mpr ⟨q, hq, hto, rfl⟩))

lemma Reachable.registered (hs : s.Reachable) : s.Registered := by
  induction hs with
  | connect _ => exact fun _ _ h => by cases h
  | step _ h ih => exact ih.step h

/-- **Every step keeps one pending per id** in the id-based resolver: a call registers only an
id that is not live, and nothing else adds a pending. -/
lemma idsUnique_step (h : s.inner.resolver.IdsUnique) {label : Label} (hs : s.step label = some s') :
    s'.inner.resolver.IdsUnique := by
  cases step_kind hs with
  | frame hres | sent _ _ _ _ _ hres | sendFailed _ _ _ _ _ hres | resumed _ _ _ _ _ _ hres =>
    exact hres ▸ h
  | call _ _ _ _ _ hstart hres =>
    rw [hres]
    rcases (Inner.callStart_spec hstart).2 with ⟨-, hreg, -⟩ | ⟨-, hr, -⟩
    · exact h.registerRequest hreg
    · exact hr ▸ h
  | handled response _ hres =>
    exact hres ▸ h.sublist (Inner.handleResponse_kind _ _) (Inner.handleResponse_pendings _ _)
  | expired _ hres => exact hres ▸ h.sublist rfl (Resolver.removeExpiredRequests_sublist _ _ _)

lemma Reachable.idsUnique (hs : s.Reachable) : s.inner.resolver.IdsUnique := by
  induction hs with
  | connect hc => exact fun _ => by simp [start, Inner.connect_pendings hc]
  | step _ h ih => exact idsUnique_step ih h

/-- **Every waiting call has exactly one pending.**  In every reachable session, a call still
sending or waiting with an empty one-shot channel has exactly one pending registered for it,
carrying its operation and id; and when the server tags messages with ids, no other pending
carries that id, so a response with it completes this call. -/
theorem waiting_call_registered (hs : s.Reachable) {i : Nat} {c : Call}
    (hc : s.calls[i]? = some c) (hin : c.inbox = none) (hw : c.pc.isWaiting) :
    ∃ p, s.inner.resolver.pendings.filter (·.caller == i) = [p] ∧ p.op = c.op ∧ p.id = c.id ∧
      (s.inner.handleMessageId = true → s.inner.resolver.pendings.filter (·.id == c.id) = [p]) := by
  obtain ⟨p, hp, rfl⟩ := hs.registered i c hc hin hw
  obtain ⟨c₀, hc₀, hop, hid⟩ := hs.correlated.pending p hp
  obtain rfl : c₀ = c := Option.some.inj (hc₀.symm.trans hc)
  refine ⟨p, filter_eq_singleton_of_nodup_map hs.owned.nodup hp, hop.symm, hid.symm, fun hm => ?_⟩
  rw [hid]
  exact filter_eq_singleton_of_nodup_map (hs.idsUnique (by rw [hs.kind, if_pos hm])) hp

/-- A connection to a server advertising both capabilities. -/
def connectedWithCapabilities : Inner :=
  (Inner.new true true (Channel.new none) ((Channel.new (some 16)).push getInfoRequest)
    ).spawnRequestTimeoutMonitor.spawnResponseReceiverTask

/-- On that connection a `Ping` is called with id 7 and sent. -/
def afterPingSentWithIds : Session :=
  ((start connectedWithCapabilities).runFrom pingSent).getD (start connectedWithCapabilities)

lemma afterPingSentWithIds_reachable : afterPingSentWithIds.Reachable :=
  (Reachable.connect (show Inner.connect (Channel.new none)
    (.ok (some ⟨0, some (.GetInfoResponse ⟨true, true⟩)⟩)) = .ok connectedWithCapabilities
    from rfl)).runFrom
    (show (start connectedWithCapabilities).runFrom pingSent = some afterPingSentWithIds from rfl)

theorem waiting_call_registered_after_send :
    afterPingSentWithIds.Reachable ∧
      afterPingSentWithIds.calls[0]? = some ⟨.Ping, 7, .awaiting, none⟩ ∧
      afterPingSentWithIds.inner.handleMessageId = true ∧
      ∃ p, afterPingSentWithIds.inner.resolver.pendings.filter (·.caller == 0) = [p] ∧
        p.op = .Ping ∧ p.id = 7 ∧
        (afterPingSentWithIds.inner.handleMessageId = true →
          afterPingSentWithIds.inner.resolver.pendings.filter (·.id == 7) = [p]) :=
  ⟨afterPingSentWithIds_reachable, rfl, rfl,
    waiting_call_registered afterPingSentWithIds_reachable (i := 0)
      (c := ⟨.Ping, 7, .awaiting, none⟩) rfl rfl rfl⟩

/-- **A waiting call times out.**  In every reachable session whose timeout monitor is in its
loop, a call waiting on an empty channel has a pending registered; once that pending is past its
deadline, the monitor's next body puts a timeout in the call's channel, and the call, resuming,
returns `Timeout`. -/
theorem waiting_call_times_out (hs : s.Reachable) (hl : s.inner.timeout.pc = .looping)
    {i : Nat} {c : Call} (hc : s.calls[i]? = some c) (hin : c.inbox = none)
    (hpc : c.pc = .awaiting) :
    ∃ p ∈ s.inner.resolver.pendings, p.caller = i ∧
      (p.isTimedOut s.inner.timeoutDuration s.now →
        ∃ s', s.runFrom [.expire, .resume i] = some s' ∧
          s'.calls[i]? = some
            { c with pc := .returned (.error .Timeout), inbox := some (.error .Timeout) }) := by
  obtain ⟨p, hp, rfl⟩ := hs.registered i c hc hin (by simp [hpc, CallPc.isWaiting])
  refine ⟨p, hp, rfl, fun hto => ?_⟩
  have hcs : ∀ d ∈ (s.inner.resolver.removeExpiredRequests s.inner.timeoutDuration s.now).2,
      d.result = .error .Timeout := fun d hd => by
    obtain ⟨q, -, -, rfl⟩ := Resolver.mem_removeExpiredRequests.mp hd
    rfl
  obtain ⟨c₁, hc₁, hin₁⟩ := foldl_deliver_timeout hcs _
    (Resolver.mem_removeExpiredRequests.mpr ⟨p, hp, hto, rfl⟩) c hc
  obtain ⟨c₀, hc₀, ⟨rfl, -⟩ | ⟨d, hd, rfl⟩⟩ := foldl_deliver_getElem?_cases hc₁
  · rw [Option.some.inj (hc₀.symm.trans hc), hin] at hin₁
    cases hin₁
  obtain rfl : c₀ = c := Option.some.inj (hc₀.symm.trans hc)
  have hexp : s.expireRequests.calls[p.caller]? =
      some { c₀ with inbox := some (.error .Timeout) } := by
    rw [← hcs d hd]
    exact hc₁
  let c' : Call := { c₀ with pc := .returned (.error .Timeout), inbox := some (.error .Timeout) }
  refine ⟨{ s.expireRequests with calls := s.expireRequests.calls.set p.caller c' }, ?_,
    List.getElem?_set_self (List.getElem?_eq_some_iff.mp hexp).1⟩
  rw [runFrom_cons (step_expire hl)]
  simp [runFrom, step, hexp, hpc, c']

/-- The session after the `Ping` was sent, once the request timeout has elapsed. -/
def afterPingDeadline : Session :=
  { afterPingSent with now := afterPingSent.now + requestTimeoutDuration }

lemma afterPingDeadline_reachable : afterPingDeadline.Reachable :=
  afterPingSent_reachable.runFrom (runFrom_ticks _ _)

theorem waiting_call_times_out_at_deadline :
    afterPingDeadline.Reachable ∧ afterPingDeadline.inner.timeout.pc = .looping ∧
      afterPingDeadline.calls[0]? = some ⟨.Ping, 7, .awaiting, none⟩ ∧
      ∃ p ∈ afterPingDeadline.inner.resolver.pendings, p.caller = 0 ∧
        p.isTimedOut afterPingDeadline.inner.timeoutDuration afterPingDeadline.now ∧
        ∃ s', afterPingDeadline.runFrom [.expire, .resume 0] = some s' ∧
          s'.calls[0]? = some ⟨.Ping, 7, .returned (.error .Timeout), some (.error .Timeout)⟩ := by
  obtain ⟨p, hp, hcaller, hexpire⟩ :=
    waiting_call_times_out afterPingDeadline_reachable rfl (i := 0) rfl rfl rfl
  have hpendings : afterPingDeadline.inner.resolver.pendings = [⟨.Ping, 7, none, 0, 0⟩] := rfl
  have hto : p.isTimedOut afterPingDeadline.inner.timeoutDuration afterPingDeadline.now := by
    rw [hpendings, List.mem_singleton] at hp
    rw [hp]
    decide
  exact ⟨afterPingDeadline_reachable, rfl, rfl, p, hp, hcaller, hto, hexpire hto⟩

/-! ## A one-shot channel is written once -/

/-- **Every step keeps what a call's channel holds**, given the ownership of pendings:
completions go to calls that own a pending, whose channels are still empty. -/
lemma inbox_step (ho : s.Owned) {label : Label} (hs : s.step label = some s') {i : Nat}
    {c : Call} {r : Except Error KaspadResponse} (hc : s.calls[i]? = some c)
    (hin : c.inbox = some r) : ∃ c', s'.calls[i]? = some c' ∧ c'.inbox = some r := by
  have hnotOwner : ∀ p ∈ s.inner.resolver.pendings, p.caller ≠ i := fun p hp hpi => by
    obtain ⟨c₀, hc₀, hin₀, -⟩ := ho.owner p hp
    rw [hpi, hc] at hc₀
    cases hc₀
    simp [hin] at hin₀
  cases step_kind hs with
  | frame _ hcalls _ => exact ⟨c, hcalls ▸ hc, hin⟩
  | call _ _ _ _ _ _ _ hcalls _ => exact ⟨c, hcalls ▸ getElem?_append_of_eq_some hc, hin⟩
  | sent j d _ hd _ _ hcalls _ | sendFailed j d _ hd _ _ hcalls _
  | resumed j d _ hd _ _ _ hcalls _ =>
    rw [hcalls]
    rcases getElem?_set_cases (x := { d with pc := _ }) hd hc with ⟨-, rfl, h⟩ | h
    · exact ⟨_, h, hin⟩
    · exact ⟨c, h, hin⟩
  | handled response _ _ hcalls _ =>
    rw [hcalls, elim_deliver, foldl_deliver_getElem? fun d hd => ?_]
    · exact ⟨c, hc, hin⟩
    · obtain ⟨p, hp, -, rfl⟩ := Inner.handleResponse_completion (Option.mem_toList.mp hd)
      exact hnotOwner p hp
  | expired _ _ hcalls _ =>
    rw [hcalls, foldl_deliver_getElem? fun d hd => ?_]
    · exact ⟨c, hc, hin⟩
    · obtain ⟨p, hp, -, rfl⟩ := Resolver.mem_removeExpiredRequests.mp hd
      exact hnotOwner p hp

/-- **A one-shot channel is written once.**  In a reachable session, once a response or a
timeout is in a call's channel, every run from there leaves it there: no later completion, from
the receiver or from the timeout monitor, replaces it, so no call gets both a response and a
timeout. -/
theorem inbox_written_once (hs : s.Reachable) {i : Nat} {c : Call}
    {r : Except Error KaspadResponse} (hc : s.calls[i]? = some c) (hin : c.inbox = some r) :
    ∀ labels s', s.runFrom labels = some s' → ∃ c', s'.calls[i]? = some c' ∧ c'.inbox = some r :=
  fun labels _ hrun => (runFrom_induction
    (P := fun t => t.Reachable ∧ ∃ c', t.calls[i]? = some c' ∧ c'.inbox = some r)
    (fun _ _ _ ⟨ht, _, hc', hin'⟩ hstep => ⟨ht.step hstep, inbox_step ht.owned hstep hc' hin'⟩)
    labels ⟨hs, c, hc, hin⟩ hrun).2

theorem inbox_written_once_after_ping :
    afterPingAnswered.Reachable ∧
      afterPingAnswered.calls[0]? = some ⟨.Ping, 7, .awaiting, some (.ok pingResponse)⟩ ∧
      ∀ labels s', afterPingAnswered.runFrom labels = some s' →
        ∃ c', s'.calls[0]? = some c' ∧ c'.inbox = some (.ok pingResponse) :=
  ⟨afterPingAnswered_reachable, rfl, inbox_written_once afterPingAnswered_reachable rfl rfl⟩

end Session

end Kaspa
